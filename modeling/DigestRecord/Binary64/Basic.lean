import DigestRecord.Decimal

/-!
# Floating-point numbers

The values of the 64-bit binary format, held as exact numbers: a finite value is a whole number of
units, and the unit is the smallest positive value, `2 ^ -1074`. No arithmetic of the machine is
involved, so a decimal is rounded here by the rule itself: to the nearest value, and a tie to the
even significand.
-/

namespace DigestRecord

/-- A value of the 64-bit format. A finite one is `significand * 2 ^ scale` units. -/
inductive Binary64 where
  | nan
  | infinite (negative : Bool)
  | finite (negative : Bool) (significand scale : Nat)
  deriving DecidableEq

namespace Binary64

/-- How many units make one, as a power of two. -/
def unitExponent : Nat := 1074

/-- The significand is below two to this power. -/
def precision : Nat := 53

/-- The largest scale of a finite value. -/
def maxScale : Nat := 2045

/-- A quotient rounded to the nearest whole number, a half to the even one. -/
def roundHalfEven (num den : Nat) : Nat :=
  let q := num / den
  let r := num % den
  if 2 * r < den ∨ 2 * r = den ∧ q % 2 = 0 then q else q + 1

/-- The value nearest to a quotient of whole numbers. -/
def ofRatio (negative : Bool) (num den : Nat) : Binary64 :=
  let units := num <<< unitExponent
  let scale := (units / den).log2 + 1 - precision
  let rounded := roundHalfEven units (den <<< scale)
  let (significand, scale) :=
    if rounded = 1 <<< precision then (1 <<< (precision - 1), scale + 1) else (rounded, scale)
  if maxScale < scale then .infinite negative else .finite negative significand scale

/-- The value nearest to the number written by `digits`, times `10 ^ exponent`. What is certainly too
large or too small is settled by counting digits, so that no power of ten has to be larger than the
format calls for. -/
def ofDecimal (negative : Bool) (digits : List Char) (exponent : Int) : Binary64 :=
  let coefficient := Decimal.toNat digits
  if coefficient = 0 then .finite negative 0 0
  else if digits.length + exponent < -330 then .finite negative 0 0
  else if 330 < exponent then .infinite negative
  else if 0 ≤ exponent then ofRatio negative (coefficient * Nat.pow 10 exponent.toNat) 1
  else ofRatio negative coefficient (Nat.pow 10 (-exponent).toNat)

end Binary64

end DigestRecord
