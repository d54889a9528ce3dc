import DigestRecord.Decimal
import DigestRecord.Binary64.Shortest

/-!
# Floating-point numbers as text

A value is shown by its shortest decimal. From `10 ^ -4` up to below `10 ^ 16` the digits stand in
their places, and a whole number gets `.0`; outside of that an exponent follows, with its sign and
at least two digits. Zero keeps its sign.
-/

namespace DigestRecord

namespace Binary64

/-- The exponents of the first digit for which the digits stand in their places. -/
def isPositional (exponent : Int) : Bool := -4 ≤ exponent && exponent ≤ 15

/-- The digits of a decimal without the zeros at the end. -/
def significantDigits (d : ShortDecimal) : List Char :=
  ((Decimal.ofNat d.coefficient).reverse.dropWhile (· == '0')).reverse

/-- The exponent of the first digit of a decimal. -/
def firstExponent (d : ShortDecimal) : Int :=
  (Decimal.ofNat d.coefficient).length - 1 + d.exponent

/-- Digits in their places, the first one worth `10 ^ exponent`. -/
def positional (digits : List Char) (exponent : Int) : List Char :=
  if exponent < 0 then '0' :: '.' :: List.replicate ((-exponent).toNat - 1) '0' ++ digits
  else
    let places := exponent.toNat + 1
    if digits.length ≤ places then
      digits ++ List.replicate (places - digits.length) '0' ++ ['.', '0']
    else digits.take places ++ '.' :: digits.drop places

/-- An exponent with its sign and at least two digits. -/
def exponentText (exponent : Int) : List Char :=
  let digits := Decimal.ofNat exponent.natAbs
  (if exponent < 0 then '-' else '+') :: if digits.length < 2 then '0' :: digits else digits

/-- One digit before the point, the others after it, and the exponent. -/
def scientific (digits : List Char) (exponent : Int) : List Char :=
  match digits with
  | [] => []
  | [d] => d :: 'e' :: exponentText exponent
  | d :: ds => d :: '.' :: ds ++ 'e' :: exponentText exponent

/-- The text of a decimal. -/
def ShortDecimal.display (d : ShortDecimal) : List Char :=
  let exponent := firstExponent d
  if isPositional exponent then positional (significantDigits d) exponent
  else scientific (significantDigits d) exponent

/-- The text of a value. -/
def display : Binary64 → List Char
  | .nan => ['n', 'a', 'n']
  | .infinite negative => (if negative then ['-'] else []) ++ ['i', 'n', 'f']
  | .finite negative significand scale =>
    (if negative then ['-'] else []) ++
      if significand = 0 then ['0', '.', '0'] else (shortest significand scale).display

end Binary64

end DigestRecord
