import DigestRecord.Binary64.Basic

/-!
# Shortest decimals

The decimal with the fewest digits that reads back as a given floating-point value, and of those the
one nearest to it.

A decimal reads back as a value if it lies between the midpoints to the two neighbouring values; the
midpoints themselves belong to the value whose significand is even. On the grid of the decimals with
a given last place, if any point lies in that interval then one of the two next to the value does.
So it is enough to look at those two, on finer and finer grids.
-/

namespace DigestRecord

namespace Binary64

/-- A positive decimal, `coefficient * 10 ^ exponent`. -/
structure ShortDecimal where
  coefficient : Nat
  exponent : Int
  deriving DecidableEq

/-- The numbers that read back as one value, in quarters of a unit. -/
structure ReadingInterval where
  low : Nat
  value : Nat
  high : Nat
  closed : Bool

/-- The interval around the value of `significand * 2 ^ scale` units. Below a power of two the values
lie twice as close as above it. -/
def readingInterval (significand scale : Nat) : ReadingInterval :=
  let value := (4 * significand) <<< scale
  let below := if significand = 1 <<< (precision - 1) ∧ 0 < scale then 1 <<< scale else 2 <<< scale
  ⟨value - below, value, value + (2 <<< scale), significand % 2 = 0⟩

/-- How many quarters of a unit make one. -/
def quartersInOne : Nat := 4 <<< unitExponent

/-- How many digits stand before the decimal point; for a value below one, less the zeros that
follow the point. -/
def wholeDigits (value : Nat) : Int :=
  match (List.range 400).find? fun t => quartersInOne ≤ value * Nat.pow 10 t with
  | some 0 => match (List.range 400).find? fun t => value < quartersInOne * Nat.pow 10 t with
    | some t => t
    | none => 400
  | some t => 1 - (t : Int)
  | none => -400

/-- The better one of the two points next to the value on the grid of the multiples of
`10 ^ exponent`, if one reads back. -/
def ReadingInterval.nearestOn (i : ReadingInterval) (exponent : Int) : Option Nat :=
  let point := quartersInOne * Nat.pow 10 exponent.toNat
  let stretch := Nat.pow 10 (-exponent).toNat
  let value := i.value * stretch
  let lower := value / point
  let isInside (c : Nat) : Bool :=
    if i.closed then i.low * stretch ≤ c * point && c * point ≤ i.high * stretch
    else i.low * stretch < c * point && c * point < i.high * stretch
  let fromLower := value - lower * point
  let fromUpper := (lower + 1) * point - value
  match isInside lower, isInside (lower + 1) with
  | false, false => none
  | true, false => some lower
  | false, true => some (lower + 1)
  | true, true =>
    if fromLower < fromUpper ∨ fromLower = fromUpper ∧ lower % 2 = 0 then some lower
    else some (lower + 1)

/-- The shortest decimal of the positive value of `significand * 2 ^ scale` units. Seventeen digits
always suffice. -/
def shortest (significand scale : Nat) : ShortDecimal :=
  let i := readingInterval significand scale
  let whole := wholeDigits i.value
  let found := (List.range 17).findSome? fun n =>
    let exponent := whole - (n + 1 : Nat)
    (i.nearestOn exponent).map fun c => (⟨c, exponent⟩ : ShortDecimal)
  found.getD ⟨0, 0⟩

end Binary64

end DigestRecord
