import DigestRecord.Json.Scanner
import DigestRecord.Json.Value

/-!
# Numbers

A number is an optional minus sign and a whole part without leading zeros, then a fraction if a digit
follows the point, then an exponent if a digit follows its letter and sign. Where a fraction or an
exponent does not get as far as a digit, the number ends before it.

With neither fraction nor exponent the number is whole. It may have at most `Decimal.maxDigits` digits; all
others are rounded to a floating-point value and may be of any length.
-/

namespace DigestRecord

namespace Json

/-- Splits off the digits at the front of a text. -/
def splitDigits (text : List Char) : List Char × List Char :=
  (text.takeWhile Decimal.isDigit, text.dropWhile Decimal.isDigit)

/-- Splits off a whole part: a single zero, or digits that start with another one. -/
def splitWhole (text : List Char) : List Char × List Char :=
  match text with
  | '0' :: rest => (['0'], rest)
  | _ => splitDigits text

/-- Splits off the digits of a fraction. -/
def splitFraction (text : List Char) : List Char × List Char :=
  match text with
  | '.' :: rest => if (splitDigits rest).1.isEmpty then ([], text) else splitDigits rest
  | _ => ([], text)

/-- Splits off a sign. -/
def splitSign (text : List Char) : Bool × List Char :=
  match text with
  | '+' :: rest => (false, rest)
  | '-' :: rest => (true, rest)
  | _ => (false, text)

/-- Splits off an exponent. -/
def splitExponent (text : List Char) : Option Int × List Char :=
  match text with
  | c :: rest =>
    if c = 'e' ∨ c = 'E' then
      let (negative, body) := splitSign rest
      let (digits, rest) := splitDigits body
      if digits.isEmpty then (none, text)
      else
        let size : Int := Decimal.toNat digits
        (some (if negative then -size else size), rest)
    else (none, text)
  | [] => (none, [])

/-- Splits off a minus sign. -/
def splitMinus (text : List Char) : Bool × List Char :=
  match text with
  | '-' :: rest => (true, rest)
  | _ => (false, text)

theorem length_splitDigits (text : List Char) :
    (splitDigits text).1.length + (splitDigits text).2.length = text.length := by
  unfold splitDigits
  rw [← List.length_append, List.takeWhile_append_dropWhile]

theorem length_splitWhole (text : List Char) :
    (splitWhole text).1.length + (splitWhole text).2.length = text.length := by
  unfold splitWhole
  split
  · simp; omega
  · exact length_splitDigits text

theorem length_splitFraction_le (text : List Char) :
    (splitFraction text).2.length ≤ text.length := by
  unfold splitFraction
  split
  · rename_i rest
    have := length_splitDigits rest
    split <;> simp
    omega
  · simp

theorem length_splitSign_le (text : List Char) : (splitSign text).2.length ≤ text.length := by
  unfold splitSign
  split <;> simp

theorem length_splitExponent_le (text : List Char) :
    (splitExponent text).2.length ≤ text.length := by
  unfold splitExponent
  split
  · rename_i c rest
    have hs := length_splitSign_le rest
    have hd := length_splitDigits (splitSign rest).2
    split
    · simp only
      split
      · simp
      · simp; omega
    · simp
  · simp

theorem length_splitMinus_le (text : List Char) : (splitMinus text).2.length ≤ text.length := by
  unfold splitMinus
  split <;> simp

/-- The value of a number without fraction and exponent. -/
def wholeNumber (negative : Bool) (digits : List Char) : Value :=
  .int (if negative then -(Decimal.toNat digits : Int) else Decimal.toNat digits)

/-- Reads a number. -/
def number : Scanner Value := fun text =>
  let signed := splitMinus text
  let whole := splitWhole signed.2
  if h : whole.1 = [] then .error (.malformed .valueExpected text)
  else
    let fraction := splitFraction whole.2
    let exponent := splitExponent fraction.2
    have shorter : exponent.2.length < text.length := by
      have h₁ : signed.2.length ≤ text.length := length_splitMinus_le text
      have h₂ : whole.1.length + whole.2.length = signed.2.length := length_splitWhole signed.2
      have h₃ : fraction.2.length ≤ whole.2.length := length_splitFraction_le whole.2
      have h₄ : exponent.2.length ≤ fraction.2.length := length_splitExponent_le fraction.2
      have h₅ : 0 < whole.1.length := List.length_pos_iff.mpr h
      omega
    if fraction.1.isEmpty && exponent.1.isNone then
      if Decimal.maxDigits < whole.1.length then .error (.tooManyDigits whole.1.length)
      else .ok ⟨wholeNumber signed.1 whole.1, exponent.2, shorter⟩
    else
      .ok ⟨.float (.ofDecimal signed.1 (whole.1 ++ fraction.1)
        (exponent.1.getD 0 - fraction.1.length)), exponent.2, shorter⟩

end Json

end DigestRecord
