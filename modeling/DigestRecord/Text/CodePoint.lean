/-!
# Code points

Text whose escapes have been decoded may hold surrogates that belong to no pair, and those are not
characters. So decoded text is a list of code points, of which characters are a part.

Surrogates come about by decoding only. The texts that are decoded, and the paths and arguments that a
program is given, are strings and hold none.
-/

namespace DigestRecord

/-- A code point of Unicode: a character or a surrogate. -/
structure CodePoint where
  value : Nat
  value_lt : value < 0x110000
  deriving DecidableEq

/-- Text in which surrogates may stand alone. -/
abbrev Text := List CodePoint

namespace CodePoint

/-- The code point of a character. -/
def ofChar (c : Char) : CodePoint :=
  ⟨c.toNat, by
    have h : c.toNat < 0xd800 ∨ 0xdfff < c.toNat ∧ c.toNat < 0x110000 := c.valid
    omega⟩

/-- The character at a code point, unless it is a surrogate. -/
def toChar? (p : CodePoint) : Option Char :=
  if p.value.isValidChar then some (Char.ofNat p.value) else none

@[simp] theorem value_ofChar (c : Char) : (ofChar c).value = c.toNat := rfl

@[simp] theorem toChar?_ofChar (c : Char) : (ofChar c).toChar? = some c := by
  have h : c.toNat.isValidChar := c.valid
  simp [toChar?, h]

/-- The code point that a high and a low surrogate stand for together. -/
def ofSurrogates? (high low : CodePoint) : Option CodePoint :=
  if h : (0xd800 ≤ high.value ∧ high.value < 0xdc00) ∧ (0xdc00 ≤ low.value ∧ low.value < 0xe000) then
    some ⟨0x10000 + (high.value - 0xd800) * 0x400 + (low.value - 0xdc00), by omega⟩
  else
    none

/-- Whether a surrogate asks for a second one after it. -/
def isHighSurrogate (p : CodePoint) : Bool := 0xd800 ≤ p.value && p.value < 0xdc00

end CodePoint

namespace Text

/-- The code points of a string. -/
def ofString (s : String) : Text := s.toList.map CodePoint.ofChar

end Text

end DigestRecord
