import DigestRecord.Json.Error

/-!
# Scanning

A scanner reads one thing off the front of a text and says what is left. It always reads something,
and its result carries the proof of that, so a loop over scanners ends because the text runs out.

A scanner that cannot go on points at the place by the text from there on; the position is worked
out once, by whoever has the whole text.
-/

namespace DigestRecord

namespace Json

/-- What stopped a scanner. A malformed text is pointed at by what is left of it. -/
inductive Obstacle where
  | malformed (issue : Issue) (rest : List Char)
  | tooDeep (container : Container)
  | tooManyDigits (digits : Nat)
  deriving DecidableEq

/-- What a scanner found at the front of `text`, and the text after it. -/
structure Found (α : Type) (text : List Char) where
  value : α
  rest : List Char
  shorter : rest.length < text.length

/-- Reads one thing off the front of a text. -/
abbrev Scanner (α : Type) := (text : List Char) → Except Obstacle (Found α text)

/-- Whether a character is white space between the parts of a JSON text. -/
def isSpace (c : Char) : Bool := c == ' ' || c == '\t' || c == '\n' || c == '\r'

/-- The text after the white space in front. -/
def skipSpace (text : List Char) : List Char := text.dropWhile isSpace

theorem length_dropWhile_le {α : Type} (p : α → Bool) (l : List α) :
    (l.dropWhile p).length ≤ l.length := (List.dropWhile_sublist p).length_le

theorem length_skipSpace_le (text : List Char) : (skipSpace text).length ≤ text.length :=
  length_dropWhile_le _ _

end Json

end DigestRecord
