import DigestRecord.Binary64.Display
import DigestRecord.Json.Value
import DigestRecord.Text.Quoted

/-!
# JSON values inside messages

A message that complains about a value shows it: `None`, `True` and `False` for the three literals,
numbers in decimal, strings between quotes, and arrays and objects with their parts separated by a
comma and a space.
-/

namespace DigestRecord

namespace Json

/-- Texts one after the other, with a comma and a space between them. -/
def commaSeparated : List (List Char) → List Char
  | [] => []
  | [t] => t
  | t :: ts => t ++ ',' :: ' ' :: commaSeparated ts

mutual

/-- How a value is shown. -/
def Value.display : Value → List Char
  | .null => ['N', 'o', 'n', 'e']
  | .bool true => ['T', 'r', 'u', 'e']
  | .bool false => ['F', 'a', 'l', 's', 'e']
  | .int n => Decimal.ofInt n
  | .float x => x.display
  | .string t => t.quoted
  | .array items => '[' :: commaSeparated (displayItems items) ++ [']']
  | .object members => '{' :: commaSeparated (displayMembers members) ++ ['}']

/-- How the items of an array are shown. -/
def displayItems : List Value → List (List Char)
  | [] => []
  | v :: vs => v.display :: displayItems vs

/-- How the members of an object are shown. -/
def displayMembers : List (Text × Value) → List (List Char)
  | [] => []
  | (n, v) :: ms => (n.quoted ++ ':' :: ' ' :: v.display) :: displayMembers ms

end

/-- The text that a value amounts to where text is called for: a string is its own text, any other
value is taken as it is shown. -/
def Value.asText : Value → Text
  | .string t => t
  | v => v.display.map CodePoint.ofChar

@[simp] theorem Value.asText_string (t : Text) : (Value.string t).asText = t := rfl

end Json

end DigestRecord
