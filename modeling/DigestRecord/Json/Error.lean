import DigestRecord.Decimal

/-!
# Why a text is not JSON

A text is refused at the first place where it stops being JSON. Two limits can refuse it earlier:
containers nested too deep, and whole numbers with too many digits.

The limit on digits is fixed. The one on nesting is not: a container that is read is one call more, and
the calls under way count toward the same limit, so what is left depends on who asks. It is a parameter
(`DepthLimit`) of everything that decodes.
-/

namespace DigestRecord

namespace Json

/-- What is wrong at the place where a text stops being JSON. -/
inductive Issue where
  | valueExpected
  | nameExpected
  | colonExpected
  | commaExpected
  | stringUnterminated
  | controlCharacter
  | escapeInvalid
  | unicodeEscapeInvalid
  | extraData
  | byteOrderMark
  deriving DecidableEq

/-- The wording of an issue. -/
def Issue.message : Issue → String
  | .valueExpected => "Expecting value"
  | .nameExpected => "Expecting property name enclosed in double quotes"
  | .colonExpected => "Expecting ':' delimiter"
  | .commaExpected => "Expecting ',' delimiter"
  | .stringUnterminated => "Unterminated string starting at"
  | .controlCharacter => "Invalid control character at"
  | .escapeInvalid => "Invalid \\escape"
  | .unicodeEscapeInvalid => "Invalid \\uXXXX escape"
  | .extraData => "Extra data"
  | .byteOrderMark => "Unexpected UTF-8 BOM (decode using utf-8-sig)"

/-- A place in a text: how many characters come before it, and its line and column, counted from
one. -/
structure Position where
  index : Nat
  line : Nat
  column : Nat
  deriving DecidableEq

namespace Position

/-- The place right after some text. Only a line feed ends a line. -/
def after (before : List Char) : Position :=
  ⟨before.length, before.count '\n' + 1, (before.reverse.takeWhile (· != '\n')).length + 1⟩

/-- The wording of a place. -/
def message (p : Position) : String :=
  "line " ++ String.ofList (Decimal.ofNat p.line) ++ " column " ++
    String.ofList (Decimal.ofNat p.column) ++ " (char " ++ String.ofList (Decimal.ofNat p.index) ++ ")"

end Position

/-- The two kinds of value that hold other values. -/
inductive Container where
  | array
  | object
  deriving DecidableEq

/-- The name of a container in messages. -/
def Container.name : Container → String
  | .array => "array"
  | .object => "object"

/-- How deep containers may be nested: what the calls under way leave of the limit on calls. A program
that runs out of calls so soon that it cannot go four hundred levels down is none that reads records. -/
structure DepthLimit where
  levels : Nat
  enough : 400 ≤ levels

/-- What the usual limit of a thousand calls leaves to a program that decodes at its outermost level. -/
def DepthLimit.standard : DepthLimit := ⟨993, by decide⟩

/-- Why a text was refused. -/
inductive DecodeError where
  | malformed (issue : Issue) (position : Position)
  | tooDeep (container : Container)
  | tooManyDigits (digits : Nat)
  deriving DecidableEq

/-- The wording of a refusal. -/
def DecodeError.message : DecodeError → String
  | .malformed issue position => issue.message ++ ": " ++ position.message
  | .tooDeep container =>
    "maximum recursion depth exceeded while decoding a JSON " ++ container.name ++
      " from a unicode string"
  | .tooManyDigits digits =>
    "Exceeds the limit (4300 digits) for integer string conversion: value has " ++
      String.ofList (Decimal.ofNat digits) ++
      " digits; use sys.set_int_max_str_digits() to increase the limit"

end Json

end DigestRecord
