import DigestRecord.Json.Decode

/-!
# A grammar of JSON

The texts that spell JSON values, as relations: `G text v rest` says that `text` begins with a
spelling of `v` and that `rest` is what follows it. The productions are those of the standard, with
the words `NaN`, `Infinity` and `-Infinity` beside them. None of them looks ahead, so a number may
be cut short here; whoever needs a whole number says what may follow it.

## The two limits

`Spells digits depth` nests containers at most `depth` deep and has whole numbers of at most
`digits` digits. A text is JSON if it is so with any two numbers, and `IsWithinLimits` says that the
limits of `decode` do not shut it out.

## Objects

An object spells the list of its members, all of them, in their order. That of equal names the last
one counts is a matter of the value (`Value.ofMembers`) and not of the grammar.
-/

namespace DigestRecord

namespace Json

/-- A production: a text, what the front of it spells, and the text after that. -/
abbrev Grammar (α : Type) := List Char → α → List Char → Prop

/-! ## White space and digits -/

/-- White space, any amount of it. -/
inductive Space : List Char → List Char → Prop
  | none {text : List Char} : Space text text
  | more {c : Char} {text rest : List Char} (blank : c ∈ [' ', '\t', '\n', '\r'])
      (space : Space text rest) : Space (c :: text) rest

/-- One or more digits. -/
structure Digits (text digits rest : List Char) : Prop where
  text_eq : text = digits ++ rest
  ne_nil : digits ≠ []
  isDigit : ∀ c ∈ digits, Decimal.isDigit c = true

/-! ## Numbers -/

/-- An optional minus sign. -/
inductive Minus : Grammar Bool
  | absent {text : List Char} : Minus text false text
  | present {text : List Char} : Minus ('-' :: text) true text

/-- The whole part of a number: a zero, or digits of which the first is another one. -/
inductive Whole : Grammar (List Char)
  | zero {rest : List Char} : Whole ('0' :: rest) ['0'] rest
  | other {text digits rest : List Char} (run : Digits text digits rest)
      (first : digits.head? ≠ some '0') : Whole text digits rest

/-- An optional fraction, with its digits. -/
inductive Fraction : Grammar (List Char)
  | absent {text : List Char} : Fraction text [] text
  | present {text digits rest : List Char} (run : Digits text digits rest) :
      Fraction ('.' :: text) digits rest

/-- An optional sign of an exponent, and whether it is a minus sign. -/
inductive Sign : Grammar Bool
  | absent {text : List Char} : Sign text false text
  | plus {text : List Char} : Sign ('+' :: text) false text
  | minus {text : List Char} : Sign ('-' :: text) true text

/-- A run of digits with a sign in front, as a number. -/
def signed (negative : Bool) (digits : List Char) : Int :=
  if negative then -(Decimal.toNat digits : Int) else Decimal.toNat digits

/-- An optional exponent. -/
inductive Exponent : Grammar (Option Int)
  | absent {text : List Char} : Exponent text none text
  | present {e : Char} {text body digits rest : List Char} {negative : Bool}
      (letter : e = 'e' ∨ e = 'E') (sign : Sign text negative body)
      (run : Digits body digits rest) : Exponent (e :: text) (some (signed negative digits)) rest

/-- A number. Without a fraction and an exponent it is a whole number, of at most `limit` digits. -/
inductive Number (limit : Nat) : Grammar Value
  | whole {text body digits rest : List Char} {negative : Bool} (minus : Minus text negative body)
      (part : Whole body digits rest) (short : digits.length ≤ limit) :
      Number limit text (.int (signed negative digits)) rest
  | real {text body digits afterWhole places afterPlaces rest : List Char} {negative : Bool}
      {exponent : Option Int} (minus : Minus text negative body)
      (part : Whole body digits afterWhole) (fraction : Fraction afterWhole places afterPlaces)
      (power : Exponent afterPlaces exponent rest) (isReal : places ≠ [] ∨ exponent ≠ none) :
      Number limit text
        (.float (.ofDecimal negative (digits ++ places) (exponent.getD 0 - places.length))) rest

/-! ## Strings -/

/-- The letters that may follow a backslash, with what they stand for. -/
def letterEscapes : List (Char × Char) := [
  ('"', '"'), ('\\', '\\'), ('/', '/'), ('b', '\x08'), ('f', '\x0c'), ('n', '\n'), ('r', '\r'),
  ('t', '\t')]

/-- An escape by number, with its backslash. -/
inductive NumberedEscape : Grammar CodePoint
  | mk {a b c d : Char} {p : CodePoint} {rest : List Char} (digits : quad? a b c d = some p) :
      NumberedEscape ('\\' :: 'u' :: a :: b :: c :: d :: rest) p rest

/-- The inside of a string and its closing quote. Two escapes by number that make a surrogate pair
stand for one code point together. -/
inductive Characters : Grammar Text
  | close {rest : List Char} : Characters ('"' :: rest) [] rest
  | plain {c : Char} {text rest : List Char} {t : Text} (notQuote : c ≠ '"')
      (notBackslash : c ≠ '\\') (notControl : 0x20 ≤ c.toNat) (inside : Characters text t rest) :
      Characters (c :: text) (.ofChar c :: t) rest
  | letter {e c : Char} {text rest : List Char} {t : Text} (escape : (e, c) ∈ letterEscapes)
      (inside : Characters text t rest) : Characters ('\\' :: e :: text) (.ofChar c :: t) rest
  | pair {text afterHigh afterLow rest : List Char} {high low p : CodePoint} {t : Text}
      (first : NumberedEscape text high afterHigh) (second : NumberedEscape afterHigh low afterLow)
      (joined : CodePoint.ofSurrogates? high low = some p) (inside : Characters afterLow t rest) :
      Characters text (p :: t) rest
  | numbered {text after rest : List Char} {p : CodePoint} {t : Text}
      (escape : NumberedEscape text p after)
      (alone : ∀ low afterLow, NumberedEscape after low afterLow →
        CodePoint.ofSurrogates? p low = none)
      (inside : Characters after t rest) : Characters text (p :: t) rest

/-! ## Values -/

/-- A word, a number or a string. -/
inductive Scalar (limit : Nat) : Grammar Value
  | word {w rest : List Char} {v : Value} (known : (w, v) ∈ literals) :
      Scalar limit (w ++ rest) v rest
  | number {text rest : List Char} {v : Value} (h : Number limit text v rest) :
      Scalar limit text v rest
  | string {text rest : List Char} {t : Text} (inside : Characters text t rest) :
      Scalar limit ('"' :: text) (.string t) rest

/-- The parts of a container, separated by commas, and its closing character. -/
inductive Parts {α : Type} (close : Char) (part : Grammar α) : Grammar (List α)
  | last {text after rest : List Char} {a : α} (first : part text a after)
      (space : Space after (close :: rest)) : Parts close part text [a] rest
  | more {text after body next rest : List Char} {a : α} {as : List α} (first : part text a after)
      (space : Space after (',' :: body)) (space' : Space body next)
      (others : Parts close part next as rest) : Parts close part text (a :: as) rest

/-- A container, with its parts. -/
inductive Enclosed {α : Type} (opening close : Char) (part : Grammar α) : Grammar (List α)
  | empty {text rest : List Char} (space : Space text (close :: rest)) :
      Enclosed opening close part (opening :: text) [] rest
  | parts {text body rest : List Char} {as : List α} (space : Space text body)
      (inside : Parts close part body as rest) :
      Enclosed opening close part (opening :: text) as rest

/-- An array, with its items. -/
abbrev ArrayOf (item : Grammar Value) : Grammar (List Value) := Enclosed '[' ']' item

/-- A member of an object: its name, a colon and its value. -/
inductive Member (item : Grammar Value) : Grammar (Text × Value)
  | mk {text afterName body next rest : List Char} {name : Text} {v : Value}
      (name_eq : Characters text name afterName) (space : Space afterName (':' :: body))
      (space' : Space body next) (value : item next v rest) :
      Member item ('"' :: text) (name, v) rest

/-- An object, with its members. -/
abbrev ObjectOf (item : Grammar Value) : Grammar (List (Text × Value)) :=
  Enclosed '{' '}' (Member item)

/-- A value whose containers are nested at most `depth` deep and whose whole numbers have at most
`limit` digits. -/
def Spells (limit : Nat) : Nat → Grammar Value
  | 0, text, v, rest => Scalar limit text v rest
  | depth + 1, text, v, rest =>
    Scalar limit text v rest ∨ (∃ vs, v = .array vs ∧ ArrayOf (Spells limit depth) text vs rest) ∨
      ∃ ms, v = .ofMembers ms ∧ ObjectOf (Spells limit depth) text ms rest

theorem Scalar.spells {limit : Nat} {text rest : List Char} {v : Value}
    (h : Scalar limit text v rest) (depth : Nat) : Spells limit depth text v rest := by
  cases depth with
  | zero => exact h
  | succ depth => exact .inl h

theorem ObjectOf.spells {limit depth : Nat} {text rest : List Char} {ms : List (Text × Value)}
    (h : ObjectOf (Spells limit depth) text ms rest) :
    Spells limit (depth + 1) text (.ofMembers ms) rest := .inr (.inr ⟨ms, rfl, h⟩)

/-! ## Whole texts -/

/-- A whole text that spells something, with white space around it. -/
def Document {α : Type} (G : Grammar α) (text : List Char) (a : α) : Prop :=
  ∃ front back, Space text front ∧ G front a back ∧ Space back []

/-- A text is within the limits of `decode`: where it is JSON at all, its containers are not nested
deeper and its whole numbers have no more digits than `decode` allows. -/
def IsWithinLimits (allowed : DepthLimit) (text : List Char) : Prop :=
  ∀ limit depth v, Document (Spells limit depth) text v →
    Document (Spells Decimal.maxDigits allowed.levels) text v

end Json

end DigestRecord
