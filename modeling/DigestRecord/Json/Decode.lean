import DigestRecord.Json.NumberScanner
import DigestRecord.Json.StringScanner

/-!
# Decoding JSON

A JSON text is one value with white space around it. Beside the literals of the standard, `NaN`,
`Infinity` and `-Infinity` are read as well. A byte order mark in front is refused.

Nesting is bounded (`DepthLimit`): each container takes one off the depth that its parts may have, and
the recursion runs on that depth. The limit shows when a container begins, whatever comes after.
-/

namespace DigestRecord

namespace Json

/-- Reads the parts of a container and its closing character, from the first part on. `done` holds
the parts before, newest first. -/
def parts {α : Type} (close : Char) (part : Scanner α) (done : List α) (text : List Char) :
    Except Obstacle (List α × List Char) :=
  match part text with
  | .error o => .error o
  | .ok found =>
    match _hs : skipSpace found.rest with
    | [] => .error (.malformed .commaExpected [])
    | c :: rest =>
      if c = close then .ok ((found.value :: done).reverse, rest)
      else if c = ',' then parts close part (found.value :: done) (skipSpace rest)
      else .error (.malformed .commaExpected (c :: rest))
termination_by text.length
decreasing_by
  have h₁ := found.shorter
  have h₂ := length_skipSpace_le found.rest
  have h₃ := length_skipSpace_le rest
  simp only [_hs, List.length_cons] at h₂
  omega

theorem parts_shorter {α : Type} {close : Char} {part : Scanner α} {done as : List α}
    {text rest : List Char} (h : parts close part done text = .ok (as, rest)) :
    rest.length < text.length := by
  fun_induction parts close part done text with
  | case1 => simp at h
  | case2 => simp at h
  | case3 done text found _ after hs =>
    have h₁ := found.shorter
    have h₂ := length_skipSpace_le found.rest
    simp at h
    simp [hs, h] at h₂
    omega
  | case4 done text found _ after hs _ ih =>
    have h₁ := found.shorter
    have h₂ := length_skipSpace_le found.rest
    have h₃ := length_skipSpace_le after
    have := ih h
    simp [hs] at h₂
    omega
  | case5 => simp at h

/-- Reads a container, from its opening character on, and makes a value of its parts. -/
def container {α : Type} (close : Char) (part : Scanner α) (make : List α → Value) :
    Scanner Value := fun text =>
  match text with
  | [] => .error (.malformed .valueExpected text)
  | _ :: inside =>
    if h : (skipSpace inside).head? = some close then
      .ok ⟨make [], (skipSpace inside).tail, by
        have h₁ := length_skipSpace_le inside
        simp
        omega⟩
    else
      match h : parts close part [] (skipSpace inside) with
      | .error o => .error o
      | .ok (as, rest) => .ok ⟨make as, rest, by
          have h₁ := length_skipSpace_le inside
          have h₂ := parts_shorter h
          simp
          omega⟩

/-- Reads one member of an object: its name, a colon and its value. -/
def member (item : Scanner Value) : Scanner (Text × Value) := fun text =>
  if text.head? = some '"' then
    match string text with
    | .error o => .error o
    | .ok name =>
      match h : skipSpace name.rest with
      | ':' :: rest =>
        match item (skipSpace rest) with
        | .error o => .error o
        | .ok found => .ok ⟨(name.value, found.value), found.rest, by
            have h₁ := name.shorter
            have h₂ := length_skipSpace_le name.rest
            have h₃ := length_skipSpace_le rest
            have h₄ := found.shorter
            rw [h] at h₂
            simp only [List.length_cons] at h₂
            omega⟩
      | other => .error (.malformed .colonExpected other)
  else .error (.malformed .nameExpected text)

/-- Reads an array. -/
def array (item : Scanner Value) : Scanner Value := container ']' item .array

/-- Reads an object. -/
def object (item : Scanner Value) : Scanner Value := container '}' (member item) .ofMembers

/-- The text after a word at its front. -/
def afterWord? : List Char → List Char → Option (List Char)
  | [], text => some text
  | _ :: _, [] => none
  | w :: word, c :: text => if w = c then afterWord? word text else none

theorem afterWord?_eq_some_iff {word text rest : List Char} :
    afterWord? word text = some rest ↔ text = word ++ rest := by
  fun_induction afterWord? word text with
  | case1 => simp
  | case2 => simp
  | case3 w word text ih => simpa using ih
  | case4 w word c text h => simp [Ne.symm h]

/-- The values that are spelled by a word. -/
def literals : List (List Char × Value) := [
  (['n', 'u', 'l', 'l'], .null),
  (['t', 'r', 'u', 'e'], .bool true),
  (['f', 'a', 'l', 's', 'e'], .bool false),
  (['N', 'a', 'N'], .float .nan),
  (['I', 'n', 'f', 'i', 'n', 'i', 't', 'y'], .float (.infinite false)),
  (['-', 'I', 'n', 'f', 'i', 'n', 'i', 't', 'y'], .float (.infinite true))]

/-- The value of the word at the front of a text, and the text after it. -/
def literal? (text : List Char) : Option (Value × List Char) :=
  literals.findSome? fun l => (afterWord? l.1 text).map fun rest => (l.2, rest)

theorem literal?_shorter {text rest : List Char} {v : Value} (h : literal? text = some (v, rest)) :
    rest.length < text.length := by
  obtain ⟨l, hl, hw⟩ := List.exists_of_findSome?_eq_some h
  obtain ⟨r, hr, he⟩ := Option.map_eq_some_iff.mp hw
  have hpos : 0 < l.1.length := by
    revert l
    simp [literals]
  obtain ⟨-, rfl⟩ := Prod.mk.injEq .. ▸ he
  simp [afterWord?_eq_some_iff.mp hr, hpos]

/-- Reads a word or a number. -/
def scalar : Scanner Value := fun text =>
  match h : literal? text with
  | some (v, rest) => .ok ⟨v, rest, literal?_shorter h⟩
  | none => number text

/-- Reads a value whose containers are nested at most `depth` deep. -/
def value (depth : Nat) : Scanner Value := fun text =>
  if text.head? = some '"' then
    match string text with
    | .error o => .error o
    | .ok found => .ok ⟨.string found.value, found.rest, found.shorter⟩
  else if text.head? = some '[' then
    match depth with
    | 0 => .error (.tooDeep .array)
    | depth + 1 => array (value depth) text
  else if text.head? = some '{' then
    match depth with
    | 0 => .error (.tooDeep .object)
    | depth + 1 => object (value depth) text
  else scalar text

/-- Reads a whole text: one value, and nothing but white space around it. -/
def document (allowed : DepthLimit) (text : List Char) : Except Obstacle Value :=
  match text with
  | '\ufeff' :: _ => .error (.malformed .byteOrderMark text)
  | _ =>
    match value allowed.levels (skipSpace text) with
    | .error o => .error o
    | .ok found =>
      match skipSpace found.rest with
      | [] => .ok found.value
      | extra => .error (.malformed .extraData extra)

/-- The refusal of a text at an obstacle met in it. -/
def DecodeError.ofObstacle (text : List Char) : Obstacle → DecodeError
  | .malformed issue rest => .malformed issue (.after (text.take (text.length - rest.length)))
  | .tooDeep container => .tooDeep container
  | .tooManyDigits digits => .tooManyDigits digits

/-- The value that a text spells. -/
def decode (allowed : DepthLimit) (text : String) : Except DecodeError Value :=
  (document allowed text.toList).mapError (DecodeError.ofObstacle text.toList)

end Json

end DigestRecord
