import DigestRecord.Binary64.Basic
import DigestRecord.Text.CodePoint

/-!
# JSON values

Whole numbers and numbers with a fraction or an exponent are different kinds of value, as they are
spelled differently. An object keeps its members in the order in which their names first came up;
when a name comes up again, the later value takes the place of the earlier one.
-/

namespace DigestRecord

namespace Json

/-- A JSON value. -/
inductive Value where
  | null
  | bool (b : Bool)
  | int (n : Int)
  | float (x : Binary64)
  | string (t : Text)
  | array (items : List Value)
  | object (members : List (Text × Value))
  deriving Inhabited

/-- Gives a name its value: in place, if the name is there already, and else at the end. -/
def putMember (name : Text) (value : Value) : List (Text × Value) → List (Text × Value)
  | [] => [(name, value)]
  | (n, v) :: rest => if n = name then (n, value) :: rest else (n, v) :: putMember name value rest

/-- The object with some members, of which the last one of each name counts. -/
def Value.ofMembers (members : List (Text × Value)) : Value :=
  .object (members.foldl (fun kept m => putMember m.1 m.2 kept) [])

theorem lookup_putMember_self (name : Text) (value : Value) (ms : List (Text × Value)) :
    (putMember name value ms).lookup name = some value := by
  induction ms with
  | nil => simp [putMember]
  | cons m ms ih =>
    obtain ⟨n, v⟩ := m
    by_cases h : n = name
    · subst h; simp [putMember]
    · have h' : (name == n) = false := by simpa using fun e => h e.symm
      simp [putMember, h, h', ih, List.lookup_cons]

theorem lookup_putMember_of_ne {name other : Text} (h : other ≠ name) (value : Value)
    (ms : List (Text × Value)) :
    (putMember name value ms).lookup other = ms.lookup other := by
  have h' : (other == name) = false := by simpa using h
  induction ms with
  | nil => simp [putMember, List.lookup_cons, h']
  | cons m ms ih =>
    obtain ⟨n, v⟩ := m
    by_cases e : n = name
    · subst e; simp [putMember, List.lookup_cons, h']
    · by_cases e' : other = n
      · subst e'; simp [putMember, e]
      · have e'' : (other == n) = false := by simpa using e'
        simp [putMember, e, List.lookup_cons, e'', ih]

end Json

end DigestRecord
