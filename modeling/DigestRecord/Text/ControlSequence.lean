/-!
# Control sequences

Terminals take some stretches of text for commands: an escape character and an opening bracket, then
parameters, then intermediates, then one final character. What is written to a stream that is no
terminal is written without them.

A stretch that does not get as far as its final character is no control sequence and stays. Taking
one out may bring two parts of another one together; that one stays too.
-/

namespace DigestRecord

namespace ControlSequence

/-- The character that starts a control sequence. -/
def escape : Char := '\x1b'

/-- Whether a character can be a parameter of a control sequence. -/
def isParameter (c : Char) : Bool := 0x30 ≤ c.toNat && c.toNat ≤ 0x3f

/-- Whether a character can be an intermediate of a control sequence. -/
def isIntermediate (c : Char) : Bool := 0x20 ≤ c.toNat && c.toNat ≤ 0x2f

/-- Whether a character can end a control sequence. -/
def isFinal (c : Char) : Bool := 0x40 ≤ c.toNat && c.toNat ≤ 0x7e

/-- What comes after a control sequence, from the text after its bracket. -/
def skip? (text : List Char) : Option (List Char) :=
  match (text.dropWhile isParameter).dropWhile isIntermediate with
  | c :: rest => if isFinal c then some rest else none
  | [] => none

theorem length_lt_of_skip? {text rest : List Char} (h : skip? text = some rest) :
    rest.length < text.length := by
  have h₁ := (List.dropWhile_sublist isParameter (l := text)).length_le
  have h₂ := (List.dropWhile_sublist isIntermediate (l := text.dropWhile isParameter)).length_le
  unfold skip? at h
  split at h
  · rename_i c r e
    rw [e] at h₂
    split at h
    · obtain rfl := Option.some.inj h
      simp only [List.length_cons] at h₂
      omega
    · cases h
  · cases h

/-- A text without its control sequences. -/
def remove : List Char → List Char
  | [] => []
  | c :: rest =>
    if c = escape ∧ rest.head? = some '[' then
      match h : skip? rest.tail with
      | some after =>
        have := length_lt_of_skip? h
        remove after
      | none => c :: remove rest
    else c :: remove rest
termination_by text => text.length
decreasing_by
  · simp only [List.length_tail, List.length_cons] at *
    omega
  · simp
  · simp

@[simp] theorem remove_nil : remove [] = [] := by rw [remove]

end ControlSequence

end DigestRecord
