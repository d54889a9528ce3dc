import DigestRecord.Hex
import DigestRecord.Json.Scanner
import DigestRecord.Text.CodePoint

/-!
# Strings

A string runs up to the next quote that no backslash precedes. Characters below the space have to be
escaped in it. An escape by number has four digits of either case, and some text has to follow it;
two such escapes in a row that make a surrogate pair stand for one code point, and any other
surrogate stands for itself.
-/

namespace DigestRecord

namespace Json

/-- What an escape of one letter stands for. -/
def letterEscape? (c : Char) : Option Char :=
  match c with
  | '"' => some '"'
  | '\\' => some '\\'
  | '/' => some '/'
  | 'b' => some '\x08'
  | 'f' => some '\x0c'
  | 'n' => some '\n'
  | 'r' => some '\r'
  | 't' => some '\t'
  | _ => none

/-- The code point whose number has these four digits. -/
def quad? (a b c d : Char) : Option CodePoint :=
  match Hex.digit? a, Hex.digit? b, Hex.digit? c, Hex.digit? d with
  | some a, some b, some c, some d =>
    some ⟨4096 * a.val + 256 * b.val + 16 * c.val + d.val, by omega⟩
  | _, _, _, _ => none

/-- Completes a high surrogate by an escaped low one at the front of the text, if there is one. Any
other code point is complete by itself. -/
def completed (p : CodePoint) (text : List Char) : Except Obstacle (CodePoint × List Char) :=
  match text with
  | '\\' :: 'u' :: a :: b :: c :: d :: rest =>
    if !p.isHighSurrogate || rest.isEmpty then .ok (p, text)
    else
      match quad? a b c d with
      | none => .error (.malformed .unicodeEscapeInvalid ('u' :: a :: b :: c :: d :: rest))
      | some low =>
        match CodePoint.ofSurrogates? p low with
        | some joined => .ok (joined, rest)
        | none => .ok (p, text)
  | _ => .ok (p, text)

theorem completed_le {p q : CodePoint} {text rest : List Char}
    (h : completed p text = .ok (q, rest)) : rest.length ≤ text.length := by
  unfold completed at h
  split at h
  · split at h
    · simp_all
    · split at h
      · simp at h
      · split at h <;> simp_all
        omega
  · simp_all

/-- Reads an escape by number, from its `u` on. -/
def numericEscape : Scanner CodePoint := fun text =>
  match text with
  | _ :: a :: b :: c :: d :: next =>
    if next.isEmpty then .error (.malformed .unicodeEscapeInvalid text)
    else
      match quad? a b c d with
      | none => .error (.malformed .unicodeEscapeInvalid text)
      | some p =>
        match h : completed p next with
        | .error o => .error o
        | .ok (q, rest) => .ok ⟨q, rest, by have := completed_le h; simp only [List.length_cons]; omega⟩
  | _ => .error (.malformed .unicodeEscapeInvalid text)

/-- Reads the inside of a string and its closing quote. `opening` is the text from the opening quote
on, and `done` is what was read so far, newest first. -/
def stringBody (opening : List Char) (done : Text) (text : List Char) :
    Except Obstacle (Text × List Char) :=
  match text with
  | [] => .error (.malformed .stringUnterminated opening)
  | c :: rest =>
    if c = '"' then .ok (done.reverse, rest)
    else if c = '\\' then
      match rest with
      | [] => .error (.malformed .stringUnterminated opening)
      | e :: after =>
        if e = 'u' then
          match numericEscape (e :: after) with
          | .error o => .error o
          | .ok found => stringBody opening (found.value :: done) found.rest
        else
          match letterEscape? e with
          | none => .error (.malformed .escapeInvalid (c :: e :: after))
          | some p => stringBody opening (CodePoint.ofChar p :: done) after
    else if c.toNat < 0x20 then .error (.malformed .controlCharacter (c :: rest))
    else stringBody opening (CodePoint.ofChar c :: done) rest
termination_by text.length
decreasing_by
  · have := found.shorter
    simp only [List.length_cons] at this ⊢
    omega
  · simp only [List.length_cons]
    omega
  · simp only [List.length_cons]
    omega

theorem stringBody_shorter {opening : List Char} {done : Text} {text : List Char} {t : Text}
    {rest : List Char} (h : stringBody opening done text = .ok (t, rest)) :
    rest.length < text.length := by
  fun_induction stringBody opening done text with
  | case1 => simp at h
  | case2 done rest => simp at h; simp [h]
  | case3 => simp at h
  | case4 => simp at h
  | case5 done after _ found _ ih =>
    have hf := found.shorter
    have := ih h
    simp only [List.length_cons] at hf ⊢
    omega
  | case6 => simp at h
  | case7 done e after _ _ p _ ih =>
    have := ih h
    simp only [List.length_cons]
    omega
  | case8 => simp at h
  | case9 done c rest _ _ _ ih =>
    have := ih h
    simp only [List.length_cons]
    omega

/-- Reads a string, from its opening quote on. -/
def string : Scanner Text := fun text =>
  match text with
  | '"' :: body =>
    match h : stringBody ('"' :: body) [] body with
    | .error o => .error o
    | .ok (t, rest) => .ok ⟨t, rest, Nat.lt_succ_of_lt (stringBody_shorter h)⟩
  | _ => .error (.malformed .valueExpected text)

end Json

end DigestRecord
