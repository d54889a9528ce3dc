import DigestRecord.Proofs.Record.Checking
import DigestRecord.Proofs.Record.Refusals
import DigestRecord.Proofs.Text.Folding

/-!
# The first defect

A value may have several defects as a record, and the message tells one of them. `firstDefect?` says
which: there is a list of five defects in a fixed order, each of them judged on its own, and the first
one that the value has is told.

The digest is judged in lower case, as running text has it. Reading folds letter by letter, which comes
out differently for one letter. But that letter is no digit in either form and counts once in both, so
neither its length nor the set of its letters tells the two apart.

A digest that has passed is sixty-four lower-case digits. They always stand for thirty-two bytes, so
there is nothing left that could fail in taking them.

## Main results

* `exists_encode_of_isLowerHex` — sixty-four digits stand for thirty-two bytes
* `refusal?_ofValue` — a value is refused for its first defect, and else read
* `read_decided_by_firstDefect` — the same of the text, and what becomes of a text that is not JSON
-/

namespace DigestRecord

/-- Whether a code point is a hexadecimal digit in lower case. -/
def CodePoint.isLowerHex (p : CodePoint) : Bool :=
  0x30 ≤ p.value && p.value ≤ 0x39 || 0x61 ≤ p.value && p.value ≤ 0x66

namespace Record

/-! ## Defects -/

/-- What an object holds under a name, if anything. No other value holds anything. -/
def heldUnder? (name : String) : Json.Value → Option Json.Value
  | .object members => members.lookup (Text.ofString name)
  | _ => none

/-- The text that a value holds under a name, without white space at its ends. Nothing counts as the
empty text. -/
def textUnder (name : String) (v : Json.Value) : Text :=
  (((heldUnder? name v).map Json.Value.asText).getD []).trim

/-- The text of the digest in lower case. -/
def hashText (v : Json.Value) : Text := (textUnder "hash" v).toLowerWords

/-- The value is not an object. -/
def objectDefect? : Json.Value → Option String
  | .object _ => none
  | _ => some "Record must be a JSON object"

/-- The algorithm is another one. -/
def algorithmDefect? (v : Json.Value) : Option String :=
  if textUnder "algorithm" v = Text.ofString "sha256" then none
  else some ("Unexpected algorithm: " ++ String.ofList (textUnder "algorithm" v).quoted)

/-- The digest in lower case does not have sixty-four code points. -/
def hashLengthDefect? (v : Json.Value) : Option String :=
  if (hashText v).length = 64 then none
  else some ("Unexpected hash length: " ++ String.ofList (Decimal.ofNat (hashText v).length))

/-- The digest in lower case has a code point that is no digit. -/
def hashDigitsDefect? (v : Json.Value) : Option String :=
  if (hashText v).all CodePoint.isLowerHex then none else some "Hash is not valid hex"

/-- The count is missing, is not a whole number, or is negative. -/
def byteCountDefect? (v : Json.Value) : Option String :=
  match heldUnder? "bytes" v with
  | some (.int n) =>
    if 0 ≤ n then none else some ("Invalid byte count: " ++ String.ofList (Decimal.ofInt n))
  | some other => some ("Invalid byte count: " ++ String.ofList other.display)
  | none => some "Invalid byte count: None"

/-- The defects of a record, in the order in which they are told. -/
def defects : List (Json.Value → Option String) :=
  [objectDefect?, algorithmDefect?, hashLengthDefect?, hashDigitsDefect?, byteCountDefect?]

/-- What is told of the defects of a value: the first of them. -/
def firstDefect? (v : Json.Value) : Option String := defects.findSome? fun defect? => defect? v

end Record

/-! ## Digits -/

theorem CodePoint.isLowerHex_ofChar (c : Char) :
    (ofChar c).isLowerHex = (Hex.lowerDigit? c).isSome := by
  rw [isLowerHex, value_ofChar, Hex.lowerDigit?]
  split
  · rename_i h
    simp [h.1, h.2]
  · split
    · rename_i h
      simp [h.1, h.2]
    · simp
      omega

theorem CodePoint.exists_eq_ofChar_of_isLowerHex {p : CodePoint} (h : p.isLowerHex = true) :
    ∃ c, p = ofChar c ∧ (Hex.lowerDigit? c).isSome = true := by
  have hascii : p.value < 0x80 := by
    simp only [isLowerHex, Bool.or_eq_true, Bool.and_eq_true, decide_eq_true_eq] at h
    omega
  obtain ⟨c, rfl, -⟩ := exists_eq_ofChar hascii
  rw [isLowerHex_ofChar] at h
  exact ⟨c, rfl, h⟩

theorem Text.exists_eq_map_ofChar_of_isLowerHex {t : Text}
    (h : t.all CodePoint.isLowerHex = true) :
    ∃ cs : List Char, t = cs.map CodePoint.ofChar ∧
      ∀ c ∈ cs, (Hex.lowerDigit? c).isSome = true := by
  induction t with
  | nil => exact ⟨[], rfl, by simp⟩
  | cons p t ih =>
    rw [List.all_cons, Bool.and_eq_true] at h
    obtain ⟨c, rfl, hc⟩ := CodePoint.exists_eq_ofChar_of_isLowerHex h.1
    obtain ⟨cs, rfl, hcs⟩ := ih h.2
    exact ⟨c :: cs, rfl, List.forall_mem_cons.mpr ⟨hc, hcs⟩⟩

/-- **Sixty-four digits stand for thirty-two bytes.** -/
theorem exists_encode_of_isLowerHex {t : Text} (hlength : t.length = 64)
    (h : t.all CodePoint.isLowerHex = true) :
    ∃ bytes : List UInt8, bytes.length = 32 ∧ t = (Hex.encode bytes).map CodePoint.ofChar := by
  obtain ⟨cs, rfl, hcs⟩ := Text.exists_eq_map_ofChar_of_isLowerHex h
  rw [List.length_map] at hlength
  obtain ⟨bytes, hbytes, rfl⟩ := Hex.exists_encode_eq (n := 32) hlength hcs
  exact ⟨bytes, hbytes, rfl⟩

theorem all_isLowerHex_encode (bytes : List UInt8) :
    ((Hex.encode bytes).map CodePoint.ofChar).all CodePoint.isLowerHex = true := by
  rw [List.all_eq_true]
  intro p hp
  obtain ⟨c, hc, rfl⟩ := List.mem_map.mp hp
  rw [CodePoint.isLowerHex_ofChar]
  exact Hex.isSome_lowerDigit?_of_mem_encode hc

/-- If a text is made of digits in lower case, it makes no difference whether it is folded word by
word. -/
theorem Text.toLowerWords_eq_of_isLowerHex {t : Text}
    (h : t.toLowerWords.all CodePoint.isLowerHex = true ∨
      t.toLower.all CodePoint.isLowerHex = true) : t.toLowerWords = t.toLower := by
  rcases t.toLowerWords_eq_or_mem with heq | ⟨hfinal, hsmall⟩
  · exact heq
  · rcases h with h | h
    · exact absurd (List.all_eq_true.mp h _ hfinal) (by decide)
    · exact absurd (List.all_eq_true.mp h _ hsmall) (by decide)

namespace Record

/-! ## The digest -/

theorem checkHash_of_length_ne {v : Json.Value} (h : v.asText.trim.toLowerWords.length ≠ 64) :
    checkHash v = .error (.hashLength v.asText.trim.toLowerWords.length) := by
  rw [Text.length_toLowerWords] at h ⊢
  rw [checkHash]
  exact if_pos h

theorem checkHash_of_not_isLowerHex {v : Json.Value}
    (hlength : v.asText.trim.toLowerWords.length = 64)
    (h : v.asText.trim.toLowerWords.all CodePoint.isLowerHex = false) :
    checkHash v = .error .hashNotHex := by
  have hpasses : ∀ bytes, checkHash v ≠ .ok bytes := by
    -- Text that passes is made of digits, and then both ways to fold agree.
    intro bytes hcheck
    obtain ⟨hfold, -⟩ := checkHash_eq_ok_iff_toLower.mp hcheck
    have hdigits : v.asText.trim.toLower.all CodePoint.isLowerHex = true := by
      rw [hfold]
      exact all_isLowerHex_encode bytes
    rw [Text.toLowerWords_eq_of_isLowerHex (.inr hdigits), hdigits] at h
    cases h
  have hsize : v.asText.trim.toLower.length = hashDigits :=
    (Text.length_toLowerWords _).symm.trans hlength
  rw [checkHash, if_neg (not_not_intro hsize)] at hpasses ⊢
  split
  · rename_i bytes hdecode
    rw [hdecode] at hpasses
    exact absurd rfl (hpasses bytes)
  · rfl

theorem exists_checkHash_of_isLowerHex {v : Json.Value}
    (hlength : v.asText.trim.toLowerWords.length = 64)
    (h : v.asText.trim.toLowerWords.all CodePoint.isLowerHex = true) :
    ∃ bytes, checkHash v = .ok bytes ∧ bytes.length = 32 ∧
      v.asText.trim.toLowerWords = (Hex.encode bytes).map CodePoint.ofChar := by
  obtain ⟨bytes, hbytes, htext⟩ := exists_encode_of_isLowerHex hlength h
  refine ⟨bytes, checkHash_eq_ok_iff_toLower.mpr ⟨?_, hbytes⟩, hbytes, htext⟩
  rw [← Text.toLowerWords_eq_of_isLowerHex (.inl h), htext]

/-! ## Refusals -/

/-- What is told of a refusal, if there is one. -/
def refusal? {α : Type} : Except ReadError α → Option String
  | .error e => some e.message
  | .ok _ => none

/-- Of three checks the first refusal is told. -/
theorem refusal?_check (algorithm hash byteCount : Json.Value) :
    refusal? (check algorithm hash byteCount) = (refusal? (checkAlgorithm algorithm)).or
      ((refusal? (checkHash hash)).or (refusal? (checkByteCount byteCount))) := by
  rw [check]
  cases checkAlgorithm algorithm with
  | error => rfl
  | ok =>
    cases checkHash hash with
    | error => rfl
    | ok => cases checkByteCount byteCount <;> rfl

theorem trim_asText_member (members : List (Text × Json.Value)) (name : String) :
    (member members name (.string [])).asText.trim = textUnder name (.object members) := by
  rw [member, textUnder, heldUnder?]
  cases members.lookup (Text.ofString name) <;> rfl

theorem refusal?_checkAlgorithm (members : List (Text × Json.Value)) :
    refusal? (checkAlgorithm (member members "algorithm" (.string []))) =
      algorithmDefect? (.object members) := by
  rw [checkAlgorithm, trim_asText_member, algorithmDefect?, algorithm]
  by_cases h : textUnder "algorithm" (.object members) = Text.ofString "sha256"
  · rw [if_pos h, if_pos h]
    rfl
  · rw [if_neg h, if_neg h]
    rfl

theorem refusal?_checkHash (members : List (Text × Json.Value)) :
    refusal? (checkHash (member members "hash" (.string []))) =
      (hashLengthDefect? (.object members)).or (hashDigitsDefect? (.object members)) := by
  have htext : (member members "hash" (.string [])).asText.trim.toLowerWords =
      hashText (.object members) := congrArg Text.toLowerWords (trim_asText_member members "hash")
  rw [hashLengthDefect?, hashDigitsDefect?, ← htext]
  split
  · rename_i hlength
    split
    · rename_i hdigits
      obtain ⟨bytes, hcheck, -, -⟩ := exists_checkHash_of_isLowerHex hlength hdigits
      rw [hcheck]
      rfl
    · rename_i hdigits
      rw [checkHash_of_not_isLowerHex hlength (Bool.eq_false_iff.mpr hdigits)]
      rfl
  · rename_i hlength
    rw [checkHash_of_length_ne hlength]
    rfl

theorem refusal?_checkByteCount (members : List (Text × Json.Value)) :
    refusal? (checkByteCount (member members "bytes" .null)) =
      byteCountDefect? (.object members) := by
  rw [member, byteCountDefect?, heldUnder?]
  cases members.lookup (Text.ofString "bytes") with
  | none => rfl
  | some v =>
    cases v with
    | int n =>
      show refusal? (if n < 0 then _ else _) = if 0 ≤ n then _ else _
      by_cases hn : 0 ≤ n
      · rw [if_pos hn, if_neg (Int.not_lt.mpr hn)]
        rfl
      · rw [if_neg hn, if_pos (Int.not_le.mp hn)]
        rfl
    | _ => rfl

theorem firstDefect?_eq_or (v : Json.Value) :
    firstDefect? v = (objectDefect? v).or ((algorithmDefect? v).or
      (((hashLengthDefect? v).or (hashDigitsDefect? v)).or (byteCountDefect? v))) := by
  rw [firstDefect?, defects]
  simp only [List.findSome?_cons, List.findSome?_nil]
  cases objectDefect? v <;> cases algorithmDefect? v <;> cases hashLengthDefect? v <;>
    cases hashDigitsDefect? v <;> cases byteCountDefect? v <;> rfl

/-- **What is told of a value that is no record is its first defect.** -/
theorem refusal?_ofValue (v : Json.Value) : refusal? (ofValue v) = firstDefect? v := by
  cases v with
  | object members =>
    rw [firstDefect?_eq_or, ofValue, refusal?_check, refusal?_checkAlgorithm, refusal?_checkHash,
      refusal?_checkByteCount]
    rfl
  | _ => rfl

/-- The blame for a value that is no record is on the text, and it has no other cause. -/
theorem blame_of_ofValue {v : Json.Value} {e : ReadError} (h : ofValue v = .error e) :
    e.fault = .value e.message ∧ e.cause = none := by
  cases e with
  | undecodable e => exact absurd h (ofValue_ne_undecodable v e)
  | _ => exact ⟨rfl, rfl⟩

/-! ## Values without a defect -/

theorem hashText_of_no_defect {v : Json.Value} (hlength : hashLengthDefect? v = none)
    (hdigits : hashDigitsDefect? v = none) :
    (hashText v).length = 64 ∧ (hashText v).all CodePoint.isLowerHex = true := by
  constructor
  · rw [hashLengthDefect?] at hlength
    split at hlength
    · assumption
    · cases hlength
  · rw [hashDigitsDefect?] at hdigits
    split at hdigits
    · assumption
    · cases hdigits

theorem heldUnder?_of_checkByteCount {members : List (Text × Json.Value)} {n : Int}
    (h : checkByteCount (member members "bytes" .null) = .ok n) :
    heldUnder? "bytes" (.object members) = some (.int n) ∧ 0 ≤ n := by
  obtain ⟨hmember, hn⟩ := checkByteCount_eq_ok_iff.mp h
  refine ⟨?_, hn⟩
  rw [member] at hmember
  rw [heldUnder?]
  cases hlookup : members.lookup (Text.ofString "bytes") with
  | none =>
    rw [hlookup] at hmember
    cases hmember
  | some v =>
    rw [hlookup] at hmember
    exact congrArg some hmember

/-- **A value without a defect is read.** Its digest in lower case can be decoded, and that gives the
thirty-two bytes. -/
theorem exists_of_firstDefect?_eq_none {v : Json.Value} (h : firstDefect? v = none) :
    ∃ d digits, ofValue v = .ok d ∧ hashText v = digits.map CodePoint.ofChar ∧
      Hex.decode? digits = some d.digest ∧ d.digest.length = 32 ∧
      heldUnder? "bytes" v = some (.int d.byteCount) ∧ 0 ≤ d.byteCount := by
  have hrefusal := refusal?_ofValue v
  rw [h] at hrefusal
  cases hresult : ofValue v with
  | error e =>
    rw [hresult] at hrefusal
    cases hrefusal
  | ok d =>
    cases v with
    | object members =>
      obtain ⟨-, hhash, hcount⟩ := check_eq_ok_iff.mp hresult
      simp only [firstDefect?_eq_or, Option.or_eq_none_iff] at h
      obtain ⟨-, -, ⟨hlength, hdigits⟩, -⟩ := h
      have htext : (member members "hash" (.string [])).asText.trim.toLowerWords =
          hashText (.object members) :=
        congrArg Text.toLowerWords (trim_asText_member members "hash")
      obtain ⟨hlength, hdigits⟩ := hashText_of_no_defect hlength hdigits
      rw [← htext] at hlength hdigits
      obtain ⟨bytes, hcheck, hsize, hencode⟩ := exists_checkHash_of_isLowerHex hlength hdigits
      obtain rfl : bytes = d.digest := Except.ok.inj (hcheck.symm.trans hhash)
      exact ⟨d, Hex.encode d.digest, rfl, htext.symm.trans hencode,
        Hex.decode?_eq_some_iff.mpr (Hex.denotes_encode _), hsize,
        heldUnder?_of_checkByteCount hcount⟩
    | _ => cases hresult

/-! ## Texts -/

/-- **A text is refused for its first defect.** If it is JSON, what it spells is either read or refused
for the first of its defects, with the blame on the text and no other cause. If it stops being JSON at
some place, that is what it is refused for, whatever else there may be, and the refusal of the text as
JSON is the cause. -/
theorem read_decided_by_firstDefect (allowed : Json.DepthLimit) (text : String) :
    (∀ v, Json.decode allowed text = .ok v →
      (∀ message, firstDefect? v = some message → ∃ e, read allowed text = .error e ∧
        e.message = message ∧ e.fault = .value message ∧ e.cause = none) ∧
      (firstDefect? v = none → ∃ d digits, read allowed text = .ok d ∧
        hashText v = digits.map CodePoint.ofChar ∧ Hex.decode? digits = some d.digest ∧
        d.digest.length = 32 ∧ heldUnder? "bytes" v = some (.int d.byteCount) ∧
        0 ≤ d.byteCount)) ∧
    ∀ issue position, Json.decode allowed text = .error (.malformed issue position) →
      ∃ e, read allowed text = .error e ∧
        e.message = "Record is not valid JSON: " ++
          (Json.DecodeError.malformed issue position).message ∧
        e.fault = .value e.message ∧ e.cause = some (.malformed issue position) := by
  refine ⟨fun v hdecode => ?_, fun issue position hdecode => ?_⟩
  · have hread : read allowed text = ofValue v := by rw [read, hdecode]
    rw [hread]
    refine ⟨fun message hdefect => ?_, exists_of_firstDefect?_eq_none⟩
    have hrefusal := refusal?_ofValue v
    rw [hdefect] at hrefusal
    cases hresult : ofValue v with
    | ok d =>
      rw [hresult] at hrefusal
      cases hrefusal
    | error e =>
      rw [hresult] at hrefusal
      obtain rfl : e.message = message := Option.some.inj hrefusal
      exact ⟨e, rfl, rfl, blame_of_ofValue hresult⟩
  · refine ⟨.undecodable (.malformed issue position), ?_, rfl, rfl, rfl⟩
    rw [read, hdecode]

/-- All three members are wrong, and the algorithm is told. -/
example : firstDefect? (.object [(Text.ofString "hash", .bool true),
    (Text.ofString "bytes", .int (-1))]) = some "Unexpected algorithm: ''" := by decide +kernel

end Record

end DigestRecord
