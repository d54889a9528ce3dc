import DigestRecord.Proofs.Json.Nesting
import DigestRecord.Record.Reading

/-!
# What a text that is no record is refused for

Whoever reads a record means to deal with one kind of refusal, the one that blames the text. Nearly
all texts that are no records get it: those that are not JSON, those with a number that is too long,
and those whose members do not pass the checks.

Containers that are nested too deep are the exception. Such a text is refused for the running
program, as if nothing were wrong with the text, and reading has not decided by then whether it is
JSON. `IsNestedTooDeep` says by the grammar which texts these are, for each limit on nesting.

## Main results

* `read_eq_tooDeep_iff` — which texts are refused for their nesting
* `answersByValue_iff` — for all other texts reading has one kind of failure
-/

namespace DigestRecord

namespace Record

/-- A text is read, or is refused with the blame on the text. -/
def AnswersByValue (allowed : Json.DepthLimit) (text : String) : Prop :=
  (∃ d, read allowed text = .ok d) ∨
    ∃ e message, read allowed text = .error e ∧ e.fault = .value message

/-! ## The checks -/

theorem checkAlgorithm_ne_undecodable (v : Json.Value) (e : Json.DecodeError) :
    checkAlgorithm v ≠ .error (.undecodable e) := by
  rw [checkAlgorithm]
  split <;> simp

theorem checkHash_ne_undecodable (v : Json.Value) (e : Json.DecodeError) :
    checkHash v ≠ .error (.undecodable e) := by
  rw [checkHash]
  split
  · simp
  · split <;> simp

theorem checkByteCount_ne_undecodable (v : Json.Value) (e : Json.DecodeError) :
    checkByteCount v ≠ .error (.undecodable e) := by
  rw [checkByteCount.eq_def]
  split
  · split <;> simp
  · simp

/-- What a record is refused for is what one of its members is refused for. -/
theorem exists_of_check_eq_error {algorithm hash byteCount : Json.Value} {e : ReadError}
    (h : check algorithm hash byteCount = .error e) :
    checkAlgorithm algorithm = .error e ∨ checkHash hash = .error e ∨
      checkByteCount byteCount = .error e := by
  rw [check] at h
  cases halgorithm : checkAlgorithm algorithm with
  | error =>
    rw [halgorithm] at h
    cases h
    exact .inl rfl
  | ok =>
    cases hhash : checkHash hash with
    | error =>
      rw [halgorithm, hhash] at h
      cases h
      exact .inr (.inl rfl)
    | ok =>
      cases hcount : checkByteCount byteCount with
      | error =>
        rw [halgorithm, hhash, hcount] at h
        cases h
        exact .inr (.inr rfl)
      | ok =>
        rw [halgorithm, hhash, hcount] at h
        cases h

/-- A value has been decoded, whatever it is refused for. -/
theorem ofValue_ne_undecodable (v : Json.Value) (e : Json.DecodeError) :
    ofValue v ≠ .error (.undecodable e) := by
  cases v with
  | object members =>
    intro h
    rcases exists_of_check_eq_error h with h | h | h
    · exact checkAlgorithm_ne_undecodable _ e h
    · exact checkHash_ne_undecodable _ e h
    · exact checkByteCount_ne_undecodable _ e h
  | _ => simp [ofValue]

/-! ## Refusals -/

variable (allowed : Json.DepthLimit)

/-- **Which texts are refused for their nesting.** -/
theorem read_eq_tooDeep_iff (text : String) (c : Json.Container) :
    read allowed text = .error (.undecodable (.tooDeep c)) ↔
      Json.IsNestedTooDeep allowed text.toList c := by
  rw [← Json.decode_eq_tooDeep_iff, read]
  split
  · rename_i e hdecode
    rw [hdecode]
    exact ⟨fun h => by cases h; rfl, fun h => by cases h; rfl⟩
  · rename_i v hdecode
    rw [hdecode]
    exact ⟨fun h => absurd h (ofValue_ne_undecodable v _), fun h => (by cases h)⟩

/-- A refusal is blamed on the text, or is one for its nesting. -/
theorem ReadError.fault_eq_value_or (e : ReadError) :
    (∃ message, e.fault = .value message) ∨ ∃ c, e = .undecodable (.tooDeep c) := by
  cases e with
  | undecodable e =>
    cases e with
    | tooDeep c => exact .inr ⟨c, rfl⟩
    | malformed => exact .inl ⟨_, rfl⟩
    | tooManyDigits => exact .inl ⟨_, rfl⟩
  | _ => exact .inl ⟨_, rfl⟩

theorem not_answersByValue_of_isNestedTooDeep {text : String} {c : Json.Container}
    (h : Json.IsNestedTooDeep allowed text.toList c) : ¬ AnswersByValue allowed text := by
  have hread := (read_eq_tooDeep_iff allowed text c).mpr h
  rintro (⟨d, hd⟩ | ⟨e, message, he, hfault⟩)
  · rw [hread] at hd
    cases hd
  · rw [hread] at he
    cases he
    cases hfault

/-- **Reading has one kind of failure, but for nesting that is too deep.** A text is read or refused
with the blame on the text if and only if it does not lead down below the levels that are left. If it
does, it is refused for the running program, with a message that names the container and without a
cause. -/
theorem answersByValue_iff (text : String) :
    (AnswersByValue allowed text ↔ ∀ c, ¬ Json.IsNestedTooDeep allowed text.toList c) ∧
    ∀ c, Json.IsNestedTooDeep allowed text.toList c →
      ∃ e, read allowed text = .error e ∧ e.cause = none ∧ e.fault = .runtime
        ("maximum recursion depth exceeded while decoding a JSON " ++ c.name ++
          " from a unicode string") := by
  refine ⟨⟨fun h c hdeep => not_answersByValue_of_isNestedTooDeep allowed hdeep h, fun h => ?_⟩,
    fun c hdeep => ⟨_, (read_eq_tooDeep_iff allowed text c).mpr hdeep, rfl, rfl⟩⟩
  cases hread : read allowed text with
  | ok d => exact .inl ⟨d, hread⟩
  | error e =>
    rcases e.fault_eq_value_or with ⟨message, hfault⟩ | ⟨c, rfl⟩
    · exact .inr ⟨e, message, hread, hfault⟩
    · exact absurd ((read_eq_tooDeep_iff allowed text c).mp hread) (h c)

/-- Five thousand opening brackets with their closing ones are JSON, but are not refused for being no
object: the blame is not on the text. -/
theorem not_answersByValue_brackets :
    ¬ AnswersByValue .standard
      (String.ofList (List.replicate 5000 '[' ++ List.replicate 5000 ']')) := by
  refine not_answersByValue_of_isNestedTooDeep .standard (c := .array) ?_
  rw [String.toList_ofList]
  exact Json.isNestedTooDeep_replicate .standard (by decide) _

end Record

end DigestRecord
