import DigestRecord.Hashing.Run

/-!
# Turns of a run

A run of `stream` is a row of turns that go well, and then one last thing: a read that finds the
end, a read that fails, or an update that fails. This module says so once, so that nothing else has
to open `Progress.step` or follow the recursion of `stream`.

`Turns engine p reads q` is the row: from `p`, each of the reads reports a number other than zero
and the primitive takes the piece that the number names, and this leads to `q`. `Stops engine q
reads` lists the three ways in which a row ends before `reads`.

## Main results

* `stream_turns` — a row of turns shows as its events, and the rest of the run goes on from where it
  led
* `stream_of_findsEnd`, `stream_failed`, `stream_of_update_error` — the last thing, case by case
* `exists_turns` — every list of reads is such a row followed by one of these cases
-/

namespace DigestRecord

variable {σ : Type} {verbose : Bool} {engine : Engine σ} {path : String}

/-! ## Slices -/

namespace Buffer

/-- How many bytes of a buffer a number names. -/
def sliceSize : Int → Nat
  | .ofNat n => min n bufferSize
  | .negSucc n => bufferSize - (n + 1)

@[simp] theorem length_slice (b : Buffer) (n : Int) : (b.slice n).length = sliceSize n := by
  cases n with
  | ofNat n => simp [slice, sliceSize, b.length_bytes]
  | negSucc n => simp [slice, sliceSize, b.length_bytes]

end Buffer

/-! ## The end of a file -/

/-- Whether a read finds the end: it reports zero, or nothing. -/
def Read.isEnd : Read → Bool
  | .delivered _ none => true
  | .delivered _ (some n) => n == 0
  | .failed _ => false

/-- Whether a read fails. -/
def Read.hasFailed : Read → Bool
  | .delivered _ _ => false
  | .failed _ => true

/-- The next read finds the end and reports this. Where no read is left, one that reports zero
follows. -/
inductive FindsEnd : List Read → Option Int → Prop
  | exhausted : FindsEnd [] (some 0)
  | zero {written : List UInt8} {later : List Read} :
      FindsEnd (.delivered written (some 0) :: later) (some 0)
  | nothing {written : List UInt8} {later : List Read} :
      FindsEnd (.delivered written none :: later) none

theorem Read.findsEnd_of_isEnd {read : Read} (h : read.isEnd = true) :
    ∃ reported, ∀ later, FindsEnd (read :: later) reported := by
  rcases read with ⟨written, _ | n⟩ | f
  · exact ⟨none, fun _ => .nothing⟩
  · have hn : n = 0 := by simpa [Read.isEnd] using h
    subst hn
    exact ⟨some 0, fun _ => .zero⟩
  · simp [Read.isEnd] at h

/-- Where the end is found does not depend on the reads after a read that finds it. -/
theorem FindsEnd.append {reads : List Read} {reported : Option Int} (h : FindsEnd reads reported)
    {last : Read} (hlast : last.isEnd = true) :
    ∃ reported', ∀ later, FindsEnd (reads ++ last :: later) reported' := by
  cases h with
  | exhausted => exact Read.findsEnd_of_isEnd hlast
  | zero => exact ⟨some 0, fun _ => .zero⟩
  | nothing => exact ⟨none, fun _ => .nothing⟩

/-! ## A row of turns -/

/-- The piece of the buffer that the next update is given, once a read wrote to the buffer and
reported a number. -/
def Progress.piece (p : Progress σ) (written : List UInt8) (n : Int) : List UInt8 :=
  (p.buffer.overwrite written).slice n

/-- A row of turns that go well. -/
inductive Turns (engine : Engine σ) : Progress σ → List Read → Progress σ → Prop
  | done {p : Progress σ} : Turns engine p [] p
  | turn {p q : Progress σ} {written : List UInt8} {n : Int} {context : σ} {reads : List Read}
      (number : n ≠ 0) (taken : engine.update p.context (p.piece written n) = .ok context)
      (row : Turns engine ⟨context, p.buffer.overwrite written, p.total + n⟩ reads q) :
      Turns engine p (.delivered written (some n) :: reads) q

/-- The events of a read and the update after it. -/
def pairEvents (n : Int) : List Event :=
  [.reading bufferSize (.reported (some n)), .updating (Buffer.sliceSize n)]

/-- The events of a row of turns. -/
def rowEvents (reads : List Read) : List Event :=
  reads.flatMap fun
    | .delivered _ (some n) => pairEvents n
    | _ => []

/-- The ways in which a row of turns ends. -/
inductive Stops (engine : Engine σ) (p : Progress σ) : List Read → Prop
  | findsEnd {reads : List Read} {reported : Option Int} (h : FindsEnd reads reported) :
      Stops engine p reads
  | readFails {f : Fault} {later : List Read} : Stops engine p (.failed f :: later)
  | updateFails {written : List UInt8} {n : Int} {later : List Read} {f : Fault} (number : n ≠ 0)
      (refused : engine.update p.context (p.piece written n) = .error f) :
      Stops engine p (.delivered written (some n) :: later)

/-! ## What a run shows of it -/

/-- One turn that goes well. -/
theorem stream_turn {p : Progress σ} {written : List UInt8} {n : Int} {context : σ} (hn : n ≠ 0)
    (hu : engine.update p.context (p.piece written n) = .ok context) (reads : List Read) :
    let rest := stream verbose engine path
      ⟨context, p.buffer.overwrite written, p.total + n⟩ reads
    stream verbose engine path p (.delivered written (some n) :: reads) =
      ⟨rest.result, pairEvents n ++ rest.events, rest.log⟩ := by
  have hu' : engine.update p.context ((p.buffer.overwrite written).slice n) = .ok context := hu
  simp [stream, Progress.step, Progress.feed, hn, hu', pairEvents]

/-- **A row of turns.** All that a run shows of it are its events. -/
theorem stream_turns {p q : Progress σ} {reads : List Read} (h : Turns engine p reads q)
    (later : List Read) :
    let rest := stream verbose engine path q later
    stream verbose engine path p (reads ++ later) =
      ⟨rest.result, rowEvents reads ++ rest.events, rest.log⟩ := by
  induction h with
  | done => rfl
  | turn hn hu _ ih =>
    rw [List.cons_append, stream_turn hn hu, ih]
    simp [rowEvents]

theorem stream_of_findsEnd {p : Progress σ} {reads : List Read} {reported : Option Int}
    (h : FindsEnd reads reported) :
    stream verbose engine path p reads =
      ⟨(p.finish engine path).result,
        .reading bufferSize (.reported reported) :: (p.finish engine path).events,
        (p.finish engine path).log⟩ := by
  cases h <;> rfl

/-- What a failing read leads to. -/
def Progress.readFailure (verbose : Bool) (path : String) (p : Progress σ) (f : Fault) :
    Ending × List Notice :=
  if f.isSystem then
    announce verbose (.readFailed path p.total f) (.error ((Reason.cannotRead f).failure path))
  else (.error (.escaped f), [])

theorem Progress.readFailure_isError (verbose : Bool) (path : String) (p : Progress σ) (f : Fault) :
    ∃ failure, (p.readFailure verbose path f).1 = .error failure := by
  cases h : f.isSystem with
  | false => exact ⟨.escaped f, by simp [readFailure, h]⟩
  | true =>
    rw [readFailure, if_pos h, announce]
    split <;> exact ⟨_, rfl⟩

theorem stream_failed {p : Progress σ} {f : Fault} {later : List Read} :
    let said := p.readFailure verbose path f
    stream verbose engine path p (.failed f :: later) =
      ⟨said.1, [.reading bufferSize .failed], said.2⟩ := by
  cases h : f.isSystem <;> simp [stream, Progress.step, Progress.readFailure, h]

/-- What a failing update leads to. -/
def updateFailure (path : String) (f : Fault) : Ending × List Notice :=
  if f.isInterrupt then (.error (.escaped f), [])
  else (.error ((Reason.cannotUpdate f).failure path), [.updateFailed path f])

theorem updateFailure_isError (path : String) (f : Fault) :
    ∃ failure, (updateFailure path f).1 = .error failure := by
  rw [updateFailure]
  split <;> exact ⟨_, rfl⟩

theorem stream_of_update_error {p : Progress σ} {written : List UInt8} {n : Int} {f : Fault}
    (hn : n ≠ 0) (hu : engine.update p.context (p.piece written n) = .error f)
    (later : List Read) :
    stream verbose engine path p (.delivered written (some n) :: later) =
      ⟨(updateFailure path f).1, pairEvents n, (updateFailure path f).2⟩ := by
  have hu' : engine.update p.context ((p.buffer.overwrite written).slice n) = .error f := hu
  cases h : f.isInterrupt <;>
    simp [stream, Progress.step, Progress.feed, updateFailure, hn, hu', h, pairEvents]

/-! ## Every run is of this form -/

/-- **Every list of reads is a row of turns and one last thing.** -/
theorem exists_turns (engine : Engine σ) (p : Progress σ) (reads : List Read) :
    ∃ row later q, reads = row ++ later ∧ Turns engine p row q ∧ Stops engine q later := by
  induction reads generalizing p with
  | nil => exact ⟨[], [], p, rfl, .done, .findsEnd .exhausted⟩
  | cons read reads ih =>
    rcases read with ⟨written, _ | n⟩ | f
    · exact ⟨[], _, p, rfl, .done, .findsEnd .nothing⟩
    · by_cases hn : n = 0
      · subst hn
        exact ⟨[], _, p, rfl, .done, .findsEnd .zero⟩
      · cases hu : engine.update p.context (p.piece written n) with
        | error f => exact ⟨[], _, p, rfl, .done, .updateFails hn hu⟩
        | ok context =>
          obtain ⟨row, later, q, rfl, hrow, hstop⟩ := ih ⟨context, _, p.total + n⟩
          exact ⟨_ :: row, later, q, rfl, .turn hn hu hrow, hstop⟩
    · exact ⟨[], _, p, rfl, .done, .readFails⟩

end DigestRecord
