import DigestRecord.Proofs.Hashing.Turns

/-!
# The order of events

What a run does to the file and to the primitive, in which order. `AfterStart` is the whole protocol
from the start of the context on, as a language of events: turns of a read and an update, then at
most one more read, then at most one finish, and the close as the last event. It says nothing of the
engine.

That a fault ends the turns shows in the events only for a read. For the other steps the engine has
to be asked, and so `hashFile_obeys_protocol` says beside the language where in the row of turns a
run stops, and with which events.

## Main results

* `stream_afterStart` — the events of a stream and the close after them belong to the language
* `events_hashFile_of_turns` — which events there are, by what comes after a row of turns
* `hashFile_obeys_protocol` — both, and what a file digest says of the events
-/

namespace DigestRecord

variable {σ : Type} {verbose : Bool} {engine : Engine σ} {path : String}

/-- The events from the start of a context on. -/
inductive AfterStart : List Event → Prop
  | close : AfterStart [.closing]
  | turn {n : Int} {size : Nat} {events : List Event} (number : n ≠ 0) (rest : AfterStart events) :
      AfterStart (.reading bufferSize (.reported (some n)) :: .updating size :: events)
  | readFails : AfterStart [.reading bufferSize .failed, .closing]
  | finish {reported : Option Int} (ends : reported = none ∨ reported = some 0) :
      AfterStart [.reading bufferSize (.reported reported), .finishing, .closing]

/-! ## Streams -/

theorem FindsEnd.reported_eq {reads : List Read} {reported : Option Int}
    (h : FindsEnd reads reported) : reported = none ∨ reported = some 0 := by
  cases h with
  | exhausted => exact .inr rfl
  | zero => exact .inr rfl
  | nothing => exact .inl rfl

theorem Progress.events_finish (engine : Engine σ) (path : String) (p : Progress σ) :
    (p.finish engine path).events = [.finishing] := by
  rw [Progress.finish]
  cases engine.finish p.context with
  | ok digest => rfl
  | error f => cases h : f.isInterrupt <;> simp [h]

theorem rowEvents_turn (written : List UInt8) (n : Int) (row : List Read) :
    rowEvents (.delivered written (some n) :: row) =
      .reading bufferSize (.reported (some n)) :: .updating (Buffer.sliceSize n) ::
        rowEvents row := rfl

/-- A row of turns may stand in front of anything that the language holds. -/
theorem Turns.afterStart {p q : Progress σ} {row : List Read} (h : Turns engine p row q)
    {events : List Event} (hevents : AfterStart events) : AfterStart (rowEvents row ++ events) := by
  induction h with
  | done => exact hevents
  | turn hn _ _ ih =>
    rw [rowEvents_turn]
    exact .turn hn ih

/-- **A stream keeps to the language.** -/
theorem stream_afterStart (p : Progress σ) (reads : List Read) :
    AfterStart ((stream verbose engine path p reads).events ++ [.closing]) := by
  obtain ⟨row, later, q, rfl, hrow, hstop⟩ := exists_turns engine p reads
  rw [stream_turns hrow]
  rw [List.append_assoc]
  refine hrow.afterStart ?_
  cases hstop with
  | findsEnd h =>
    rw [stream_of_findsEnd h, Progress.events_finish]
    exact .finish h.reported_eq
  | readFails =>
    rw [stream_failed]
    exact .readFails
  | updateFails hn hu =>
    rw [stream_of_update_error hn hu]
    exact .turn hn .close

/-- A stream that ends with a digest has finished the context. -/
theorem finishing_mem_stream {p : Progress σ} {reads : List Read}
    {ending : Option (List UInt8) × Int}
    (h : (stream verbose engine path p reads).result = .ok ending) :
    .finishing ∈ (stream verbose engine path p reads).events := by
  obtain ⟨row, later, q, rfl, hrow, hstop⟩ := exists_turns engine p reads
  rw [stream_turns hrow] at h ⊢
  cases hstop with
  | findsEnd hfinds =>
    rw [stream_of_findsEnd hfinds, Progress.events_finish]
    simp
  | @readFails f later =>
    obtain ⟨failure, hf⟩ := q.readFailure_isError verbose path f
    rw [stream_failed] at h
    exact absurd (hf.symm.trans h) (by simp)
  | @updateFails written n later f hn hu =>
    obtain ⟨failure, hf⟩ := updateFailure_isError path f
    rw [stream_of_update_error hn hu] at h
    exact absurd (hf.symm.trans h) (by simp)

/-! ## Whole runs -/

theorem events_refuse (path : String) (f : Fault) : (refuse path f).events = [.opening path] := by
  cases h : f.isRefusal <;> simp [refuse, h]

theorem events_closeAfter (verbose : Bool) (path : String) (run : Traced Ending)
    (closeFault : Option Fault) :
    (closeAfter verbose path run closeFault).events =
      .opening path :: (run.events ++ [.closing]) := by
  rcases closeFault with _ | f
  · rw [closeAfter]
    cases conclude path run.result <;> rfl
  · cases h : f.isSystem <;> simp [closeAfter, h]

theorem events_startFailure (path : String) (f : Fault) :
    (startFailure path f).events = [.starting] := by
  cases h : f.isInterrupt <;> simp [startFailure, h]

/-- The events of a run whose file could be opened. -/
theorem events_hashFile (reads : List Read) (closeFault : Option Fault) :
    (hashFile verbose engine ⟨none, reads, closeFault⟩ path).events =
      .opening path :: ((digestReads verbose engine path reads).events ++ [.closing]) :=
  events_closeAfter verbose path _ closeFault

theorem events_digestReads_of_error {f : Fault} (h : engine.start = .error f) (reads : List Read) :
    (digestReads verbose engine path reads).events = [.starting] := by
  rw [digestReads, h]
  exact events_startFailure path f

theorem events_digestReads_of_ok {context : σ} (h : engine.start = .ok context)
    (reads : List Read) :
    (digestReads verbose engine path reads).events =
      .starting :: (stream verbose engine path (.start context) reads).events := by
  rw [digestReads, h]

theorem digestReads_afterStart (reads : List Read) :
    ∃ later, (digestReads verbose engine path reads).events ++ [.closing] = .starting :: later ∧
      AfterStart later := by
  cases h : engine.start with
  | error f =>
    rw [events_digestReads_of_error h]
    exact ⟨_, rfl, .close⟩
  | ok context =>
    rw [events_digestReads_of_ok h]
    exact ⟨_, rfl, stream_afterStart _ reads⟩

/-- **What comes after a row of turns decides the events.** A read or an update that fails, and a
finish that fails or not, is the last event before the close. -/
theorem events_hashFile_of_turns {context : σ} (hstart : engine.start = .ok context)
    {q : Progress σ} {row : List Read} (hrow : Turns engine (.start context) row q)
    (later : List Read) (closeFault : Option Fault) :
    (hashFile verbose engine ⟨none, row ++ later, closeFault⟩ path).events =
      .opening path :: .starting ::
        (rowEvents row ++ ((stream verbose engine path q later).events ++ [.closing])) := by
  rw [events_hashFile, events_digestReads_of_ok hstart, stream_turns hrow]
  simp

theorem finishing_mem_hashFile {source : Source} {d : FileDigest}
    (h : (hashFile verbose engine source path).result = .ok d) :
    .finishing ∈ (hashFile verbose engine source path).events ∧
      .closing ∈ (hashFile verbose engine source path).events := by
  rcases source with ⟨_ | f, reads, closeFault⟩
  · rw [events_hashFile]
    have hrun : ∃ ending, (digestReads verbose engine path reads).result = .ok ending := by
      cases hresult : (digestReads verbose engine path reads).result with
      | ok ending => exact ⟨ending, rfl⟩
      | error failure =>
        rcases closeFault with _ | f
        · simp [hashFile, closeAfter, conclude, hresult] at h
        · cases hsys : f.isSystem <;> simp [hashFile, closeAfter, hsys] at h
    obtain ⟨ending, hending⟩ := hrun
    cases hstart : engine.start with
    | error f =>
      cases hint : f.isInterrupt <;> simp [digestReads, startFailure, hstart, hint] at hending
    | ok context =>
      rw [digestReads, hstart] at hending
      rw [events_digestReads_of_ok hstart]
      have := finishing_mem_stream hending
      simp [this]
  · cases hrefusal : f.isRefusal <;> simp [hashFile, refuse, hrefusal] at h

/-- **Every run obeys the protocol**, whatever the engine, the reads and the faults are.

A file that cannot be opened is only opened. Otherwise the start of the context follows, and then a
sequence of the language `AfterStart`. The next four clauses say where a run stops: at a context
that cannot be started, and after any row of turns at a read that fails, an update that fails, or
the end of the file. The last event is the close each time, and it comes next after the step that
failed. A run that yields a file digest has finished the context and closed the file. -/
theorem hashFile_obeys_protocol (verbose : Bool) (engine : Engine σ) (source : Source)
    (path : String) :
    let run := hashFile verbose engine source path
    (source.openFault ≠ none → run.events = [.opening path]) ∧
      (source.openFault = none →
        (∃ later, run.events = .opening path :: .starting :: later ∧ AfterStart later) ∧
        (∀ f, engine.start = .error f → run.events = [.opening path, .starting, .closing]) ∧
        ∀ context row later q, engine.start = .ok context →
          Turns engine (.start context) row q → source.reads = row ++ later →
          (∀ f rest, later = .failed f :: rest →
            run.events = .opening path :: .starting ::
              (rowEvents row ++ [.reading bufferSize .failed, .closing])) ∧
          (∀ written n rest f, later = .delivered written (some n) :: rest → n ≠ 0 →
            engine.update q.context (q.piece written n) = .error f →
            run.events = .opening path :: .starting ::
              (rowEvents row ++ [.reading bufferSize (.reported (some n)),
                .updating (q.piece written n).length, .closing])) ∧
          ∀ reported, FindsEnd later reported →
            run.events = .opening path :: .starting ::
              (rowEvents row ++ [.reading bufferSize (.reported reported), .finishing, .closing])) ∧
      ∀ d, run.result = .ok d → .finishing ∈ run.events ∧ .closing ∈ run.events := by
  intro run
  refine ⟨?_, ?_, fun d hd => finishing_mem_hashFile hd⟩
  · rcases source with ⟨_ | f, reads, closeFault⟩
    · intro h
      exact absurd rfl h
    · intro _
      exact events_refuse path f
  · rcases source with ⟨openFault, reads, closeFault⟩
    rintro rfl
    have hevents : run.events = _ := events_hashFile reads closeFault
    refine ⟨?_, ?_, ?_⟩
    · obtain ⟨later, hlater, hafter⟩ := digestReads_afterStart reads
      exact ⟨later, by rw [hevents, hlater], hafter⟩
    · intro f hf
      rw [hevents, events_digestReads_of_error hf]
      rfl
    · rintro context row later q hstart hrow rfl
      have hrun : run.events = _ := events_hashFile_of_turns hstart hrow later closeFault
      refine ⟨?_, ?_, ?_⟩
      · rintro f rest rfl
        rw [hrun, stream_failed]
        rfl
      · rintro written n rest f rfl hn hu
        rw [hrun, stream_of_update_error hn hu, Progress.piece, Buffer.length_slice]
        rfl
      · intro reported hfinds
        rw [hrun, stream_of_findsEnd hfinds, Progress.events_finish]
        rfl

end DigestRecord
