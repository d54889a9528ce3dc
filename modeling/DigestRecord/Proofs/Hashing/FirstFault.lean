import DigestRecord.Proofs.Hashing.Notices

/-!
# The first fault

A run goes through its steps in a fixed order: it opens the file, starts a context, reads and updates
in turns, finishes the context, and closes the file. Each step may meet a fault, and then the steps
after it are not taken, but for the close.

`FirstFault` says which step is the first to meet one, in terms of the source and the engine alone.
`Step.failure` is the table of what a fault comes to in a step: whether it is reported or goes through,
and how it is reported. The two are put together here.

What holds of the close does not fit this order. It is taken whatever happened before, and its fault
takes the place of an earlier one. So the main result keeps to runs whose close goes well if another
step did not.

## Main results

* `FirstFault.result_hashFile` — a run comes to what its first fault comes to
* `exists_firstFault_or_undisturbed` — every run meets a first fault, or none at all
* `hashFile_decided_by_firstFault` — both, for verbose runs as well
-/

namespace DigestRecord

/-! ## Steps -/

/-- The steps of a run. -/
inductive Step where
  | opening
  | starting
  | reading
  | updating
  | finishing
  | closing
  deriving DecidableEq

namespace Step

/-- What has failed if a step fails. -/
def category : Step → Category
  | .opening | .reading | .closing => .io
  | .starting | .updating | .finishing => .hashing

/-- What the details of an error say before the text of the fault. -/
def lead : Step → String
  | .opening | .reading | .closing => ""
  | .starting => "init failed: "
  | .updating => "update failed: "
  | .finishing => "finalize failed: "

/-- Whether a fault in a step is reported. What a file has to do with is reported only if it comes from
the system, or from a path that is none. Of the primitive everything is reported but an interrupt. -/
def isReported : Step → Fault → Bool
  | .opening, .system _ _ | .opening, .value _ => true
  | .reading, .system _ _ | .closing, .system _ _ => true
  | .opening, _ | .reading, _ | .closing, _ => false
  | _, .interrupt _ => false
  | _, _ => true

/-- The error that reports a fault in a step. -/
def error (s : Step) (path : String) (f : Fault) : HashError :=
  ⟨s.category, path, s.lead ++ f.text, some f⟩

/-- What a fault in a step comes to: it is reported, or it goes through as it is. -/
def failure (s : Step) (path : String) (f : Fault) : HashFailure :=
  if s.isReported f then .reported (s.error path f) else .escaped f

/-- Whether the file is open in a step, so that it is closed afterwards. -/
def isInner : Step → Bool
  | .opening | .closing => false
  | .starting | .reading | .updating | .finishing => true

end Step

variable {σ : Type} {verbose : Bool} {engine : Engine σ} {path : String}

/-! ## What each step comes to -/

namespace Step

/-- Why a run ends if a fault in a step is reported. -/
def reason : Step → Fault → Reason
  | .opening => .cannotOpen
  | .starting => .cannotStart
  | .reading => .cannotRead
  | .updating => .cannotUpdate
  | .finishing => .cannotFinish
  | .closing => .cannotClose

theorem lead_append_text (s : Step) (f : Fault) : s.lead ++ f.text = (s.reason f).detail := by
  cases s with
  | opening | reading | closing => exact String.empty_append
  | starting | updating | finishing => rfl

theorem error_eq (s : Step) (path : String) (f : Fault) :
    s.error path f = (s.reason f).error path := by
  rw [error, lead_append_text]
  cases s <;> rfl

theorem failure_eq (s : Step) (path : String) (f : Fault) :
    s.failure path f = if s.isReported f then (s.reason f).failure path else .escaped f := by
  rw [failure, error_eq, Reason.failure]

theorem isReported_opening (f : Fault) : Step.opening.isReported f = f.isRefusal := by
  cases f <;> rfl

theorem isReported_of_io {s : Step} (h : s = .reading ∨ s = .closing) (f : Fault) :
    s.isReported f = f.isSystem := by
  rcases h with rfl | rfl <;> cases f <;> rfl

theorem isReported_of_hashing {s : Step} (h : s.category = .hashing) (f : Fault) :
    s.isReported f = !f.isInterrupt := by
  cases s <;> cases f <;> first | rfl | cases h

end Step

theorem result_refuse (path : String) (f : Fault) :
    (refuse path f).result = .error (Step.opening.failure path f) := by
  rw [refuse, Step.failure_eq, Step.isReported_opening]
  split <;> rfl

theorem result_startFailure (path : String) (f : Fault) :
    (startFailure path f).result = .error (Step.starting.failure path f) := by
  rw [startFailure, Step.failure_eq, Step.isReported_of_hashing rfl]
  cases h : f.isInterrupt <;> simp [Step.reason]

theorem readFailure_eq_failure (p : Progress σ) (path : String) (f : Fault) :
    (p.readFailure false path f).1 = .error (Step.reading.failure path f) := by
  rw [Progress.readFailure, Step.failure_eq, Step.isReported_of_io (.inl rfl)]
  split <;> rfl

theorem updateFailure_eq_failure (path : String) (f : Fault) :
    (updateFailure path f).1 = .error (Step.updating.failure path f) := by
  rw [updateFailure, Step.failure_eq, Step.isReported_of_hashing rfl]
  cases h : f.isInterrupt <;> simp [Step.reason]

theorem Progress.result_finish_of_error {p : Progress σ} {f : Fault}
    (h : engine.finish p.context = .error f) :
    (p.finish engine path).result = .error (Step.finishing.failure path f) := by
  rw [Progress.finish, h, Step.failure_eq, Step.isReported_of_hashing rfl]
  cases hint : f.isInterrupt <;> simp [hint, Step.reason]

theorem result_closeAfter_of_fault (verbose : Bool) (path : String) (run : Traced Ending)
    (g : Fault) :
    (closeAfter verbose path run (some g)).result = .error (Step.closing.failure path g) := by
  rw [closeAfter, Step.failure_eq, Step.isReported_of_io (.inr rfl)]
  cases g.isSystem <;> simp [Step.reason]

theorem result_closeAfter_none (path : String) (run : Traced Ending) :
    (closeAfter false path run none).result = conclude path run.result := by
  rw [closeAfter]
  cases conclude path run.result <;> rfl

/-- A fault of the close decides, whatever came before it. -/
theorem result_hashFile_of_closeFault (reads : List Read) (g : Fault) :
    (hashFile verbose engine ⟨none, reads, some g⟩ path).result =
      .error (Step.closing.failure path g) := result_closeAfter_of_fault verbose path _ g

theorem result_hashFile_none (reads : List Read) :
    (hashFile false engine ⟨none, reads, none⟩ path).result =
      conclude path (digestReads false engine path reads).result := result_closeAfter_none path _

/-! ## The first fault -/

/-- The first step of a run that meets a fault, and the fault. All steps before it go well. What the
source and the engine hold for later steps is left open. -/
inductive FirstFault (engine : Engine σ) : Source → Step → Fault → Prop
  | opening {f : Fault} {reads : List Read} {closeFault : Option Fault} :
      FirstFault engine ⟨some f, reads, closeFault⟩ .opening f
  | starting {f : Fault} {reads : List Read} {closeFault : Option Fault}
      (refused : engine.start = .error f) :
      FirstFault engine ⟨none, reads, closeFault⟩ .starting f
  | reading {context : σ} {row later : List Read} {q : Progress σ} {f : Fault}
      {closeFault : Option Fault} (started : engine.start = .ok context)
      (turns : Turns engine (.start context) row q) :
      FirstFault engine ⟨none, row ++ .failed f :: later, closeFault⟩ .reading f
  | updating {context : σ} {row later : List Read} {q : Progress σ} {written : List UInt8} {n : Int}
      {f : Fault} {closeFault : Option Fault} (started : engine.start = .ok context)
      (turns : Turns engine (.start context) row q) (number : n ≠ 0)
      (refused : engine.update q.context (q.piece written n) = .error f) :
      FirstFault engine ⟨none, row ++ .delivered written (some n) :: later, closeFault⟩ .updating f
  | finishing {context : σ} {row later : List Read} {q : Progress σ} {reported : Option Int}
      {f : Fault} {closeFault : Option Fault} (started : engine.start = .ok context)
      (turns : Turns engine (.start context) row q) (ends : FindsEnd later reported)
      (refused : engine.finish q.context = .error f) :
      FirstFault engine ⟨none, row ++ later, closeFault⟩ .finishing f
  | closing {reads : List Read} {digest : Option (List UInt8)} {total : Int} {f : Fault}
      (finishes : Finishes engine reads digest total) :
      FirstFault engine ⟨none, reads, some f⟩ .closing f

/-- No step of a run meets a fault. -/
structure Undisturbed (engine : Engine σ) (source : Source) (digest : Option (List UInt8))
    (total : Int) : Prop where
  opens : source.openFault = none
  finishes : Finishes engine source.reads digest total
  closes : source.closeFault = none

/-- A fault between opening and closing ends the reads. -/
theorem FirstFault.result_digestReads {source : Source} {step : Step} {f : Fault}
    (h : FirstFault engine source step f) (hinner : step.isInner = true) (path : String) :
    (digestReads false engine path source.reads).result = .error (step.failure path f) := by
  cases h with
  | opening => cases hinner
  | closing _ => cases hinner
  | starting refused =>
    rw [digestReads, refused]
    exact result_startFailure path f
  | @reading context row later q _ _ started turns =>
    rw [digestReads_of_start started, stream_turns turns, stream_failed]
    exact readFailure_eq_failure q path f
  | updating started turns number refused =>
    rw [digestReads_of_start started, stream_turns turns, stream_of_update_error number refused]
    exact updateFailure_eq_failure path f
  | finishing started turns ends refused =>
    rw [digestReads_of_start started, stream_turns turns, stream_of_findsEnd ends]
    exact Progress.result_finish_of_error refused

/-- Between opening and closing, a fault is the first one whatever the close does. -/
theorem FirstFault.closeFault {reads : List Read} {closeFault : Option Fault} {step : Step}
    {f : Fault} (h : FirstFault engine ⟨none, reads, closeFault⟩ step f)
    (hinner : step.isInner = true) (other : Option Fault) :
    FirstFault engine ⟨none, reads, other⟩ step f := by
  cases h with
  | closing _ => cases hinner
  | starting refused => exact .starting refused
  | reading started turns => exact .reading started turns
  | updating started turns number refused => exact .updating started turns number refused
  | finishing started turns ends refused => exact .finishing started turns ends refused

/-- **A run comes to what its first fault comes to**, unless the close covers it up. -/
theorem FirstFault.result_hashFile {source : Source} {step : Step} {f : Fault}
    (h : FirstFault engine source step f)
    (hclose : step.isInner = true → source.closeFault = none) (path : String) :
    (hashFile false engine source path).result = .error (step.failure path f) := by
  cases hinner : step.isInner with
  | true =>
    have hrun := h.result_digestReads hinner path
    have hsource : source = ⟨none, source.reads, none⟩ := by
      rcases source with ⟨openFault, reads, closeFault⟩
      obtain rfl : closeFault = none := hclose hinner
      cases h <;> first | rfl | cases hinner
    rw [hsource, result_hashFile_none, hrun]
    rfl
  | false =>
    cases h with
    | opening => exact result_refuse path f
    | closing _ => exact result_hashFile_of_closeFault _ f
    | _ => cases hinner

theorem Undisturbed.result_hashFile {source : Source} {digest : Option (List UInt8)} {total : Int}
    (h : Undisturbed engine source digest total) :
    (hashFile false engine source path).result = conclude path (.ok (digest, total)) := by
  obtain ⟨hopens, hfinishes, hcloses⟩ := h
  rw [← hfinishes.result_digestReads false path, hashFile, hopens, hcloses]
  exact result_closeAfter_none path _

theorem announce_eq_ok_iff {α : Type} {verbose : Bool} {notice : Notice}
    {outcome : Except HashFailure α} {a : α} : (announce verbose notice outcome).1 = .ok a ↔
      outcome = .ok a ∧ (verbose = true → notice.isWritable = true) := by
  cases verbose with
  | false => simp [announce]
  | true => cases h : notice.isWritable <;> simp [announce, h]

/-- After a close that goes well there is the file digest of the ending, unless a verbose run cannot put
its count into words. -/
theorem result_closeAfter_none_eq_ok_iff {run : Traced Ending} {d : FileDigest} :
    (closeAfter verbose path run none).result = .ok d ↔
      conclude path run.result = .ok d ∧
        (verbose = true → Decimal.isWritable d.byteCount = true) := by
  rw [closeAfter]
  cases hconclude : conclude path run.result with
  | error failure => simp
  | ok found =>
    show (announce verbose (.hashed path found.byteCount) (.ok found)).1 = .ok d ↔ _
    rw [announce_eq_ok_iff, Except.ok.injEq, and_congr_right_iff]
    rintro rfl
    rfl

/-- A file digest comes only from a run without a fault, from a digest of the right length, and if the
run is verbose, with a count that can be put into words. -/
theorem result_hashFile_eq_ok_iff {source : Source} {d : FileDigest} :
    (hashFile verbose engine source path).result = .ok d ↔
      Undisturbed engine source (some d.digest) d.byteCount ∧
        d.digest.length = Sha256.digestSize ∧
        (verbose = true → Decimal.isWritable d.byteCount = true) := by
  constructor
  · intro h
    rcases source with ⟨_ | f, reads, _ | g⟩
    · obtain ⟨hconclude, hsaid⟩ := result_closeAfter_none_eq_ok_iff.mp h
      obtain ⟨hending, hlength⟩ := conclude_eq_ok_iff.mp hconclude
      exact ⟨⟨rfl, result_digestReads_eq_ok_iff.mp hending, rfl⟩, hlength, hsaid⟩
    · rw [result_hashFile_of_closeFault] at h
      cases h
    · exact absurd ((result_refuse path f).symm.trans h) (by simp)
    · exact absurd ((result_refuse path f).symm.trans h) (by simp)
  · rintro ⟨⟨hopens, hfinishes, hcloses⟩, hlength, hsaid⟩
    have hending := hfinishes.result_digestReads verbose path
    rw [hashFile, hopens, hcloses]
    exact result_closeAfter_none_eq_ok_iff.mpr ⟨conclude_eq_ok_iff.mpr ⟨hending, hlength⟩, hsaid⟩

/-- **Every run meets a first fault, or none at all.** -/
theorem exists_firstFault_or_undisturbed (engine : Engine σ) (source : Source) :
    (∃ step f, FirstFault engine source step f) ∨
      ∃ digest total, Undisturbed engine source digest total := by
  rcases source with ⟨_ | f, reads, closeFault⟩
  · cases hstart : engine.start with
    | error f => exact .inl ⟨.starting, f, .starting hstart⟩
    | ok context =>
      obtain ⟨row, later, q, rfl, hrow, hstop⟩ := exists_turns engine (.start context) reads
      cases hstop with
      | readFails => exact .inl ⟨.reading, _, .reading hstart hrow⟩
      | updateFails hn hu => exact .inl ⟨.updating, _, .updating hstart hrow hn hu⟩
      | findsEnd hends =>
        cases hfinish : engine.finish q.context with
        | error f => exact .inl ⟨.finishing, f, .finishing hstart hrow hends hfinish⟩
        | ok digest =>
          have hfinishes : Finishes engine (row ++ later) digest q.total :=
            .mk hstart hrow hends hfinish
          rcases closeFault with _ | g
          · exact .inr ⟨digest, q.total, rfl, hfinishes, rfl⟩
          · exact .inl ⟨.closing, g, .closing hfinishes⟩
  · exact .inl ⟨.opening, f, .opening⟩

/-- A run that meets a fault is not one that meets none. -/
theorem FirstFault.not_undisturbed {source : Source} {step : Step} {f : Fault}
    (h : FirstFault engine source step f) {digest : Option (List UInt8)} {total : Int} :
    ¬ Undisturbed engine source digest total := by
  rintro ⟨hopens, hfinishes, hcloses⟩
  cases hinner : step.isInner with
  | true =>
    have hresult := h.result_digestReads hinner ""
    rw [hfinishes.result_digestReads false ""] at hresult
    cases hresult
  | false =>
    cases h with
    | opening => cases hopens
    | closing _ => cases hcloses
    | _ => cases hinner

theorem conclude_some (path : String) (digest : List UInt8) (total : Int) :
    conclude path (.ok (some digest, total)) =
      if digest.length = 32 then .ok ⟨digest, total⟩
      else .error (.reported ⟨.hashing, path,
        "unexpected digest length " ++ String.ofList (Decimal.ofNat digest.length), none⟩) := by
  rw [conclude, Sha256.digestSize]
  by_cases h : digest.length = 32
  · rw [if_pos h, if_neg (not_not_intro h)]
  · rw [if_neg h, if_pos h]
    rfl

/-- **The first fault decides**, and what comes after it has no influence: another run with the same
first fault comes to the same, whatever else its engine and its source hold. Where there is no fault
the length of the digest decides. There is no third case.

The hypotheses leave out the runs whose close fails as a second step, and a primitive that finishes
with nothing. A verbose run has to be able to put its notices into words. -/
theorem hashFile_decided_by_firstFault (verbose : Bool) (engine : Engine σ) (source : Source)
    (path : String)
    (hclose : ∀ step f, FirstFault engine source step f → step.isInner = true →
      source.closeFault = none)
    (hdigest : ∀ digest total, Finishes engine source.reads digest total → digest ≠ none)
    (hsaid : verbose = true → (hashFile false engine source path).IsWritable) :
    let run := hashFile verbose engine source path
    (∀ step f, FirstFault engine source step f → run.result = .error (step.failure path f) ∧
      ∀ (other : Engine σ) (later : Source), FirstFault other later step f →
        (step.isInner = true → later.closeFault = none) →
        (hashFile false other later path).result = run.result) ∧
      (∀ digest total, Undisturbed engine source (some digest) total →
        run.result =
          if digest.length = 32 then .ok ⟨digest, total⟩
          else .error (.reported ⟨.hashing, path,
            "unexpected digest length " ++ String.ofList (Decimal.ofNat digest.length), none⟩)) ∧
      ((∃ step f, FirstFault engine source step f) ∨
        ∃ digest total, Undisturbed engine source (some digest) total) := by
  intro run
  have hrun : run = hashFile false engine source path := hashFile_eq_quiet hsaid
  rw [hrun]
  refine ⟨fun step f h => ?_, fun digest total h => ?_, ?_⟩
  · have hresult := h.result_hashFile (hclose step f h) path
    refine ⟨hresult, fun other later hlater hsound => ?_⟩
    rw [hlater.result_hashFile hsound path, hresult]
  · rw [h.result_hashFile, conclude_some]
  · rcases exists_firstFault_or_undisturbed engine source with h | ⟨_ | digest, total, h⟩
    · exact .inl h
    · exact absurd rfl (hdigest _ _ h.finishes)
    · exact .inr ⟨digest, total, h⟩

/-- The second update fails, in a verbose run. The read after it and the finish would fail as well. -/
theorem hashFile_decided_by_second_update :
    let fault : Fault := .system (some 5) "boom"
    let engine := EngineScript.engine ⟨none, some (2, fault), some (.interrupt "stop"), .digest⟩
    let source : Source := ⟨none, [.delivered [97] (some 1), .delivered [98] (some 1),
      .failed (.runtime "late")], none⟩
    FirstFault engine source .updating fault ∧
      (hashFile true engine source "f").result = .error (.reported
        ⟨.hashing, "f", "update failed: " ++ fault.text, some fault⟩) := by
  intro fault engine source
  have hturns : Turns engine (.start ⟨1, .start⟩) [.delivered [97] (some 1)] _ :=
    .turn (by decide) rfl .done
  have hfirst : FirstFault engine source .updating fault :=
    .updating rfl hturns (by decide) rfl
  have hdigest : ∀ reads digest total, Finishes engine reads digest total → digest ≠ none := by
    rintro _ _ _ ⟨_, _, _, hfinish⟩
    cases hfinish
  have hlog : (hashFile false engine source "f").log = [.updateFailed "f" fault] := rfl
  have hsaid : (hashFile false engine source "f").IsWritable := by
    rw [Traced.IsWritable, hlog]
    simp [Notice.isWritable]
  have hdecided := (hashFile_decided_by_firstFault true engine source "f" (fun _ _ _ _ => rfl)
    (hdigest _) (fun _ => hsaid)).1 .updating fault hfirst
  exact ⟨hfirst, hdecided.1⟩

end DigestRecord
