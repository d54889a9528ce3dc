import DigestRecord.Proofs.CommandLine.Libraries
import DigestRecord.Proofs.Hashing.FirstFault
import DigestRecord.Proofs.Hashing.Protocol

/-!
# Faults of closing

A file that could be opened is closed whatever happened to it, and closing it may fail as well. Then
there are two faults, and the later one is what the run comes to. The earlier one is left to the log.

So the first error that a run encounters is what it reports only as long as the close goes well. This
is at odds with the rule that no error is ever masked, and a caller may see it: a primitive that fails
on a file that cannot be closed shows as a failure of the file.

## Main results

* `closeFault_replaces_failure` — two runs that differ only in the close, after an earlier failure
-/

namespace DigestRecord

variable {σ : Type} {verbose : Bool} {engine : Engine σ} {path : String}

/-- Where neither opening nor closing fails, a fault is met between them. -/
theorem FirstFault.isInner {reads : List Read} {step : Step} {f : Fault}
    (h : FirstFault engine ⟨none, reads, none⟩ step f) : step.isInner = true := by
  cases h <;> rfl

/-- A fault between opening and closing ends the reads of a verbose run as well. -/
theorem FirstFault.exists_error {source : Source} {step : Step} {f : Fault}
    (h : FirstFault engine source step f) (hinner : step.isInner = true) (verbose : Bool)
    (path : String) :
    ∃ failure, (digestReads verbose engine path source.reads).result = .error failure := by
  cases hresult : (digestReads verbose engine path source.reads).result with
  | error failure => exact ⟨failure, rfl⟩
  | ok ending =>
    have hquiet : (digestReads false engine path source.reads).result = .ok ending :=
      (result_digestReads_eq_ok_iff.mp hresult).result_digestReads false path
    rw [h.result_digestReads hinner] at hquiet
    cases hquiet

theorem Step.eq_reading_of_category {step : Step} (hinner : step.isInner = true)
    (h : step.category = .io) : step = .reading := by
  cases step with
  | reading => rfl
  | opening | closing => cases hinner
  | starting | updating | finishing => cases h

/-- The error of a fault of closing is that of an earlier step only if that step is a read, and the
fault is the same. -/
theorem Step.failure_closing_eq_iff {step : Step} (hinner : step.isInner = true) {f : Fault}
    (hreported : step.isReported f = true) (path : String) (g : Fault) :
    Step.closing.failure path g = .reported (step.error path f) ↔ step = .reading ∧ g = f := by
  constructor
  · intro h
    rw [Step.failure] at h
    split at h
    · have herror : Step.closing.error path g = step.error path f := HashFailure.reported.inj h
      have hcategory : Category.io = step.category := congrArg HashError.category herror
      have hcause : some g = some f := congrArg HashError.cause herror
      exact ⟨step.eq_reading_of_category hinner hcategory.symm, Option.some.inj hcause⟩
    · cases h
  · rintro ⟨rfl, rfl⟩
    have hclosing : Step.closing.isReported g = true := by
      rw [Step.isReported_of_io (.inr rfl), ← Step.isReported_of_io (.inl rfl)]
      exact hreported
    rw [Step.failure, if_pos hclosing]
    rfl

theorem log_closeAfter_of_fault (verbose : Bool) (path : String) (run : Traced Ending) (g : Fault) :
    (closeAfter verbose path run (some g)).log =
      run.log ++ if Step.closing.isReported g then [.closeFailed path g] else [] := by
  rw [closeAfter, Step.isReported_of_io (.inr rfl)]
  cases g.isSystem <;> simp

theorem log_closeAfter_of_error {run : Traced Ending} {failure : HashFailure}
    (h : run.result = .error failure) : (closeAfter verbose path run none).log = run.log := by
  rw [closeAfter, h]
  rfl

section

variable {ε : Type} {lib : CommandLine.Libraries ε}

theorem status_reported (e : HashError) :
    (CommandLine.exitOf lib (.error (.reported e))).status = e.category.kind.status := rfl

theorem status_closing (habort : lib.AbortsQuietly) (path : String) (g : Fault) :
    (CommandLine.exitOf lib (.error (Step.closing.failure path g))).status =
      if Step.closing.isReported g then 2 else 1 := by
  rw [Step.failure]
  split
  · rfl
  · rw [CommandLine.exitOf]
    split
    · exact habort.status
    · rfl

end

/-- **A fault of closing takes the place of an earlier failure.** Of two runs that differ only in the
close, the one whose close goes well reports the first error. The other one comes to the fault of the
close. It has the same events, and its log has both failures if the later one is reported.

The outcome is the same only if a read and the close meet the same fault. In particular, a failure of
the primitive has exit status 3 in the first run and never in the second, whatever libraries the program
runs with. -/
theorem closeFault_replaces_failure (verbose : Bool) (path : String) {reads : List Read}
    {step : Step} {f : Fault} (hfirst : FirstFault engine ⟨none, reads, none⟩ step f)
    (hreported : step.isReported f = true)
    (hsaid : verbose = true → (hashFile false engine ⟨none, reads, none⟩ path).IsWritable)
    (g : Fault) :
    let run closeFault := hashFile verbose engine ⟨none, reads, closeFault⟩ path
    (run none).result = .error (.reported (step.error path f)) ∧
      (run (some g)).result = .error (Step.closing.failure path g) ∧
      ((run (some g)).result = (run none).result ↔ step = .reading ∧ g = f) ∧
      (run (some g)).events = (run none).events ∧
      (run (some g)).log =
        (run none).log ++ (if Step.closing.isReported g then [.closeFailed path g] else []) ∧
      ∀ {ε : Type} (lib : CommandLine.Libraries ε), lib.AbortsQuietly →
        let status (report : Report) := (CommandLine.exitOf lib report.result).status
        step.category = .hashing → status (run none) = 3 ∧
          status (run (some g)) = if Step.closing.isReported g then 2 else 1 := by
  intro run
  have hnone : (run none).result = .error (.reported (step.error path f)) := by
    have hresult := hfirst.result_hashFile (fun _ => rfl) path
    rw [Step.failure, if_pos hreported, ← hashFile_eq_quiet hsaid] at hresult
    exact hresult
  have hsome : (run (some g)).result = .error (Step.closing.failure path g) :=
    result_hashFile_of_closeFault reads g
  refine ⟨hnone, hsome, ?_, ?_, ?_, ?_⟩
  · rw [hnone, hsome, Except.error.injEq]
    exact Step.failure_closing_eq_iff hfirst.isInner hreported path g
  · exact (events_hashFile reads (some g)).trans (events_hashFile reads none).symm
  · obtain ⟨failure, hfailure⟩ := hfirst.exists_error hfirst.isInner verbose path
    have hlog : (run none).log = (digestReads verbose engine path reads).log :=
      log_closeAfter_of_error hfailure
    rw [hlog]
    exact log_closeAfter_of_fault verbose path _ g
  · intro ε lib habort status hcategory
    constructor
    · show (CommandLine.exitOf lib (run none).result).status = 3
      rw [hnone, status_reported, Step.error, hcategory]
      rfl
    · show (CommandLine.exitOf lib (run (some g)).result).status = _
      rw [hsome, status_closing habort]

/-- A primitive that cannot be started, and a file that cannot be closed. -/
theorem closeFault_replaces_failed_start :
    let engine := EngineScript.engine ⟨some (.value "boom"), none, none, .digest⟩
    let run closeFault := hashFile true engine ⟨none, [], closeFault⟩ "f"
    let status (report : Report) := (CommandLine.exitOf StandIns.libraries report.result).status
    FirstFault engine ⟨none, [], none⟩ .starting (.value "boom") ∧
      (run none).result = .error (.reported (Step.starting.error "f" (.value "boom"))) ∧
      (run (some (.system none "late"))).result =
        .error (Step.closing.failure "f" (.system none "late")) ∧
      status (run none) = 3 ∧ status (run (some (.system none "late"))) = 2 := by
  intro engine run status
  have hfirst : FirstFault engine ⟨none, [], none⟩ .starting (.value "boom") := .starting rfl
  have hlog : (hashFile false engine ⟨none, [], none⟩ "f").log = [.cannotStart (.value "boom")] := rfl
  have hsaid : (hashFile false engine ⟨none, [], none⟩ "f").IsWritable := by
    rw [Traced.IsWritable, hlog]
    simp [Notice.isWritable]
  obtain ⟨hnone, hsome, -, -, -, hstatus⟩ := closeFault_replaces_failure true "f" hfirst rfl
    (fun _ => hsaid) (.system none "late")
  exact ⟨hfirst, hnone, hsome, hstatus StandIns.libraries StandIns.abortsQuietly_libraries rfl⟩

/-- The first error is masked: the primitive fails on a file that then cannot be closed, and the run
reports a failure of the file, with another exit status. -/
theorem first_error_masked_by_close :
    let engine := EngineScript.engine ⟨some (.value "boom"), none, none, .digest⟩
    let run closeFault := hashFile true engine ⟨none, [], closeFault⟩ "f"
    let status (report : Report) := (CommandLine.exitOf StandIns.libraries report.result).status
    let late : Fault := .system none "late"
    (run none).result =
        .error (.reported ⟨.hashing, "f", "init failed: boom", some (.value "boom")⟩) ∧
      (run (some late)).result = .error (.reported ⟨.io, "f", "late", some late⟩) ∧
      status (run none) = 3 ∧ status (run (some late)) = 2 := ⟨rfl, rfl, rfl, rfl⟩

end DigestRecord
