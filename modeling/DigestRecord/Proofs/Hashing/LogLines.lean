import DigestRecord.Proofs.Hashing.Closing
import DigestRecord.Proofs.Hashing.Pieces

/-!
# What the log tells

From the log of a run one can see how the run went. Each step that fails has its own notice, and
leaves it if its fault is reported. A failure to close the file comes last, behind the notice of an
earlier failure if there was one. A run that yields a file digest says so and nothing else. All other
runs are silent: those whose fault goes through, and those whose primitive came up with nothing or with
bytes of another length.

`Step.notices` and `closeNotices` are the table of this, `FirstFault` says where in the table a run
stands, and `LogTells` is what follows for the log as a whole. The notice of a failing read has a number
in it, the sum of the counts before (`countBeforeFault`).

## Main results

* `FirstFault.log_hashFile` — the notices of a run that meets a fault
* `Undisturbed.log_hashFile` — the notices of a run that meets none
* `logTells_hashFile` — what the log tells, for verbose runs as well
-/

namespace DigestRecord

variable {σ : Type} {verbose : Bool} {engine : Engine σ} {path : String}

/-! ## The table -/

/-- The sum of the counts that the reads report before one of them fails. -/
def countBeforeFault (reads : List Read) : Int :=
  ((reads.takeWhile fun read => !read.hasFailed).map Read.count).sum

namespace Step

/-- The notice of a fault in a step. Only that of a failing read has a number in it. -/
def notice (path : String) (total : Int) (f : Fault) : Step → Notice
  | .opening => .cannotOpen path f
  | .starting => .cannotStart f
  | .reading => .readFailed path total f
  | .updating => .updateFailed path f
  | .finishing => .finishFailed path f
  | .closing => .closeFailed path f

/-- What a run has to say of a fault in a step: one notice if the fault is reported, and nothing if it
goes through. -/
def notices (s : Step) (path : String) (total : Int) (f : Fault) : List Notice :=
  if s.isReported f then [s.notice path total f] else []

theorem mem_notices {s : Step} {total : Int} {f : Fault} {notice : Notice}
    (h : notice ∈ s.notices path total f) :
    s.isReported f = true ∧ notice = s.notice path total f := by
  rw [notices] at h
  split at h
  · exact ⟨‹_›, List.mem_singleton.mp h⟩
  · cases h

theorem length_notices_le (s : Step) (path : String) (total : Int) (f : Fault) :
    (s.notices path total f).length ≤ 1 := by
  rw [notices]
  split
  · exact Nat.le_refl 1
  · exact Nat.zero_le 1

end Step

/-- What a run has to say of closing the file, in the end. -/
def closeNotices (path : String) : Option Fault → List Notice
  | none => []
  | some g => Step.closing.notices path 0 g

/-! ## Reading -/

/-- The total at which a read fails is the sum of the counts before. -/
theorem Turns.countBeforeFault_eq {context : σ} {q : Progress σ} {row : List Read}
    (h : Turns engine (.start context) row q) (f : Fault) (later : List Read) :
    countBeforeFault (row ++ .failed f :: later) = q.total := by
  have hrow : ∀ read ∈ row, (!read.hasFailed) = true := by
    intro read hread
    rw [h.hasFailed read hread]
    rfl
  have htake : ((row ++ .failed f :: later).takeWhile fun read => !read.hasFailed) = row := by
    rw [List.takeWhile_append_of_pos hrow]
    exact List.append_nil row
  rw [countBeforeFault, htake, h.total_eq, Progress.start, Int.zero_add]

theorem log_startFailure (path : String) (total : Int) (f : Fault) :
    (startFailure path f).log = Step.starting.notices path total f := by
  rw [startFailure, Step.notices, Step.isReported_of_hashing rfl]
  cases h : f.isInterrupt <;> simp [Step.notice]

theorem readFailure_notices (p : Progress σ) (path : String) (f : Fault) :
    (p.readFailure false path f).2 = Step.reading.notices path p.total f := by
  rw [Progress.readFailure, Step.notices, Step.isReported_of_io (.inl rfl)]
  split <;> rfl

theorem updateFailure_notices (path : String) (total : Int) (f : Fault) :
    (updateFailure path f).2 = Step.updating.notices path total f := by
  rw [updateFailure, Step.notices, Step.isReported_of_hashing rfl]
  cases h : f.isInterrupt <;> simp [Step.notice]

theorem Progress.log_finish_of_error {p : Progress σ} {f : Fault}
    (h : engine.finish p.context = .error f) (total : Int) :
    (p.finish engine path).log = Step.finishing.notices path total f := by
  rw [Progress.finish, h, Step.notices, Step.isReported_of_hashing rfl]
  cases hint : f.isInterrupt <;> simp [hint, Step.notice]

theorem Progress.log_finish_of_ok {p : Progress σ} {digest : Option (List UInt8)}
    (h : engine.finish p.context = .ok digest) : (p.finish engine path).log = [] := by
  rw [Progress.finish, h]

/-- A fault between opening and closing has its notice, and reading the file leaves no other one. -/
theorem FirstFault.log_digestReads {source : Source} {step : Step} {f : Fault}
    (h : FirstFault engine source step f) (hinner : step.isInner = true) (path : String) :
    (digestReads false engine path source.reads).log =
      step.notices path (countBeforeFault source.reads) f := by
  cases h with
  | opening => cases hinner
  | closing _ => cases hinner
  | starting refused =>
    rw [digestReads, refused]
    exact log_startFailure path _ f
  | @reading context row later q _ _ started turns =>
    rw [digestReads_of_start started, stream_turns turns, stream_failed,
      turns.countBeforeFault_eq]
    exact readFailure_notices q path f
  | updating started turns number refused =>
    rw [digestReads_of_start started, stream_turns turns, stream_of_update_error number refused]
    exact updateFailure_notices path _ f
  | finishing started turns ends refused =>
    rw [digestReads_of_start started, stream_turns turns, stream_of_findsEnd ends]
    exact Progress.log_finish_of_error refused _

/-- Reading a file to its end leaves no notice. -/
theorem Finishes.log_digestReads {reads : List Read} {digest : Option (List UInt8)} {total : Int}
    (h : Finishes engine reads digest total) (path : String) :
    (digestReads false engine path reads).log = [] := by
  obtain ⟨hstart, hrow, hends, hfinish⟩ := h
  rw [digestReads_of_start hstart, stream_turns hrow, stream_of_findsEnd hends]
  exact Progress.log_finish_of_ok hfinish

/-! ## Whole runs -/

theorem log_refuse (path : String) (total : Int) (f : Fault) :
    (refuse path f).log = Step.opening.notices path total f := by
  rw [refuse, Step.notices, Step.isReported_opening]
  split <;> rfl

/-- **The notices of a run that meets a fault**: that of the fault, and that of the close if it fails
as well. -/
theorem FirstFault.log_hashFile {source : Source} {step : Step} {f : Fault}
    (h : FirstFault engine source step f) (path : String) :
    (hashFile false engine source path).log =
      step.notices path (countBeforeFault source.reads) f ++
        if step.isInner then closeNotices path source.closeFault else [] := by
  cases hinner : step.isInner with
  | true =>
    have hlog := h.log_digestReads hinner path
    have hresult := h.result_digestReads hinner path
    rcases source with ⟨_ | g, reads, _ | g⟩
    · rw [← hlog]
      exact (log_closeAfter_of_error hresult).trans (List.append_nil _).symm
    · rw [← hlog]
      exact log_closeAfter_of_fault false path _ g
    all_goals
      cases h
      cases hinner
  | false =>
    cases h with
    | opening => exact (log_refuse path _ f).trans (List.append_nil _).symm
    | closing finishes =>
      have hlog := finishes.log_digestReads path
      refine (log_closeAfter_of_fault false path _ f).trans ?_
      rw [hlog]
      exact (List.append_nil _).symm
    | _ => cases hinner

theorem log_closeAfter_of_conclude_ok {run : Traced Ending} {d : FileDigest}
    (h : conclude path run.result = .ok d) :
    (closeAfter false path run none).log = run.log ++ [.hashed path d.byteCount] := by
  rw [closeAfter, h]
  rfl

theorem log_closeAfter_of_conclude_error {run : Traced Ending} {failure : HashFailure}
    (h : conclude path run.result = .error failure) :
    (closeAfter false path run none).log = run.log := by
  rw [closeAfter, h]

/-- **The notices of a run that meets no fault**: one if it yields a file digest, and else none. -/
theorem Undisturbed.log_hashFile {source : Source} {digest : Option (List UInt8)} {total : Int}
    (h : Undisturbed engine source digest total) (path : String) :
    let run := hashFile false engine source path
    (∃ d, run.result = .ok d ∧ run.log = [.hashed path d.byteCount]) ∨
      (∀ d, run.result ≠ .ok d) ∧ run.log = [] := by
  rcases source with ⟨openFault, reads, closeFault⟩
  obtain ⟨hopens, hfinishes, hcloses⟩ := h
  obtain rfl : openFault = none := hopens
  obtain rfl : closeFault = none := hcloses
  intro run
  have hresult : run.result = conclude path (digestReads false engine path reads).result :=
    result_hashFile_none reads
  have hlog := hfinishes.log_digestReads path
  cases hconclude : conclude path (digestReads false engine path reads).result with
  | error failure =>
    rw [hconclude] at hresult
    refine .inr ⟨fun d hd => ?_, (log_closeAfter_of_conclude_error hconclude).trans hlog⟩
    rw [hresult] at hd
    cases hd
  | ok d =>
    rw [hconclude] at hresult
    refine .inl ⟨d, hresult, (log_closeAfter_of_conclude_ok hconclude).trans ?_⟩
    rw [hlog]
    rfl

/-! ## What the log tells -/

namespace Step

/-- The line of a fault in a step. -/
def line (path : String) (total : Int) (f : Fault) : Step → String
  | .opening => "Cannot open " ++ path ++ ": " ++ f.text
  | .starting => "Cannot initialize sha256 context: " ++ f.text
  | .reading =>
    "Read failed for " ++ path ++ " after " ++ String.ofList (Decimal.ofInt total) ++ " bytes: " ++
      f.text
  | .updating => "Digest update failed for " ++ path ++ ": " ++ f.text
  | .finishing => "Digest finalize failed for " ++ path ++ ": " ++ f.text
  | .closing => "Close failed for " ++ path ++ ": " ++ f.text

/-- The lines of a fault in a step: one if it is reported, and none if it goes through. -/
def lines (s : Step) (path : String) (total : Int) (f : Fault) : List String :=
  if s.isReported f then ["DEBUG sfd_hash.hasher " ++ s.line path total f] else []

theorem map_display_notices (s : Step) (path : String) (total : Int) (f : Fault) :
    ((s.notices path total f).map fun notice => (LogLine.ofNotice notice).display) =
      s.lines path total f := by
  have htext : (s.notice path total f).text = s.line path total f := by cases s <;> rfl
  rw [notices, lines]
  split
  · rw [List.map_singleton, LogLine.display_ofNotice, htext]
  · rfl

end Step

/-- The log of a run tells how the run went. -/
structure LogTells (engine : Engine σ) (source : Source) (path : String) (run : Report) : Prop where
  /-- All lines have the same level and come from the same logger. -/
  level : ∀ line ∈ run.lines, ∃ text, line = "DEBUG sfd_hash.hasher " ++ text
  /-- A file digest leaves one line, with its count. -/
  success : ∀ d, run.result = .ok d → run.lines = ["DEBUG sfd_hash.hasher " ++ ("Hashed " ++ path ++
    " (" ++ String.ofList (Decimal.ofInt d.byteCount) ++ " bytes)")]
  /-- The first fault leaves a line of its own if it is reported, and a close that fails after it
  leaves another one behind that. -/
  failure : ∀ step f, FirstFault engine source step f → run.lines =
    step.lines path (countBeforeFault source.reads) f ++
      if step.isInner then source.closeFault.elim [] (Step.closing.lines path 0) else []
  /-- The run comes to what the last of these faults comes to. -/
  outcome : ∀ step f, FirstFault engine source step f → run.result = .error
    (if step.isInner then
      source.closeFault.elim (step.failure path f) (Step.closing.failure path)
    else step.failure path f)
  /-- A run without a fault is silent if it yields no file digest. -/
  silent : (∀ step f, ¬ FirstFault engine source step f) → (∀ d, run.result ≠ .ok d) →
    run.lines = []
  /-- A fault of the system in closing the file leaves one notice, and it is the last one. -/
  closed : ∀ g, source.openFault = none → source.closeFault = some g → g.isSystem = true →
    ∃ earlier, run.log = earlier ++ [.closeFailed path g] ∧ ∀ p h, .closeFailed p h ∉ earlier
  /-- Nothing else leaves such a notice. -/
  closed_only : ∀ p g, .closeFailed p g ∈ run.log →
    source.openFault = none ∧ source.closeFault = some g ∧ g.isSystem = true
  /-- No log is longer than two lines. -/
  short : run.lines.length ≤ 2
  /-- Success is told if and only if there is a file digest. -/
  hashed_iff : (∃ p total, .hashed p total ∈ run.log) ↔ ∃ d, run.result = .ok d

theorem map_display_closeNotices (path : String) (closeFault : Option Fault) :
    ((closeNotices path closeFault).map fun notice => (LogLine.ofNotice notice).display) =
      closeFault.elim [] (Step.closing.lines path 0) := by
  cases closeFault with
  | none => rfl
  | some g => exact Step.closing.map_display_notices path 0 g

theorem length_closeNotices_le (path : String) (closeFault : Option Fault) :
    (closeNotices path closeFault).length ≤ 1 := by
  cases closeFault with
  | none => exact Nat.zero_le 1
  | some g => exact Step.closing.length_notices_le path 0 g

theorem mem_closeNotices {closeFault : Option Fault} {notice : Notice}
    (h : notice ∈ closeNotices path closeFault) :
    ∃ g, closeFault = some g ∧ g.isSystem = true ∧ notice = .closeFailed path g := by
  cases closeFault with
  | none => cases h
  | some g =>
    obtain ⟨hreported, hnotice⟩ := Step.mem_notices h
    exact ⟨g, rfl, by rwa [Step.isReported_of_io (.inr rfl)] at hreported, hnotice⟩

/-- A notice of the close comes from the close. -/
theorem FirstFault.of_closeFailed_mem {source : Source} {step : Step} {f : Fault}
    (h : FirstFault engine source step f) {p : String} {g : Fault}
    (hmem : .closeFailed p g ∈ (hashFile false engine source path).log) :
    source.openFault = none ∧ source.closeFault = some g ∧ g.isSystem = true := by
  rw [h.log_hashFile] at hmem
  rcases List.mem_append.mp hmem with hmem | hmem
  · obtain ⟨hreported, hnotice⟩ := Step.mem_notices hmem
    cases h with
    | closing _ =>
      cases hnotice
      exact ⟨rfl, rfl, by rwa [Step.isReported_of_io (.inr rfl)] at hreported⟩
    | _ => cases hnotice
  · split at hmem
    · rename_i hinner
      obtain ⟨g', hclose, hsystem, hnotice⟩ := mem_closeNotices hmem
      cases hnotice
      refine ⟨?_, hclose, hsystem⟩
      cases h with
      | opening => cases hinner
      | _ => rfl
    · cases hmem

/-- A notice of success is not among those of a fault. -/
theorem FirstFault.hashed_not_mem {source : Source} {step : Step} {f : Fault}
    (h : FirstFault engine source step f) (p : String) (total : Int) :
    .hashed p total ∉ (hashFile false engine source path).log := by
  intro hmem
  rw [h.log_hashFile] at hmem
  rcases List.mem_append.mp hmem with hmem | hmem
  · obtain ⟨-, hnotice⟩ := Step.mem_notices hmem
    cases step <;> cases hnotice
  · split at hmem
    · obtain ⟨_, -, -, hnotice⟩ := mem_closeNotices hmem
      cases hnotice
    · cases hmem

/-- A fault of the system in closing the file leaves the last notice. -/
theorem FirstFault.log_of_closeFault {source : Source} {step : Step} {f : Fault}
    (h : FirstFault engine source step f) {g : Fault} (hopens : source.openFault = none)
    (hclose : source.closeFault = some g) (hsystem : g.isSystem = true) :
    ∃ earlier, (hashFile false engine source path).log = earlier ++ [.closeFailed path g] ∧
      ∀ p h, .closeFailed p h ∉ earlier := by
  have hreported : Step.closing.isReported g = true := by
    rwa [Step.isReported_of_io (.inr rfl)]
  have hnotices : closeNotices path source.closeFault = [.closeFailed path g] := by
    rw [hclose]
    exact if_pos hreported
  rw [h.log_hashFile]
  cases hinner : step.isInner with
  | true =>
    refine ⟨_, congrArg _ hnotices, fun p g hmem => ?_⟩
    obtain ⟨-, hnotice⟩ := Step.mem_notices hmem
    cases step with
    | opening => cases hnotice
    | closing => cases hinner
    | _ => cases hnotice
  | false =>
    cases h with
    | opening => cases hopens
    | closing _ =>
      cases hclose
      refine ⟨[], ?_, fun _ _ hmem => absurd hmem List.not_mem_nil⟩
      exact (List.append_nil _).trans (if_pos hreported)
    | _ => cases hinner

theorem exists_text_of_mem_lines {α : Type} {run : Traced α} {line : String}
    (h : line ∈ run.lines) : ∃ text, line = "DEBUG sfd_hash.hasher " ++ text := by
  obtain ⟨notice, -, rfl⟩ := List.mem_map.mp h
  exact ⟨notice.text, LogLine.display_ofNotice notice⟩

/-- A run comes to what the fault of its close comes to, and else to what its first fault comes to. -/
theorem FirstFault.result_hashFile_elim {source : Source} {step : Step} {f : Fault}
    (h : FirstFault engine source step f) (path : String) :
    (hashFile false engine source path).result = .error
      (if step.isInner then
        source.closeFault.elim (step.failure path f) (Step.closing.failure path)
      else step.failure path f) := by
  cases hinner : step.isInner with
  | false => exact h.result_hashFile (fun hinner' => absurd hinner' (by simp [hinner])) path
  | true =>
    cases hclose : source.closeFault with
    | none => exact h.result_hashFile (fun _ => hclose) path
    | some g =>
      have hopens : source.openFault = none := by
        cases h with
        | opening => cases hinner
        | _ => rfl
      rcases source with ⟨openFault, reads, closeFault⟩
      obtain rfl : openFault = none := hopens
      obtain rfl : closeFault = some g := hclose
      exact result_hashFile_of_closeFault reads g

theorem FirstFault.result_ne_ok {source : Source} {step : Step} {f : Fault}
    (h : FirstFault engine source step f) (path : String) (d : FileDigest) :
    (hashFile false engine source path).result ≠ .ok d := by
  intro hd
  obtain ⟨hundisturbed, -, -⟩ := result_hashFile_eq_ok_iff.mp hd
  exact h.not_undisturbed hundisturbed

theorem FirstFault.lines_hashFile {source : Source} {step : Step} {f : Fault}
    (h : FirstFault engine source step f) (path : String) :
    (hashFile false engine source path).lines =
      step.lines path (countBeforeFault source.reads) f ++
        if step.isInner then source.closeFault.elim [] (Step.closing.lines path 0) else [] := by
  rw [Traced.lines, h.log_hashFile, List.map_append, Step.map_display_notices]
  congr 1
  split
  · exact map_display_closeNotices path source.closeFault
  · rfl

theorem FirstFault.length_log_le {source : Source} {step : Step} {f : Fault}
    (h : FirstFault engine source step f) (path : String) :
    (hashFile false engine source path).log.length ≤ 2 := by
  have hfault := step.length_notices_le path (countBeforeFault source.reads) f
  have hclose := length_closeNotices_le path source.closeFault
  rw [h.log_hashFile, List.length_append]
  split
  · omega
  · rw [List.length_nil]
    omega

/-- The log of a run that meets a fault. -/
theorem FirstFault.logTells {source : Source} {step : Step} {f : Fault}
    (h : FirstFault engine source step f) (path : String) :
    LogTells engine source path (hashFile false engine source path) where
  level _ hline := exists_text_of_mem_lines hline
  success d hd := absurd hd (h.result_ne_ok path d)
  failure _ _ h := h.lines_hashFile path
  outcome _ _ h := h.result_hashFile_elim path
  silent hfault _ := absurd h (hfault step f)
  closed _ hopens hclose hsystem := h.log_of_closeFault hopens hclose hsystem
  closed_only _ _ hmem := h.of_closeFailed_mem hmem
  short := by
    rw [Traced.lines, List.length_map]
    exact h.length_log_le path
  hashed_iff := by
    constructor
    · rintro ⟨p, total, hmem⟩
      exact absurd hmem (h.hashed_not_mem p total)
    · rintro ⟨d, hd⟩
      exact absurd hd (h.result_ne_ok path d)

/-- The log of a run that meets no fault. -/
theorem Undisturbed.logTells {source : Source} {digest : Option (List UInt8)} {total : Int}
    (h : Undisturbed engine source digest total) (path : String) :
    LogTells engine source path (hashFile false engine source path) where
  level _ hline := exists_text_of_mem_lines hline
  success d hd := by
    rcases h.log_hashFile path with ⟨d', hresult, hlog⟩ | ⟨hnone, -⟩
    · obtain rfl : d' = d := Except.ok.inj (hresult.symm.trans hd)
      rw [Traced.lines, hlog, List.map_singleton, LogLine.display_ofNotice]
      rfl
    · exact absurd hd (hnone d)
  failure _ _ hfirst := absurd h hfirst.not_undisturbed
  outcome _ _ hfirst := absurd h hfirst.not_undisturbed
  silent _ hnone := by
    rcases h.log_hashFile path with ⟨d, hresult, -⟩ | ⟨-, hlog⟩
    · exact absurd hresult (hnone d)
    · exact congrArg (List.map _) hlog
  closed g _ hg _ := by
    rw [h.closes] at hg
    cases hg
  closed_only p g hmem := by
    rcases h.log_hashFile path with ⟨d, -, hlog⟩ | ⟨-, hlog⟩
    · rw [hlog] at hmem
      cases List.mem_singleton.mp hmem
    · rw [hlog] at hmem
      cases hmem
  short := by
    rw [Traced.lines, List.length_map]
    rcases h.log_hashFile path with ⟨d, -, hlog⟩ | ⟨-, hlog⟩
    · rw [hlog]
      exact Nat.le_succ 1
    · rw [hlog]
      exact Nat.zero_le 2
  hashed_iff := by
    rcases h.log_hashFile path with ⟨d, hresult, hlog⟩ | ⟨hnone, hlog⟩
    · refine iff_of_true ⟨path, d.byteCount, ?_⟩ ⟨d, hresult⟩
      rw [hlog]
      exact List.mem_singleton_self _
    · rw [hlog]
      refine iff_of_false ?_ fun ⟨d, hd⟩ => hnone d hd
      rintro ⟨p, total, hmem⟩
      cases hmem

/-- **The log tells how the run went**, whatever the engine, the reads and the faults are. A verbose run
has to be able to put its notices into words: their numbers have no more digits than are written. -/
theorem logTells_hashFile (verbose : Bool) (engine : Engine σ) (source : Source) (path : String)
    (hsaid : verbose = true → (hashFile false engine source path).IsWritable) :
    LogTells engine source path (hashFile verbose engine source path) := by
  rw [hashFile_eq_quiet hsaid]
  rcases exists_firstFault_or_undisturbed engine source with ⟨step, f, h⟩ | ⟨digest, total, h⟩
  · exact h.logTells path
  · exact h.logTells path

/-- The third read fails, and so does the close. Both are in the log, the first with the count. -/
theorem logTells_hashFile_of_failed_close :
    let fault : Fault := .system (some 5) "boom"
    let last : Fault := .system none "late"
    let engine := EngineScript.sound.engine
    let source : Source := ⟨none, [.delivered [97] (some 1), .delivered [98] (some 1),
      .failed fault], some last⟩
    let run := hashFile true engine source "f"
    LogTells engine source "f" run ∧ FirstFault engine source .reading fault ∧
      run.lines = ["DEBUG sfd_hash.hasher Read failed for f after 2 bytes: [Errno 5] boom",
        "DEBUG sfd_hash.hasher Close failed for f: late"] := by
  intro fault last engine source run
  have hlog : (hashFile false engine source "f").log =
      [.readFailed "f" 2 fault, .closeFailed "f" last] := rfl
  have hsaid : (hashFile false engine source "f").IsWritable := by
    rw [Traced.IsWritable, hlog]
    decide +kernel
  have htells := logTells_hashFile true engine source "f" (fun _ => hsaid)
  have hturns : Turns engine (.start ⟨1, .start⟩)
      [.delivered [97] (some 1), .delivered [98] (some 1)] _ :=
    .turn (by decide) rfl (.turn (by decide) rfl .done)
  have hfirst : FirstFault engine source .reading fault := .reading rfl hturns
  refine ⟨htells, hfirst, ?_⟩
  exact (htells.failure .reading fault hfirst).trans (by decide +kernel)

end DigestRecord
