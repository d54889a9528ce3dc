import DigestRecord.Proofs.Hashing.LogLines

/-!
# Malfunctions of the primitive

A primitive may refuse to start, fail at any update, fail to finish, or finish with anything. If the
file itself is in order, what becomes of a run is decided by what the primitive makes of the pieces of
the file (`Engine.digestOf`). A fault is reported as a failure of hashing, whichever step it is met in.
So are bytes of a number other than 32. With 32 bytes there is a file digest.

What is left is a primitive that finishes with nothing. The rule is that a digest which has not 32 bytes
is a failure of hashing. But the length is taken of whatever the primitive finished with, and nothing has
none: the run comes to neither a file digest nor a report.

## Main results

* `FirstFault.digestOf_eq` — the first fault of the primitive is the one it meets on the pieces
* `answersForPrimitive_iff` — the malfunctions for which there is an answer: all others
-/

namespace DigestRecord

variable {σ : Type} {engine : Engine σ} {path : String}

/-- A file in order: it opens, no read fails up to the end, and it closes. -/
structure Source.GoesWell (source : Source) : Prop where
  opens : source.openFault = none
  reads : ∀ read ∈ beforeEnd source.reads, read.hasFailed = false
  closes : source.closeFault = none

/-- No fault of the primitive is an interrupt, which comes from outside. -/
structure Engine.NeverInterrupts (engine : Engine σ) : Prop where
  start : ∀ f, engine.start = .error f → f.isInterrupt = false
  update : ∀ context piece f, engine.update context piece = .error f → f.isInterrupt = false
  finish : ∀ context f, engine.finish context = .error f → f.isInterrupt = false

/-- A run answers for its primitive: it yields a digest of 32 bytes, or it reports a failure of
hashing. -/
def AnswersForPrimitive (result : Except HashFailure FileDigest) : Prop :=
  (∃ d, result = .ok d ∧ d.digest.length = 32) ∨
    ∃ e, result = .error (.reported e) ∧ e.category = .hashing

/-! ## Faults -/

/-- If the file is in order, a fault is one of the primitive. -/
theorem Source.GoesWell.category_eq {source : Source} (hsource : source.GoesWell) {step : Step}
    {f : Fault} (h : FirstFault engine source step f) : step.category = .hashing := by
  obtain ⟨hopens, hreads, hcloses⟩ := hsource
  cases h with
  | opening => cases hopens
  | closing _ => cases hcloses
  | @reading context row later q _ _ _ turns =>
    have hmem : .failed f ∈ beforeEnd (row ++ .failed f :: later) := by
      rw [turns.beforeEnd_append]
      exact List.mem_append_right _ List.mem_cons_self
    cases hreads _ hmem
  | starting | updating | finishing => rfl

/-- A primitive that never interrupts has its faults reported. -/
theorem Engine.NeverInterrupts.isReported {source : Source} (hengine : engine.NeverInterrupts)
    {step : Step} {f : Fault} (h : FirstFault engine source step f)
    (hcategory : step.category = .hashing) : step.isReported f = true := by
  have hint : f.isInterrupt = false := by
    cases h with
    | starting refused => exact hengine.start f refused
    | updating _ _ _ refused => exact hengine.update _ _ f refused
    | finishing _ _ _ refused => exact hengine.finish _ f refused
    | opening | reading | closing => cases hcategory
  rw [Step.isReported_of_hashing hcategory, hint]
  rfl

namespace Engine

theorem digestOf_of_foldlM {pieces : List (List UInt8)} {context last : σ}
    (hstart : engine.start = .ok context)
    (hfed : pieces.foldlM engine.update context = .ok last) :
    engine.digestOf pieces = engine.finish last := by
  rw [digestOf, hstart]
  show pieces.foldlM engine.update context >>= engine.finish = _
  rw [hfed]
  rfl

theorem digestOf_of_foldlM_error {pieces : List (List UInt8)} {context : σ} {f : Fault}
    (hstart : engine.start = .ok context)
    (hfed : pieces.foldlM engine.update context = .error f) : engine.digestOf pieces = .error f := by
  rw [digestOf, hstart]
  show pieces.foldlM engine.update context >>= engine.finish = _
  rw [hfed]
  rfl

end Engine

/-- **The first fault of a primitive is the one that it meets on the pieces of the file.** -/
theorem FirstFault.digestOf_eq {source : Source} {step : Step} {f : Fault}
    (h : FirstFault engine source step f) (hcategory : step.category = .hashing) :
    engine.digestOf (pieces source.reads) = .error f := by
  cases h with
  | opening | reading | closing => cases hcategory
  | starting refused =>
    rw [Engine.digestOf, refused]
    rfl
  | @updating context row later q written n _ _ started turns number refused =>
    obtain ⟨before, hbefore, hfed⟩ := turns.foldlM_pieces_append Buffer.zeros_isAfter
      (.delivered written (some n) :: beforeEnd later)
    have hpiece : q.piece written n = (List.range (Buffer.sliceSize n)).map
        (byteAt (.delivered written (some n) :: before)) :=
      (hbefore.overwrite (.delivered written (some n))).slice n
    have hlast : (piecesAfter before (.delivered written (some n) :: beforeEnd later)).foldlM
        engine.update q.context = .error f := by
      rw [piecesAfter, List.foldlM_cons, show Read.count (.delivered written (some n)) = n from rfl,
        ← hpiece, refused]
      rfl
    refine Engine.digestOf_of_foldlM_error started ?_
    rw [pieces, turns.beforeEnd_append, beforeEnd_cons (Read.isEnd_of_ne_zero _ number)]
    exact hfed.trans hlast
  | finishing started turns ends refused =>
    rw [← refused]
    refine Engine.digestOf_of_foldlM started ?_
    rw [pieces, turns.beforeEnd_append, ends.beforeEnd_eq_nil, List.append_nil]
    exact turns.foldlM_pieces Buffer.zeros_isAfter

/-- If the file is in order, the primitive meets a fault on its pieces only where the run meets it. -/
theorem Source.GoesWell.exists_firstFault {source : Source} (hsource : source.GoesWell) {f : Fault}
    (houtcome : engine.digestOf (pieces source.reads) = .error f) :
    ∃ step : Step, step.category = .hashing ∧ FirstFault engine source step f := by
  rcases exists_firstFault_or_undisturbed engine source with ⟨step, g, h⟩ | ⟨digest, total, h⟩
  · have hcategory := hsource.category_eq h
    have hsame := houtcome.symm.trans (h.digestOf_eq hcategory)
    cases hsame
    exact ⟨step, hcategory, h⟩
  · obtain ⟨-, -, -, hdigest, -⟩ := undisturbed_iff.mp h
    cases houtcome.symm.trans hdigest

/-- The notice of a fault of the primitive has no number in it. -/
theorem FirstFault.isWritable_of_hashing {source : Source} {step : Step} {f : Fault}
    (h : FirstFault engine source step f) (hcategory : step.category = .hashing)
    (hcloses : source.closeFault = none) (path : String) :
    (hashFile false engine source path).IsWritable := by
  have hclose : (if step.isInner then closeNotices path source.closeFault else []) = [] := by
    rw [hcloses]
    exact ite_self _
  rw [Traced.IsWritable, h.log_hashFile, hclose, List.append_nil]
  intro notice hnotice
  obtain ⟨-, rfl⟩ := Step.mem_notices hnotice
  cases step with
  | opening | reading | closing => cases hcategory
  | starting | updating | finishing => rfl

/-- A fault of the primitive is reported as a failure of hashing, in a verbose run as well. -/
theorem Source.GoesWell.result_of_firstFault {source : Source} (hsource : source.GoesWell)
    (hengine : engine.NeverInterrupts) {step : Step} {f : Fault}
    (h : FirstFault engine source step f) (verbose : Bool) (path : String) :
    (hashFile verbose engine source path).result = .error (.reported (step.error path f)) := by
  have hcategory := hsource.category_eq h
  have hquiet := h.result_hashFile (fun _ => hsource.closes) path
  rw [Step.failure, if_pos (hengine.isReported h hcategory)] at hquiet
  rw [← hquiet, ← hashFile_of_isWritable (h.isWritable_of_hashing hcategory hsource.closes path)]

/-! ## Results -/

/-- A run over a file in order comes to what the primitive finishes with on its pieces, as far as that
can be announced. -/
theorem Source.GoesWell.result_hashFile_eq_bind {source : Source} (hsource : source.GoesWell)
    {digest : Option (List UInt8)} (houtcome : engine.digestOf (pieces source.reads) = .ok digest)
    (verbose : Bool) (path : String) :
    (hashFile verbose engine source path).result =
      (conclude path (.ok (digest, ((beforeEnd source.reads).map Read.count).sum))).bind fun d =>
        (announce verbose (.hashed path d.byteCount) (.ok d)).1 := by
  have hfinishes := finishes_iff.mpr ⟨hsource.reads, houtcome, rfl⟩
  rw [← hfinishes.result_digestReads verbose path, hashFile, hsource.opens, hsource.closes]
  show (closeAfter verbose path (digestReads verbose engine path source.reads) none).result = _
  rw [closeAfter]
  cases conclude path (digestReads verbose engine path source.reads).result <;> rfl

theorem not_answersForPrimitive_noDigest : ¬ AnswersForPrimitive (.error .noDigest) := by
  rintro (⟨d, hd, -⟩ | ⟨e, he, -⟩)
  · cases hd
  · cases he

theorem answersForPrimitive_announce_iff {verbose : Bool} {d : FileDigest}
    (hlength : d.digest.length = 32) :
    AnswersForPrimitive (announce verbose (.hashed path d.byteCount) (.ok d)).1 ↔
      (verbose = true → Decimal.isWritable d.byteCount = true) := by
  constructor
  · rintro (⟨d', hd', -⟩ | ⟨e, he, -⟩)
    · obtain ⟨-, hsaid⟩ := announce_eq_ok_iff.mp hd'
      exact hsaid
    · rw [announce] at he
      split at he <;> cases he
  · intro hsaid
    exact .inl ⟨d, announce_eq_ok_iff.mpr ⟨rfl, hsaid⟩, hlength⟩

/-- **A run answers for every malfunction of its primitive but one.** The file is in order, and what
the primitive makes of its pieces decides. A fault is reported, and so is a digest of another length
than 32 bytes. Only where the primitive finishes with nothing there is neither a file digest nor a
report.

The total of a verbose run has to be a number that can be put into words. -/
theorem answersForPrimitive_iff (verbose : Bool) {engine : Engine σ} {source : Source} (path : String)
    (hsource : source.GoesWell) (hengine : engine.NeverInterrupts) :
    let run := hashFile verbose engine source path
    let outcome := engine.digestOf (pieces source.reads)
    let total := ((beforeEnd source.reads).map Read.count).sum
    (AnswersForPrimitive run.result ↔ outcome ≠ .ok none ∧
        ∀ digest, outcome = .ok (some digest) → digest.length = 32 → verbose = true →
          Decimal.isWritable total = true) ∧
      (outcome = .ok none → run.result = .error .noDigest) ∧
      (∀ f, outcome = .error f → ∃ step : Step, step.category = .hashing ∧
        FirstFault engine source step f ∧ run.result = .error (.reported (step.error path f))) ∧
      (∀ digest, outcome = .ok (some digest) → digest.length ≠ 32 →
        run.result = .error (.reported ⟨.hashing, path,
          "unexpected digest length " ++ String.ofList (Decimal.ofNat digest.length), none⟩)) ∧
      ∀ digest, outcome = .ok (some digest) → digest.length = 32 →
        (verbose = true → Decimal.isWritable total = true) → run.result = .ok ⟨digest, total⟩ := by
  intro run outcome total
  have hnothing : outcome = .ok none → run.result = .error .noDigest :=
    fun houtcome => hsource.result_hashFile_eq_bind houtcome verbose path
  have hfault : ∀ f, outcome = .error f → ∃ step : Step, step.category = .hashing ∧
      FirstFault engine source step f ∧ run.result = .error (.reported (step.error path f)) := by
    intro f houtcome
    obtain ⟨step, hcategory, h⟩ := hsource.exists_firstFault houtcome
    exact ⟨step, hcategory, h, hsource.result_of_firstFault hengine h verbose path⟩
  have hother : ∀ digest, outcome = .ok (some digest) → digest.length ≠ 32 →
      run.result = .error (.reported ⟨.hashing, path,
        "unexpected digest length " ++ String.ofList (Decimal.ofNat digest.length), none⟩) := by
    intro digest houtcome hlength
    rw [hsource.result_hashFile_eq_bind houtcome, conclude_some, if_neg hlength]
    rfl
  have hright : ∀ digest, outcome = .ok (some digest) → digest.length = 32 →
      run.result = (announce verbose (.hashed path total) (.ok ⟨digest, total⟩)).1 := by
    intro digest houtcome hlength
    rw [hsource.result_hashFile_eq_bind houtcome, conclude_some, if_pos hlength]
    rfl
  refine ⟨?_, hnothing, hfault, hother, ?_⟩
  · cases houtcome : outcome with
    | error f =>
      obtain ⟨step, hcategory, -, hresult⟩ := hfault f houtcome
      exact iff_of_true (.inr ⟨_, hresult, hcategory⟩) ⟨nofun, nofun⟩
    | ok found =>
      rcases found with _ | digest
      · rw [hnothing houtcome]
        exact iff_of_false not_answersForPrimitive_noDigest fun ⟨hsome, _⟩ => hsome rfl
      · by_cases hlength : digest.length = 32
        · rw [hright digest houtcome hlength]
          refine (answersForPrimitive_announce_iff (d := ⟨digest, total⟩) hlength).trans ?_
          exact ⟨fun hsaid => ⟨nofun, fun _ _ _ => hsaid⟩,
            fun ⟨_, hsaid⟩ => hsaid digest rfl hlength⟩
        · refine iff_of_true (.inr ⟨_, hother digest houtcome hlength, rfl⟩) ⟨nofun, ?_⟩
          rintro _ ⟨⟩ hlength'
          exact absurd hlength' hlength
  · intro digest houtcome hlength hsaid
    rw [hright digest houtcome hlength]
    exact announce_eq_ok_iff.mpr ⟨rfl, hsaid⟩

/-- Two bytes in place of a digest. -/
theorem answersForPrimitive_two_bytes :
    let engine := EngineScript.engine ⟨none, none, none, .fixed [1, 2]⟩
    let source : Source := ⟨none, [.delivered [97] (some 1)], none⟩
    let run := hashFile true engine source "f"
    source.GoesWell ∧ engine.NeverInterrupts ∧ AnswersForPrimitive run.result ∧
      run.result = .error (.reported ⟨.hashing, "f", "unexpected digest length 2", none⟩) := by
  intro engine source run
  have hsource : source.GoesWell := ⟨rfl, by decide, rfl⟩
  have hengine : engine.NeverInterrupts := ⟨nofun, nofun, nofun⟩
  have houtcome : engine.digestOf (pieces source.reads) = .ok (some [1, 2]) := rfl
  obtain ⟨hanswers, -, -, hother, -⟩ := answersForPrimitive_iff true "f" hsource hengine
  refine ⟨hsource, hengine, hanswers.mpr ?_, ?_⟩
  · rw [houtcome]
    exact ⟨nofun, by rintro _ ⟨⟩ ⟨⟩⟩
  · refine (hother [1, 2] houtcome (by decide)).trans ?_
    decide +kernel

/-- There is no answer for a primitive that finishes with nothing. -/
theorem not_answersForPrimitive_nothing :
    let engine := EngineScript.engine ⟨none, none, none, .nothing⟩
    let source : Source := ⟨none, [], none⟩
    let run := hashFile true engine source "f.bin"
    source.GoesWell ∧ engine.NeverInterrupts ∧ run.result = .error .noDigest ∧
      ¬ AnswersForPrimitive run.result := by
  intro engine source run
  have hresult : run.result = .error .noDigest := rfl
  refine ⟨⟨rfl, by decide, rfl⟩, ⟨nofun, nofun, nofun⟩, hresult, ?_⟩
  rw [hresult]
  exact not_answersForPrimitive_noDigest

end DigestRecord
