import DigestRecord.Proofs.CommandLine.Answers
import DigestRecord.Proofs.FileSystem.Contents

/-!
# What the exit status tells

A pipeline sees two things of a run: its exit status and its standard output. The status is meant to
tell what became of the arguments and of the file, and it is meant to be the same in every
environment: 1 if there is not one path, 2 if the file at the path cannot be read, else 0.

It does tell this as long as the settings are accepted. They are read before the arguments, and where
they are refused the run ends with status 1 and without a word on the standard output. To a pipeline
that looks like a wrong number of paths. So the environment does show, and by the comment on the
settings it should not.

All of this is about runs that get as far as the command. Which environments are accepted is up to the
library for settings. `seenOf` is what a pipeline sees where they are. The environment is not among what
it is given, and this carries the proofs.

## Main results

* `failsOn_iff` — hashing is a failure of the file where a path leads to none
* `keepsStatuses_iff` — when the status tells what it is meant to, and when the environment shows
* `status_of_unparsable_switch` — a run whose status tells something else
-/

namespace DigestRecord

namespace CommandLine

variable {ε : Type} {lib : Libraries ε} {fs : FileSystem} {name path : String}
  {arguments : List String} {environment : List (String × String)}

/-! ## What hashing the file comes to -/

/-- Hashing the file at a path is a failure of the file. -/
def FailsOn (fs : FileSystem) (path : String) : Prop :=
  ∃ e, (fs.hashFile false path).result = .error (.reported e) ∧ e.category = .io

/-- The size of the file at a path has too many digits for a record. -/
def TooLarge (fs : FileSystem) (path : String) : Prop :=
  ∃ bytes, fs.readFile path.toList = .ok bytes ∧ Decimal.isWritable bytes.length = false

/-- **Hashing is a failure of the file if and only if the path leads to none.** -/
theorem failsOn_iff : FailsOn fs path ↔ ∃ e, fs.readFile path.toList = .error e := by
  cases hread : fs.readFile path.toList with
  | error e =>
    have hresult := FileSystem.result_hashFile_of_openError hread false
    exact ⟨fun _ => ⟨e, rfl⟩, fun _ => ⟨_, hresult, rfl⟩⟩
  | ok bytes =>
    have hresult := FileSystem.result_hashFile_of_readFile hread false
    constructor
    · rintro ⟨e, he, -⟩
      rw [hresult] at he
      cases he
    · rintro ⟨e, he⟩
      cases he

/-! ## What a pipeline sees -/

/-- What a pipeline sees of a run. -/
def Exit.seen (exit : Exit ε) : Nat × String := (exit.status, exit.stdout)

/-- What a pipeline sees of a run over the file at a path. -/
def seenAt (lib : Libraries ε) (fs : FileSystem) (path : String) : Nat × String :=
  match fs.readFile path.toList with
  | .ok bytes => (exitOf lib (.ok ⟨Sha256.digest bytes, bytes.length⟩)).seen
  | .error _ => (2, "")

/-- What a pipeline sees of a run over some arguments. -/
def seenOf (lib : Libraries ε) (fs : FileSystem) (arguments : List String) : Nat × String :=
  match lib.positional arguments with
  | [path] => seenAt lib fs path
  | _ => (1, "")

theorem seenOf_of_path (h : lib.positional arguments = [path]) :
    seenOf lib fs arguments = seenAt lib fs path := by
  rw [seenOf, h]

theorem seenOf_of_length_ne (h : (lib.positional arguments).length ≠ 1) :
    seenOf lib fs arguments = (1, "") := by
  rw [seenOf]
  match hp : lib.positional arguments with
  | [] => rfl
  | [path] => exact absurd (congrArg List.length hp) h
  | _ :: _ :: _ => rfl

/-- A size that a record has no room for is none that a verbose run could announce either. The pipeline
sees the same of both. -/
theorem seen_announce (verbose : Bool) (path : String) (d : FileDigest) :
    (exitOf lib (announce verbose (.hashed path d.byteCount) (.ok d)).1).seen =
      (exitOf lib (.ok d)).seen := by
  cases hsaid : Decimal.isWritable d.byteCount with
  | true =>
    have hnotice : (Notice.hashed path d.byteCount).isWritable = true := hsaid
    rw [announce_of_isWritable hnotice]
  | false =>
    cases verbose with
    | false => rfl
    | true =>
      have hunsaid : (announce true (.hashed path d.byteCount) (.ok d)).1 =
          .error (.escaped Notice.unwritable) := by
        simp [announce, Notice.isWritable, hsaid]
      rw [hunsaid, exitOf_ok_of_not_isWritable hsaid]
      rfl

theorem seen_finish (verbose : Bool) (fs : FileSystem) (path : String) :
    (finish lib verbose (fs.hashFile verbose path)).seen = seenAt lib fs path := by
  show (exitOf lib (fs.hashFile verbose path).result).seen = _
  rw [seenAt]
  cases hread : fs.readFile path.toList with
  | ok bytes =>
    rw [FileSystem.result_hashFile_of_readFile hread]
    exact seen_announce verbose path ⟨Sha256.digest bytes, bytes.length⟩
  | error e =>
    rw [FileSystem.result_hashFile_of_openError hread]
    rfl

/-- **Where the settings are accepted, a pipeline sees nothing of the environment.** -/
theorem seen_run_of_accepts (hreaches : lib.Reaches name arguments environment)
    (h : lib.Accepts environment) (fs : FileSystem) :
    (run lib name arguments environment fs.hashFile).seen = seenOf lib fs arguments := by
  obtain ⟨on, hsettings⟩ := h
  have hstarts : lib.Starts name arguments environment on := ⟨hreaches, hsettings⟩
  rcases exists_path_or lib arguments with ⟨path, hpath⟩ | hpaths
  · rw [run_of_path hstarts hpath, seenOf_of_path hpath]
    exact seen_finish on fs path
  · rw [run_of_usage hstarts hpaths, seenOf_of_length_ne hpaths]
    rfl

/-- Where they are not, it sees the same for all files and arguments. -/
theorem seen_run_of_not_accepts (hreaches : lib.Reaches name arguments environment)
    (h : ¬ lib.Accepts environment) (fs : FileSystem) :
    (run lib name arguments environment fs.hashFile).seen = (1, "") := by
  cases hsettings : Settings.verbose lib.settings [] environment with
  | ok on => exact absurd ⟨on, hsettings⟩ h
  | error e =>
    rw [run_of_refused hreaches hsettings]
    rfl

theorem seenAt_of_failsOn (h : FailsOn fs path) : seenAt lib fs path = (2, "") := by
  obtain ⟨e, he⟩ := failsOn_iff.mp h
  rw [seenAt, he]

theorem seenAt_of_tooLarge (h : TooLarge fs path) : seenAt lib fs path = (1, "") := by
  obtain ⟨bytes, hread, hsize⟩ := h
  rw [seenAt, hread]
  exact congrArg Exit.seen (exitOf_ok_of_not_isWritable hsize)

/-- A file is hashed and its record written, if that can be done at all. -/
theorem status_seenAt (hread : ¬ FailsOn fs path) (hsize : ¬ TooLarge fs path) :
    (seenAt lib fs path).1 = 0 := by
  rw [seenAt]
  cases hfound : fs.readFile path.toList with
  | error e => exact absurd (failsOn_iff.mpr ⟨e, hfound⟩) hread
  | ok bytes =>
    have hsaid : Decimal.isWritable bytes.length = true := by
      rw [← Bool.not_eq_false]
      exact fun h => hsize ⟨bytes, hfound, h⟩
    exact congrArg Exit.status (exitOf_ok_of_isWritable hsaid)

theorem status_seenAt_eq_one_iff : (seenAt lib fs path).1 = 1 ↔ TooLarge fs path := by
  refine ⟨fun h => ?_, fun h => by rw [seenAt_of_tooLarge h]⟩
  by_contra hsize
  by_cases hread : FailsOn fs path
  · rw [seenAt_of_failsOn hread] at h
    cases h
  · rw [status_seenAt hread hsize] at h
    cases h

/-- Where the settings are accepted, a run shows what a run shows whose settings are not, if there is no
single path or its file is too large. The status alone gives that away. -/
theorem seenOf_eq_iff : seenOf lib fs arguments = (1, "") ↔
    ∀ path, lib.positional arguments = [path] → TooLarge fs path := by
  constructor
  · intro h path hpath
    rw [seenOf_of_path hpath] at h
    exact status_seenAt_eq_one_iff.mp (congrArg Prod.fst h)
  · intro h
    rcases exists_path_or lib arguments with ⟨path, hpath⟩ | hpaths
    · rw [seenOf_of_path hpath, seenAt_of_tooLarge (h path hpath)]
    · exact seenOf_of_length_ne hpaths

/-! ## What the status is meant to tell -/

/-- The exit status of a run tells what it is meant to tell. -/
structure KeepsStatuses (lib : Libraries ε) (fs : FileSystem) (arguments : List String)
    (exit : Exit ε) : Prop where
  usage : exit.status = 1 ↔ (lib.positional arguments).length ≠ 1
  io : exit.status = 2 ↔ ∃ path, lib.positional arguments = [path] ∧ FailsOn fs path
  success : exit.status = 0 ↔ ∃ path, lib.positional arguments = [path] ∧ ¬ FailsOn fs path

theorem keepsStatuses_of_length_ne {exit : Exit ε} (hpaths : (lib.positional arguments).length ≠ 1)
    (hstatus : exit.status = 1) : KeepsStatuses lib fs arguments exit := by
  have hnone : ∀ path, lib.positional arguments ≠ [path] :=
    fun path hpath => hpaths (congrArg List.length hpath)
  constructor <;> simp [hnone, hpaths, hstatus]

/-- With one path, the status tells what it is meant to if it is that of the file, and the file is not
too large. -/
theorem keepsStatuses_of_path {exit : Exit ε} (hpath : lib.positional arguments = [path])
    (hsize : ¬ TooLarge fs path) (hstatus : exit.status = (seenAt lib fs path).1) :
    KeepsStatuses lib fs arguments exit := by
  have hone : ∀ p, lib.positional arguments = [p] ↔ path = p := fun p => by
    rw [hpath, List.singleton_inj]
  have hlength : (lib.positional arguments).length = 1 := congrArg List.length hpath
  by_cases hread : FailsOn fs path
  · rw [seenAt_of_failsOn hread] at hstatus
    constructor <;> simp [hone, hlength, hstatus, hread]
  · rw [status_seenAt hread hsize] at hstatus
    constructor <;> simp [hone, hlength, hstatus, hread]

/-- A run keeps to the meaning of its status unless it ends with status 1 over one path. -/
theorem keepsStatuses_run_iff (hreaches : lib.Reaches name arguments environment)
    (fs : FileSystem) :
    KeepsStatuses lib fs arguments (run lib name arguments environment fs.hashFile) ↔
      ∀ path, lib.positional arguments = [path] →
        lib.Accepts environment ∧ ¬ TooLarge fs path := by
  constructor
  · intro hkeeps path hpath
    have hstatus : (run lib name arguments environment fs.hashFile).status ≠ 1 :=
      fun h => hkeeps.usage.mp h (congrArg List.length hpath)
    have haccepts : lib.Accepts environment := by
      by_contra hnot
      exact hstatus (congrArg Prod.fst (seen_run_of_not_accepts hreaches hnot fs))
    refine ⟨haccepts, fun hsize => hstatus ?_⟩
    have hseen := seen_run_of_accepts hreaches haccepts fs
    rw [seenOf_of_path hpath, seenAt_of_tooLarge hsize] at hseen
    exact congrArg Prod.fst hseen
  · intro h
    rcases exists_path_or lib arguments with ⟨path, hpath⟩ | hpaths
    · obtain ⟨haccepts, hsize⟩ := h path hpath
      have hseen := seen_run_of_accepts hreaches haccepts fs
      rw [seenOf_of_path hpath] at hseen
      exact keepsStatuses_of_path hpath hsize (congrArg Prod.fst hseen)
    · refine keepsStatuses_of_length_ne hpaths ?_
      rcases run_cases hreaches fs.hashFile with ⟨hstatus, -⟩ | ⟨_, path, -, hpath⟩
      · exact hstatus
      · exact absurd (congrArg List.length hpath) hpaths

/-- **The status tells what it is meant to, but for two things**: with one path, settings that are not
accepted, and a file too large for a record. Both end with status 1, though there is one path.

The second does not depend on the environment. The first does: two environments show the same status
and the same standard output as long as both are accepted, or neither is. Else a pipeline can tell them
apart over any one path whose file is not too large.

All runs are meant that get as far as the command, with whatever libraries. -/
theorem keepsStatuses_iff (lib : Libraries ε) (fs : FileSystem) (name : String)
    (arguments : List String) :
    let exit environment := run lib name arguments environment fs.hashFile
    (∀ environment, lib.Reaches name arguments environment →
        (KeepsStatuses lib fs arguments (exit environment) ↔
          ∀ path, lib.positional arguments = [path] →
            lib.Accepts environment ∧ ¬ TooLarge fs path)) ∧
      (∀ environment other, lib.Reaches name arguments environment →
        lib.Reaches name arguments other → ((exit environment).seen = (exit other).seen ↔
          ∀ path, lib.positional arguments = [path] → ¬ TooLarge fs path →
            (lib.Accepts environment ↔ lib.Accepts other))) ∧
      ∀ environment, lib.Reaches name arguments environment → ¬ lib.Accepts environment →
        (exit environment).seen = (1, "") := by
  intro exit
  have hrefused : ∀ environment, lib.Reaches name arguments environment →
      ¬ lib.Accepts environment → (exit environment).seen = (1, "") :=
    fun environment hreaches h => seen_run_of_not_accepts hreaches h fs
  have haccepted : ∀ environment, lib.Reaches name arguments environment →
      lib.Accepts environment → (exit environment).seen = seenOf lib fs arguments :=
    fun environment hreaches h => seen_run_of_accepts hreaches h fs
  refine ⟨fun environment hreaches => keepsStatuses_run_iff hreaches fs,
    fun environment other hreaches hreaches' => ?_, hrefused⟩
  by_cases h : lib.Accepts environment <;> by_cases h' : lib.Accepts other
  · rw [haccepted _ hreaches h, haccepted _ hreaches' h']
    exact iff_of_true rfl fun _ _ _ => iff_of_true h h'
  · rw [haccepted _ hreaches h, hrefused _ hreaches' h', seenOf_eq_iff]
    simp only [h, h', iff_false, not_true_eq_false, imp_false, not_not]
  · rw [hrefused _ hreaches h, haccepted _ hreaches' h', eq_comm, seenOf_eq_iff]
    simp only [h, h', iff_true, imp_false, not_not]
  · rw [hrefused _ hreaches h, hrefused _ hreaches' h']
    exact iff_of_true rfl fun _ _ _ => iff_of_false h h'

/-- Without arguments the status is that of a wrong number of paths in every environment, and this is what
it is meant to tell. -/
theorem keepsStatuses_of_no_arguments :
    let lib := StandIns.libraries
    let environment := [("SFD_HASH_VERBOSE", "maybe")]
    lib.Reaches "sfd-hash" [] environment ∧ KeepsStatuses lib ⟨.directory [], []⟩ []
      (run lib "sfd-hash" [] environment (FileSystem.hashFile ⟨.directory [], []⟩)) := by
  intro lib environment
  have hreaches : lib.Reaches "sfd-hash" [] environment :=
    StandIns.reaches_libraries_iff.mpr (by decide)
  have hkeeps := (keepsStatuses_iff lib ⟨.directory [], []⟩ "sfd-hash" []).1 environment hreaches
  exact ⟨hreaches, hkeeps.mpr nofun⟩

/-- A file of one byte. Without the variable its record is written. With a value that is no switch
nothing is written, and the status is that of a wrong number of paths. -/
theorem status_of_unparsable_switch :
    let lib := StandIns.libraries
    let fs : FileSystem := ⟨.directory [("a".toList, .file [97])], []⟩
    let exit environment := run lib "sfd-hash" ["a"] environment fs.hashFile
    let unparsable := [("SFD_HASH_VERBOSE", "maybe")]
    lib.positional ["a"] = ["a"] ∧ ¬ FailsOn fs "a" ∧ (exit []).status = 0 ∧
      (exit unparsable).seen = (1, "") ∧ ¬ KeepsStatuses lib fs ["a"] (exit unparsable) := by
  intro lib fs exit unparsable
  have hpath : lib.positional ["a"] = ["a"] := rfl
  have hread : fs.readFile "a".toList = .ok [97] := rfl
  have hfails : ¬ FailsOn fs "a" := by
    rw [failsOn_iff, hread]
    rintro ⟨e, he⟩
    cases he
  have hsize : ¬ TooLarge fs "a" := by
    rintro ⟨bytes, hbytes, hlarge⟩
    cases hread.symm.trans hbytes
    simp [Decimal.isWritable, Decimal.digitCount, Decimal.ofNat, Decimal.maxDigits] at hlarge
  have hreaches : ∀ environment, environment.lookup "_SFD_HASH_COMPLETE" = none →
      lib.Reaches "sfd-hash" ["a"] environment := fun environment h =>
    StandIns.reaches_libraries_iff.mpr (congrArg (Option.getD · "") h)
  have hunset := hreaches [] rfl
  have hset := hreaches unparsable rfl
  have hempty : (exit []).seen = seenAt lib fs "a" := by
    rw [← seenOf_of_path hpath]
    exact seen_run_of_accepts hunset ⟨false, rfl⟩ fs
  have hsettings : Settings.verbose lib.settings [] unparsable = .error ⟨"maybe"⟩ := by decide
  have hrefused : ¬ lib.Accepts unparsable := by
    rintro ⟨on, hon⟩
    cases hsettings.symm.trans hon
  refine ⟨hpath, hfails, ?_, seen_run_of_not_accepts hset hrefused fs, fun hkeeps => ?_⟩
  · exact (congrArg Prod.fst hempty).trans (status_seenAt hfails hsize)
  · exact hrefused ((keepsStatuses_run_iff hset fs).mp hkeeps "a" hpath).1

end CommandLine

end DigestRecord
