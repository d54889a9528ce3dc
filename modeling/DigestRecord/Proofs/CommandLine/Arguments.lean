import DigestRecord.FileSystem.Source
import DigestRecord.Proofs.CommandLine.Answers

/-!
# Which arguments are paths

Every argument is a path, whatever it starts with, but for the first one that is two dashes and nothing
else. `TakenAsPaths` goes through the arguments and says so; the others are taken as they are and in their
order. What is left has to be one path, and that is hashed.

Any other number of paths is answered with a usage message, and no file is opened for it: the answer is the
plan, and hashing is no part of it. The message names the program. A name is given, or it is the last part of
the text that the program was called by. The message is written by the output library, which leaves a text
alone that has no control sequence in it. Around the name there is nothing that could start one or go on with
one, so this comes down to the name (`infix_of_infix_usage`).

## Main results

* `takenAsPaths_iff` — the arguments that are taken as paths
* `isLastPart_iff` — the name in the text that the program was called by
* `isUsageOf_usage` — the usage message
* `run_decided_by_paths` — what the program does first, and how a path with dashes is given
* `usage_without_control_sequence` — a name that does not come out as it was given
-/

namespace DigestRecord

namespace CommandLine

open ControlSequence (IsControlSequence)

variable {ε : Type} {lib : Libraries ε}

/-! ## Taking arguments as paths -/

/-- Some of the arguments are taken as paths: all of them but the first that is two dashes. -/
inductive TakenAsPaths : List String → List String → Prop
  | nil : TakenAsPaths [] []
  | dashes {rest : List String} : TakenAsPaths ("--" :: rest) rest
  | path {argument : String} {rest taken : List String} (ne_dashes : argument ≠ "--")
      (onward : TakenAsPaths rest taken) : TakenAsPaths (argument :: rest) (argument :: taken)

/-- **The arguments that are taken as paths**, by induction on the arguments. -/
theorem takenAsPaths_iff (hoptions : lib.PassesOptionsOn) {arguments taken : List String} :
    TakenAsPaths arguments taken ↔ taken = lib.positional arguments := by
  constructor
  · intro h
    induction h with
    | nil => exact hoptions.nil.symm
    | dashes => exact (hoptions.dashes _).symm
    | path ne_dashes _ ih => rw [hoptions.argument ne_dashes, ih]
  · rintro rfl
    induction arguments with
    | nil =>
      rw [hoptions.nil]
      exact .nil
    | cons argument rest ih =>
      by_cases h : argument = "--"
      · rw [h, hoptions.dashes]
        exact .dashes
      · rw [hoptions.argument h]
        exact .path h ih

/-! ## The name in the message -/

/-- A name is the last part of a text: what follows the last slash, or all of it if there is none. -/
def IsLastPart (name text : String) : Prop :=
  '/' ∉ name.toList ∧ (text = name ∨ ∃ front, text = front ++ "/" ++ name)

/-- A text has a last part. -/
theorem exists_isLastPart (text : String) : ∃ name, IsLastPart name text := by
  by_cases hslash : '/' ∈ text.toList
  · -- the last slash is the first one from behind
    obtain ⟨behind, before, hreverse, hbehind⟩ :=
      List.eq_append_cons_of_mem (List.mem_reverse.mpr hslash)
    have htext : text.toList = before.reverse ++ '/' :: behind.reverse := by
      simpa using congrArg List.reverse hreverse
    refine ⟨String.ofList behind.reverse, by simpa using hbehind, .inr ⟨String.ofList before.reverse, ?_⟩⟩
    rw [← String.toList_inj, htext]
    simp
  · exact ⟨text, hslash, .inl rfl⟩

/-- The base name of a text is its last part. -/
theorem IsLastPart.baseName_eq {name text : String} (h : IsLastPart name text) :
    Path.baseName text.toList = name.toList := by
  obtain ⟨hname, htext⟩ := h
  have hkept : ∀ c ∈ name.toList.reverse, (c != '/') = true :=
    fun c hc => bne_iff_ne.mpr fun h => hname (h ▸ List.mem_reverse.mp hc)
  rw [Path.baseName]
  rcases htext with rfl | ⟨front, rfl⟩
  · rw [List.takeWhile_eq_self_iff.mpr hkept, List.reverse_reverse]
  · have hreverse : (front ++ "/" ++ name).toList.reverse =
        name.toList.reverse ++ '/' :: front.toList.reverse := by simp
    rw [hreverse, List.takeWhile_append_of_pos hkept, List.takeWhile_cons_of_neg (by simp),
      List.append_nil, List.reverse_reverse]

/-- **The name in the text that the program was called by** is its last part. -/
theorem isLastPart_iff (hname : lib.DetectsBaseName) {name text : String} :
    IsLastPart name text ↔ name = lib.detected text := by
  rw [hname text]
  constructor
  · intro h
    rw [h.baseName_eq, String.ofList_toList]
  · rintro rfl
    obtain ⟨name, h⟩ := exists_isLastPart text
    rwa [h.baseName_eq, String.ofList_toList]

/-- An answer is the usage message for a program of a given name, and nothing else: what the output library
writes of the message. If there is no control sequence in the name, that is the message as it is. -/
structure IsUsageOf (lib : Libraries ε) (exit : Exit ε) (name : String) : Prop where
  status : exit.status = 1
  stdout : exit.stdout = ""
  log : exit.log = []
  uncaught : exit.uncaught = none
  stderr : exit.stderr =
    lib.echo .stderr ("Usage: " ++ (if name = "" then "sfd-hash" else name) ++ " <file-path>")
  verbatim : (∀ s, IsControlSequence s → ¬ s <:+: name.toList) →
    exit.stderr = "Usage: " ++ (if name = "" then "sfd-hash" else name) ++ " <file-path>\n"

theorem programName_eq (name : String) :
    programName name = if name = "" then "sfd-hash" else name := by
  simp only [programName, defaultName, String.isEmpty_iff]

/-- The default name has no control sequence in it. -/
theorem not_infix_programName {name : String}
    (h : ∀ s, IsControlSequence s → ¬ s <:+: name.toList) (s : List Char)
    (hs : IsControlSequence s) : ¬ s <:+: (programName name).toList := by
  rw [programName_eq]
  split
  · exact ControlSequence.not_infix_of_not_mem (by decide) s hs
  · exact h s hs

/-- **A control sequence in a usage message is in the name.** None starts before it, and after it there is
a blank and then a character that a control sequence cannot have behind a blank. -/
theorem infix_of_infix_usage {name : String} {s : List Char} (hs : IsControlSequence s)
    (h : s <:+: (usage name).toList) : s <:+: name.toList := by
  have husage : (usage name).toList =
      "Usage: ".toList ++ (name.toList ++ ' ' :: '<' :: "file-path>".toList) := by
    simp [usage]
  rw [husage] at h
  have hname := hs.infix_of_append (by decide) h
  exact hs.infix_of_blank (by decide) (by decide) (by decide) hname

/-- **The usage message names the program.** -/
theorem isUsageOf_usage (hecho : lib.EchoesVerbatim) (name : String) : IsUsageOf lib
    ⟨1, "", lib.echo .stderr (usage (programName name)), [], none⟩ name := by
  refine ⟨rfl, rfl, rfl, rfl, ?_, fun hnone => ?_⟩
  · rw [← programName_eq]
    rfl
  · have hwritten : lib.echo .stderr (usage (programName name)) = usage (programName name) ++ "\n" :=
      hecho .stderr _ fun s hs h => not_infix_programName hnone s hs (infix_of_infix_usage hs h)
    rw [← programName_eq]
    refine hwritten.trans ?_
    rw [usage, String.append_assoc]
    rfl

/-! ## What the program does first -/

/-- **The paths decide what the program does**, where the settings are accepted. Unless there is one path,
the program stops with its usage message before any file is opened, so that what hashing would come to does
not matter. If there is one, that very text is what is hashed.

So two dashes in front of a path are enough for it to be taken as one, and they are needed for no other path
than two dashes. -/
theorem run_decided_by_paths (hecho : lib.EchoesVerbatim) (hoptions : lib.PassesOptionsOn)
    (hname : lib.DetectsBaseName) :
    (∀ arguments taken, TakenAsPaths arguments taken ↔ taken = lib.positional arguments) ∧
      (∀ zeroth base, IsLastPart base zeroth ↔ base = lib.detected zeroth) ∧
      (∀ name arguments environment on, lib.Starts name arguments environment on →
        ((lib.positional arguments).length ≠ 1 → ∃ exit,
          plan lib name arguments environment = .stop exit ∧ IsUsageOf lib exit name ∧
            ∀ hash, run lib name arguments environment hash = exit) ∧
        ∀ path, lib.positional arguments = [path] →
          plan lib name arguments environment = .hash path on ∧
            ∀ hash, run lib name arguments environment hash = finish lib on (hash on path)) ∧
      ∀ name path environment on hash, lib.Starts name ["--", path] environment on →
        run lib name ["--", path] environment hash = finish lib on (hash on path) ∧
          (path ≠ "--" → lib.Reaches name [path] environment →
            run lib name [path] environment hash = run lib name ["--", path] environment hash) := by
  have hdashes : ∀ path, lib.positional ["--", path] = [path] := fun path => hoptions.dashes [path]
  have hplain : ∀ path, path ≠ "--" → lib.positional [path] = [path] :=
    fun path hne => ((takenAsPaths_iff hoptions).mp (.path hne .nil)).symm
  refine ⟨fun _ _ => takenAsPaths_iff hoptions, fun _ _ => isLastPart_iff hname,
    fun name arguments environment on hstarts => ⟨fun hlength => ?_, fun path hpath => ?_⟩,
    fun name path environment on hash hstarts => ⟨run_of_path hstarts (hdashes path), ?_⟩⟩
  · exact ⟨_, plan_of_length_ne hstarts hlength, isUsageOf_usage hecho name,
      fun _ => run_of_usage hstarts hlength⟩
  · exact ⟨plan_of_path hstarts hpath, fun _ => run_of_path hstarts hpath⟩
  · intro hne hreaches
    rw [run_of_path ⟨hreaches, hstarts.settings⟩ (hplain path hne),
      run_of_path hstarts (hdashes path)]

/-- Only the first two dashes are passed over: after them, what looks like an option is a path, and so are
two dashes. -/
theorem run_decided_by_paths_dashes :
    let lib := StandIns.libraries
    let environment := [("VERBOSE", "maybe")]
    lib.Starts "sfd-hash" ["--", "--"] environment false ∧
      plan lib "sfd-hash" ["--", "--"] environment = .hash "--" false ∧
      TakenAsPaths ["-v", "--", "--"] ["-v", "--"] ∧
      lib.Starts "" ["-v", "--", "--"] environment false ∧
      ∃ exit, plan lib "" ["-v", "--", "--"] environment = .stop exit ∧ IsUsageOf lib exit "" := by
  intro lib environment
  have hsettings : Settings.verbose lib.settings [] environment = .ok false := by decide
  have hnamed : lib.Starts "sfd-hash" ["--", "--"] environment false :=
    ⟨StandIns.reaches_libraries_iff.mpr (by decide), hsettings⟩
  have hnameless : lib.Starts "" ["-v", "--", "--"] environment false :=
    ⟨StandIns.reaches_libraries_iff.mpr (by decide), hsettings⟩
  obtain ⟨htaken, -, hfirst, -⟩ := run_decided_by_paths StandIns.echoesVerbatim_libraries
    StandIns.passesOptionsOn_libraries StandIns.detectsBaseName_libraries
  obtain ⟨-, hhash⟩ := hfirst _ _ _ _ hnamed
  obtain ⟨hstop, -⟩ := hfirst _ _ _ _ hnameless
  obtain ⟨exit, hplan, hexit, -⟩ := hstop (by decide)
  exact ⟨hnamed, (hhash "--" rfl).1, (htaken _ _).mpr rfl, hnameless, exit, hplan, hexit⟩

/-- A program whose name is a control sequence is shown to have none, by an output library that takes
control sequences out. -/
theorem usage_without_control_sequence :
    let lib := StandIns.libraries
    let name := "\x1b[0m"
    let stderr name := (run lib name [] [] (FileSystem.hashFile ⟨.directory [], []⟩)).stderr
    lib.Starts name [] [] false ∧ TakenAsPaths [] [] ∧ stderr name = "Usage:  <file-path>\n" ∧
      ¬ ∀ name, name ≠ "" → lib.Starts name [] [] false →
        stderr name = "Usage: " ++ name ++ " <file-path>\n" := by
  intro lib name stderr
  have hstarts : lib.Starts name [] [] false := ⟨rfl, rfl⟩
  have hname : name.toList = '\x1b' :: '[' :: (['0'] ++ ([] ++ ['m'])) := by decide
  have hsequence : IsControlSequence name.toList :=
    hname ▸ .mk (by simp) (by simp) (by decide)
  have hremove : ControlSequence.remove (usage name).toList = "Usage:  <file-path>".toList := by
    have husage : (usage name).toList =
        "Usage: ".toList ++ (name.toList ++ " <file-path>".toList) := by simp [usage]
    rw [husage, ControlSequence.remove_append_of_not_mem (by decide),
      ControlSequence.remove_append hsequence,
      ControlSequence.remove_eq_self (ControlSequence.not_infix_of_not_mem (by decide))]
    rfl
  have hstderr : stderr name = "Usage:  <file-path>\n" := by
    show (run lib name [] [] _).stderr = _
    rw [run_of_usage hstarts (by decide)]
    show String.ofList (ControlSequence.remove (usage name).toList) ++ "\n" = _
    rw [hremove]
    rfl
  refine ⟨hstarts, .nil, hstderr, fun h => ?_⟩
  have hverbatim := hstderr.symm.trans (h name (by decide) hstarts)
  revert hverbatim
  decide

end CommandLine

end DigestRecord
