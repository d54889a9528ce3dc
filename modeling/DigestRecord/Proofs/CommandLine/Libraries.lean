import DigestRecord.Proofs.Text.ControlSequences
import DigestRecord.StandIns

/-!
# What is taken for granted of the libraries

The libraries that the program uses are a parameter, and what is proved of the program is proved whatever
they are, as far as they do what they are documented to do. Here that is written down, one property for
each of them; a theorem asks for those that it needs.

* The output library writes a text as it is, with a line break behind it, unless there is a control
  sequence in the text. What it does with those is left open.
* The library for the command line takes the first argument that is two dashes for the end of options. As
  no options are declared, all other arguments are passed on. It calls a program by the last part of the
  text that the user called it by, and it stops an interrupted run with status 1 and a message that does
  not go to the standard output.

Nothing is taken for granted of the library for settings but that it has an answer, and nothing of what
ends a run before the command begins. Which runs reach the command and which settings are accepted is said
run by run (`Libraries.Starts`).

The stand-ins have all of these properties, so no theorem that asks for them is empty.
-/

namespace DigestRecord

namespace CommandLine

open ControlSequence (IsControlSequence)

namespace Libraries

variable {ε : Type} (lib : Libraries ε)

/-- A text without a control sequence in it is written as it is, on a line of its own. -/
def EchoesVerbatim : Prop :=
  ∀ stream text, (∀ s, IsControlSequence s → ¬ s <:+: text.toList) →
    lib.echo stream text = text ++ "\n"

/-- The arguments are gone through one by one: two dashes end the options, and what is not two dashes is
no option and is passed on. -/
structure PassesOptionsOn : Prop where
  nil : lib.positional [] = []
  dashes (rest : List String) : lib.positional ("--" :: rest) = rest
  argument {argument : String} (ne_dashes : argument ≠ "--") (rest : List String) :
    lib.positional (argument :: rest) = argument :: lib.positional rest

/-- A program is called by the last part of the text that it was called by. -/
def DetectsBaseName : Prop :=
  ∀ zeroth, lib.detected zeroth = String.ofList (Path.baseName zeroth.toList)

/-- An interrupted run ends with status 1, and nothing on the standard output. -/
structure AbortsQuietly : Prop where
  status : lib.interrupted.status = 1
  stdout : lib.interrupted.stdout = ""

/-- A run gets as far as the command. -/
def Reaches (name : String) (arguments : List String) (environment : List (String × String)) : Prop :=
  lib.early name arguments environment = none

/-- The setting can be made out in an environment. -/
def Accepts (environment : List (String × String)) : Prop :=
  ∃ on, Settings.verbose lib.settings [] environment = .ok on

/-- A run gets as far as the command and knows whether it is verbose. -/
structure Starts (name : String) (arguments : List String) (environment : List (String × String))
    (on : Bool) : Prop where
  reaches : lib.Reaches name arguments environment
  settings : Settings.verbose lib.settings [] environment = .ok on

end Libraries

variable {ε : Type} {lib : Libraries ε}

end CommandLine

/-! ## The stand-ins -/

namespace StandIns

open CommandLine (Libraries)

theorem echoesVerbatim_libraries : libraries.EchoesVerbatim := by
  intro stream text h
  show String.ofList (ControlSequence.remove text.toList) ++ "\n" = _
  rw [ControlSequence.remove_eq_self h, String.ofList_toList]

theorem passesOptionsOn_libraries : libraries.PassesOptionsOn where
  nil := rfl
  dashes rest := List.erase_cons_head "--" rest
  argument h _ := List.erase_cons_tail (by simpa using h)

theorem detectsBaseName_libraries : libraries.DetectsBaseName := fun _ => rfl

theorem abortsQuietly_libraries : libraries.AbortsQuietly := ⟨rfl, rfl⟩

/-- A run reaches the command unless the variable for completion is there and is not empty. -/
theorem reaches_libraries_iff {name : String} {arguments : List String}
    {environment : List (String × String)} : libraries.Reaches name arguments environment ↔
      (environment.lookup (completionVariable name)).getD "" = "" := by
  rw [Libraries.Reaches]
  show early name arguments environment = none ↔ _
  simp [early]

end StandIns

end DigestRecord
