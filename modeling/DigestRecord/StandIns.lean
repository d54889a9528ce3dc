import DigestRecord.CommandLine
import DigestRecord.FileSystem.Path
import DigestRecord.Text.ControlSequence

/-!
# Stand-ins for the libraries

What the program runs with here in place of the libraries that it leaves to others. The stand-ins do what
those are documented to do, in the plainest case:

* the setting comes from a variable, the last one of its name, and is one of a few words;
* of the arguments, the first that is two dashes is taken out and all others are left;
* a text is written without its control sequences, as to an output that is no terminal;
* a program is named by the last part of the text that it was called by;
* a variable that asks for the completion of commands ends the run, and nothing is completed.

What is proved of the program is proved of all libraries that behave as documented, so that these are
examples of them and no more.
-/

namespace DigestRecord

namespace StandIns

open CommandLine (Stream Exit Libraries)

/-- A word that does not stand for on or off. -/
structure NotASwitch where
  word : String
  deriving DecidableEq

/-- The words for off, in lower case. -/
def offWords : List String := ["0", "off", "f", "false", "n", "no"]

/-- The words for on, in lower case. -/
def onWords : List String := ["1", "on", "t", "true", "y", "yes"]

/-- A text in lower case, as far as it is ASCII. -/
def lower (text : String) : String := String.ofList (text.toList.map Char.toLower)

/-- What a word stands for, in letters of either case. -/
def switch (word : String) : Except NotASwitch Bool :=
  if offWords.contains (lower word) then .ok false
  else if onWords.contains (lower word) then .ok true
  else .error ⟨word⟩

/-- Makes out a setting from the environment. The program gives no overrides, and they are not looked
at. -/
def settings : Settings.Library NotASwitch := fun declaration _ environment =>
  let wanted := lower (declaration.stem ++ declaration.name)
  match (environment.filter fun v => lower v.1 == wanted).getLast? with
  | some v => switch v.2
  | none => .ok declaration.otherwise

/-- The variable that asks for the completion of commands. -/
def completionVariable (name : String) : String :=
  let word := name.toList.map fun c => if c == '-' || c == '.' then '_' else c.toUpper
  "_" ++ String.ofList word ++ "_COMPLETE"

/-- A run ends before the command begins if completion is asked for. -/
def early (name : String) (_ : List String) (environment : List (String × String)) :
    Option (Exit NotASwitch) :=
  if ((environment.lookup (completionVariable name)).getD "").isEmpty then none
  else some ⟨1, "", "", [], none⟩

/-- What is written of a text to an output that is no terminal. -/
def echo (_ : Stream) (text : String) : String :=
  String.ofList (ControlSequence.remove text.toList) ++ "\n"

/-- The stand-ins together. -/
def libraries : Libraries NotASwitch where
  early := early
  settings := settings
  positional := fun arguments => arguments.erase "--"
  echo := echo
  detected := fun zeroth => String.ofList (Path.baseName zeroth.toList)
  interrupted := ⟨1, "", "\nAborted!\n", [], none⟩

end StandIns

end DigestRecord
