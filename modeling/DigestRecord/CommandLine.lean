import DigestRecord.Hashing.Run
import DigestRecord.Record.Line
import DigestRecord.Settings

/-!
# The command line

The program takes one path and writes the record of that file to the standard output. It declares no
options: what its arguments leave has to be one path.

The exit status is the one of the failure, if there was one, and nothing is written to the standard
output then. Being verbose adds log lines and changes nothing else.

Between the program and the system there are libraries, for the command line, for its output, for its log
and for its settings. They are not part of this one: what they do for the program is a parameter
(`Libraries`). Among other things they look at variables of their own, such as those for the completion of
commands and for the width of the terminal, and may end a run before the command begins. How the log is
drawn is left out; its lines are kept.
-/

namespace DigestRecord

namespace CommandLine

/-- What ends the program without a message of its own. The errors of settings are `ε`. -/
inductive Uncaught (ε : Type) where
  | settings (e : ε)
  | fault (f : Fault)
  | noDigest
  | format (e : Record.FormatError)
  deriving DecidableEq

/-- What a run of the program leaves behind. -/
structure Exit (ε : Type) where
  status : Nat
  stdout : String
  stderr : String
  log : List LogLine
  uncaught : Option (Uncaught ε)
  deriving DecidableEq

/-- The two outputs. -/
inductive Stream where
  | stdout
  | stderr
  deriving DecidableEq

/-- What the libraries do for the program. -/
structure Libraries (ε : Type) where
  /-- How a run under a name, with some arguments and variables, ends before the command begins, if it
  does. -/
  early : String → List String → List (String × String) → Option (Exit ε)
  settings : Settings.Library ε
  /-- The arguments that are left for a command without options that lets unknown ones pass. -/
  positional : List String → List String
  /-- What is written of a text to an output, with the end of its line. -/
  echo : Stream → String → String
  /-- The name of a program, from the text that it was called by. -/
  detected : String → String
  /-- How a run ends that the user stopped. -/
  interrupted : Exit ε

/-- The name that the program goes by if it was given none. -/
def defaultName : String := "sfd-hash"

/-- The name that the program goes by. -/
def programName (given : String) : String := if given.isEmpty then defaultName else given

/-- The usage message. -/
def usage (name : String) : String := "Usage: " ++ name ++ " <file-path>"

variable {ε : Type} (lib : Libraries ε)

/-- What the outcome of hashing makes of the run, apart from the log. -/
def exitOf : Except HashFailure FileDigest → Exit ε
  | .ok d =>
    match Record.format d with
    | .ok line => ⟨0, lib.echo .stdout line, "", [], none⟩
    | .error e => ⟨1, "", "", [], some (.format e)⟩
  | .error (.reported e) =>
    ⟨e.category.kind.status, "", lib.echo .stderr e.category.message, [], none⟩
  | .error (.escaped f) =>
    if f.isInterrupt then lib.interrupted else ⟨1, "", "", [], some (.fault f)⟩
  | .error .noDigest => ⟨1, "", "", [], some .noDigest⟩

/-- The log of a run that hashed a file. -/
def logOf (report : Report) : List LogLine :=
  report.log.map .ofNotice ++
    match report.result with
    | .error (.reported e) => [⟨.commandLine, e.message⟩]
    | _ => []

/-- What the program does first: it ends at once, or it goes on to hash a file. -/
inductive Plan (ε : Type) where
  | stop (exit : Exit ε)
  | hash (path : String) (verbose : Bool)
  deriving DecidableEq

/-- What the command does first. The settings are looked at before the paths are counted. -/
def command (name : String) (paths : List String) (environment : List (String × String)) : Plan ε :=
  match Settings.verbose lib.settings [] environment with
  | .error e => .stop ⟨1, "", "", [], some (.settings e)⟩
  | .ok verbose =>
    match paths with
    | [path] => .hash path verbose
    | _ =>
      .stop ⟨FailureKind.usage.status, "", lib.echo .stderr (usage (programName name)), [], none⟩

/-- What the program does first. -/
def plan (name : String) (arguments : List String) (environment : List (String × String)) : Plan ε :=
  match lib.early name arguments environment with
  | some exit => .stop exit
  | none => command lib name (lib.positional arguments) environment

/-- How the program ends once the file is hashed. -/
def finish (verbose : Bool) (report : Report) : Exit ε :=
  { exitOf lib report.result with log := if verbose then logOf report else [] }

/-- Runs the program. `hash` hashes the file at a path, in a run that is verbose or not. -/
def run (name : String) (arguments : List String) (environment : List (String × String))
    (hash : Bool → String → Report) : Exit ε :=
  match plan lib name arguments environment with
  | .stop exit => exit
  | .hash path verbose => finish lib verbose (hash verbose path)

end CommandLine

end DigestRecord
