import DigestRecord.FileSystem.Resolve
import DigestRecord.StandIns

/-!
# The program

Reads the arguments, the environment and the file, and writes what `CommandLine` says, with `StandIns` for
the libraries. The file is read turn by turn into one buffer, so memory stays bounded whatever its size.
-/

namespace DigestRecord

namespace Main

/-- The environment, in its order; none of it if any part of it is not text. -/
def environment : IO (List (String × String)) := do
  let bytes ← try IO.FS.readBinFile "/proc/self/environ" catch _ => pure ByteArray.empty
  let text := (String.fromUTF8? bytes).getD ""
  return (text.splitOn "\x00").filterMap fun binding =>
    match binding.splitOn "=" with
    | name :: first :: rest => some (name, "=".intercalate (first :: rest))
    | _ => none

/-- The number and the wording of an error of the system. -/
def numbered? : IO.Error → Option (Int × String)
  | .noFileOrDirectory _ code details | .inappropriateType _ code details
  | .invalidArgument _ code details | .permissionDenied _ code details
  | .resourceExhausted _ code details => some (code.toNat, details)
  | .hardwareFault code details | .otherError code details => some (code.toNat, details)
  | _ => none

/-- The fault of opening a path. -/
def openFault (path : String) (e : IO.Error) : Fault :=
  match numbered? e with
  | some (number, message) => .concerning path number message
  | none => .system none e.toString

/-- The fault of a read. -/
def readFault (e : IO.Error) : Fault :=
  match numbered? e with
  | some (number, message) => .system (some number) message
  | none => .system none e.toString

/-- Takes the turns of an opened file. -/
partial def turns (verbose : Bool) (handle : IO.FS.Handle) (path : String) (log : List Notice)
    (p : Progress Sha256.Context) : IO (Traced Ending) := do
  let read ← try
      let bytes ← handle.read bufferSize.toUSize
      pure (Read.delivered bytes.toList (some bytes.size))
    catch e => pure (Read.failed (readFault e))
  let turn := p.step verbose Engine.sha256 path read
  match turn.result with
  | .last ending => return ⟨ending, [], log ++ turn.log⟩
  | .next p => turns verbose handle path (log ++ turn.log) p

/-- Whether a path leads to a directory. -/
def isDirectory (path : String) : IO Bool := do
  try (← IO.FS.realPath path).isDir catch _ => return false

/-- Hashes a file. A directory can be opened like a file here, so it is turned down first. -/
def hash (verbose : Bool) (path : String) : IO Report := do
  if ← isDirectory path then return refuse path (OpenError.isADirectory.fault path)
  try
    let handle ← IO.FS.Handle.mk path .read
    let run ← turns verbose handle path [] (.start .start)
    return closeAfter verbose path run none
  catch e => return refuse path (openFault path e)

/-- Writes what a run leaves behind and gives its status. -/
def leave {ε : Type} (exit : CommandLine.Exit ε) : IO UInt32 := do
  for line in exit.log do
    IO.eprintln line.display
  IO.eprint exit.stderr
  IO.print exit.stdout
  return exit.status.toUInt32

end Main

end DigestRecord

open DigestRecord in
/-- Runs the program. -/
def main (arguments : List String) : IO UInt32 := do
  let lib := StandIns.libraries
  let name := lib.detected (← IO.appPath).toString
  match CommandLine.plan lib name arguments (← Main.environment) with
  | .stop exit => Main.leave exit
  | .hash path verbose => Main.leave (CommandLine.finish lib verbose (← Main.hash verbose path))
