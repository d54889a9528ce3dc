import DigestRecord.Decimal
import DigestRecord.Fault
import DigestRecord.FileSystem.Node
import DigestRecord.Text.Quoted

/-!
# Where a path leads

A path is followed segment by segment, from the root or from the working directory. Every segment has
to be looked up in a directory, also an idle one, so a path that ends in a slash cannot lead to a
file. A link is followed wherever it stands, by going on with its target in front of what is left of
the path; after `maxLinks` links the search is given up.

The search runs on two levels. `advance` takes segments up to the next link, by recursion on them;
`resolve` follows the links, by recursion on how many may still come.
-/

namespace DigestRecord

/-- Why a file cannot be opened. -/
inductive OpenError where
  | notFound
  | notADirectory
  | isADirectory
  | nameTooLong
  | tooManyLinks
  | embeddedNul
  deriving DecidableEq

/-- A fault that the system reports on a path, with the path between quotes. -/
def Fault.concerning (path : String) (number : Int) (message : String) : Fault :=
  .system (some number) (message ++ ": " ++ String.ofList (Text.ofString path).quoted)

/-- The fault that opening a path ends with. A text that is no path at all is not repeated. -/
def OpenError.fault (path : String) : OpenError → Fault
  | .notFound => .concerning path 2 "No such file or directory"
  | .notADirectory => .concerning path 20 "Not a directory"
  | .isADirectory => .concerning path 21 "Is a directory"
  | .nameTooLong => .concerning path 36 "File name too long"
  | .tooManyLinks => .concerning path 40 "Too many levels of symbolic links"
  | .embeddedNul => .value "embedded null byte"

namespace FileSystem

/-- The number of links that are followed for one path. -/
def maxLinks : Nat := 40

/-- The number of bytes that a name may have. -/
def maxNameBytes : Nat := 255

/-- The number of bytes that a path may have. -/
def maxPathBytes : Nat := 4095

/-- How far a path leads without following a link: to a place, to a link in a directory, or to a name
that the directory does not have. -/
inductive Advance where
  | arrived (place : Location)
  | link (directory : Location) (target : List Char) (rest : List Name)
  | missing (directory : Location) (name : Name) (rest : List Name)
  deriving DecidableEq

/-- Takes segments from a place on, up to the first link. -/
def advance (root : Node) (place : Location) : List Name → Except OpenError Advance
  | [] => .ok (.arrived place)
  | s :: rest =>
    match root.at? place with
    | some (.directory entries) =>
      if Path.isIdle s then advance root place rest
      else if Path.isParent s then advance root place.dropLast rest
      else if maxNameBytes < Path.byteSize s then .error .nameTooLong
      else
        match entries.lookup s with
        | none => .ok (.missing place s rest)
        | some (.link target) => .ok (.link place target rest)
        | some _ => advance root (place ++ [s]) rest
    | _ => .error .notADirectory

/-- Where a path leads: to a place, or to a name that is not in its directory. -/
inductive Destination where
  | present (place : Location)
  | missing (directory : Location) (name : Name) (rest : List Name)
  deriving DecidableEq

/-- Where the search for a path starts. -/
def startOf (path : List Char) (place : Location) : Location :=
  if Path.isAbsolute path then [] else place

/-- Takes segments from a place on, through at most `links` links. -/
def resolve (root : Node) (links : Nat) (place : Location) (segments : List Name) :
    Except OpenError Destination :=
  match advance root place segments with
  | .error e => .error e
  | .ok (.arrived last) => .ok (.present last)
  | .ok (.missing directory name rest) => .ok (.missing directory name rest)
  | .ok (.link directory target rest) =>
    match links with
    | 0 => .error .tooManyLinks
    | links + 1 => resolve root links (startOf target directory) (Path.segments target ++ rest)

end FileSystem

/-- A tree of files with a working directory in it. -/
structure FileSystem where
  root : Node
  workingDirectory : Location

namespace FileSystem

/-- Where a path leads from the working directory. -/
def destination (fs : FileSystem) (path : List Char) : Except OpenError Destination :=
  if path.contains '\x00' then .error .embeddedNul
  else if path.isEmpty then .error .notFound
  else if maxPathBytes < Path.byteSize path then .error .nameTooLong
  else resolve fs.root maxLinks (startOf path fs.workingDirectory) (Path.segments path)

/-- The content of the file that a path leads to. -/
def readFile (fs : FileSystem) (path : List Char) : Except OpenError (List UInt8) :=
  match fs.destination path with
  | .error e => .error e
  | .ok (.missing _ _ _) => .error .notFound
  | .ok (.present place) =>
    match fs.root.at? place with
    | some (.file bytes) => .ok bytes
    | some (.directory _) => .error .isADirectory
    | _ => .error .notFound

end FileSystem

end DigestRecord
