import DigestRecord.FileSystem.Resolve
import DigestRecord.Hashing.Run

/-!
# Hashing files of a tree

A file that a path leads to reads soundly from start to end. A path that leads to none cannot be
opened.
-/

namespace DigestRecord

namespace FileSystem

/-- What opening a path gives to hash. -/
def source (fs : FileSystem) (path : String) : Source :=
  match fs.readFile path.toList with
  | .ok bytes => .ofBytes bytes
  | .error e => .unopenable (e.fault path)

/-- Hashes the file that a path leads to. -/
def hashFile (fs : FileSystem) (verbose : Bool) (path : String) : Report :=
  DigestRecord.hashFile verbose Engine.sha256 (fs.source path) path

end FileSystem

end DigestRecord
