import DigestRecord.Decimal
import DigestRecord.Fault

/-!
# Log lines

Diagnostics on the way, all of them at the same level. Hashing a file says what went wrong at the
step where it happened, or that all went well; the command line adds the error that it reports.
-/

namespace DigestRecord

/-- What hashing a file has to say. -/
inductive Notice where
  | cannotOpen (path : String) (fault : Fault)
  | cannotStart (fault : Fault)
  | readFailed (path : String) (total : Int) (fault : Fault)
  | updateFailed (path : String) (fault : Fault)
  | finishFailed (path : String) (fault : Fault)
  | closeFailed (path : String) (fault : Fault)
  | hashed (path : String) (total : Int)
  deriving DecidableEq

/-- The wording of a notice. -/
def Notice.text : Notice → String
  | .cannotOpen path fault => "Cannot open " ++ path ++ ": " ++ fault.text
  | .cannotStart fault => "Cannot initialize sha256 context: " ++ fault.text
  | .readFailed path total fault =>
    "Read failed for " ++ path ++ " after " ++ String.ofList (Decimal.ofInt total) ++ " bytes: " ++
      fault.text
  | .updateFailed path fault => "Digest update failed for " ++ path ++ ": " ++ fault.text
  | .finishFailed path fault => "Digest finalize failed for " ++ path ++ ": " ++ fault.text
  | .closeFailed path fault => "Close failed for " ++ path ++ ": " ++ fault.text
  | .hashed path total =>
    "Hashed " ++ path ++ " (" ++ String.ofList (Decimal.ofInt total) ++ " bytes)"

/-- Whether a notice can be put into words, as far as its number goes. -/
def Notice.isWritable : Notice → Bool
  | .readFailed _ total _ | .hashed _ total => Decimal.isWritable total
  | _ => true

/-- The fault of a notice that cannot be put into words. -/
def Notice.unwritable : Fault := .value Decimal.refusal

/-- Who writes to the log. -/
inductive Logger where
  | hashing
  | commandLine
  deriving DecidableEq

/-- The name of a logger. -/
def Logger.name : Logger → String
  | .hashing => "sfd_hash.hasher"
  | .commandLine => "sfd_hash.cli"

/-- A line of the log. -/
structure LogLine where
  logger : Logger
  text : String
  deriving DecidableEq

namespace LogLine

/-- The line that a notice makes. -/
def ofNotice (n : Notice) : LogLine := ⟨.hashing, n.text⟩

/-- A line with its level and the name of its logger. -/
def display (l : LogLine) : String := "DEBUG " ++ l.logger.name ++ " " ++ l.text

end LogLine

end DigestRecord
