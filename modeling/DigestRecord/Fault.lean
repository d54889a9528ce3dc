import DigestRecord.Decimal

/-!
# Faults

What can go wrong outside of this library, in the file system or in a digest primitive, told apart as
far as it makes a difference: faults of the system, unsuitable values, all other faults of a running
program, and the user's wish to stop.
-/

namespace DigestRecord

/-- Something that went wrong, with its wording. A fault of the system may come with a number. -/
inductive Fault where
  | system (number : Option Int) (message : String)
  | value (message : String)
  | runtime (message : String)
  | interrupt (message : String)
  deriving DecidableEq

namespace Fault

/-- The text of a fault. -/
def text : Fault → String
  | .system (some n) message => "[Errno " ++ String.ofList (Decimal.ofInt n) ++ "] " ++ message
  | .system none message => message
  | .value message => message
  | .runtime message => message
  | .interrupt message => message

/-- Whether the system reported the fault. -/
def isSystem : Fault → Bool
  | .system _ _ => true
  | _ => false

/-- Whether a fault says that a file cannot be opened: the system reported it, or the path was no
path. -/
def isRefusal : Fault → Bool
  | .system _ _ => true
  | .value _ => true
  | _ => false

/-- Whether the user wished to stop. -/
def isInterrupt : Fault → Bool
  | .interrupt _ => true
  | _ => false

end Fault

end DigestRecord
