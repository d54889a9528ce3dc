import DigestRecord.Fault

/-!
# Failures

Two things can fail when a file is hashed, the file and the hashing, and a program can be called the
wrong way. Each kind of failure has its exit status; the two that concern a file have a fixed wording,
while a usage message depends on the name of the program.
-/

namespace DigestRecord

/-- The kinds of failure of the program. -/
inductive FailureKind where
  | usage
  | io
  | hashing
  deriving DecidableEq

/-- What failed when a file was hashed. -/
inductive Category where
  | io
  | hashing
  deriving DecidableEq

namespace Category

/-- The kind of failure that a category makes. -/
def kind : Category → FailureKind
  | .io => .io
  | .hashing => .hashing

/-- The fixed wording of a category. -/
def message : Category → String
  | .io => "File I/O error"
  | .hashing => "Hashing error"

end Category

namespace FailureKind

/-- The exit status. -/
def status : FailureKind → Nat
  | .usage => 1
  | .io => 2
  | .hashing => 3

end FailureKind

/-- The error with which hashing a file ends: which file, what failed, the details, and the fault
behind it if there is one. -/
structure HashError where
  category : Category
  path : String
  detail : String
  cause : Option Fault
  deriving DecidableEq

/-- The wording of an error. -/
def HashError.message (e : HashError) : String :=
  e.category.message ++ " for " ++ e.path ++ ": " ++ e.detail

end DigestRecord
