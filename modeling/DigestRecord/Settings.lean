import DigestRecord.Json.Value

/-!
# Settings

The program has one setting, whether it is verbose. Here it is declared: its name, what the names of
variables start with, and that it is off if nobody says anything else.

Where a declared setting is looked up, what comes before what, and which words stand for on and off is the
business of a library for settings. That library is not part of this one and is a parameter here.
-/

namespace DigestRecord

namespace Settings

/-- The declaration of a setting that is on or off: its name, what a variable for it has in front of that
name, what it is if nothing is said, and whether other names are passed over. -/
structure Declaration where
  stem : String
  name : String
  otherwise : Bool
  ignoresOthers : Bool
  deriving DecidableEq

/-- Whether the program is verbose. -/
def declaration : Declaration := ⟨"SFD_HASH_", "verbose", false, true⟩

/-- What a library for settings does: from a declaration, overrides and the variables of the environment
it makes the setting out, or refuses them with an error of its own. -/
abbrev Library (ε : Type) : Type :=
  Declaration → List (String × Json.Value) → List (String × String) → Except ε Bool

/-- Whether the program is verbose, as the library makes it out. -/
def verbose {ε : Type} (library : Library ε) (overrides : List (String × Json.Value))
    (environment : List (String × String)) : Except ε Bool :=
  library declaration overrides environment

end Settings

end DigestRecord
