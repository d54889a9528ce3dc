import DigestRecord.Fault
import DigestRecord.Json.Decode
import DigestRecord.Json.Display
import DigestRecord.Record.Line
import DigestRecord.Sha256.Basic
import DigestRecord.Text.Blank
import DigestRecord.Text.LowerCase

/-!
# Reading records

A record is read more freely than it is written. Any JSON object will do that has the three members:
white space at the ends of the two texts does not matter, nor does the case of the digest, and other
members are passed over. The count has to be there; it is not taken for zero.

The members are checked in a fixed order, first the algorithm, then the digest, then the count, and
the first one that fails decides. So the answer depends on the three values alone (`check`).
-/

namespace DigestRecord

namespace Record

/-- Why a text is not a record. -/
inductive ReadError where
  | undecodable (e : Json.DecodeError)
  | notAnObject
  | algorithm (found : Text)
  | hashLength (found : Nat)
  | hashNotHex
  | byteCount (found : Json.Value)

/-- The wording of a refusal to read. -/
def ReadError.message : ReadError → String
  | .undecodable (.malformed issue position) =>
    "Record is not valid JSON: " ++ (Json.DecodeError.malformed issue position).message
  | .undecodable e => e.message
  | .notAnObject => "Record must be a JSON object"
  | .algorithm found => "Unexpected algorithm: " ++ String.ofList found.quoted
  | .hashLength found => "Unexpected hash length: " ++ String.ofList (Decimal.ofNat found)
  | .hashNotHex => "Hash is not valid hex"
  | .byteCount found => "Invalid byte count: " ++ String.ofList found.display

/-- The fault that a refusal to read amounts to. All are blamed on the text, but for nesting that is
too deep: there it is the running program that does not go on. -/
def ReadError.fault : ReadError → Fault
  | .undecodable (.tooDeep container) =>
    .runtime (ReadError.undecodable (.tooDeep container)).message
  | e => .value e.message

/-- The refusal that is the cause of another one: only a text that is not JSON has its own. -/
def ReadError.cause : ReadError → Option Json.DecodeError
  | .undecodable (.malformed issue position) => some (.malformed issue position)
  | _ => none

/-- The number of digits of a digest in a record. -/
def hashDigits : Nat := 2 * Sha256.digestSize

/-- Checks the algorithm. -/
def checkAlgorithm (v : Json.Value) : Except ReadError Unit :=
  let found := v.asText.trim
  if found = Text.ofString algorithm then .ok () else .error (.algorithm found)

/-- Checks the digest and takes its bytes. Its length is measured in lower case, which can be longer
than what was written. -/
def checkHash (v : Json.Value) : Except ReadError (List UInt8) :=
  let found := v.asText.trim.toLower
  if found.length ≠ hashDigits then .error (.hashLength found.length)
  else
    match (found.mapM CodePoint.toChar?).bind Hex.decodeLower? with
    | some bytes => .ok bytes
    | none => .error .hashNotHex

/-- Checks the count. -/
def checkByteCount (v : Json.Value) : Except ReadError Int :=
  match v with
  | .int n => if n < 0 then .error (.byteCount v) else .ok n
  | _ => .error (.byteCount v)

/-- The file digest that the three members of a record make, or the first fault in them. -/
def check (algorithm hash byteCount : Json.Value) : Except ReadError FileDigest := do
  checkAlgorithm algorithm
  let digest ← checkHash hash
  let count ← checkByteCount byteCount
  return ⟨digest, count⟩

/-- The member of an object with a given name, or what stands for it if there is none. -/
def member (members : List (Text × Json.Value)) (name : String) (absent : Json.Value) : Json.Value :=
  (members.lookup (Text.ofString name)).getD absent

/-- The file digest that a JSON value records. -/
def ofValue : Json.Value → Except ReadError FileDigest
  | .object members =>
    check (member members "algorithm" (.string [])) (member members "hash" (.string []))
      (member members "bytes" .null)
  | _ => .error .notAnObject

/-- The file digest that a text records. -/
def read (allowed : Json.DepthLimit) (text : String) : Except ReadError FileDigest :=
  match Json.decode allowed text with
  | .error e => .error (.undecodable e)
  | .ok v => ofValue v

end Record

end DigestRecord
