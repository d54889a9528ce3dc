import DigestRecord.Decimal
import DigestRecord.FileDigest

/-!
# Record lines

A record is one line of JSON without any white space: the algorithm, the digest in hexadecimal and
the number of bytes, always in this order.
-/

namespace DigestRecord

namespace Record

/-- The name of the hash function, as records give it. -/
def algorithm : String := "sha256"

/-- The part of a line before the digest. -/
def lineStart : List Char := '{' :: ("\"algorithm\":\"" ++ algorithm ++ "\",\"hash\":\"").toList

/-- The part of a line between the digest and the count. -/
def lineMiddle : List Char := "\",\"bytes\":".toList

/-- The line of a file digest, without a line break. -/
def line (d : FileDigest) : List Char :=
  lineStart ++ (Hex.encode d.digest ++ (lineMiddle ++ (Decimal.ofInt d.byteCount ++ ['}'])))

/-- Why a file digest has no record. -/
inductive FormatError where
  | countTooLong
  deriving DecidableEq

/-- The wording of a refusal to write. -/
def FormatError.message : FormatError → String
  | .countTooLong => Decimal.refusal

/-- The record of a file digest, if its count is not too long to be written. -/
def format (d : FileDigest) : Except FormatError String :=
  if Decimal.isWritable d.byteCount then .ok (String.ofList (line d)) else .error .countTooLong

end Record

end DigestRecord
