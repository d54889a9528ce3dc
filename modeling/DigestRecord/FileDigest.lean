import DigestRecord.Hex

/-!
# File digests

What hashing a file yields: the digest, and how many bytes went into it. Two file digests are equal
when both agree.

The digest may be of any length here, and the count may be any whole number. Who makes a file digest
sees to it that they are right.
-/

namespace DigestRecord

/-- The digest of a file, with the number of bytes that were hashed. -/
structure FileDigest where
  digest : List UInt8
  byteCount : Int
  deriving DecidableEq

namespace FileDigest

/-- The digest in hexadecimal. -/
def hexDigest (d : FileDigest) : String := String.ofList (Hex.encode d.digest)

end FileDigest

end DigestRecord
