import DigestRecord.Fault

/-!
# Sources and the read buffer

An opened file is seen through its reads: each one is offered the same buffer, puts some bytes at its
start and reports a number. A source lists what its reads do, in order; after the last one every read
reports the end. Opening and closing may fail as well.

A sound read reports how many bytes it wrote. Nothing here relies on that: what is hashed is the part
of the buffer that the reported number names, whatever was written to it and when.
-/

namespace DigestRecord

/-- The size of the read buffer in bytes. -/
def bufferSize : Nat := 65536

/-- What one read does: it writes bytes to the start of the buffer and reports a number, or nothing,
or it fails. -/
inductive Read where
  | delivered (written : List UInt8) (reported : Option Int)
  | failed (fault : Fault)
  deriving DecidableEq

namespace Read

/-- The read that finds the end of the file. -/
def atEnd : Read := .delivered [] (some 0)

/-- The reads that deliver some bytes, as many at a time as the buffer holds. No bytes at all still
take one read, and that one finds the end. -/
def ofBytes (bytes : List UInt8) : List Read :=
  if bytes.length ≤ bufferSize then [.delivered bytes (some bytes.length)]
  else .delivered (bytes.take bufferSize) (some bufferSize) :: ofBytes (bytes.drop bufferSize)
termination_by bytes.length
decreasing_by
  simp only [List.length_drop, bufferSize]
  simp only [bufferSize] at *
  omega

end Read

/-- A file as hashing it sees it. -/
structure Source where
  openFault : Option Fault
  reads : List Read
  closeFault : Option Fault
  deriving DecidableEq

namespace Source

/-- A file that cannot be opened. -/
def unopenable (fault : Fault) : Source := ⟨some fault, [], none⟩

/-- A sound file with some content. -/
def ofBytes (bytes : List UInt8) : Source := ⟨none, Read.ofBytes bytes, none⟩

end Source

/-- The bytes of a read buffer. -/
structure Buffer where
  bytes : List UInt8
  length_bytes : bytes.length = bufferSize
  deriving DecidableEq

namespace Buffer

/-- The buffer before the first read. -/
def zeros : Buffer := ⟨List.replicate bufferSize 0, List.length_replicate⟩

/-- The buffer after bytes were written to its start. The rest of it stays as it was. -/
def overwrite (b : Buffer) (written : List UInt8) : Buffer :=
  ⟨written.take bufferSize ++ b.bytes.drop written.length, by
    have := b.length_bytes
    simp only [List.length_append, List.length_take, List.length_drop]
    omega⟩

/-- The part of the buffer that a number names: its first `n` bytes, or all of it if it is shorter,
and for a negative number all but the last `-n`. -/
def slice (b : Buffer) : Int → List UInt8
  | .ofNat n => b.bytes.take n
  | .negSucc n => b.bytes.take (bufferSize - (n + 1))

/-- Bytes that were just written are the bytes that their number names. -/
theorem slice_overwrite (b : Buffer) {written : List UInt8} (h : written.length ≤ bufferSize) :
    (b.overwrite written).slice written.length = written := by
  simp [slice, overwrite, List.take_of_length_le h]

end Buffer

end DigestRecord
