/-!
# SHA-256

The hash function of FIPS 180-4 with 256-bit output. A message is padded to whole blocks of
sixty-four bytes, the blocks are compressed one after the other into a chaining value of eight words,
and the bytes of the last chaining value are the digest.
-/

namespace DigestRecord

namespace Sha256

/-- The size of a block in bytes. -/
def blockSize : Nat := 64

/-- The size of a digest in bytes. -/
def digestSize : Nat := 32

/-! ## Words -/

/-- Rotation of a word to the right. -/
def rotate (x n : UInt32) : UInt32 := (x >>> n) ||| (x <<< (32 - n))

/-- Chooses the bits of `y` where `x` is set, and those of `z` elsewhere. -/
def choose (x y z : UInt32) : UInt32 := (x &&& y) ^^^ (~~~x &&& z)

/-- The majority of three, bit by bit. -/
def majority (x y z : UInt32) : UInt32 := (x &&& y) ^^^ (x &&& z) ^^^ (y &&& z)

/-- Mixes the first working word in a round. -/
def bigSigma0 (x : UInt32) : UInt32 := rotate x 2 ^^^ rotate x 13 ^^^ rotate x 22

/-- Mixes the fifth working word in a round. -/
def bigSigma1 (x : UInt32) : UInt32 := rotate x 6 ^^^ rotate x 11 ^^^ rotate x 25

/-- Mixes the word fifteen places back in the schedule. -/
def smallSigma0 (x : UInt32) : UInt32 := rotate x 7 ^^^ rotate x 18 ^^^ (x >>> 3)

/-- Mixes the word two places back in the schedule. -/
def smallSigma1 (x : UInt32) : UInt32 := rotate x 17 ^^^ rotate x 19 ^^^ (x >>> 10)

/-- The first thirty-two bits of the fractional parts of the cube roots of the first sixty-four
primes: one word for each round. -/
def roundConstants : List UInt32 := [
  0x428a2f98, 0x71374491, 0xb5c0fbcf, 0xe9b5dba5, 0x3956c25b, 0x59f111f1, 0x923f82a4, 0xab1c5ed5,
  0xd807aa98, 0x12835b01, 0x243185be, 0x550c7dc3, 0x72be5d74, 0x80deb1fe, 0x9bdc06a7, 0xc19bf174,
  0xe49b69c1, 0xefbe4786, 0x0fc19dc6, 0x240ca1cc, 0x2de92c6f, 0x4a7484aa, 0x5cb0a9dc, 0x76f988da,
  0x983e5152, 0xa831c66d, 0xb00327c8, 0xbf597fc7, 0xc6e00bf3, 0xd5a79147, 0x06ca6351, 0x14292967,
  0x27b70a85, 0x2e1b2138, 0x4d2c6dfc, 0x53380d13, 0x650a7354, 0x766a0abb, 0x81c2c92e, 0x92722c85,
  0xa2bfe8a1, 0xa81a664b, 0xc24b8b70, 0xc76c51a3, 0xd192e819, 0xd6990624, 0xf40e3585, 0x106aa070,
  0x19a4c116, 0x1e376c08, 0x2748774c, 0x34b0bcb5, 0x391c0cb3, 0x4ed8aa4a, 0x5b9cca4f, 0x682e6ff3,
  0x748f82ee, 0x78a5636f, 0x84c87814, 0x8cc70208, 0x90befffa, 0xa4506ceb, 0xbef9a3f7, 0xc67178f2]

/-! ## Bytes and words, most significant byte first -/

/-- The words that some bytes spell. Bytes that do not fill a word are left out. -/
def wordsOfBytes : List UInt8 → List UInt32
  | a :: b :: c :: d :: rest =>
    ((a.toUInt32 <<< 24) ||| (b.toUInt32 <<< 16) ||| (c.toUInt32 <<< 8) ||| d.toUInt32) ::
      wordsOfBytes rest
  | _ => []

/-- The four bytes of a word. -/
def bytesOfWord (w : UInt32) : List UInt8 :=
  [(w >>> 24).toUInt8, (w >>> 16).toUInt8, (w >>> 8).toUInt8, w.toUInt8]

/-- The last `width` bytes of a number. -/
def bytesOfNat : Nat → Nat → List UInt8
  | 0, _ => []
  | width + 1, n => bytesOfNat width (n / 256) ++ [UInt8.ofNat n]

@[simp] theorem length_bytesOfNat (width n : Nat) : (bytesOfNat width n).length = width := by
  induction width generalizing n with
  | zero => rfl
  | succ width ih => simp [bytesOfNat, ih]

/-! ## Compression -/

/-- The eight words of a chaining value, also the working words of a round. -/
structure State where
  a : UInt32
  b : UInt32
  c : UInt32
  d : UInt32
  e : UInt32
  f : UInt32
  g : UInt32
  h : UInt32
  deriving DecidableEq

namespace State

/-- The first thirty-two bits of the fractional parts of the square roots of the first eight
primes. -/
def start : State :=
  ⟨0x6a09e667, 0xbb67ae85, 0x3c6ef372, 0xa54ff53a, 0x510e527f, 0x9b05688c, 0x1f83d9ab, 0x5be0cd19⟩

/-- Word-wise sum. -/
def add (s t : State) : State :=
  ⟨s.a + t.a, s.b + t.b, s.c + t.c, s.d + t.d, s.e + t.e, s.f + t.f, s.g + t.g, s.h + t.h⟩

/-- The thirty-two bytes of a chaining value. -/
def toBytes (s : State) : List UInt8 :=
  bytesOfWord s.a ++ bytesOfWord s.b ++ bytesOfWord s.c ++ bytesOfWord s.d ++
    bytesOfWord s.e ++ bytesOfWord s.f ++ bytesOfWord s.g ++ bytesOfWord s.h

@[simp] theorem length_toBytes (s : State) : s.toBytes.length = 32 := rfl

/-- One round, with its constant and its word of the schedule. -/
def round (s : State) (constant word : UInt32) : State :=
  let t₁ := s.h + bigSigma1 s.e + choose s.e s.f s.g + constant + word
  let t₂ := bigSigma0 s.a + majority s.a s.b s.c
  ⟨t₁ + t₂, s.a, s.b, s.c, s.d + t₁, s.e, s.f, s.g⟩

end State

/-- One more word of the schedule, made from four of the last sixteen. -/
def extend (w : Array UInt32) : Array UInt32 :=
  let i := w.size
  w.push (smallSigma1 (w.getD (i - 2) 0) + w.getD (i - 7) 0 + smallSigma0 (w.getD (i - 15) 0) +
    w.getD (i - 16) 0)

/-- The sixty-four words that the rounds use: the sixteen of the block, and forty-eight more. -/
def schedule (block : List UInt8) : List UInt32 :=
  ((List.range 48).foldl (fun w _ => extend w) (wordsOfBytes block).toArray).toList

/-- Takes one block of sixty-four bytes into a chaining value. -/
def State.compress (s : State) (block : List UInt8) : State :=
  s.add ((roundConstants.zip (schedule block)).foldl (fun t p => t.round p.1 p.2) s)

/-! ## Messages -/

/-- The whole blocks at the front of some bytes. -/
def blocks (bs : List UInt8) : List (List UInt8) :=
  if blockSize ≤ bs.length then bs.take blockSize :: blocks (bs.drop blockSize) else []
termination_by bs.length
decreasing_by
  simp only [List.length_drop, blockSize]
  simp only [blockSize] at *
  omega

/-- What follows a message of `length` bytes: a set bit, zeros, and the length in bits as a number
of sixty-four bits, so that whole blocks result. -/
def padding (length : Nat) : List UInt8 :=
  0x80 :: (List.replicate ((blockSize + 55 - length % blockSize) % blockSize) 0 ++
    bytesOfNat 8 (8 * length))

/-- The digest of a message. -/
def digest (message : List UInt8) : List UInt8 :=
  ((blocks (message ++ padding message.length)).foldl State.compress State.start).toBytes

@[simp] theorem length_digest (message : List UInt8) : (digest message).length = digestSize :=
  State.length_toBytes _

/-- A padded message consists of whole blocks. -/
theorem length_padded_mod (length : Nat) : (length + (padding length).length) % blockSize = 0 := by
  simp only [padding, List.length_cons, List.length_append, List.length_replicate,
    length_bytesOfNat, blockSize]
  omega

theorem blocks_of_lt {bs : List UInt8} (h : bs.length < blockSize) : blocks bs = [] := by
  rw [blocks, if_neg (by omega)]

/-- Blocks can be cut off where a block ends. -/
theorem blocks_append {as : List UInt8} (h : as.length % blockSize = 0) (bs : List UInt8) :
    blocks (as ++ bs) = blocks as ++ blocks bs := by
  by_cases hlt : as.length < blockSize
  · have hnil : as = [] := by
      rw [← List.length_eq_zero_iff]
      rw [Nat.mod_eq_of_lt hlt] at h
      exact h
    subst hnil
    rw [blocks_of_lt hlt, List.nil_append, List.nil_append]
  · have hle : blockSize ≤ as.length := by omega
    have hsub : (as.drop blockSize).length % blockSize = 0 := by
      rw [List.length_drop, ← Nat.mod_eq_sub_mod hle]
      exact h
    have ih := blocks_append hsub bs
    rw [blocks.eq_def (as ++ bs), blocks.eq_def as, if_pos hle,
      if_pos (by rw [List.length_append]; omega), List.take_append_of_le_length hle,
      List.drop_append_of_le_length hle, ih, List.cons_append]
termination_by as.length
decreasing_by
  simp only [List.length_drop, blockSize] at *
  omega

theorem blocks_singleton {bs : List UInt8} (h : bs.length = blockSize) : blocks bs = [bs] := by
  rw [blocks, if_pos (by omega), List.take_of_length_le (by omega),
    blocks_of_lt (by rw [List.length_drop, h]; decide)]

end Sha256

end DigestRecord
