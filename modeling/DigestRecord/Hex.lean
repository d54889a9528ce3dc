/-!
# Hexadecimal text

Bytes are written as two digits each, high half first, in lower case and without separators.
Reading goes the other way: `decodeLower?` takes exactly the text `encode` writes, and `decode?`
takes either case.

Everything here works on `List Char`; a caller that wants a `String` applies `String.ofList` once,
at the end.
-/

namespace DigestRecord

namespace Hex

/-! ## One digit -/

/-- The digit of a value below sixteen. -/
def digit (d : Fin 16) : Char := Char.ofNat (if d.val < 10 then 48 + d.val else 87 + d.val)

/-- The value of a lower-case digit. -/
def lowerDigit? (c : Char) : Option (Fin 16) :=
  if h : 48 ≤ c.toNat ∧ c.toNat ≤ 57 then some ⟨c.toNat - 48, by omega⟩
  else if h : 97 ≤ c.toNat ∧ c.toNat ≤ 102 then some ⟨c.toNat - 87, by omega⟩
  else none

/-- The value of a digit of either case. -/
def digit? (c : Char) : Option (Fin 16) := lowerDigit? c.toLower

theorem lowerDigit?_digit (d : Fin 16) : lowerDigit? (digit d) = some d := by
  revert d
  decide

/-! ## Bytes -/

/-- The text of some bytes, two digits a byte. -/
def encode : List UInt8 → List Char
  | [] => []
  | b :: bs => digit (Fin.ofNat 16 (b.toNat / 16)) :: digit (Fin.ofNat 16 b.toNat) :: encode bs

@[simp] theorem encode_nil : encode [] = [] := rfl

@[simp] theorem length_encode (bs : List UInt8) : (encode bs).length = 2 * bs.length := by
  induction bs with
  | nil => rfl
  | cons b bs ih => simp [encode, ih, Nat.mul_add]

@[simp] theorem encode_append (as bs : List UInt8) : encode (as ++ bs) = encode as ++ encode bs := by
  induction as with
  | nil => rfl
  | cons a as ih => simp [encode, ih]

/-- The bytes that a lower-case text stands for. A text of odd length, or with any other character,
stands for none. -/
def decodeLower? : List Char → Option (List UInt8)
  | [] => some []
  | [_] => none
  | high :: low :: rest =>
    match lowerDigit? high, lowerDigit? low, decodeLower? rest with
    | some h, some l, some bs => some (UInt8.ofNat (16 * h.val + l.val) :: bs)
    | _, _, _ => none

/-- The bytes that a text of either case stands for. -/
def decode? (cs : List Char) : Option (List UInt8) := decodeLower? (cs.map Char.toLower)

/-! ## Numbers of a fixed width -/

/-- The last `width` digits of a number, with leading zeros. -/
def padded : Nat → Nat → List Char
  | 0, _ => []
  | width + 1, n => padded width (n / 16) ++ [digit (Fin.ofNat 16 n)]

@[simp] theorem length_padded (width n : Nat) : (padded width n).length = width := by
  induction width generalizing n with
  | zero => rfl
  | succ width ih => simp [padded, ih]

end Hex

end DigestRecord
