import DigestRecord.Proofs.Record.Checking
import DigestRecord.Proofs.Record.Pattern
import Mathlib.Algebra.Group.Nat.Even
import Mathlib.Data.List.Forall2
import Mathlib.Data.Set.Function

/-!
# The text of a digest

A digest is written in hexadecimal and read back from it. Writing knows one form only, with the high half
of each byte first and all letters in lower case. Reading folds the text before it takes the digits, so
that it takes every mixture of cases, and what it has read is written again in lower case.

`foldedBytes?` is what reading does with the text once the white space is off, apart from counting the
digits (`checkHash_eq`). Folding is that of all of Unicode, so that it takes an argument that no other
letters get through (`foldedBytes?_eq_some_iff`).

## Main results

* `Hex.getElem?_encode` — which digits stand at which places
* `Hex.bijOn_encode` — bytes and texts of lower-case digits, two a byte, correspond to each other
* `foldedBytes?_eq_some_iff` — the texts that are read as given bytes
* `encode_read_back` — all of this together
-/

namespace DigestRecord

namespace Hex

/-! ## What is written -/

theorem getElem?_hexDigits (d : Fin 16) : "0123456789abcdef".toList[d.val]? = some (digit d) := by
  revert d
  decide

/-- **Two digits stand for a byte**, the high half first. -/
theorem getElem?_encode {bytes : List UInt8} {i : Nat} {b : UInt8} (h : bytes[i]? = some b) :
    (encode bytes)[2 * i]? = "0123456789abcdef".toList[b.toNat / 16]? ∧
      (encode bytes)[2 * i + 1]? = "0123456789abcdef".toList[b.toNat % 16]? := by
  induction bytes generalizing i with
  | nil => cases h
  | cons first bytes ih =>
    cases i with
    | zero =>
      obtain rfl : first = b := Option.some.inj h
      have hhigh : (Fin.ofNat 16 (first.toNat / 16)).val = first.toNat / 16 :=
        Nat.mod_eq_of_lt (Nat.div_lt_of_lt_mul first.toNat_lt)
      rw [← hhigh, getElem?_hexDigits, ← Fin.val_ofNat 16 first.toNat, getElem?_hexDigits]
      exact ⟨rfl, rfl⟩
    | succ i => exact ih h

/-- The texts of lower-case digits, two a byte, are the encodings. -/
theorem exists_encode_eq_iff {text : List Char} : (∃ bytes, encode bytes = text) ↔
    Even text.length ∧ ∀ c ∈ text, c ∈ "0123456789abcdef".toList := by
  constructor
  · rintro ⟨bytes, rfl⟩
    rw [length_encode]
    exact ⟨⟨_, Nat.two_mul _⟩, fun c hc => Record.mem_hexDigits_of_mem_encode hc⟩
  · rintro ⟨heven, hdigits⟩
    obtain ⟨n, hn⟩ := heven.exists_two_nsmul
    obtain ⟨bytes, -, hbytes⟩ := exists_encode_eq (n := n) hn fun c hc =>
      Record.isSome_lowerDigit?_of_mem_hexDigits (hdigits c hc)
    exact ⟨bytes, hbytes⟩

/-- **Bytes and texts of lower-case digits correspond**, if there are two digits a byte. -/
theorem bijOn_encode : Set.BijOn encode Set.univ
    {text | Even text.length ∧ ∀ c ∈ text, c ∈ "0123456789abcdef".toList} :=
  ⟨fun bytes _ => exists_encode_eq_iff.mp ⟨bytes, rfl⟩, encode_injective.injOn, fun _ htext =>
    (exists_encode_eq_iff.mpr htext).imp fun _ hbytes => ⟨Set.mem_univ _, hbytes⟩⟩

/-! ## Mixtures of cases -/

theorem toLower_eq_digit_iff {c : Char} (d : Fin 16) :
    c.toLower = digit d ↔ c = digit d ∨ c = (digit d).toUpper := by
  have hfixed : (digit d).toLower = digit d ∧ (digit d).toUpper.toLower = digit d := by
    revert d
    decide
  have hupper : (digit d).toUpper.toNat =
      if 0x61 ≤ (digit d).toNat then (digit d).toNat - 0x20 else (digit d).toNat := by
    clear hfixed
    revert d
    decide
  constructor
  · intro h
    have hlower := CodePoint.toNat_toLower c
    rw [h] at hlower
    split at hlower
    · refine .inr (Char.toNat_inj.mp ?_)
      rw [hupper, if_pos (by omega)]
      omega
    · exact .inl (Char.toNat_inj.mp hlower.symm)
  · rintro (rfl | rfl)
    · exact hfixed.1
    · exact hfixed.2

/-- A text is another one with its letters in either case. -/
def IsMixtureOf (text lower : List Char) : Prop :=
  List.Forall₂ (fun c d => c = d ∨ c = d.toUpper) text lower

/-- The mixtures of an encoding are what becomes that encoding in lower case. -/
theorem isMixtureOf_encode_iff {text : List Char} {bytes : List UInt8} :
    IsMixtureOf text (encode bytes) ↔ text.map Char.toLower = encode bytes := by
  have hdigits : ∀ d ∈ encode bytes, ∃ x, d = digit x := fun _ hd => exists_digit_of_mem_encode hd
  generalize encode bytes = lower at hdigits
  induction text generalizing lower with
  | nil => rw [IsMixtureOf, List.forall₂_nil_left_iff, List.map_nil, eq_comm]
  | cons c text ih =>
    cases lower with
    | nil => exact iff_of_false (by rintro ⟨⟩) (by simp)
    | cons d lower =>
      obtain ⟨x, rfl⟩ := hdigits d List.mem_cons_self
      have hrest := ih lower fun d hd => hdigits d (List.mem_cons_of_mem _ hd)
      rw [IsMixtureOf, List.forall₂_cons, List.map_cons, List.cons.injEq, toLower_eq_digit_iff]
      exact and_congr_right fun _ => hrest

theorem mem_hexDigits_toLower {c : Char} (h : c ∈ "0123456789abcdefABCDEF".toList) :
    c.toNat < 0x80 ∧ c.toLower ∈ "0123456789abcdef".toList := by
  have hall : "0123456789abcdefABCDEF".toList.all (fun c =>
      decide (c.toNat < 0x80) && "0123456789abcdef".toList.contains c.toLower) = true := by decide
  simpa using List.all_eq_true.mp hall c h

end Hex

namespace Record

open Hex

/-! ## What is read -/

/-- The bytes that a text is read as, once the white space at its ends is off. -/
def foldedBytes? (text : Text) : Option (List UInt8) :=
  (text.toLower.mapM CodePoint.toChar?).bind decodeLower?

/-- What the check of a digest does: it counts the digits of the folded text, and then reads it. -/
theorem checkHash_eq (v : Json.Value) : checkHash v =
    if v.asText.trim.toLower.length ≠ hashDigits then
      .error (.hashLength v.asText.trim.toLower.length)
    else
      match foldedBytes? v.asText.trim with
      | some bytes => .ok bytes
      | none => .error .hashNotHex :=
  rfl

/-- **The texts that are read as given bytes** are the encoding of these in any mixture of cases. -/
theorem foldedBytes?_eq_some_iff {text : Text} {bytes : List UInt8} : foldedBytes? text = some bytes ↔
    ∃ digits : List Char, text = digits.map CodePoint.ofChar ∧ IsMixtureOf digits (encode bytes) := by
  constructor
  · intro h
    obtain ⟨lower, hlower, hbytes⟩ := Option.bind_eq_some_iff.mp h
    obtain rfl := decodeLower?_eq_some_iff.mp hbytes
    obtain ⟨digits, hdigits, hfold⟩ :=
      Text.exists_of_toLower_eq (Text.eq_map_ofChar_of_mapM_toChar? hlower)
        fun c hc => isSome_lowerDigit?_of_mem_encode hc
    exact ⟨digits, hdigits, isMixtureOf_encode_iff.mpr hfold⟩
  · rintro ⟨digits, rfl, hmixture⟩
    have hfold := isMixtureOf_encode_iff.mp hmixture
    have hascii : ∀ c ∈ digits, c.toNat < 0x80 := (denotes_iff.mpr hfold.symm).isAscii
    rw [foldedBytes?, Text.toLower_map_ofChar hascii, hfold, Text.mapM_toChar?_map_ofChar,
      Option.bind_some, decodeLower?_encode]

/-- Digits of either case, two a byte, are read as some bytes, and these are written as the same digits
in lower case. -/
theorem exists_foldedBytes?_eq {digits : List Char} (heven : Even digits.length)
    (h : ∀ c ∈ digits, c ∈ "0123456789abcdefABCDEF".toList) :
    ∃ bytes, foldedBytes? (digits.map CodePoint.ofChar) = some bytes ∧
      (encode bytes).map CodePoint.ofChar = Text.toLower (digits.map CodePoint.ofChar) := by
  have hlower : ∃ bytes, encode bytes = digits.map Char.toLower := by
    refine exists_encode_eq_iff.mpr ⟨by rwa [List.length_map], fun c hc => ?_⟩
    obtain ⟨d, hd, rfl⟩ := List.mem_map.mp hc
    exact (mem_hexDigits_toLower (h d hd)).2
  obtain ⟨bytes, hbytes⟩ := hlower
  refine ⟨bytes, foldedBytes?_eq_some_iff.mpr ⟨digits, rfl, ?_⟩, ?_⟩
  · exact isMixtureOf_encode_iff.mpr hbytes.symm
  · rw [Text.toLower_map_ofChar fun c hc => (mem_hexDigits_toLower (h c hc)).1, hbytes]

/-- **Bytes are written in hexadecimal and read back.** They are written with two lower-case digits each,
the high half first, and one after the other. What is read as given bytes is what they are written as, in
any mixture of cases. Digits of either case, two a byte, are read, and written again in lower case. So
bytes correspond to the texts of lower-case digits of even length. -/
theorem encode_read_back (bytes : List UInt8) :
    ((encode bytes).length = 2 * bytes.length ∧
        (∀ c ∈ encode bytes, c ∈ "0123456789abcdef".toList) ∧
        ∀ i b, bytes[i]? = some b →
          (encode bytes)[2 * i]? = "0123456789abcdef".toList[b.toNat / 16]? ∧
            (encode bytes)[2 * i + 1]? = "0123456789abcdef".toList[b.toNat % 16]?) ∧
      (∀ more, encode (bytes ++ more) = encode bytes ++ encode more) ∧
      (∀ text, foldedBytes? text = some bytes ↔
        ∃ digits : List Char, text = digits.map CodePoint.ofChar ∧
          IsMixtureOf digits (encode bytes)) ∧
      (∀ digits : List Char, Even digits.length →
        (∀ c ∈ digits, c ∈ "0123456789abcdefABCDEF".toList) →
          ∃ read, foldedBytes? (digits.map CodePoint.ofChar) = some read ∧
            (encode read).map CodePoint.ofChar = Text.toLower (digits.map CodePoint.ofChar)) ∧
      Set.BijOn encode Set.univ
        {text | Even text.length ∧ ∀ c ∈ text, c ∈ "0123456789abcdef".toList} := by
  refine ⟨⟨length_encode bytes, fun c hc => mem_hexDigits_of_mem_encode hc, fun i b h => ?_⟩, ?_, ?_,
    ?_, bijOn_encode⟩
  · exact getElem?_encode h
  · exact encode_append bytes
  · exact fun text => foldedBytes?_eq_some_iff
  · exact fun digits heven h => exists_foldedBytes?_eq heven h

/-- Two bytes in a mixture of cases. -/
theorem encode_read_back_dead :
    let bytes : List UInt8 := [0xde, 0xad]
    let mixture : Text := "dEaD".toList.map CodePoint.ofChar
    encode bytes = "dead".toList ∧ (encode bytes)[2]? = some 'a' ∧ foldedBytes? mixture = some bytes ∧
      ∃ read, foldedBytes? mixture = some read ∧ (encode read).map CodePoint.ofChar = mixture.toLower := by
  intro bytes mixture
  have hencode : encode bytes = "dead".toList := by decide
  obtain ⟨⟨-, -, hplaces⟩, -, hread, hwritten, -⟩ := encode_read_back bytes
  have hhigh : (encode bytes)[2]? = some 'a' := (hplaces 1 0xad rfl).1
  have hmixture : IsMixtureOf "dEaD".toList (encode bytes) := by
    rw [hencode, IsMixtureOf]
    decide
  have hdigits : ∀ c ∈ "dEaD".toList, c ∈ "0123456789abcdefABCDEF".toList := by simp
  exact ⟨hencode, hhigh, (hread mixture).mpr ⟨_, rfl, hmixture⟩, hwritten _ (by decide) hdigits⟩

end Record

end DigestRecord
