import DigestRecord.Proofs.Text.Digits
import DigestRecord.Record.Line
import DigestRecord.Sha256.Basic

/-!
# The pattern of record lines

A line that a program may rely on looks the same up to two places: sixty-four hexadecimal digits in
lower case, and a count without a sign and without leading zeros. `MatchesPattern` says so of a text
alone, character by character and without any function that writes or reads lines.

A file digest of another length or with a negative count has a line too, but one that does not match.

Conversely a text that matches is such a line: its sixty-four digits are those of some thirty-two
bytes, and its count is written as a number is.

## Main results

* `matchesPattern_line` — the line of a proper file digest matches the pattern
* `matchesPattern_iff` — the texts that match are the lines of the proper file digests
-/

namespace DigestRecord

namespace Record

/-- A count as the pattern has it: a zero, or digits of which the first is another one. -/
inductive CountText : List Char → Prop
  | zero : CountText ['0']
  | positive {c : Char} {cs : List Char} (first : c ∈ "123456789".toList)
      (others : ∀ d ∈ cs, d ∈ "0123456789".toList) : CountText (c :: cs)

/-- The pattern of lines. -/
inductive MatchesPattern : List Char → Prop
  | mk {hash count : List Char} (length_hash : hash.length = 64)
      (hash_digits : ∀ c ∈ hash, c ∈ "0123456789abcdef".toList) (count_text : CountText count) :
      MatchesPattern ("\x7b\"algorithm\":\"sha256\",\"hash\":\"".toList ++
        (hash ++ ("\",\"bytes\":".toList ++ (count ++ ['}']))))

theorem mem_hexDigits_of_mem_encode {bs : List UInt8} {c : Char} (h : c ∈ Hex.encode bs) :
    c ∈ "0123456789abcdef".toList := by
  obtain ⟨d, rfl⟩ := Hex.exists_digit_of_mem_encode h
  clear h
  revert d
  decide

theorem mem_digits_of_isDigit {c : Char} (h : Decimal.isDigit c = true) :
    c ∈ "0123456789".toList := by
  obtain ⟨d, rfl⟩ := Decimal.exists_eq_digit h
  clear h
  revert d
  decide

theorem countText_ofNat (n : Nat) : CountText (Decimal.ofNat n) := by
  by_cases hzero : n = 0
  · rw [hzero, Decimal.ofNat_of_lt (by decide)]
    exact .zero
  · obtain ⟨c, cs, htext⟩ := List.exists_cons_of_ne_nil (Decimal.ofNat_ne_nil n)
    have hdigits : ∀ d ∈ c :: cs, d ∈ "0123456789".toList := by
      intro d hd
      rw [← htext] at hd
      exact mem_digits_of_isDigit (Decimal.isDigit_of_mem_ofNat hd)
    have hfirst : c ≠ '0' := by
      have hhead := Decimal.head?_ofNat (Nat.pos_of_ne_zero hzero)
      rw [htext] at hhead
      exact fun hc => hhead (congrArg some hc)
    rw [htext]
    refine .positive ?_ fun d hd => hdigits d (List.mem_cons_of_mem _ hd)
    exact (List.mem_cons.mp (hdigits c List.mem_cons_self)).resolve_left hfirst

/-- **The line of a proper file digest matches the pattern.** -/
theorem matchesPattern_line {d : FileDigest} (hlength : d.digest.length = Sha256.digestSize)
    (hcount : 0 ≤ d.byteCount) : MatchesPattern (line d) := by
  have hhash : (Hex.encode d.digest).length = 64 := by
    rw [Hex.length_encode, hlength]
    rfl
  have htext : CountText (Decimal.ofInt d.byteCount) := by
    obtain ⟨n, hn⟩ := Int.eq_ofNat_of_zero_le hcount
    rw [hn]
    exact countText_ofNat n
  exact .mk hhash (fun c hc => mem_hexDigits_of_mem_encode hc) htext

/-! ## Texts that match -/

theorem isDigit_of_mem_digits {c : Char} (h : c ∈ "0123456789".toList) :
    Decimal.isDigit c = true := by
  have hall : "0123456789".toList.all Decimal.isDigit = true := by decide
  exact List.all_eq_true.mp hall c h

theorem ne_zero_of_mem_digits {c : Char} (h : c ∈ "123456789".toList) :
    c ∈ "0123456789".toList ∧ c ≠ '0' := by
  refine ⟨List.mem_cons_of_mem '0' h, ?_⟩
  rintro rfl
  have hnone : "123456789".toList.contains '0' = false := by decide
  rw [List.contains_iff_mem.mpr h] at hnone
  cases hnone

/-- A count in a text is written as the number that it is. -/
theorem CountText.ofNat_toNat {count : List Char} (h : CountText count) :
    Decimal.ofNat (Decimal.toNat count) = count := by
  cases h with
  | zero => exact Decimal.ofNat_of_lt (by decide)
  | positive first others =>
    obtain ⟨hfirst, hne⟩ := ne_zero_of_mem_digits first
    refine (Decimal.ofNat_toNat_of_head (by simp) ?_ ?_).2
    · simp only [List.mem_cons, forall_eq_or_imp]
      exact ⟨isDigit_of_mem_digits hfirst, fun d hd => isDigit_of_mem_digits (others d hd)⟩
    · simpa using hne

theorem isSome_lowerDigit?_of_mem_hexDigits {c : Char} (h : c ∈ "0123456789abcdef".toList) :
    (Hex.lowerDigit? c).isSome = true := by
  have hall : "0123456789abcdef".toList.all (fun c => (Hex.lowerDigit? c).isSome) = true := by
    decide
  exact List.all_eq_true.mp hall c h

theorem exists_encode_of_mem_hexDigits {hash : List Char} (hlength : hash.length = 64)
    (h : ∀ c ∈ hash, c ∈ "0123456789abcdef".toList) :
    ∃ digest : List UInt8, digest.length = Sha256.digestSize ∧ Hex.encode digest = hash :=
  Hex.exists_encode_eq hlength fun c hc => isSome_lowerDigit?_of_mem_hexDigits (h c hc)

/-- A text matches the pattern with a given digest and a given count at its two places. -/
structure MatchesWith (text hash count : List Char) : Prop where
  text_eq : text = "\x7b\"algorithm\":\"sha256\",\"hash\":\"".toList ++
    (hash ++ ("\",\"bytes\":".toList ++ (count ++ ['}'])))
  length_hash : hash.length = 64
  hash_digits : ∀ c ∈ hash, c ∈ "0123456789abcdef".toList
  count_text : CountText count

theorem matchesPattern_iff_exists {text : List Char} :
    MatchesPattern text ↔ ∃ hash count, MatchesWith text hash count := by
  constructor
  · rintro ⟨hlength, hhash, hcount⟩
    exact ⟨_, _, rfl, hlength, hhash, hcount⟩
  · rintro ⟨hash, count, rfl, hlength, hhash, hcount⟩
    exact .mk hlength hhash hcount

/-- A text that matches is the line of the file digest that its two places tell. -/
theorem MatchesWith.exists_line {text hash count : List Char} (h : MatchesWith text hash count) :
    ∃ d : FileDigest, d.digest.length = Sha256.digestSize ∧ 0 ≤ d.byteCount ∧
      Decimal.digitCount d.byteCount = count.length ∧ line d = text := by
  obtain ⟨digest, hdigest, rfl⟩ := exists_encode_of_mem_hexDigits h.length_hash h.hash_digits
  have htext : Decimal.ofInt (Decimal.toNat count) = count := h.count_text.ofNat_toNat
  refine ⟨⟨digest, Decimal.toNat count⟩, hdigest, Int.natCast_nonneg _, ?_, ?_⟩
  · exact congrArg List.length h.count_text.ofNat_toNat
  · rw [line, htext]
    exact h.text_eq.symm

/-- **The texts that match are the lines of the proper file digests.** -/
theorem matchesPattern_iff {text : List Char} :
    MatchesPattern text ↔
      ∃ d : FileDigest, d.digest.length = Sha256.digestSize ∧ 0 ≤ d.byteCount ∧ line d = text := by
  constructor
  · intro h
    obtain ⟨hash, count, h⟩ := matchesPattern_iff_exists.mp h
    obtain ⟨d, hdigest, hnonneg, -, hline⟩ := h.exists_line
    exact ⟨d, hdigest, hnonneg, hline⟩
  · rintro ⟨d, hdigest, hnonneg, rfl⟩
    exact matchesPattern_line hdigest hnonneg

end Record

end DigestRecord
