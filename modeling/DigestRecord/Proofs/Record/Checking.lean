import DigestRecord.Proofs.Json.ShownValues
import DigestRecord.Record.Reading

/-!
# The three checks

A record is checked member by member. Each of the checks takes text where it finds a value of
another kind, and what is shown of that value is all it looks at. Nevertheless each of them passes
just the values that one would expect, and no value of another kind gets through for the way it is
shown.

The digest is the one exception: a whole number of sixty-four digits is shown as hexadecimal digits,
and counts as one (`SpellsDigest`).

## Main results

* `checkAlgorithm_eq_ok_iff`, `checkHash_eq_ok_iff`, `checkByteCount_eq_ok_iff` — what passes each
  check
* `check_eq_ok_iff` — what passes all three
-/

namespace DigestRecord

namespace Record

/-! ## The algorithm -/

theorem checkAlgorithm_eq_ok_iff {v : Json.Value} :
    checkAlgorithm v = .ok () ↔ ∃ t, v = .string t ∧ t.trim = Text.ofString algorithm := by
  constructor
  · intro h
    have htrim : v.asText.trim = Text.ofString algorithm := by
      rw [checkAlgorithm] at h
      split at h
      · assumption
      · cases h
    have hmarks : ∀ c ∈ algorithm.toList, c ∉ marks := by
      have hall : algorithm.toList.all (fun c => !marks.contains c) = true := by decide
      simpa using hall
    rcases Json.Value.eq_string_or_int_of_trim htrim (by decide) hmarks with ⟨t, rfl⟩ | ⟨n, -, hn⟩
    · exact ⟨t, rfl, htrim⟩
    · have hletter : 's' ∈ Decimal.ofNat n := by
        rw [← hn]
        decide
      exact absurd (Decimal.isDigit_of_mem_ofNat hletter) (by decide)
  · rintro ⟨t, rfl, ht⟩
    exact if_pos ht

/-! ## The digest -/

/-- The values that spell a digest: a string of digits of either case, with white space at its ends,
or a whole number whose digits are taken as hexadecimal ones. -/
inductive SpellsDigest : Json.Value → List UInt8 → Prop
  | text {t : Text} {digits : List Char} {bytes : List UInt8}
      (trimmed : t.trim = digits.map CodePoint.ofChar) (size : digits.length = hashDigits)
      (denotes : Hex.Denotes digits bytes) : SpellsDigest (.string t) bytes
  | number {n : Int} {bytes : List UInt8} (positive : 0 < n)
      (size : (Decimal.ofInt n).length = hashDigits)
      (denotes : Hex.Denotes (Decimal.ofInt n) bytes) : SpellsDigest (.int n) bytes

/-- What passes is what comes out as the lower-case digits of some bytes, if there are enough of
them. -/
theorem checkHash_eq_ok_iff_toLower {v : Json.Value} {bytes : List UInt8} :
    checkHash v = .ok bytes ↔
      v.asText.trim.toLower = (Hex.encode bytes).map CodePoint.ofChar ∧
        bytes.length = Sha256.digestSize := by
  constructor
  · intro h
    rw [checkHash] at h
    split at h
    · cases h
    · rename_i hlength
      split at h
      · rename_i hdecode
        cases h
        obtain ⟨cs, hcs, hbytes⟩ := Option.bind_eq_some_iff.mp hdecode
        have hfold := Text.eq_map_ofChar_of_mapM_toChar? hcs
        obtain rfl := Hex.decodeLower?_eq_some_iff.mp hbytes
        rw [Decidable.not_not, hfold, List.length_map, Hex.length_encode] at hlength
        exact ⟨hfold, Nat.eq_of_mul_eq_mul_left Nat.two_pos hlength⟩
      · cases h
  · rintro ⟨hfold, hlength⟩
    have hsize : ((Hex.encode bytes).map CodePoint.ofChar).length = hashDigits := by
      rw [List.length_map, Hex.length_encode, hlength, hashDigits]
    rw [checkHash, hfold, if_neg (not_not_intro hsize), Text.mapM_toChar?_map_ofChar,
      Option.bind_some, Hex.decodeLower?_encode]

theorem checkHash_of_trim {v : Json.Value} {digits : List Char} {bytes : List UInt8}
    (trimmed : v.asText.trim = digits.map CodePoint.ofChar) (size : digits.length = hashDigits)
    (denotes : Hex.Denotes digits bytes) : checkHash v = .ok bytes := by
  have hencode := Hex.denotes_iff.mp denotes
  have hlength : 2 * bytes.length = hashDigits := by
    rw [← Hex.length_encode, hencode, List.length_map, size]
  refine checkHash_eq_ok_iff_toLower.mpr ⟨?_, Nat.eq_of_mul_eq_mul_left Nat.two_pos hlength⟩
  rw [trimmed, Text.toLower_map_ofChar denotes.isAscii, hencode]

theorem exists_of_checkHash {v : Json.Value} {bytes : List UInt8} (h : checkHash v = .ok bytes) :
    ∃ digits : List Char, v.asText.trim = digits.map CodePoint.ofChar ∧
      digits.length = hashDigits ∧ Hex.Denotes digits bytes := by
  obtain ⟨hfold, hlength⟩ := checkHash_eq_ok_iff_toLower.mp h
  obtain ⟨digits, htrim, hdigits⟩ :=
    Text.exists_of_toLower_eq hfold fun c hc => Hex.isSome_lowerDigit?_of_mem_encode hc
  refine ⟨digits, htrim, ?_, Hex.denotes_iff.mpr hdigits.symm⟩
  have hsize := congrArg List.length hdigits
  rw [List.length_map, Hex.length_encode, hlength] at hsize
  exact hsize

theorem isSome_digit?_of_mem_marks {c : Char} (h : c ∈ marks) : (Hex.digit? c).isSome = false := by
  have hall : marks.all (fun c => !(Hex.digit? c).isSome) = true := by decide
  simpa using List.all_eq_true.mp hall c h

theorem checkHash_eq_ok_iff {v : Json.Value} {bytes : List UInt8} :
    checkHash v = .ok bytes ↔ SpellsDigest v bytes := by
  constructor
  · intro h
    obtain ⟨digits, htrim, hsize, hdenotes⟩ := exists_of_checkHash h
    have hne : digits ≠ [] := by
      rintro rfl
      cases hsize
    have hmarks : ∀ c ∈ digits, c ∉ marks := by
      intro c hc hmark
      have hdigit := hdenotes.isSome_digit? hc
      rw [isSome_digit?_of_mem_marks hmark] at hdigit
      cases hdigit
    rcases Json.Value.eq_string_or_int_of_trim htrim hne hmarks with ⟨t, rfl⟩ | ⟨n, rfl, rfl⟩
    · exact .text htrim hsize hdenotes
    · have hpos : n ≠ 0 := by
        rintro rfl
        rw [Decimal.length_ofNat_zero] at hsize
        cases hsize
      exact .number (by omega) hsize hdenotes
  · intro h
    cases h with
    | text trimmed size denotes => exact checkHash_of_trim trimmed size denotes
    | @number n _ positive size denotes =>
      cases n with
      | ofNat n => exact checkHash_of_trim (Json.trim_map_ofNat n) size denotes
      | negSucc n => cases positive

/-! ## The count -/

theorem checkByteCount_eq_ok_iff {v : Json.Value} {n : Int} :
    checkByteCount v = .ok n ↔ v = .int n ∧ 0 ≤ n := by
  constructor
  · intro h
    rw [checkByteCount.eq_def] at h
    split at h
    · split at h
      · cases h
      · rename_i hneg
        cases h
        exact ⟨rfl, Int.not_lt.mp hneg⟩
    · cases h
  · rintro ⟨rfl, hn⟩
    rw [checkByteCount, if_neg (Int.not_lt.mpr hn)]

/-! ## All three -/

theorem check_eq_ok_iff {algorithm hash byteCount : Json.Value} {d : FileDigest} :
    check algorithm hash byteCount = .ok d ↔ checkAlgorithm algorithm = .ok () ∧
      checkHash hash = .ok d.digest ∧ checkByteCount byteCount = .ok d.byteCount := by
  obtain ⟨digest, count⟩ := d
  rw [check]
  cases checkAlgorithm algorithm <;> cases checkHash hash <;> cases checkByteCount byteCount <;>
    simp [bind, Except.bind, pure, Except.pure]

end Record

end DigestRecord
