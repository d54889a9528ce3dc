import DigestRecord.Json.Display
import DigestRecord.Proofs.Text.Folding

/-!
# Values shown as text

Where text is called for, a value that is not a string is taken as it is shown. So a value of
another kind could pass for the text that was wanted. Here is how far that goes: what is shown of
`None`, of a floating-point number, of an array and so on has a character in it that is neither a
hexadecimal digit nor part of the name of the algorithm (`marks`), and it is not white space, so it
survives trimming. Only whole numbers that are not negative are left, and they are shown as their
digits.

## Main results

* `Value.eq_string_or_int_of_trim` — text without marks comes from a string or a whole number
-/

namespace DigestRecord

/-- Characters of which every shown value has one, but for strings and whole numbers. -/
def marks : List Char := ['N', 'T', 'l', 'n', 'i', '.', '+', '-', '[', '{']

namespace Binary64

theorem point_mem_positional (digits : List Char) (exponent : Int) :
    '.' ∈ positional digits exponent := by
  rw [positional]
  split
  · simp
  · dsimp only
    split
    · simp
    · simp

theorem exists_sign_mem_exponentText (exponent : Int) :
    ∃ c ∈ exponentText exponent, c = '+' ∨ c = '-' := by
  rw [exponentText]
  by_cases h : exponent < 0
  · exact ⟨'-', by simp [h], .inr rfl⟩
  · exact ⟨'+', by simp [h], .inl rfl⟩

theorem scientific_eq_nil_or_sign_mem (digits : List Char) (exponent : Int) :
    scientific digits exponent = [] ∨ ∃ c ∈ scientific digits exponent, c = '+' ∨ c = '-' := by
  obtain ⟨c, hc, hsign⟩ := exists_sign_mem_exponentText exponent
  rcases digits with _ | ⟨d, _ | ⟨e, ds⟩⟩
  · exact .inl rfl
  · exact .inr ⟨c, by simp [scientific, hc], hsign⟩
  · exact .inr ⟨c, by simp [scientific, hc], hsign⟩

theorem ShortDecimal.display_eq_nil_or_mark_mem (d : ShortDecimal) :
    d.display = [] ∨ ∃ c ∈ d.display, c ∈ marks := by
  rw [ShortDecimal.display]
  split
  · exact .inr ⟨'.', point_mem_positional _ _, by decide⟩
  · rcases scientific_eq_nil_or_sign_mem (significantDigits d) (firstExponent d) with
      h | ⟨c, hc, rfl | rfl⟩
    · exact .inl h
    · exact .inr ⟨'+', hc, by decide⟩
    · exact .inr ⟨'-', hc, by decide⟩

theorem display_eq_nil_or_mark_mem (x : Binary64) :
    x.display = [] ∨ ∃ c ∈ x.display, c ∈ marks := by
  cases x with
  | nan => exact .inr ⟨'n', by simp [display], by decide⟩
  | infinite negative => exact .inr ⟨'i', by simp [display], by decide⟩
  | finite negative significand scale =>
    cases negative with
    | true => exact .inr ⟨'-', by simp [display], by decide⟩
    | false =>
      by_cases hzero : significand = 0
      · exact .inr ⟨'.', by simp [display, hzero], by decide⟩
      · have hshown : (finite false significand scale).display =
            (shortest significand scale).display := by
          simp [display, hzero]
        rw [hshown]
        exact (shortest significand scale).display_eq_nil_or_mark_mem

end Binary64

namespace Json

theorem isBlank_of_mem_marks {c : Char} (h : c ∈ marks) : (CodePoint.ofChar c).isBlank = false := by
  have hall : marks.all (fun c => !(CodePoint.ofChar c).isBlank) = true := by decide
  simpa using List.all_eq_true.mp hall c h

theorem isBlank_of_isDigit {c : Char} (h : Decimal.isDigit c = true) :
    (CodePoint.ofChar c).isBlank = false := by
  obtain ⟨d, rfl⟩ := Decimal.exists_eq_digit h
  revert d
  decide

theorem trim_map_ofNat (n : Nat) : Text.trim ((Decimal.ofNat n).map CodePoint.ofChar) =
    (Decimal.ofNat n).map CodePoint.ofChar := by
  refine Text.trim_eq_self fun p hp => ?_
  obtain ⟨c, hc, rfl⟩ := List.mem_map.mp hp
  exact isBlank_of_isDigit (Decimal.isDigit_of_mem_ofNat hc)

/-- What is shown of a value that is neither a string nor a whole number. -/
theorem Value.display_eq_nil_or_mark_mem (v : Value) :
    (∃ t, v = .string t) ∨ (∃ n : Nat, v = .int n) ∨
      v.asText = v.display.map CodePoint.ofChar ∧
        (v.display = [] ∨ ∃ c ∈ v.display, c ∈ marks) := by
  cases v with
  | string t => exact .inl ⟨t, rfl⟩
  | int n =>
    cases n with
    | ofNat n => exact .inr (.inl ⟨n, rfl⟩)
    | negSucc n => exact .inr (.inr ⟨rfl, .inr ⟨'-', by simp [display, Decimal.ofInt], by decide⟩⟩)
  | null => exact .inr (.inr ⟨rfl, .inr ⟨'N', by simp [display], by decide⟩⟩)
  | bool b =>
    cases b with
    | true => exact .inr (.inr ⟨rfl, .inr ⟨'T', by simp [display], by decide⟩⟩)
    | false => exact .inr (.inr ⟨rfl, .inr ⟨'l', by simp [display], by decide⟩⟩)
  | float x => exact .inr (.inr ⟨rfl, by rw [display]; exact x.display_eq_nil_or_mark_mem⟩)
  | array items => exact .inr (.inr ⟨rfl, .inr ⟨'[', by simp [display], by decide⟩⟩)
  | object members => exact .inr (.inr ⟨rfl, .inr ⟨'{', by simp [display], by decide⟩⟩)

/-- **Text without marks comes from a string or a whole number.** -/
theorem Value.eq_string_or_int_of_trim {v : Value} {cs : List Char}
    (h : v.asText.trim = cs.map CodePoint.ofChar) (hne : cs ≠ []) (hmarks : ∀ c ∈ cs, c ∉ marks) :
    (∃ t, v = .string t) ∨ ∃ n : Nat, v = .int n ∧ cs = Decimal.ofNat n := by
  rcases v.display_eq_nil_or_mark_mem with ht | ⟨n, rfl⟩ | ⟨htext, hnil | ⟨c, hc, hmark⟩⟩
  · exact .inl ht
  · refine .inr ⟨n, rfl, ?_⟩
    have htrim : (Value.int n).asText.trim = (Decimal.ofNat n).map CodePoint.ofChar :=
      trim_map_ofNat n
    rw [htrim] at h
    exact (Text.map_ofChar_injective h).symm
  · rw [htext, hnil] at h
    exact absurd (List.map_eq_nil_iff.mp h.symm) hne
  · have hmem : CodePoint.ofChar c ∈ v.asText.trim := by
      refine Text.mem_trim ?_ (isBlank_of_mem_marks hmark)
      rw [htext]
      exact List.mem_map_of_mem hc
    rw [h] at hmem
    obtain ⟨d, hd, heq⟩ := List.mem_map.mp hmem
    rw [CodePoint.ofChar_injective heq] at hd
    exact absurd hmark (hmarks c hd)

end Json

end DigestRecord
