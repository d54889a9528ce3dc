import DigestRecord.Text.Blank
import DigestRecord.Text.FinalSigma
import DigestRecord.Proofs.Text.Digits

/-!
# Trimming and folding digits

Text that comes in any case and with white space at its ends is trimmed and folded before it is
looked at. Trimming loses nothing but white space. Folding could in principle bring in digits that
were not there, as some letters outside of ASCII have a lower-case form inside of it. None of these
forms is one of the letters up to `f`, so hexadecimal digits come from hexadecimal digits only.

## Main results

* `Text.mem_trim` — what is not white space survives trimming
* `Text.toLower_map_ofChar` — on ASCII, folding is `Char.toLower`
* `Text.exists_map_ofChar_of_toLower`, `Text.exists_of_toLower_eq` — what folds to ASCII is ASCII, but for
  one letter, and so is what folds to hexadecimal digits
* `Text.toLowerWords_eq_or_mem` — folding word by word makes a difference for one letter only
-/

namespace DigestRecord

/-! ## Characters and code points -/

namespace CodePoint

theorem ofChar_injective : Function.Injective ofChar := by
  intro c d h
  have hvalue : c.toNat = d.toNat := congrArg value h
  exact Char.toNat_inj.mp hvalue

theorem eq_ofChar_of_toChar? {p : CodePoint} {c : Char} (h : p.toChar? = some c) :
    p = ofChar c := by
  rw [toChar?] at h
  split at h
  · rename_i hvalid
    cases h
    obtain ⟨v, hlt⟩ := p
    have hchar : Char.ofNat v = Char.ofNatAux v hvalid := dif_pos hvalid
    rw [hchar]
    rfl
  · cases h

/-- A code point of ASCII is a character. -/
theorem exists_eq_ofChar {p : CodePoint} (h : p.value < 0x80) :
    ∃ c : Char, p = ofChar c ∧ c.toNat < 0x80 := by
  have hvalid : p.value.isValidChar := .inl (by omega)
  exact ⟨Char.ofNatAux p.value hvalid, rfl, h⟩

end CodePoint

namespace Text

theorem map_ofChar_injective : Function.Injective (List.map CodePoint.ofChar) :=
  fun _ _ h => (List.map_inj_right fun _ _ e => CodePoint.ofChar_injective e).mp h

theorem eq_map_ofChar_of_mapM_toChar? {t : Text} {cs : List Char}
    (h : t.mapM CodePoint.toChar? = some cs) : t = cs.map CodePoint.ofChar := by
  induction t generalizing cs with
  | nil =>
    cases h
    rfl
  | cons p t ih =>
    rw [List.mapM_cons] at h
    obtain ⟨c, hc, h⟩ := Option.bind_eq_some_iff.mp h
    obtain ⟨cs, hcs, h⟩ := Option.bind_eq_some_iff.mp h
    cases h
    rw [List.map_cons, ← ih hcs, CodePoint.eq_ofChar_of_toChar? hc]

theorem mapM_toChar?_map_ofChar (cs : List Char) :
    (cs.map CodePoint.ofChar).mapM CodePoint.toChar? = some cs := by
  induction cs with
  | nil => rfl
  | cons c cs ih =>
    rw [List.map_cons, List.mapM_cons, CodePoint.toChar?_ofChar, ih]
    rfl

/-! ## Trimming -/

theorem mem_dropWhile {p : CodePoint} {t : Text} (h : p ∈ t) (hp : p.isBlank = false) :
    p ∈ t.dropWhile CodePoint.isBlank := by
  induction t with
  | nil => exact h
  | cons q t ih =>
    rw [List.dropWhile_cons]
    split
    · rename_i hq
      rcases List.mem_cons.mp h with rfl | h
      · rw [hp] at hq
        cases hq
      · exact ih h
    · exact h

/-- **What is not white space survives trimming.** -/
theorem mem_trim {p : CodePoint} {t : Text} (h : p ∈ t) (hp : p.isBlank = false) : p ∈ t.trim := by
  rw [trim, List.mem_reverse]
  refine mem_dropWhile ?_ hp
  rw [List.mem_reverse]
  exact mem_dropWhile h hp

theorem trim_eq_self {t : Text} (h : ∀ p ∈ t, p.isBlank = false) : t.trim = t := by
  have hdrop : ∀ s : Text, (∀ p ∈ s, p.isBlank = false) → s.dropWhile CodePoint.isBlank = s := by
    intro s hs
    cases s with
    | nil => rfl
    | cons p s => exact List.dropWhile_cons_of_neg (by simp [hs p List.mem_cons_self])
  rw [trim, hdrop t h, hdrop _ (fun p hp => h p (List.mem_reverse.mp hp)), List.reverse_reverse]

end Text

namespace CodePoint

/-! ## Folding -/

/-- There is one run of ASCII. The others start beyond it, and end beyond it but for one that is a single
letter. -/
theorem ascii_or_beyond {r : CaseRun} (h : r ∈ caseRuns) :
    r.first = 0x41 ∧ r.last = 0x5a ∧ r.step = 1 ∧ r.image = 0x61 ∨
      0x80 ≤ r.first ∧ (0x80 ≤ r.image ∨ r.image = 0x6b ∧ r.first = r.last) := by
  revert r
  decide +kernel

theorem toNat_toLower (c : Char) :
    c.toLower.toNat = if 0x41 ≤ c.toNat ∧ c.toNat ≤ 0x5a then c.toNat + 0x20 else c.toNat := by
  by_cases h : 0x41 ≤ c.toNat ∧ c.toNat ≤ 0x5a
  · have hval : c.val ≥ 'A'.val ∧ c.val ≤ 'Z'.val :=
      ⟨UInt32.le_iff_toNat_le.mpr h.1, UInt32.le_iff_toNat_le.mpr h.2⟩
    have hlower : c.toLower.val = c.val + 0x20 := congrArg Char.val (dif_pos hval)
    have hadd : (c.val + 0x20).toNat = (c.val.toNat + 0x20) % 0x100000000 := UInt32.toNat_add _ _
    rw [if_pos h, Char.toNat, hlower, hadd]
    exact Nat.mod_eq_of_lt (Nat.lt_of_le_of_lt (Nat.add_le_add_right h.2 _) (by decide))
  · have hval : ¬ (c.val ≥ 'A'.val ∧ c.val ≤ 'Z'.val) :=
      fun hval => h ⟨UInt32.le_iff_toNat_le.mp hval.1, UInt32.le_iff_toNat_le.mp hval.2⟩
    have hlower : c.toLower = c := dif_neg hval
    rw [if_neg h, hlower]

theorem toLower_ofChar {c : Char} (h : c.toNat < 0x80) :
    (ofChar c).toLower = [ofChar c.toLower] := by
  have hlower := toNat_toLower c
  rw [toLower, value_ofChar, if_neg (by omega)]
  split
  · rename_i r hfind
    have hcontains := List.find?_some hfind
    simp only [CaseRun.contains, Bool.and_eq_true, decide_eq_true_eq] at hcontains
    rcases ascii_or_beyond (List.mem_of_find?_eq_some hfind) with
      ⟨hfirst, hlast, -, himage⟩ | ⟨hfirst, -⟩
    · rw [if_pos (by omega)] at hlower
      rw [dif_pos (by omega), List.singleton_inj, CodePoint.mk.injEq, value_ofChar, hlower]
      omega
    · omega
  · rename_i hfind
    have hnone := List.find?_eq_none.mp hfind ⟨0x41, 0x5a, 1, 0x61⟩ List.mem_cons_self
    have hcapital : ¬ (0x41 ≤ c.toNat ∧ c.toNat ≤ 0x5a) := by
      simpa [CaseRun.contains, Nat.mod_one] using hnone
    rw [if_neg hcapital] at hlower
    rw [Char.toNat_inj.mp hlower]

theorem toNat_le_of_lowerDigit? {c : Char} (h : (Hex.lowerDigit? c).isSome = true) :
    c.toNat ≤ 0x66 := by
  rw [Hex.lowerDigit?] at h
  split at h
  · omega
  · split at h
    · omega
    · cases h

/-- The letter that has a capital outside of ASCII too. -/
def smallK : CodePoint := ⟨0x6b, by decide⟩

/-- What folds to ASCII is ASCII, if it does not fold to the one letter that has a capital outside. -/
theorem exists_ofChar_of_toLower {p : CodePoint} (hsmall : ∀ q ∈ p.toLower, q.value < 0x80)
    (hk : smallK ∉ p.toLower) : ∃ c : Char, p = ofChar c ∧ c.toNat < 0x80 := by
  refine exists_eq_ofChar ?_
  rw [toLower] at hsmall hk
  split at hsmall
  · have := hsmall ⟨0x307, by decide⟩ (by simp)
    simp at this
  · rename_i hdotted
    rw [if_neg hdotted] at hk
    split at hsmall
    · rename_i r hfind
      have hcontains := List.find?_some hfind
      simp only [CaseRun.contains, Bool.and_eq_true, decide_eq_true_eq] at hcontains
      rw [hfind] at hk
      simp only at hk
      split at hsmall
      · rename_i himage
        rw [dif_pos himage, List.mem_singleton, smallK, CodePoint.mk.injEq] at hk
        have hbelow := hsmall _ List.mem_cons_self
        simp only at hbelow
        rcases ascii_or_beyond (List.mem_of_find?_eq_some hfind) with
          ⟨-, hlast, -⟩ | ⟨-, hbeyond | ⟨hletter, hsingle⟩⟩
        · omega
        · omega
        · omega
      · exact hsmall p List.mem_cons_self
    · exact hsmall p List.mem_cons_self

end CodePoint

namespace Text

/-- **On ASCII, folding is `Char.toLower`.** -/
theorem toLower_map_ofChar {cs : List Char} (h : ∀ c ∈ cs, c.toNat < 0x80) :
    toLower (cs.map CodePoint.ofChar) = (cs.map Char.toLower).map CodePoint.ofChar := by
  induction cs with
  | nil => rfl
  | cons c cs ih =>
    rw [List.map_cons, toLower, List.flatMap_cons,
      CodePoint.toLower_ofChar (h c List.mem_cons_self)]
    exact congrArg _ (ih fun d hd => h d (List.mem_cons_of_mem c hd))

/-- **What folds to ASCII is ASCII**, if it does not fold to the one letter that has a capital outside. -/
theorem exists_map_ofChar_of_toLower {t : Text} (hsmall : ∀ q ∈ t.toLower, q.value < 0x80)
    (hk : CodePoint.smallK ∉ t.toLower) :
    ∃ cs : List Char, t = cs.map CodePoint.ofChar ∧ ∀ c ∈ cs, c.toNat < 0x80 := by
  induction t with
  | nil => exact ⟨[], rfl, by simp⟩
  | cons p t ih =>
    rw [toLower, List.flatMap_cons] at hsmall hk
    obtain ⟨c, rfl, hc⟩ := CodePoint.exists_ofChar_of_toLower
      (fun q hq => hsmall q (List.mem_append_left _ hq)) fun h => hk (List.mem_append_left _ h)
    obtain ⟨cs, rfl, hcs⟩ := ih (fun q hq => hsmall q (List.mem_append_right _ hq))
      fun h => hk (List.mem_append_right _ h)
    exact ⟨c :: cs, rfl, List.forall_mem_cons.mpr ⟨hc, hcs⟩⟩

/-- **What folds to hexadecimal digits is ASCII.** -/
theorem exists_of_toLower_eq {t : Text} {cs : List Char} (h : t.toLower = cs.map CodePoint.ofChar)
    (hdigits : ∀ c ∈ cs, (Hex.lowerDigit? c).isSome = true) :
    ∃ digits : List Char, t = digits.map CodePoint.ofChar ∧ digits.map Char.toLower = cs := by
  have hsmall : ∀ q ∈ t.toLower, q.value ≤ 0x66 := by
    intro q hq
    rw [h] at hq
    obtain ⟨c, hc, rfl⟩ := List.mem_map.mp hq
    exact CodePoint.toNat_le_of_lowerDigit? (hdigits c hc)
  obtain ⟨digits, rfl, hall⟩ := exists_map_ofChar_of_toLower
    (fun q hq => Nat.lt_of_le_of_lt (hsmall q hq) (by decide))
    fun hk => absurd (hsmall _ hk) (by decide)
  refine ⟨digits, rfl, ?_⟩
  rw [toLower_map_ofChar hall] at h
  exact map_ofChar_injective h

end Text

/-! ## Folding word by word -/

/-- What the capital becomes that depends on its neighbours, where it is mapped on its own. -/
def CodePoint.smallSigma : CodePoint := ⟨0x3c3, by decide⟩

theorem CodePoint.toLower_capitalSigma : capitalSigma.toLower = [smallSigma] := by decide +kernel

namespace Text

theorem length_toLowerAfter (before t : Text) :
    (toLowerAfter before t).length = t.toLower.length := by
  induction t generalizing before with
  | nil => rfl
  | cons p t ih =>
    rw [toLowerAfter, toLower, List.flatMap_cons, List.length_append, List.length_append, ih]
    split
    · rename_i hfinal
      rw [hfinal.1, CodePoint.toLower_capitalSigma]
      rfl
    · rfl

/-- Word by word or not, a text has the same length in lower case. -/
theorem length_toLowerWords (t : Text) : t.toLowerWords.length = t.toLower.length :=
  length_toLowerAfter [] t

theorem toLowerAfter_eq_or_mem (before t : Text) :
    toLowerAfter before t = t.toLower ∨
      CodePoint.finalSigma ∈ toLowerAfter before t ∧ CodePoint.smallSigma ∈ t.toLower := by
  induction t generalizing before with
  | nil => exact .inl rfl
  | cons p t ih =>
    rw [toLowerAfter, toLower, List.flatMap_cons]
    split
    · rename_i hfinal
      rw [hfinal.1, CodePoint.toLower_capitalSigma]
      exact .inr ⟨List.mem_cons_self, List.mem_cons_self⟩
    · rcases ih (p :: before) with heq | ⟨hfinal, hsmall⟩
      · exact .inl (congrArg _ heq)
      · exact .inr ⟨List.mem_append_right _ hfinal, List.mem_append_right _ hsmall⟩

/-- **Folding word by word makes a difference for one letter only**, and each of the two forms of that
letter is in one of the texts. -/
theorem toLowerWords_eq_or_mem (t : Text) :
    t.toLowerWords = t.toLower ∨
      CodePoint.finalSigma ∈ t.toLowerWords ∧ CodePoint.smallSigma ∈ t.toLower :=
  toLowerAfter_eq_or_mem [] t

end Text

namespace Hex

theorem map_toLower_encode (bs : List UInt8) : (encode bs).map Char.toLower = encode bs := by
  refine (List.map_congr_left fun c hc => ?_).trans (List.map_id _)
  obtain ⟨d, rfl⟩ := exists_digit_of_mem_encode hc
  clear hc
  revert d
  decide

theorem trim_map_encode (bs : List UInt8) :
    Text.trim ((encode bs).map CodePoint.ofChar) = (encode bs).map CodePoint.ofChar := by
  refine Text.trim_eq_self fun p hp => ?_
  obtain ⟨c, hc, rfl⟩ := List.mem_map.mp hp
  obtain ⟨d, rfl⟩ := exists_digit_of_mem_encode hc
  clear hp hc
  revert d
  decide

theorem Denotes.isAscii {digits : List Char} {bytes : List UInt8} (h : Denotes digits bytes) :
    ∀ c ∈ digits, c.toNat < 0x80 := by
  intro c hc
  have hle : c.toLower.toNat ≤ 0x66 := CodePoint.toNat_le_of_lowerDigit? (h.isSome_digit? hc)
  have hlower := CodePoint.toNat_toLower c
  split at hlower <;> omega

/-- An encoding denotes what it encodes. -/
theorem denotes_encode (bs : List UInt8) : Denotes (encode bs) bs :=
  denotes_iff.mpr (map_toLower_encode bs).symm

end Hex

end DigestRecord
