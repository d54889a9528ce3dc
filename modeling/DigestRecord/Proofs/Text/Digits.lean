import DigestRecord.Decimal
import DigestRecord.Hex
import Mathlib.Algebra.Group.Nat.Defs
import Mathlib.Data.List.Induction

/-!
# Digits, written and read

Decimal text has digits only, none of them a leading zero, and it reads back as the number that it
was written from.

In hexadecimal, `Hex.Denotes` says what bytes a text of either case stands for, digit by digit and
without any function that reads it. `Hex.decode?` finds them, `Hex.decodeLower?` does so if the text
is in lower case, and `Hex.encode` is the one text in lower case that denotes given bytes.

## Main results

* `Decimal.toNat_ofNat` — decimal text reads back
* `Decimal.ofNat_toNat_of_head` — digits without a leading zero are written again as they were read
* `Hex.decodeLower?_eq_some_iff` — lower-case text is decoded if and only if it is an encoding
* `Hex.decode?_eq_some_iff` — text of either case is decoded to what it denotes
-/

namespace DigestRecord

namespace Decimal

/-! ## Decimal -/

theorem toNat_digit (d : Fin 10) : (digit d).toNat = 48 + d.val := by
  revert d
  decide

theorem isDigit_digit (d : Fin 10) : isDigit (digit d) = true := by
  simp [isDigit, toNat_digit]
  omega

theorem exists_eq_digit {c : Char} (h : isDigit c = true) : ∃ d, c = digit d := by
  rw [isDigit, Bool.and_eq_true, decide_eq_true_eq, decide_eq_true_eq] at h
  refine ⟨⟨c.toNat - 48, by omega⟩, Char.toNat_inj.mp ?_⟩
  rw [toNat_digit]
  simp only
  omega

theorem ofNat_of_lt {n : Nat} (h : n < 10) : ofNat n = [digit (Fin.ofNat 10 n)] := by
  rw [ofNat.eq_def, if_pos h]

theorem ofNat_of_le {n : Nat} (h : 10 ≤ n) :
    ofNat n = ofNat (n / 10) ++ [digit (Fin.ofNat 10 n)] := by
  rw [ofNat.eq_def, if_neg (Nat.not_lt.mpr h)]

theorem isDigit_of_mem_ofNat {n : Nat} {c : Char} (h : c ∈ ofNat n) : isDigit c = true := by
  induction n using ofNat.induct with
  | case1 n hn =>
    rw [ofNat_of_lt hn, List.mem_singleton] at h
    rw [h]
    exact isDigit_digit _
  | case2 n hn ih =>
    rw [ofNat_of_le (Nat.not_lt.mp hn), List.mem_append, List.mem_singleton] at h
    rcases h with h | rfl
    · exact ih h
    · exact isDigit_digit _

theorem ofNat_ne_nil (n : Nat) : ofNat n ≠ [] := by
  rw [ofNat.eq_def]
  split <;> simp

/-- **Decimal text reads back.** -/
theorem toNat_ofNat (n : Nat) : toNat (ofNat n) = n := by
  induction n using ofNat.induct with
  | case1 n hn =>
    rw [ofNat_of_lt hn]
    simp [toNat, toNat_digit, Nat.mod_eq_of_lt hn]
  | case2 n hn ih =>
    rw [ofNat_of_le (Nat.not_lt.mp hn)]
    rw [toNat] at ih ⊢
    rw [List.foldl_append, ih]
    simp [toNat_digit]
    omega

/-- Only zero starts with a zero. -/
theorem head?_ofNat {n : Nat} (h : 0 < n) : (ofNat n).head? ≠ some '0' := by
  induction n using ofNat.induct with
  | case1 n hn =>
    rw [ofNat_of_lt hn]
    intro hhead
    have hzero : digit (Fin.ofNat 10 n) = '0' := by simpa using hhead
    have hvalue := toNat_digit (Fin.ofNat 10 n)
    rw [hzero, Fin.val_ofNat, Nat.mod_eq_of_lt hn] at hvalue
    have : ('0' : Char).toNat = 48 := rfl
    omega
  | case2 n hn ih =>
    obtain ⟨c, cs, hcs⟩ := List.exists_cons_of_ne_nil (ofNat_ne_nil (n / 10))
    have hfirst := ih (by omega)
    rw [hcs] at hfirst
    rw [ofNat_of_le (Nat.not_lt.mp hn), hcs]
    exact hfirst

theorem length_ofNat_zero : (ofNat 0).length = 1 := by
  rw [ofNat_of_lt (by decide)]
  rfl

/-- A number below a power of ten has no more digits than the exponent says. -/
theorem length_ofNat_le {n digits : Nat} (hdigits : 0 < digits) (h : n < 10 ^ digits) :
    (ofNat n).length ≤ digits := by
  induction n using ofNat.induct generalizing digits with
  | case1 n hn =>
    rw [ofNat_of_lt hn]
    exact hdigits
  | case2 n hn ih =>
    obtain ⟨fewer, rfl⟩ := Nat.exists_eq_add_one_of_ne_zero (Nat.ne_of_gt hdigits)
    have hfewer : 0 < fewer := by
      refine Nat.pos_of_ne_zero fun hzero => hn ?_
      rwa [hzero] at h
    have hlt : n / 10 < 10 ^ fewer := Nat.div_lt_of_lt_mul (by rwa [Nat.pow_succ'] at h)
    rw [ofNat_of_le (Nat.not_lt.mp hn), List.length_append]
    exact Nat.add_le_add_right (ih hfewer hlt) 1

theorem toNat_append_singleton (cs : List Char) (c : Char) :
    toNat (cs ++ [c]) = 10 * toNat cs + (c.toNat - 48) := by
  rw [toNat, List.foldl_append]
  rfl

theorem toNat_lt_pow {cs : List Char} (h : ∀ c ∈ cs, isDigit c = true) :
    toNat cs < 10 ^ cs.length := by
  induction cs using List.reverseRecOn with
  | nil => exact Nat.one_pos
  | append_singleton cs c ih =>
    obtain ⟨d, rfl⟩ := exists_eq_digit (h c (by simp))
    have hcs := ih fun c hc => h c (List.mem_append_left _ hc)
    rw [toNat_append_singleton, toNat_digit, List.length_append, List.length_singleton, Nat.pow_succ]
    omega

/-- **A number is written with no more digits than it was read from.** -/
theorem length_ofNat_toNat_le {cs : List Char} (hne : cs ≠ []) (h : ∀ c ∈ cs, isDigit c = true) :
    (ofNat (toNat cs)).length ≤ cs.length :=
  length_ofNat_le (List.length_pos_iff.mpr hne) (toNat_lt_pow h)

/-- What is read from digits that do not start with a zero is positive, and is written with the same
digits again. By induction from the last digit on, as `ofNat` takes them. -/
theorem ofNat_toNat_of_head {cs : List Char} (hne : cs ≠ []) (h : ∀ c ∈ cs, isDigit c = true)
    (hhead : cs.head? ≠ some '0') : 0 < toNat cs ∧ ofNat (toNat cs) = cs := by
  induction cs using List.reverseRecOn with
  | nil => exact absurd rfl hne
  | append_singleton cs c ih =>
    obtain ⟨d, rfl⟩ := exists_eq_digit (h c (by simp))
    have hmod : ∀ n, Fin.ofNat 10 (10 * n + d.val) = d := by
      intro n
      ext
      simp only [Fin.val_ofNat]
      omega
    rw [toNat_append_singleton, toNat_digit, Nat.add_sub_cancel_left]
    by_cases hcs : cs = []
    · subst hcs
      have hd : d ≠ 0 := by
        rintro rfl
        exact hhead rfl
      have hvalue : 10 * toNat [] + d.val = d.val := by simp [toNat]
      refine ⟨by omega, ?_⟩
      rw [ofNat_of_lt (by omega), hmod]
      rfl
    · have hhead' : cs.head? ≠ some '0' := by
        obtain ⟨first, others, rfl⟩ := List.exists_cons_of_ne_nil hcs
        exact hhead
      obtain ⟨hpos, hsame⟩ := ih hcs (fun c hc => h c (List.mem_append_left _ hc)) hhead'
      have hdiv : (10 * toNat cs + d.val) / 10 = toNat cs := by omega
      refine ⟨by omega, ?_⟩
      rw [ofNat_of_le (by omega), hmod, hdiv, hsame]

end Decimal

namespace Hex

/-! ## Hexadecimal -/

theorem digit_of_lowerDigit? {c : Char} {d : Fin 16} (h : lowerDigit? c = some d) :
    digit d = c := by
  rw [lowerDigit?] at h
  split at h
  · cases h
    have hlt : c.toNat - 48 < 10 := by omega
    have hsum : 48 + (c.toNat - 48) = c.toNat := by omega
    rw [digit, if_pos hlt, hsum, Char.ofNat_toNat]
  · split at h
    · cases h
      have hge : ¬ c.toNat - 87 < 10 := by omega
      have hsum : 87 + (c.toNat - 87) = c.toNat := by omega
      rw [digit, if_neg hge, hsum, Char.ofNat_toNat]
    · cases h

theorem encode_cons_halves (h l : Fin 16) (bs : List UInt8) :
    encode (UInt8.ofNat (16 * h.val + l.val) :: bs) = digit h :: digit l :: encode bs := by
  have hvalue : (UInt8.ofNat (16 * h.val + l.val)).toNat = 16 * h.val + l.val := by
    simp
    omega
  have hhigh : Fin.ofNat 16 ((16 * h.val + l.val) / 16) = h := by
    ext
    simp
    omega
  have hlow : Fin.ofNat 16 (16 * h.val + l.val) = l := by
    ext
    simp
  rw [encode, hvalue, hhigh, hlow]

theorem ofNat_halves (b : UInt8) :
    UInt8.ofNat (16 * (Fin.ofNat 16 (b.toNat / 16)).val + (Fin.ofNat 16 b.toNat).val) = b := by
  have hb := b.toNat_lt
  have hvalue : 16 * (Fin.ofNat 16 (b.toNat / 16)).val + (Fin.ofNat 16 b.toNat).val = b.toNat := by
    simp
    omega
  rw [hvalue, UInt8.ofNat_toNat]

theorem decodeLower?_encode (bs : List UInt8) : decodeLower? (encode bs) = some bs := by
  induction bs with
  | nil => rfl
  | cons b bs ih =>
    rw [encode, decodeLower?, lowerDigit?_digit, lowerDigit?_digit, ih]
    exact congrArg (fun b => some (b :: bs)) (ofNat_halves b)

theorem encode_injective : Function.Injective encode := by
  intro as bs h
  have hdecode := congrArg decodeLower? h
  rwa [decodeLower?_encode, decodeLower?_encode, Option.some.injEq] at hdecode

/-- **Lower-case text is decoded if and only if it is an encoding.** -/
theorem decodeLower?_eq_some_iff {cs : List Char} {bs : List UInt8} :
    decodeLower? cs = some bs ↔ encode bs = cs := by
  constructor
  · intro h
    fun_induction decodeLower? cs generalizing bs with
    | case1 =>
      cases h
      rfl
    | case2 => cases h
    | case3 high low rest h' l bs' hrest hlow hhigh ih =>
      cases h
      rw [encode_cons_halves, digit_of_lowerDigit? hhigh, digit_of_lowerDigit? hlow, ih hrest]
    | case4 => cases h
  · rintro rfl
    exact decodeLower?_encode bs

theorem exists_digit_of_mem_encode {bs : List UInt8} {c : Char} (h : c ∈ encode bs) :
    ∃ d, c = digit d := by
  induction bs with
  | nil => cases h
  | cons b bs ih =>
    rw [encode, List.mem_cons, List.mem_cons] at h
    rcases h with rfl | rfl | h
    · exact ⟨_, rfl⟩
    · exact ⟨_, rfl⟩
    · exact ih h

theorem isSome_lowerDigit?_of_mem_encode {bs : List UInt8} {c : Char} (h : c ∈ encode bs) :
    (lowerDigit? c).isSome = true := by
  obtain ⟨d, rfl⟩ := exists_digit_of_mem_encode h
  rw [lowerDigit?_digit]
  rfl

/-- The bytes that a text stands for, two digits of either case a byte. -/
inductive Denotes : List Char → List UInt8 → Prop
  | nil : Denotes [] []
  | cons {high low : Char} {h l : Fin 16} {digits : List Char} {bytes : List UInt8}
      (high_eq : digit? high = some h) (low_eq : digit? low = some l)
      (rest : Denotes digits bytes) :
      Denotes (high :: low :: digits) (UInt8.ofNat (16 * h.val + l.val) :: bytes)

theorem denotes_iff {digits : List Char} {bytes : List UInt8} :
    Denotes digits bytes ↔ encode bytes = digits.map Char.toLower := by
  constructor
  · intro h
    induction h with
    | nil => rfl
    | cons hhigh hlow _ ih =>
      rw [encode_cons_halves, digit_of_lowerDigit? hhigh, digit_of_lowerDigit? hlow, ih]
      rfl
  · intro h
    induction bytes generalizing digits with
    | nil =>
      obtain rfl := List.map_eq_nil_iff.mp h.symm
      exact .nil
    | cons b bytes ih =>
      obtain ⟨high, digits, rfl, hhigh, h⟩ := List.map_eq_cons_iff.mp h.symm
      obtain ⟨low, digits, rfl, hlow, h⟩ := List.map_eq_cons_iff.mp h
      rw [← ofNat_halves b]
      refine .cons ?_ ?_ (ih h.symm)
      · rw [digit?, hhigh, lowerDigit?_digit]
      · rw [digit?, hlow, lowerDigit?_digit]

/-- **Text of either case is decoded to what it denotes.** -/
theorem decode?_eq_some_iff {digits : List Char} {bytes : List UInt8} :
    decode? digits = some bytes ↔ Denotes digits bytes := by
  rw [denotes_iff, decode?, decodeLower?_eq_some_iff]

/-- Any text of lower-case digits is an encoding, if there are two digits a byte. -/
theorem exists_encode_eq {n : Nat} {cs : List Char} (hlength : cs.length = 2 * n)
    (h : ∀ c ∈ cs, (lowerDigit? c).isSome = true) : ∃ bs, bs.length = n ∧ encode bs = cs := by
  induction n generalizing cs with
  | zero =>
    obtain rfl := List.length_eq_zero_iff.mp hlength
    exact ⟨[], rfl, rfl⟩
  | succ n ih =>
    match cs, hlength with
    | high :: low :: cs, hlength =>
      obtain ⟨hd, hhigh⟩ := Option.isSome_iff_exists.mp (h high (by simp))
      obtain ⟨ld, hlow⟩ := Option.isSome_iff_exists.mp (h low (by simp))
      have hrest : cs.length = 2 * n := by
        simp only [List.length_cons] at hlength
        omega
      obtain ⟨bs, hbs, rfl⟩ := ih hrest fun c hc => h c (by simp [hc])
      refine ⟨UInt8.ofNat (16 * hd.val + ld.val) :: bs, by rw [List.length_cons, hbs], ?_⟩
      rw [encode_cons_halves, digit_of_lowerDigit? hhigh, digit_of_lowerDigit? hlow]

theorem Denotes.isSome_digit? {digits : List Char} {bytes : List UInt8} (h : Denotes digits bytes)
    {c : Char} (hc : c ∈ digits) : (digit? c).isSome = true := by
  have hmem : c.toLower ∈ encode bytes := by
    rw [denotes_iff.mp h]
    exact List.mem_map_of_mem hc
  exact isSome_lowerDigit?_of_mem_encode hmem

end Hex

end DigestRecord
