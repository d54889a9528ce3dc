import DigestRecord.Proofs.Text.Folding
import DigestRecord.Text.Quoted

/-!
# Printable text

Text that can be shown as it is (`IsShowable`), and what of the things that messages are put together
from is so: digits in both bases, and any text at all once it stands between quotes. What is quoted may
hold line breaks, control characters and surrogates that stand alone; every one of them is escaped, and
an escape is made of a backslash, letters and digits.

Printable text is in particular one line (`IsPlainLine`). That needs the table of unprintable code
points to cover everything that ends a line, all control characters and all surrogates.

## Main results

* `IsShowable.isPlainLine` — printable text is one line, without control characters and surrogates
* `Text.isShowable_quoted` — any text can be shown between quotes
-/

namespace DigestRecord

/-- All characters of a text can be shown as they are. -/
def IsShowable (cs : List Char) : Prop := ∀ c ∈ cs, (CodePoint.ofChar c).isPrintable = true

instance (cs : List Char) : Decidable (IsShowable cs) := List.decidableBAll _ _

/-! ## One line -/

/-- The characters that end a line, wherever text is split into lines. -/
def lineBreaks : List Char :=
  ['\n', '\x0b', '\x0c', '\r', '\x1c', '\x1d', '\x1e', '\x85', '\u2028', '\u2029']

namespace CodePoint

/-- Whether a code point is a control character. -/
def isControl (p : CodePoint) : Bool := p.value ≤ 0x1f || (0x7f ≤ p.value && p.value ≤ 0x9f)

/-- Whether a code point is a surrogate. -/
def isSurrogate (p : CodePoint) : Bool := 0xd800 ≤ p.value && p.value ≤ 0xdfff

end CodePoint

/-- A text is one line that nothing can be hidden in. -/
structure IsPlainLine (cs : List Char) : Prop where
  printable : ∀ c ∈ cs, (CodePoint.ofChar c).isPrintable = true
  unbroken : ∀ c ∈ cs, c ∉ lineBreaks
  uncontrolled : ∀ c ∈ cs, (CodePoint.ofChar c).isControl = false
  paired : ∀ c ∈ cs, (CodePoint.ofChar c).isSurrogate = false

namespace CodePoint

/-- What lies in a range of the table is not printable. -/
theorem not_isPrintable_of_mem {p : CodePoint} {r : Nat × Nat} (hr : r ∈ unprintableRanges)
    (hlow : r.1 ≤ p.value) (hhigh : p.value ≤ r.2) : ¬ p.isPrintable = true := by
  have hranges : ∀ r ∈ unprintableRanges, r.2 < 0x20 ∨ 0x7f ≤ r.1 := by decide +kernel
  have hplace := hranges r hr
  rw [isPrintable]
  split
  · rw [decide_eq_true_eq]
    omega
  · have hany : (unprintableRanges.any fun r => r.1 ≤ p.value && p.value ≤ r.2) = true := by
      refine List.any_eq_true.mpr ⟨r, hr, ?_⟩
      rw [decide_eq_true hlow, decide_eq_true hhigh]
      rfl
    rw [hany]
    exact Bool.false_ne_true

theorem isControl_of_isPrintable {p : CodePoint} (h : p.isPrintable = true) :
    p.isControl = false := by
  by_contra hcontrol
  rw [Bool.not_eq_false, isControl, Bool.or_eq_true, Bool.and_eq_true, decide_eq_true_eq,
    decide_eq_true_eq, decide_eq_true_eq] at hcontrol
  rcases hcontrol with hlow | ⟨hlow, hhigh⟩
  · exact not_isPrintable_of_mem (r := (0x00, 0x1f)) (by decide +kernel) (Nat.zero_le _) hlow h
  · exact not_isPrintable_of_mem (r := (0x7f, 0xa0)) (by decide +kernel) hlow
      (Nat.le_succ_of_le hhigh) h

theorem isSurrogate_of_isPrintable {p : CodePoint} (h : p.isPrintable = true) :
    p.isSurrogate = false := by
  by_contra hsurrogate
  rw [Bool.not_eq_false, isSurrogate, Bool.and_eq_true, decide_eq_true_eq,
    decide_eq_true_eq] at hsurrogate
  obtain ⟨hlow, hhigh⟩ := hsurrogate
  exact not_isPrintable_of_mem (r := (0xd7fc, 0xf8ff)) (by decide +kernel) (by omega) (by omega) h

theorem not_isPrintable_of_mem_lineBreaks {c : Char} (h : c ∈ lineBreaks) :
    ¬ (ofChar c).isPrintable = true := by
  have hall : lineBreaks.all (fun c => !(ofChar c).isPrintable) = true := by decide +kernel
  simpa using List.all_eq_true.mp hall c h

end CodePoint

namespace IsShowable

/-- **Printable text is one line**, without control characters and without surrogates. -/
theorem isPlainLine {cs : List Char} (h : IsShowable cs) : IsPlainLine cs where
  printable := h
  unbroken c hc hbreak := CodePoint.not_isPrintable_of_mem_lineBreaks hbreak (h c hc)
  uncontrolled c hc := CodePoint.isControl_of_isPrintable (h c hc)
  paired c hc := CodePoint.isSurrogate_of_isPrintable (h c hc)

/-! ## Putting text together -/

theorem nil : IsShowable [] := nofun

theorem cons {c : Char} {cs : List Char} (hc : (CodePoint.ofChar c).isPrintable = true)
    (h : IsShowable cs) : IsShowable (c :: cs) := List.forall_mem_cons.mpr ⟨hc, h⟩

theorem append {cs ds : List Char} (h : IsShowable cs) (h' : IsShowable ds) :
    IsShowable (cs ++ ds) := List.forall_mem_append.mpr ⟨h, h'⟩

theorem subset {cs ds : List Char} (h : IsShowable cs) (hsub : ds ⊆ cs) : IsShowable ds :=
  fun c hc => h c (hsub hc)

theorem replicate (n : Nat) {c : Char} (hc : (CodePoint.ofChar c).isPrintable = true) :
    IsShowable (List.replicate n c) := by
  intro d hd
  rw [List.eq_of_mem_replicate hd]
  exact hc

end IsShowable

/-! ## Digits -/

theorem Decimal.isShowable_of_isDigit {cs : List Char} (h : ∀ c ∈ cs, isDigit c = true) :
    IsShowable cs := by
  intro c hc
  obtain ⟨d, rfl⟩ := exists_eq_digit (h c hc)
  clear hc
  revert d
  decide

theorem Decimal.isShowable_ofNat (n : Nat) : IsShowable (ofNat n) :=
  isShowable_of_isDigit fun _ hc => isDigit_of_mem_ofNat hc

theorem Decimal.isShowable_ofInt (n : Int) : IsShowable (ofInt n) := by
  cases n with
  | ofNat n => exact isShowable_ofNat n
  | negSucc n => exact .cons (by decide) (isShowable_ofNat (n + 1))

theorem Hex.isShowable_padded (width n : Nat) : IsShowable (padded width n) := by
  induction width generalizing n with
  | zero => exact .nil
  | succ width ih =>
    refine (ih (n / 16)).append (.cons ?_ .nil)
    generalize Fin.ofNat 16 n = d
    revert d
    decide

/-! ## Quoted text -/

namespace CodePoint

theorem isShowable_numericEscape (p : CodePoint) : IsShowable p.numericEscape := by
  rw [numericEscape]
  split
  · exact .cons (by decide) (.cons (by decide) (Hex.isShowable_padded _ _))
  · split <;> exact .cons (by decide) (.cons (by decide) (Hex.isShowable_padded _ _))

/-- **Any code point can be shown between quotes**: it is printable itself, or it is escaped. -/
theorem isShowable_escaped {quote : Char} (hquote : (ofChar quote).isPrintable = true)
    (p : CodePoint) : IsShowable (p.escaped quote) := by
  rw [escaped]
  split
  · exact p.isShowable_numericEscape
  · rename_i c hchar
    split_ifs with hspecial htab hfeed hreturn hprintable
    · refine .cons (by decide) (.cons ?_ .nil)
      rcases hspecial with rfl | rfl
      · exact hquote
      · decide
    · decide
    · decide
    · decide
    · rw [eq_ofChar_of_toChar? hchar] at hprintable
      exact .cons hprintable .nil
    · exact p.isShowable_numericEscape

end CodePoint

theorem Text.isPrintable_quoteMark (t : Text) : (CodePoint.ofChar t.quoteMark).isPrintable = true := by
  rw [quoteMark]
  split <;> decide

/-- **Any text can be shown between quotes**, whichever quotes it takes. -/
theorem Text.isShowable_quoted (t : Text) : IsShowable t.quoted := by
  have hquote := t.isPrintable_quoteMark
  refine (IsShowable.cons hquote ?_).append (.cons hquote .nil)
  intro c hc
  obtain ⟨p, -, hp⟩ := List.mem_flatMap.mp hc
  exact p.isShowable_escaped hquote c hp

end DigestRecord
