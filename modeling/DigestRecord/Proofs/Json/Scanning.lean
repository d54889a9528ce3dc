import DigestRecord.Proofs.Json.Grammar
import Mathlib.Data.List.TakeWhile

/-!
# Scanners and their productions

A scanner recognizes a production if it finds what the production spells, with the same text left
over. One direction needs no condition. The other one does: a production may stop in the middle of a
number, while a scanner takes all of it, so what follows has to be something that no number goes on
with (`Boundary`).

This module has the notion itself, and the scanners for white space and numbers.

## Main results

* `skipSpace_eq` — white space is skipped up to where it ends
* `number_recognizes` — numbers
-/

namespace DigestRecord

namespace Json

/-- A scanner finds something at the front of a text and leaves the rest. -/
def Scanner.Reads {α : Type} (s : Scanner α) (text : List Char) (a : α) (rest : List Char) : Prop :=
  ∃ shorter, s text = .ok ⟨a, rest, shorter⟩

theorem Scanner.reads_iff {α : Type} {s : Scanner α} {text rest : List Char} {a : α} :
    Scanner.Reads s text a rest ↔
      ∃ found, s text = .ok found ∧ found.value = a ∧ found.rest = rest := by
  constructor
  · rintro ⟨shorter, h⟩
    exact ⟨_, h, rfl, rfl⟩
  · rintro ⟨⟨value, after, shorter⟩, h, rfl, rfl⟩
    exact ⟨shorter, h⟩

theorem Scanner.reads_of_eq {α : Type} {s : Scanner α} {text : List Char} {found : Found α text}
    (h : s text = .ok found) : Scanner.Reads s text found.value found.rest :=
  Scanner.reads_iff.mpr ⟨found, h, rfl, rfl⟩

/-- No number goes on with this text. -/
def Boundary (rest : List Char) : Prop :=
  ∀ c, rest.head? = some c → Decimal.isDigit c = false ∧ c ≠ '.' ∧ c ≠ 'e' ∧ c ≠ 'E'

/-- A scanner finds what a production spells. -/
structure Recognizes {α : Type} (s : Scanner α) (G : Grammar α) : Prop where
  sound {text rest : List Char} {a : α} : Scanner.Reads s text a rest → G text a rest
  complete {text rest : List Char} {a : α} :
    G text a rest → Boundary rest → Scanner.Reads s text a rest

theorem boundary_nil : Boundary [] := by simp [Boundary]

theorem boundary_cons {c : Char} (h : Decimal.isDigit c = false ∧ c ≠ '.' ∧ c ≠ 'e' ∧ c ≠ 'E')
    (text : List Char) : Boundary (c :: text) := by
  rintro d hd
  obtain rfl : c = d := by simpa using hd
  exact h

/-! ## White space -/

theorem isSpace_iff (c : Char) : isSpace c = true ↔ c ∈ [' ', '\t', '\n', '\r'] := by
  simp [isSpace, or_assoc]

theorem space_skipSpace (text : List Char) : Space text (skipSpace text) := by
  induction text with
  | nil => exact .none
  | cons c text ih =>
    cases h : isSpace c with
    | false =>
      rw [skipSpace, List.dropWhile_cons_of_neg (by simp [h])]
      exact .none
    | true =>
      rw [skipSpace, List.dropWhile_cons_of_pos h]
      exact .more ((isSpace_iff c).mp h) ih

theorem Space.skipSpace_eq {text rest : List Char} (h : Space text rest) :
    skipSpace text = skipSpace rest := by
  induction h with
  | none => rfl
  | more hc _ ih =>
    rw [skipSpace, List.dropWhile_cons_of_pos ((isSpace_iff _).mpr hc)]
    exact ih

theorem skipSpace_cons_of_not {c : Char} (h : isSpace c = false) (text : List Char) :
    skipSpace (c :: text) = c :: text := List.dropWhile_cons_of_neg (by simp [h])

/-- **White space is skipped up to where it ends.** -/
theorem skipSpace_eq {text rest : List Char} {c : Char} (h : Space text (c :: rest))
    (hc : isSpace c = false) : skipSpace text = c :: rest := by
  rw [h.skipSpace_eq, skipSpace_cons_of_not hc]

theorem skipSpace_eq_nil {text : List Char} (h : Space text []) : skipSpace text = [] := by
  rw [h.skipSpace_eq]
  rfl

/-- What follows white space that something else follows is no part of a number. -/
theorem Space.boundary {text rest : List Char} (h : Space text rest) (hrest : Boundary rest) :
    Boundary text := by
  cases h with
  | none => exact hrest
  | more hc _ =>
    refine boundary_cons ?_ _
    revert hc
    simp only [List.mem_cons, List.not_mem_nil, or_false]
    rintro (rfl | rfl | rfl | rfl) <;> decide

/-! ## Digits -/

/-- No run of digits goes on with this text. -/
def NoDigit (rest : List Char) : Prop := ∀ c, rest.head? = some c → Decimal.isDigit c = false

theorem Boundary.noDigit {rest : List Char} (h : Boundary rest) : NoDigit rest :=
  fun c hc => (h c hc).1

theorem noDigit_cons {c : Char} (h : Decimal.isDigit c = false) (text : List Char) :
    NoDigit (c :: text) := by
  rintro d hd
  obtain rfl : c = d := by simpa using hd
  exact h

theorem digits_splitDigits {text : List Char} (h : (splitDigits text).1 ≠ []) :
    Digits text (splitDigits text).1 (splitDigits text).2 where
  text_eq := List.takeWhile_append_dropWhile.symm
  ne_nil := h
  isDigit _ hc := List.mem_takeWhile_imp hc

theorem Digits.splitDigits_eq {text digits rest : List Char} (h : Digits text digits rest)
    (hrest : NoDigit rest) : splitDigits text = (digits, rest) := by
  have hnil : rest.takeWhile Decimal.isDigit = [] ∧ rest.dropWhile Decimal.isDigit = rest := by
    cases rest with
    | nil => exact ⟨rfl, rfl⟩
    | cons c rest =>
      have hc : Decimal.isDigit c = false := hrest c rfl
      simp [hc]
  rw [splitDigits, h.text_eq, List.takeWhile_append_of_pos h.isDigit,
    List.dropWhile_append_of_pos h.isDigit, hnil.1, hnil.2, List.append_nil]

theorem Digits.exists_cons {text digits rest : List Char} (h : Digits text digits rest) :
    ∃ c body, text = c :: body ∧ Decimal.isDigit c = true ∧ digits.head? = some c := by
  obtain ⟨rfl, hne, hdigits⟩ := h
  cases digits with
  | nil => exact absurd rfl hne
  | cons c digits => exact ⟨c, digits ++ rest, rfl, hdigits c List.mem_cons_self, rfl⟩

/-! ## The parts of a number -/

theorem minus_splitMinus (text : List Char) :
    Minus text (splitMinus text).1 (splitMinus text).2 := by
  rw [splitMinus.eq_def]
  split
  · exact .present
  · exact .absent

theorem Minus.splitMinus_eq {text body : List Char} {negative : Bool}
    (h : Minus text negative body) {c : Char} (hc : body.head? = some c) (hne : c ≠ '-') :
    splitMinus text = (negative, body) := by
  cases h with
  | absent =>
    rw [splitMinus.eq_def]
    split
    · simp at hc
      exact absurd hc.symm hne
    · rfl
  | present => rfl

theorem whole_splitWhole {text : List Char} (h : (splitWhole text).1 ≠ []) :
    Whole text (splitWhole text).1 (splitWhole text).2 := by
  rw [splitWhole.eq_def] at h ⊢
  split at h
  · exact .zero
  · rename_i hzero
    have hrun := digits_splitDigits h
    refine .other hrun fun hhead => ?_
    obtain ⟨c, body, rfl, -, hc⟩ := hrun.exists_cons
    obtain rfl : c = '0' := by simpa [hc] using hhead
    exact hzero body rfl

theorem Whole.splitWhole_eq {text digits rest : List Char} (h : Whole text digits rest)
    (hrest : NoDigit rest) : splitWhole text = (digits, rest) := by
  cases h with
  | zero => rfl
  | other hrun hfirst =>
    obtain ⟨c, body, rfl, -, hc⟩ := hrun.exists_cons
    rw [splitWhole.eq_def]
    split
    · rename_i heq
      obtain ⟨rfl, -⟩ := List.cons.inj heq
      exact absurd hc hfirst
    · exact hrun.splitDigits_eq hrest

theorem Whole.exists_cons {text digits rest : List Char} (h : Whole text digits rest) :
    ∃ c body, text = c :: body ∧ Decimal.isDigit c = true ∧ digits ≠ [] := by
  cases h with
  | zero => exact ⟨'0', _, rfl, rfl, by simp⟩
  | other hrun _ =>
    obtain ⟨c, body, htext, hc, -⟩ := hrun.exists_cons
    exact ⟨c, body, htext, hc, hrun.ne_nil⟩

theorem fraction_splitFraction (text : List Char) :
    Fraction text (splitFraction text).1 (splitFraction text).2 := by
  rw [splitFraction.eq_def]
  split
  · rename_i rest
    cases h : (splitDigits rest).1.isEmpty with
    | true => exact .absent
    | false =>
      simp only [Bool.false_eq_true, if_false]
      exact .present (digits_splitDigits (by simpa using h))
  · exact .absent

theorem Fraction.splitFraction_eq {text places rest : List Char} (h : Fraction text places rest)
    (hrest : NoDigit rest) (hpoint : rest.head? ≠ some '.') :
    splitFraction text = (places, rest) := by
  cases h with
  | absent =>
    rw [splitFraction.eq_def]
    split
    · exact absurd rfl hpoint
    · rfl
  | present hrun => simp [splitFraction, hrun.splitDigits_eq hrest, hrun.ne_nil]

theorem Fraction.eq_of_nil {text rest : List Char} (h : Fraction text [] rest) : text = rest := by
  cases h with
  | absent => rfl
  | present hrun => exact absurd rfl hrun.ne_nil

theorem Fraction.noDigit {text places rest : List Char} (h : Fraction text places rest)
    (hrest : NoDigit rest) : NoDigit text := by
  cases h with
  | absent => exact hrest
  | present _ => exact noDigit_cons (by decide) _

theorem sign_splitSign (text : List Char) : Sign text (splitSign text).1 (splitSign text).2 := by
  rw [splitSign.eq_def]
  split
  · exact .plus
  · exact .minus
  · exact .absent

theorem Sign.splitSign_eq {text body digits rest : List Char} {negative : Bool}
    (h : Sign text negative body) (hrun : Digits body digits rest) :
    splitSign text = (negative, body) := by
  cases h with
  | plus => rfl
  | minus => rfl
  | absent =>
    obtain ⟨c, body, rfl, hc, -⟩ := hrun.exists_cons
    rw [splitSign.eq_def]
    split
    · rename_i heq
      obtain ⟨rfl, -⟩ := List.cons.inj heq
      exact absurd hc (by decide)
    · rename_i heq
      obtain ⟨rfl, -⟩ := List.cons.inj heq
      exact absurd hc (by decide)
    · rfl

theorem exponent_splitExponent (text : List Char) :
    Exponent text (splitExponent text).1 (splitExponent text).2 := by
  cases text with
  | nil => exact .absent
  | cons e text =>
    by_cases he : e = 'e' ∨ e = 'E'
    · simp only [splitExponent, he, if_true]
      cases h : (splitDigits (splitSign text).2).1.isEmpty with
      | true => exact .absent
      | false => exact .present he (sign_splitSign text) (digits_splitDigits (by simpa using h))
    · simp only [splitExponent, he, if_false]
      exact .absent

theorem Exponent.splitExponent_eq {text rest : List Char} {exponent : Option Int}
    (h : Exponent text exponent rest) (hrest : Boundary rest) :
    splitExponent text = (exponent, rest) := by
  cases h with
  | absent =>
    cases text with
    | nil => rfl
    | cons e text =>
      obtain ⟨-, -, he, hE⟩ := hrest e rfl
      simp [splitExponent, he, hE]
  | present he hsign hrun =>
    simp [splitExponent, he, hsign.splitSign_eq hrun, hrun.splitDigits_eq hrest.noDigit,
      hrun.ne_nil, signed]

theorem Exponent.eq_of_none {text rest : List Char} (h : Exponent text none rest) :
    text = rest := by
  cases h
  rfl

theorem Exponent.noDigit {text rest : List Char} {exponent : Option Int}
    (h : Exponent text exponent rest) (hrest : Boundary rest) :
    NoDigit text ∧ text.head? ≠ some '.' := by
  cases h with
  | absent => exact ⟨hrest.noDigit, fun h => (hrest '.' h).2.1 rfl⟩
  | present he _ _ =>
    rcases he with rfl | rfl <;> exact ⟨noDigit_cons (by decide) _, by simp⟩

/-! ## Numbers -/

theorem number_sound {text rest : List Char} {v : Value} (h : Scanner.Reads number text v rest) :
    Number Decimal.maxDigits text v rest := by
  obtain ⟨found, hfound, rfl, rfl⟩ := Scanner.reads_iff.mp h
  rw [number] at hfound
  split at hfound
  · cases hfound
  · rename_i hne
    have hminus := minus_splitMinus text
    have hwhole := whole_splitWhole hne
    have hfraction := fraction_splitFraction (splitWhole (splitMinus text).2).2
    have hexponent := exponent_splitExponent (splitFraction (splitWhole (splitMinus text).2).2).2
    simp only at hfound
    split at hfound
    · rename_i hint
      rw [Bool.and_eq_true, List.isEmpty_iff, Option.isNone_iff_eq_none] at hint
      split at hfound
      · cases hfound
      · rename_i hshort
        cases hfound
        rw [hint.1] at hfraction
        rw [hint.2] at hexponent
        rw [hfraction.eq_of_nil, hexponent.eq_of_none] at hwhole
        exact .whole hminus hwhole (Nat.not_lt.mp hshort)
    · rename_i hreal
      cases hfound
      refine .real hminus hwhole hfraction hexponent ?_
      rw [Bool.and_eq_true, List.isEmpty_iff, Option.isNone_iff_eq_none] at hreal
      exact not_and_or.mp hreal

/-- The value of the parts of a number. It is a whole number if there are no places and no exponent. -/
def numberOfParts (negative : Bool) (digits places : List Char) (exponent : Option Int) : Value :=
  if places = [] ∧ exponent = none then wholeNumber negative digits
  else .float (.ofDecimal negative (digits ++ places) (exponent.getD 0 - places.length))

/-- **A number is what its text is split into**, whatever the limit on its digits. -/
theorem Number.splits {limit : Nat} {text rest : List Char} {v : Value}
    (h : Number limit text v rest) (hrest : Boundary rest) :
    let minus := splitMinus text
    let whole := splitWhole minus.2
    let fraction := splitFraction whole.2
    let exponent := splitExponent fraction.2
    whole.1 ≠ [] ∧ v = numberOfParts minus.1 whole.1 fraction.1 exponent.1 ∧ exponent.2 = rest ∧
      (fraction.1 = [] ∧ exponent.1 = none → whole.1.length ≤ limit) := by
  cases h with
  | whole hminus hwhole hshort =>
    obtain ⟨c, body, rfl, hc, hne⟩ := hwhole.exists_cons
    have h₁ := hminus.splitMinus_eq (c := c) rfl (by rintro rfl; exact absurd hc (by decide))
    have h₂ := hwhole.splitWhole_eq hrest.noDigit
    have h₃ := (@Fraction.absent rest).splitFraction_eq hrest.noDigit
      (fun h => (hrest '.' h).2.1 rfl)
    have h₄ := (@Exponent.absent rest).splitExponent_eq hrest
    simp [h₁, h₂, h₃, h₄, hne, hshort, numberOfParts, wholeNumber, signed]
  | real hminus hwhole hfraction hexponent hreal =>
    obtain ⟨c, body, rfl, hc, hne⟩ := hwhole.exists_cons
    obtain ⟨hafter, hpoint⟩ := hexponent.noDigit hrest
    have h₁ := hminus.splitMinus_eq (c := c) rfl (by rintro rfl; exact absurd hc (by decide))
    have h₂ := hwhole.splitWhole_eq (hfraction.noDigit hafter)
    have h₃ := hfraction.splitFraction_eq hafter hpoint
    have h₄ := hexponent.splitExponent_eq hrest
    have hreal' : ¬ (_ = [] ∧ _ = none) := not_and_or.mpr hreal
    refine ⟨by simpa only [h₁, h₂] using hne, ?_, by simp only [h₁, h₂, h₃, h₄], ?_⟩
    · simp only [h₁, h₂, h₃, h₄, numberOfParts, if_neg hreal']
    · simpa only [h₁, h₂, h₃, h₄] using fun h => absurd h hreal'

theorem number_complete {text rest : List Char} {v : Value}
    (h : Number Decimal.maxDigits text v rest) (hrest : Boundary rest) :
    Scanner.Reads number text v rest := by
  obtain ⟨hne, rfl, rfl, hshort⟩ := h.splits hrest
  rw [Scanner.reads_iff, number]
  rw [dif_neg hne]
  simp only [Bool.and_eq_true, List.isEmpty_iff, Option.isNone_iff_eq_none]
  split
  · rename_i hwhole
    rw [if_neg (Nat.not_lt.mpr (hshort hwhole))]
    rw [numberOfParts, if_pos hwhole]
    exact ⟨_, rfl, rfl, rfl⟩
  · rename_i hreal
    rw [numberOfParts, if_neg hreal]
    exact ⟨_, rfl, rfl, rfl⟩

/-- **Numbers.** -/
theorem number_recognizes : Recognizes number (Number Decimal.maxDigits) where
  sound := number_sound
  complete := number_complete

end Json

end DigestRecord
