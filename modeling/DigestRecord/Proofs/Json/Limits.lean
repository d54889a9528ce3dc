import DigestRecord.Proofs.Json.Grammar

/-!
# Texts within the limits

Whatever a production spells, it leaves an end of the text. So a container is nested in a text no
deeper than the text is long, and no number in it has more digits than that. A short text is within
the limits of `decode` for this reason alone.

## Main results

* `Spells.suffix` — what is left of a text is an end of it
* `isWithinLimits_of_length_le` — short texts are within the limits
-/

namespace DigestRecord

namespace Json

/-! ## What is left of a text -/

theorem Space.suffix {text rest : List Char} (h : Space text rest) : rest <:+ text := by
  induction h with
  | none => exact List.suffix_refl _
  | more _ _ ih => exact ih.trans (List.suffix_cons _ _)

theorem Digits.suffix {text digits rest : List Char} (h : Digits text digits rest) :
    rest <:+ text := ⟨digits, h.text_eq.symm⟩

theorem Minus.suffix {text rest : List Char} {negative : Bool} (h : Minus text negative rest) :
    rest <:+ text := by
  cases h with
  | absent => exact List.suffix_refl _
  | present => exact List.suffix_cons _ _

theorem Whole.suffix {text digits rest : List Char} (h : Whole text digits rest) :
    rest <:+ text := by
  cases h with
  | zero => exact List.suffix_cons _ _
  | other run _ => exact run.suffix

theorem Fraction.suffix {text places rest : List Char} (h : Fraction text places rest) :
    rest <:+ text := by
  cases h with
  | absent => exact List.suffix_refl _
  | present run => exact run.suffix.trans (List.suffix_cons _ _)

theorem Sign.suffix {text rest : List Char} {negative : Bool} (h : Sign text negative rest) :
    rest <:+ text := by
  cases h with
  | absent => exact List.suffix_refl _
  | plus => exact List.suffix_cons _ _
  | minus => exact List.suffix_cons _ _

theorem Exponent.suffix {text rest : List Char} {exponent : Option Int}
    (h : Exponent text exponent rest) : rest <:+ text := by
  cases h with
  | absent => exact List.suffix_refl _
  | present _ sign run => exact (run.suffix.trans sign.suffix).trans (List.suffix_cons _ _)

theorem Number.suffix {limit : Nat} {text rest : List Char} {v : Value}
    (h : Number limit text v rest) : rest <:+ text := by
  cases h with
  | whole minus part _ => exact part.suffix.trans minus.suffix
  | real minus part fraction power _ =>
    exact ((power.suffix.trans fraction.suffix).trans part.suffix).trans minus.suffix

theorem NumberedEscape.suffix {text rest : List Char} {p : CodePoint}
    (h : NumberedEscape text p rest) : rest <:+ text := by
  cases h with
  | @mk a b c d _ _ _ => exact ⟨['\\', 'u', a, b, c, d], rfl⟩

theorem Characters.suffix {text rest : List Char} {t : Text} (h : Characters text t rest) :
    rest <:+ text := by
  induction h with
  | close => exact List.suffix_cons _ _
  | plain _ _ _ _ ih => exact ih.trans (List.suffix_cons _ _)
  | @letter e _ _ _ _ _ _ ih => exact ih.trans ⟨['\\', e], rfl⟩
  | pair first second _ _ ih => exact (ih.trans second.suffix).trans first.suffix
  | numbered escape _ _ ih => exact ih.trans escape.suffix

theorem Scalar.suffix {limit : Nat} {text rest : List Char} {v : Value}
    (h : Scalar limit text v rest) : rest <:+ text := by
  cases h with
  | @word w _ _ _ => exact List.suffix_append w rest
  | number h => exact h.suffix
  | string inside => exact inside.suffix.trans (List.suffix_cons _ _)

/-- What a production leaves is an end of the text. -/
def LeavesEnd {α : Type} (G : Grammar α) : Prop :=
  ∀ {text rest : List Char} {a : α}, G text a rest → rest <:+ text

section

variable {α : Type} {close : Char} {G : Grammar α}

theorem Parts.suffix (hG : LeavesEnd G) {text rest : List Char} {as : List α}
    (h : Parts close G text as rest) : rest <:+ text := by
  induction h with
  | last first space => exact ((List.suffix_cons _ _).trans space.suffix).trans (hG first)
  | more first space space' _ ih =>
    have hbody := (ih.trans space'.suffix).trans (List.suffix_cons ',' _)
    exact (hbody.trans space.suffix).trans (hG first)

theorem Enclosed.suffix (hG : LeavesEnd G) {opening : Char} {text rest : List Char} {as : List α}
    (h : Enclosed opening close G text as rest) : rest <:+ text := by
  cases h with
  | empty space => exact ((List.suffix_cons _ _).trans space.suffix).trans (List.suffix_cons _ _)
  | parts space inside =>
    exact ((inside.suffix hG).trans space.suffix).trans (List.suffix_cons _ _)

end

theorem Member.suffix {G : Grammar Value} (hG : LeavesEnd G) : LeavesEnd (Member G) := by
  rintro text rest m ⟨name, space, space', value⟩
  have hvalue := ((hG value).trans space'.suffix).trans (List.suffix_cons ':' _)
  exact ((hvalue.trans space.suffix).trans name.suffix).trans (List.suffix_cons _ _)

/-- **What is left of a text is an end of it.** -/
theorem Spells.suffix (limit depth : Nat) : LeavesEnd (Spells limit depth) := by
  induction depth with
  | zero =>
    rintro text rest v h
    exact Scalar.suffix h
  | succ depth ih =>
    rintro text rest v (h | ⟨vs, -, h⟩ | ⟨ms, -, h⟩)
    · exact h.suffix
    · exact h.suffix ih
    · exact h.suffix (Member.suffix ih)

/-! ## Short texts -/

theorem Number.of_length_le {limit n : Nat} {text rest : List Char} {v : Value}
    (h : Number limit text v rest) (hn : text.length ≤ n) : Number n text v rest := by
  cases h with
  | @whole _ body digits _ _ minus part _ =>
    refine .whole minus part ?_
    have hbody := minus.suffix.length_le
    cases part with
    | zero =>
      simp only [List.length_cons, List.length_nil] at hbody ⊢
      omega
    | other run _ =>
      rw [run.text_eq, List.length_append] at hbody
      omega
  | real minus part fraction power isReal => exact .real minus part fraction power isReal

theorem Scalar.of_length_le {limit n : Nat} {text rest : List Char} {v : Value}
    (h : Scalar limit text v rest) (hn : text.length ≤ n) : Scalar n text v rest := by
  cases h with
  | word known => exact .word known
  | number h => exact .number (h.of_length_le hn)
  | string inside => exact .string inside

section

variable {α : Type} {close : Char} {G G' : Grammar α}

/-- Productions that agree on texts up to a length can take each other's place in such texts. -/
theorem Parts.imp (hG : LeavesEnd G) {n : Nat}
    (himp : ∀ {text rest : List Char} {a : α}, text.length ≤ n → G text a rest → G' text a rest)
    {text rest : List Char} {as : List α} (h : Parts close G text as rest) (hn : text.length ≤ n) :
    Parts close G' text as rest := by
  induction h with
  | last first space => exact .last (himp hn first) space
  | more first space space' _ ih =>
    have hafter := (hG first).length_le
    have hbody := space.suffix.length_le
    have hnext := space'.suffix.length_le
    rw [List.length_cons] at hbody
    exact .more (himp hn first) space space' (ih (by omega))

theorem Enclosed.imp (hG : LeavesEnd G) {n : Nat}
    (himp : ∀ {text rest : List Char} {a : α}, text.length ≤ n → G text a rest → G' text a rest)
    {opening : Char} {text rest : List Char} {as : List α}
    (h : Enclosed opening close G text as rest) (hn : text.length ≤ n + 1) :
    Enclosed opening close G' text as rest := by
  cases h with
  | empty space => exact .empty space
  | parts space inside =>
    have hbody := space.suffix.length_le
    rw [List.length_cons] at hn
    exact .parts space (inside.imp hG himp (by omega))

end

theorem Member.imp {G G' : Grammar Value} {n : Nat}
    (himp : ∀ {text rest : List Char} {v : Value}, text.length ≤ n → G text v rest → G' text v rest)
    {text rest : List Char} {m : Text × Value} (hn : text.length ≤ n) (h : Member G text m rest) :
    Member G' text m rest := by
  rcases h with ⟨name, space, space', value⟩
  have hname := name.suffix.length_le
  have hbody := space.suffix.length_le
  have hnext := space'.suffix.length_le
  rw [List.length_cons] at hn hbody
  exact .mk name space space' (himp (by omega) value)

/-- A text is nested no deeper than it is long, and its numbers have no more digits. -/
theorem Spells.of_length_le {limit depth n levels digits : Nat} {text rest : List Char} {v : Value}
    (h : Spells limit depth text v rest) (hn : text.length ≤ n) (hlevels : n ≤ levels)
    (hdigits : n ≤ digits) : Spells digits levels text v rest := by
  induction depth generalizing n levels text rest v with
  | zero => exact (Scalar.of_length_le h (Nat.le_trans hn hdigits)).spells levels
  | succ depth ih =>
    have hspells : ∀ {m l : Nat}, m + 1 ≤ l + 1 → m + 1 ≤ digits →
        ∀ {text rest : List Char} {v : Value}, text.length ≤ m → Spells limit depth text v rest →
          Spells digits l text v rest :=
      fun hl hm _ _ _ hlen h => ih h hlen (by omega) (by omega)
    rcases h with h | ⟨vs, rfl, h⟩ | ⟨ms, rfl, h⟩
    · exact (h.of_length_le (Nat.le_trans hn hdigits)).spells levels
    · cases n with
      | zero => cases h <;> cases hn
      | succ m =>
        obtain ⟨l, rfl⟩ := Nat.exists_eq_add_one_of_ne_zero (Nat.ne_of_gt (Nat.zero_lt_of_lt hlevels))
        exact .inr (.inl ⟨vs, rfl, h.imp (Spells.suffix limit depth) (hspells hlevels hdigits) hn⟩)
    · cases n with
      | zero => cases h <;> cases hn
      | succ m =>
        obtain ⟨l, rfl⟩ := Nat.exists_eq_add_one_of_ne_zero (Nat.ne_of_gt (Nat.zero_lt_of_lt hlevels))
        exact .inr (.inr ⟨ms, rfl, h.imp (Member.suffix (Spells.suffix limit depth))
          (Member.imp (hspells hlevels hdigits)) hn⟩)

/-- **Short texts are within the limits**, whatever the calls under way leave of them. -/
theorem isWithinLimits_of_length_le {text : List Char} (allowed : DepthLimit) (h : text.length ≤ 400) :
    IsWithinLimits allowed text := by
  rintro limit depth v ⟨front, back, hfront, hspells, hback⟩
  have hlen := hfront.suffix.length_le
  exact ⟨front, back, hfront, hspells.of_length_le (by omega) allowed.enough (by decide), hback⟩

end Json

end DigestRecord
