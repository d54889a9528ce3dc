import DigestRecord.Proofs.Json.Documents

/-!
# A text spells one value

The grammar has no ambiguity, whatever its two limits are: the same text does not spell different
values under different limits. So limits decide only whether a text is JSON, never what it means.

The productions do not look ahead, and a number may be cut short by them. Two derivations of the
front of a text are therefore compared only if neither of them stops inside a number (`Boundary`).
Inside a container that is always so, and a whole text ends where its value ends.

Single numbers and strings come down to the functions that split them off. Containers are treated
once, for any two productions of their parts that agree.

## Main results

* `Spells.agree` — the front of a text spells one value, and ends in one place
* `Document.unique` — a whole text spells one value
-/

namespace DigestRecord

namespace Json

/-- Two productions never spell different things by the same text, nor the same thing by fronts of
it of different lengths. -/
def Agree {α : Type} (G G' : Grammar α) : Prop :=
  ∀ {text rest rest' : List Char} {a a' : α}, G text a rest → G' text a' rest' →
    Boundary rest → Boundary rest' → a = a' ∧ rest = rest'

/-! ## Words, numbers and strings -/

theorem Space.unique {text rest rest' : List Char} {c c' : Char} (h : Space text (c :: rest))
    (h' : Space text (c' :: rest')) (hc : isSpace c = false) (hc' : isSpace c' = false) :
    c = c' ∧ rest = rest' := by
  have heq : c :: rest = c' :: rest' := (Json.skipSpace_eq h hc).symm.trans (Json.skipSpace_eq h' hc')
  exact List.cons.inj heq

theorem Scanner.Reads.unique {α : Type} {s : Scanner α} {text rest rest' : List Char} {a a' : α}
    (h : Scanner.Reads s text a rest) (h' : Scanner.Reads s text a' rest') :
    a = a' ∧ rest = rest' := by
  obtain ⟨shorter, h⟩ := h
  obtain ⟨shorter', h'⟩ := h'
  rw [h] at h'
  cases h'
  exact ⟨rfl, rfl⟩

theorem Characters.unique {text rest rest' : List Char} {t t' : Text} (h : Characters text t rest)
    (h' : Characters text t' rest') : t = t' ∧ rest = rest' :=
  (string_complete h).unique (string_complete h')

theorem Number.agree (limit limit' : Nat) : Agree (Number limit) (Number limit') := by
  intro text rest rest' v v' h h' hrest hrest'
  obtain ⟨-, rfl, rfl, -⟩ := h.splits hrest
  obtain ⟨-, rfl, rfl, -⟩ := h'.splits hrest'
  exact ⟨rfl, rfl⟩

/-- A word is no number and no string, and is the only word that a text begins with. -/
theorem Scalar.agree_word {limit : Nat} {w after rest : List Char} {v v' : Value}
    (known : (w, v) ∈ literals) (h : Scalar limit (w ++ after) v' rest) :
    v = v' ∧ after = rest := by
  have hliteral := literal?_append known after
  generalize w ++ after = text at h hliteral
  cases h with
  | word known' =>
    rw [literal?_append known'] at hliteral
    cases hliteral
    exact ⟨rfl, rfl⟩
  | number h =>
    rw [literal?_of_number h] at hliteral
    cases hliteral
  | string =>
    cases hliteral

theorem Scalar.agree (limit limit' : Nat) : Agree (Scalar limit) (Scalar limit') := by
  intro text rest rest' v v' h h' hrest hrest'
  cases h with
  | word known => exact h'.agree_word known
  | number h =>
    generalize htext : text = text' at h'
    cases h' with
    | word known =>
      rw [htext] at h
      obtain ⟨rfl, rfl⟩ := (Scalar.number h).agree_word known
      exact ⟨rfl, rfl⟩
    | number h' => exact Number.agree limit limit' h (htext ▸ h') hrest hrest'
    | string =>
      obtain ⟨c, cs, rfl, hc⟩ := beginsScalar_of_number h
      cases htext
      exact absurd rfl hc.2.2.2.1
  | @string text _ _ inside =>
    generalize htext : '"' :: text = text' at h'
    cases h' with
    | word known =>
      obtain ⟨c, cs, rfl, hc⟩ := beginsScalar_of_literal known
      cases htext
      exact absurd rfl hc.2.2.2.1
    | number h' =>
      obtain ⟨c, cs, rfl, hc⟩ := beginsScalar_of_number h'
      cases htext
      exact absurd rfl hc.2.2.2.1
    | string inside' =>
      cases htext
      obtain ⟨rfl, rfl⟩ := inside.unique inside'
      exact ⟨rfl, rfl⟩

/-! ## Containers -/

section

variable {α : Type} {close : Char} {G G' : Grammar α}

theorem Parts.unique (hagree : Agree G G') (hclose : Closes close) (hG : Begins close G)
    (hG' : Begins close G') {text rest rest' : List Char} {as as' : List α}
    (h : Parts close G text as rest) (h' : Parts close G' text as' rest') :
    as = as' ∧ rest = rest' := by
  have hcomma : ∀ body, Boundary (',' :: body) := boundary_cons (by decide)
  induction h generalizing as' rest' with
  | last first space =>
    have hafter := space.boundary (hclose.boundary _)
    cases h' with
    | last first' space' =>
      obtain ⟨rfl, rfl⟩ := hagree first first' hafter (space'.boundary (hclose.boundary _))
      obtain ⟨-, rfl⟩ := space.unique space' hclose.not_space hclose.not_space
      exact ⟨rfl, rfl⟩
    | more first' space' =>
      obtain ⟨rfl, rfl⟩ := hagree first first' hafter (space'.boundary (hcomma _))
      exact absurd (space.unique space' hclose.not_space rfl).1 hclose.ne_comma
  | more first space next others ih =>
    have hafter := space.boundary (hcomma _)
    cases h' with
    | last first' space' =>
      obtain ⟨rfl, rfl⟩ := hagree first first' hafter (space'.boundary (hclose.boundary _))
      exact absurd (space'.unique space hclose.not_space rfl).1 hclose.ne_comma
    | more first' space' next' others' =>
      obtain ⟨rfl, rfl⟩ := hagree first first' hafter (space'.boundary (hcomma _))
      obtain ⟨-, rfl⟩ := space.unique space' rfl rfl
      obtain ⟨c, cs, rfl, hc, -⟩ := others.exists_cons hG
      obtain ⟨c', cs', rfl, hc', -⟩ := others'.exists_cons hG'
      obtain ⟨rfl, rfl⟩ := next.unique next' hc hc'
      obtain ⟨rfl, rfl⟩ := ih others'
      exact ⟨rfl, rfl⟩

theorem Enclosed.unique (hagree : Agree G G') (hclose : Closes close) (hG : Begins close G)
    (hG' : Begins close G') {opening : Char} {text rest rest' : List Char} {as as' : List α}
    (h : Enclosed opening close G text as rest) (h' : Enclosed opening close G' text as' rest') :
    as = as' ∧ rest = rest' := by
  cases h with
  | empty space =>
    cases h' with
    | empty space' =>
      obtain ⟨-, rfl⟩ := space.unique space' hclose.not_space hclose.not_space
      exact ⟨rfl, rfl⟩
    | parts space' inside' =>
      obtain ⟨c, cs, rfl, hc, -, hne⟩ := inside'.exists_cons hG'
      exact absurd (space.unique space' hclose.not_space hc).1 (Ne.symm hne)
  | parts space inside =>
    obtain ⟨c, cs, rfl, hc, -, hne⟩ := inside.exists_cons hG
    cases h' with
    | empty space' => exact absurd (space.unique space' hc hclose.not_space).1 hne
    | parts space' inside' =>
      obtain ⟨c', cs', rfl, hc', -⟩ := inside'.exists_cons hG'
      obtain ⟨rfl, rfl⟩ := space.unique space' hc hc'
      exact inside.unique @hagree hclose @hG @hG' inside'

end

theorem Member.agree {G G' : Grammar Value} (hagree : Agree G G') (hG : Begins ']' G)
    (hG' : Begins ']' G') : Agree (Member G) (Member G') := by
  rintro text rest rest' m m' ⟨name, space, next, value⟩ ⟨name', space', next', value'⟩ hrest hrest'
  obtain ⟨rfl, rfl⟩ := name.unique name'
  obtain ⟨-, rfl⟩ := space.unique space' rfl rfl
  obtain ⟨c, cs, rfl, hc, -⟩ := hG value
  obtain ⟨c', cs', rfl, hc', -⟩ := hG' value'
  obtain ⟨rfl, rfl⟩ := next.unique next' hc hc'
  obtain ⟨rfl, rfl⟩ := hagree value value' hrest hrest'
  exact ⟨rfl, rfl⟩

/-! ## Values -/

/-- A word, a number and a string begin unlike a container. -/
theorem Scalar.head?_ne {limit : Nat} {text rest : List Char} {v : Value}
    (h : Scalar limit text v rest) : text.head? ≠ some '[' ∧ text.head? ≠ some '{' := by
  have hfirst : ∀ {c : Char} (cs : List Char), BeginsScalar c →
      (c :: cs).head? ≠ some '[' ∧ (c :: cs).head? ≠ some '{' := by
    rintro c cs ⟨-, -, -, -, hbracket, hbrace⟩
    exact ⟨by simpa using hbracket, by simpa using hbrace⟩
  cases h with
  | word known =>
    obtain ⟨c, cs, rfl, hc⟩ := beginsScalar_of_literal known
    exact hfirst _ hc
  | number h =>
    obtain ⟨c, cs, rfl, hc⟩ := beginsScalar_of_number h
    exact hfirst _ hc
  | string => exact ⟨by simp, by simp⟩

theorem Enclosed.head?_eq {α : Type} {opening close : Char} {part : Grammar α}
    {text rest : List Char} {as : List α} (h : Enclosed opening close part text as rest) :
    text.head? = some opening := by
  cases h <;> rfl

/-- What a value of the grammar is, by its first character. -/
theorem Spells.inv {limit depth : Nat} {text rest : List Char} {v : Value}
    (h : Spells limit depth text v rest) :
    Scalar limit text v rest ∨ ∃ below, depth = below + 1 ∧
      ((∃ vs, v = .array vs ∧ ArrayOf (Spells limit below) text vs rest) ∨
        ∃ ms, v = .ofMembers ms ∧ ObjectOf (Spells limit below) text ms rest) := by
  cases depth with
  | zero => exact .inl h
  | succ depth =>
    rcases h with h | h
    · exact .inl h
    · exact .inr ⟨depth, rfl, h⟩

/-- **The front of a text spells one value, and ends in one place.** By induction on the depth of
one of the two derivations: the parts of a container are nested less deep. -/
theorem Spells.agree (limit limit' depth depth' : Nat) :
    Agree (Spells limit depth) (Spells limit' depth') := by
  induction depth generalizing depth' with
  | zero =>
    intro text rest rest' v v' h h' hrest hrest'
    rcases h'.inv with hs' | ⟨below', rfl, ⟨vs', rfl, ha'⟩ | ⟨ms', rfl, ho'⟩⟩
    · exact Scalar.agree limit limit' h hs' hrest hrest'
    · exact absurd ha'.head?_eq (Scalar.head?_ne h).1
    · exact absurd ho'.head?_eq (Scalar.head?_ne h).2
  | succ depth ih =>
    intro text rest rest' v v' h h' hrest hrest'
    -- Of the nine pairs of kinds the unequal ones differ in the first character.
    rcases h with hs | ⟨vs, rfl, ha⟩ | ⟨ms, rfl, ho⟩ <;>
      rcases h'.inv with hs' | ⟨below', rfl, ⟨vs', rfl, ha'⟩ | ⟨ms', rfl, ho'⟩⟩
    · exact Scalar.agree limit limit' hs hs' hrest hrest'
    · exact absurd ha'.head?_eq hs.head?_ne.1
    · exact absurd ho'.head?_eq hs.head?_ne.2
    · exact absurd ha.head?_eq hs'.head?_ne.1
    · obtain ⟨rfl, rfl⟩ := ha.unique (@ih below') closes_bracket (begins_spells _ _)
        (begins_spells _ _) ha'
      exact ⟨rfl, rfl⟩
    · exact absurd (ha.head?_eq.symm.trans ho'.head?_eq) (by decide)
    · exact absurd ho.head?_eq hs'.head?_ne.2
    · exact absurd (ho.head?_eq.symm.trans ha'.head?_eq) (by decide)
    · have hmember := @Member.agree _ _ (@ih below') (begins_spells _ _) (begins_spells _ _)
      obtain ⟨rfl, rfl⟩ := ho.unique @hmember closes_brace begins_member begins_member ho'
      exact ⟨rfl, rfl⟩

/-! ## Whole texts -/

/-- What stands between the white space at the two ends of a text is one thing. -/
theorem Document.unique_of_agree {α : Type} {G G' : Grammar α} {close : Char} {text : List Char}
    {a a' : α} (h : Document G text a) (h' : Document G' text a') (hagree : Agree G G')
    (hG : Begins close G) (hG' : Begins close G') : a = a' := by
  obtain ⟨front, back, hfront, hspells, hback⟩ := h
  obtain ⟨front', back', hfront', hspells', hback'⟩ := h'
  obtain ⟨c, cs, rfl, hc, -⟩ := hG hspells
  obtain ⟨c', cs', rfl, hc', -⟩ := hG' hspells'
  obtain ⟨rfl, rfl⟩ := hfront.unique hfront' hc hc'
  exact (hagree hspells hspells' (hback.boundary boundary_nil) (hback'.boundary boundary_nil)).1

/-- **A whole text spells one value**, under whatever limits it is read. -/
theorem Document.unique {limit limit' depth depth' : Nat} {text : List Char} {v v' : Value}
    (h : Document (Spells limit depth) text v) (h' : Document (Spells limit' depth') text v') :
    v = v' :=
  h.unique_of_agree h' (Spells.agree limit limit' depth depth') (begins_spells _ _)
    (begins_spells _ _)

end Json

end DigestRecord
