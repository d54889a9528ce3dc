import DigestRecord.Text.ControlSequence
import Mathlib.Data.List.Infix
import Mathlib.Data.List.TakeWhile

/-!
# Where control sequences are in a text

What a control sequence is, by the ranges of its characters (`IsControlSequence`).

Parameters, intermediates and final characters have no character in common. So a text starts with at most
one control sequence, and taking as many characters of each kind as there are finds it
(`skip?_eq_some_iff`). For the same reason a text around another one need not add any: nothing starts
before an escape character, and nothing goes on where a character comes that cannot be next.

## Main results

* `remove_append`, `remove_eq_self` — what is taken out of a text, and what stays
* `IsControlSequence.infix_of_append`, `IsControlSequence.infix_of_blank` — a control sequence in a text
  with others around it
-/

namespace DigestRecord

namespace ControlSequence

/-- A control sequence: the escape character and a bracket, parameters, intermediates, and one final
character. -/
inductive IsControlSequence : List Char → Prop
  | mk {parameters intermediates : List Char} {final : Char}
      (isParameter : ∀ c ∈ parameters, 0x30 ≤ c.toNat ∧ c.toNat ≤ 0x3f)
      (isIntermediate : ∀ c ∈ intermediates, 0x20 ≤ c.toNat ∧ c.toNat ≤ 0x2f)
      (isFinal : 0x40 ≤ final.toNat ∧ final.toNat ≤ 0x7e) :
      IsControlSequence ('\x1b' :: '[' :: (parameters ++ (intermediates ++ [final])))

/-! ## Where a control sequence ends -/

theorem isParameter_iff {c : Char} : isParameter c = true ↔ 0x30 ≤ c.toNat ∧ c.toNat ≤ 0x3f := by
  simp [isParameter]

theorem isIntermediate_iff {c : Char} :
    isIntermediate c = true ↔ 0x20 ≤ c.toNat ∧ c.toNat ≤ 0x2f := by
  simp [isIntermediate]

theorem isFinal_iff {c : Char} : isFinal c = true ↔ 0x40 ≤ c.toNat ∧ c.toNat ≤ 0x7e := by
  simp [isFinal]

/-- Characters of one kind are taken off, up to where those of other kinds come. -/
theorem dropWhile_append_append {p : Char → Bool} {front middle : List Char} (rest : List Char)
    (hfront : ∀ c ∈ front, p c = true) (hne : middle ≠ []) (hmiddle : ∀ c ∈ middle, p c = false) :
    (front ++ (middle ++ rest)).dropWhile p = middle ++ rest := by
  obtain ⟨c, middle, rfl⟩ := List.exists_cons_of_ne_nil hne
  rw [List.dropWhile_append_of_pos hfront, List.cons_append, List.dropWhile_cons_of_neg]
  simp [hmiddle c List.mem_cons_self]

/-- **The rest of a text after a control sequence** is what comes after its final character. -/
theorem skip?_eq_some_iff {text after : List Char} : skip? text = some after ↔
    ∃ s, IsControlSequence ('\x1b' :: '[' :: s) ∧ text = s ++ after := by
  constructor
  · intro h
    rw [skip?] at h
    split at h
    · rename_i final rest hrest
      split at h
      · rename_i hfinal
        cases h
        refine ⟨text.takeWhile isParameter ++
          ((text.dropWhile isParameter).takeWhile isIntermediate ++ [final]), ?_, ?_⟩
        · refine .mk (fun c hc => ?_) (fun c hc => ?_) (isFinal_iff.mp hfinal)
          · exact isParameter_iff.mp (List.mem_takeWhile_imp hc)
          · exact isIntermediate_iff.mp (List.mem_takeWhile_imp hc)
        · rw [List.append_assoc, List.append_assoc, List.singleton_append, ← hrest,
            List.takeWhile_append_dropWhile, List.takeWhile_append_dropWhile]
      · cases h
    · cases h
  · rintro ⟨s, hs, rfl⟩
    generalize hsequence : '\x1b' :: '[' :: s = sequence at hs
    obtain @⟨parameters, intermediates, final, hparameters, hintermediates, hfinal⟩ := hs
    simp only [List.cons.injEq, true_and] at hsequence
    subst hsequence
    have hafter : ∀ c ∈ intermediates ++ [final], isParameter c = false := by
      intro c hc
      rw [← Bool.not_eq_true, isParameter_iff]
      rcases List.mem_append.mp hc with hc | hc
      · have := hintermediates c hc
        omega
      · obtain rfl := List.mem_singleton.mp hc
        omega
    have hend : ∀ c ∈ [final], isIntermediate c = false := by
      intro c hc
      obtain rfl := List.mem_singleton.mp hc
      rw [← Bool.not_eq_true, isIntermediate_iff]
      omega
    rw [skip?, List.append_assoc, dropWhile_append_append after
        (fun c hc => isParameter_iff.mpr (hparameters c hc)) (by simp) hafter,
      List.append_assoc, dropWhile_append_append after
        (fun c hc => isIntermediate_iff.mpr (hintermediates c hc)) (by simp) hend]
    exact if_pos (isFinal_iff.mpr hfinal)

/-! ## What is left -/

theorem IsControlSequence.exists_cons {s : List Char} (h : IsControlSequence s) :
    ∃ body, s = escape :: '[' :: body := by
  cases h
  exact ⟨_, rfl⟩

/-- A control sequence at the front is taken out. -/
theorem remove_append {s : List Char} (h : IsControlSequence s) (rest : List Char) :
    remove (s ++ rest) = remove rest := by
  obtain ⟨body, rfl⟩ := h.exists_cons
  have hskip : skip? (body ++ rest) = some rest := skip?_eq_some_iff.mpr ⟨body, h, rfl⟩
  rw [List.cons_append, List.cons_append, remove, if_pos ⟨rfl, rfl⟩]
  split
  · rename_i after hafter
    rw [List.tail_cons, hskip] at hafter
    cases hafter
    rfl
  · rename_i hnone
    rw [List.tail_cons, hskip] at hnone
    cases hnone

/-- A character that starts no control sequence stays. -/
theorem remove_cons {c : Char} {rest : List Char}
    (h : ∀ s, IsControlSequence s → ¬ s <+: c :: rest) : remove (c :: rest) = c :: remove rest := by
  rw [remove]
  split
  · rename_i hstart
    obtain ⟨rfl, hbracket⟩ := hstart
    obtain ⟨tail, rfl⟩ : ∃ tail, rest = '[' :: tail := List.head?_eq_some_iff.mp hbracket
    split
    · rename_i after hafter
      obtain ⟨s, hs, htail⟩ := skip?_eq_some_iff.mp hafter
      refine absurd ⟨after, ?_⟩ (h _ hs)
      rw [List.tail_cons] at htail
      rw [htail]
      rfl
    · rfl
  · rfl

/-- What comes before the first escape character stays. -/
theorem remove_append_of_not_mem {before : List Char} (h : escape ∉ before) (text : List Char) :
    remove (before ++ text) = before ++ remove text := by
  induction before with
  | nil => rfl
  | cons c before ih =>
    obtain ⟨hne, hbefore⟩ := not_or.mp (mt List.mem_cons.mpr h)
    rw [List.cons_append, remove, if_neg fun hstart => hne hstart.1.symm, ih hbefore,
      List.cons_append]

/-- **A text without a control sequence in it** stays as it is. -/
theorem remove_eq_self {text : List Char} (h : ∀ s, IsControlSequence s → ¬ s <:+: text) :
    remove text = text := by
  induction text with
  | nil => exact remove_nil
  | cons c rest ih =>
    have hstart : ∀ s, IsControlSequence s → ¬ s <+: c :: rest :=
      fun s hs hprefix => h s hs hprefix.isInfix
    have hrest : ∀ s, IsControlSequence s → ¬ s <:+: rest :=
      fun s hs hwithin => h s hs (List.infix_cons hwithin)
    rw [remove_cons hstart, ih hrest]

/-! ## Where a control sequence can be -/

/-- A text without escape characters has no control sequence in it. -/
theorem not_infix_of_not_mem {text : List Char} (h : escape ∉ text) (s : List Char)
    (hs : IsControlSequence s) : ¬ s <:+: text := by
  obtain ⟨body, rfl⟩ := hs.exists_cons
  exact fun hwithin => h (hwithin.subset List.mem_cons_self)

/-- What comes from a character on is in the second of two parts, if the character is not in the first. -/
theorem exists_eq_append_cons {lead tail front rest : List Char} {c : Char} (hlead : c ∉ lead)
    (h : front ++ c :: rest = lead ++ tail) : ∃ skipped, tail = skipped ++ c :: rest := by
  rcases List.append_eq_append_iff.mp h with ⟨more, hmore, htail⟩ | ⟨skipped, -, htail⟩
  · cases more with
    | nil => exact ⟨[], htail.symm⟩
    | cons d more =>
      obtain ⟨rfl, -⟩ := List.cons.inj htail
      exact absurd (hmore ▸ List.mem_append_right front List.mem_cons_self) hlead
  · exact ⟨skipped, htail⟩

/-- What follows a blank in a control sequence is an intermediate or the final character: a blank is an
intermediate itself. -/
theorem IsControlSequence.exists_of_blank {front rest : List Char}
    (h : IsControlSequence (front ++ ' ' :: rest)) : ∃ c after, rest = c :: after ∧
      (isIntermediate c = true ∨ isFinal c = true) := by
  generalize hsequence : front ++ ' ' :: rest = sequence at h
  obtain @⟨parameters, intermediates, final, hparameters, hintermediates, hfinal⟩ := h
  have hlead : ' ' ∉ '\x1b' :: '[' :: parameters := by
    intro hmem
    simp only [List.mem_cons] at hmem
    rcases hmem with h | h | h
    · cases h
    · cases h
    · exact absurd (hparameters _ h).1 (by decide)
  obtain ⟨skipped, hskipped⟩ : ∃ skipped, intermediates ++ [final] = skipped ++ ' ' :: rest :=
    exists_eq_append_cons hlead hsequence
  cases rest with
  | nil =>
    -- a blank does not end a control sequence
    have hlast : [final] = [' '] := (List.append_inj' hskipped rfl).2
    rw [(List.cons.inj hlast).1] at hfinal
    exact absurd hfinal.1 (by decide)
  | cons c after =>
    have hmem : c ∈ intermediates ++ [final] := by simp [hskipped]
    refine ⟨c, after, rfl, ?_⟩
    rcases List.mem_append.mp hmem with hmem | hmem
    · exact .inl (isIntermediate_iff.mpr (hintermediates c hmem))
    · obtain rfl := List.mem_singleton.mp hmem
      exact .inr (isFinal_iff.mpr hfinal)

/-- A control sequence is not in the text before the first escape character. -/
theorem IsControlSequence.infix_of_append {s before text : List Char} (hs : IsControlSequence s)
    (hbefore : escape ∉ before) (h : s <:+: before ++ text) : s <:+: text := by
  obtain ⟨body, rfl⟩ := hs.exists_cons
  induction before with
  | nil => exact h
  | cons c before ih =>
    obtain ⟨hne, hbefore⟩ := not_or.mp (mt List.mem_cons.mpr hbefore)
    rcases List.infix_cons_iff.mp h with hprefix | hwithin
    · exact absurd (List.cons_prefix_cons.mp hprefix).1 hne
    · exact ih hbefore hwithin

/-- **A control sequence does not go past a blank** if what is behind the blank is neither an intermediate
nor can it end one: it is over before. -/
theorem IsControlSequence.infix_of_blank {s text after : List Char} {c : Char}
    (hs : IsControlSequence s) (hintermediate : isIntermediate c = false) (hfinal : isFinal c = false)
    (hafter : escape ∉ ' ' :: c :: after) (h : s <:+: text ++ ' ' :: c :: after) : s <:+: text := by
  induction text with
  | nil => exact absurd h (not_infix_of_not_mem hafter s hs)
  | cons d text ih =>
    rcases List.infix_cons_iff.mp h with hprefix | hwithin
    · rcases List.prefix_or_prefix_of_prefix hprefix
          (List.prefix_append (d :: text) (' ' :: c :: after)) with hshort | ⟨more, rfl⟩
      · exact hshort.isInfix
      · have hmore := (List.prefix_append_right_inj (d :: text)).mp hprefix
        cases more with
        | nil => simp
        | cons b more =>
          obtain ⟨rfl, hrest⟩ := List.cons_prefix_cons.mp hmore
          obtain ⟨e, rest, rfl, hkind⟩ := hs.exists_of_blank
          obtain ⟨rfl, -⟩ := List.cons_prefix_cons.mp hrest
          rw [hintermediate, hfinal] at hkind
          simp at hkind
    · exact List.infix_cons (ih hwithin)

end ControlSequence

end DigestRecord
