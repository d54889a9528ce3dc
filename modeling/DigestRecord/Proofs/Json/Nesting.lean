import DigestRecord.Proofs.Json.Documents

/-!
# Nesting that is too deep

A scanner for values gives up when a container begins and no depth is left for it. Which texts are
given up is a matter of what stands in front of that container: all of it has to be in order, since
whatever else is wrong there is met earlier. Nothing that comes after the container is looked at, so
such a text need not be JSON at all.

`Descends limit depth text c` says so by the grammar alone. At each level some parts of a container
are complete, and the next part goes one level down.

## Main results

* `value_eq_tooDeep_iff` — where a value is given up
* `decode_eq_tooDeep_iff` — which texts are given up
* `isNestedTooDeep_replicate` — opening brackets are, if there are more of them than levels
-/

namespace DigestRecord

namespace Json

/-- The character that begins a container. -/
def Container.opening : Container → Char
  | .array => '['
  | .object => '{'

/-- Some parts of a container, each of them complete and followed by a comma, and then a text that
satisfies something. -/
inductive AfterParts {α : Type} (part : Grammar α) (P : List Char → Prop) : List Char → Prop
  | here {text : List Char} (h : P text) : AfterParts part P text
  | later {text after body next : List Char} {a : α} (first : part text a after)
      (space : Space after (',' :: body)) (space' : Space body next)
      (others : AfterParts part P next) : AfterParts part P text

/-- The beginning of a container, up to a part that satisfies something. -/
inductive Inside {α : Type} (opening : Char) (part : Grammar α) (P : List Char → Prop) :
    List Char → Prop
  | mk {text body : List Char} (space : Space text body) (inside : AfterParts part P body) :
      Inside opening part P (opening :: text)

/-- The name of a member and a colon, and then a text that satisfies something. -/
inductive AfterName (P : List Char → Prop) : List Char → Prop
  | mk {text afterName body next : List Char} {name : Text} (name_eq : Characters text name afterName)
      (space : Space afterName (':' :: body)) (space' : Space body next) (h : P next) :
      AfterName P ('"' :: text)

/-- A text leads down to a container that is nested deeper than `depth`, with nothing wrong before
it. -/
def Descends (limit : Nat) : Nat → List Char → Container → Prop
  | 0, text, c => text.head? = some c.opening
  | depth + 1, text, c =>
    Inside '[' (Spells limit depth) (fun next => Descends limit depth next c) text ∨
      Inside '{' (Member (Spells limit depth)) (AfterName fun next => Descends limit depth next c)
        text

/-- A text is given up at a container for its nesting, under the limits of `decode`. -/
def IsNestedTooDeep (allowed : DepthLimit) (text : List Char) (c : Container) : Prop :=
  ∃ front, Space text front ∧ Descends Decimal.maxDigits allowed.levels front c

/-! ## Strings and numbers are not nested -/

theorem completed_ne_tooDeep (p : CodePoint) (text : List Char) (c : Container) :
    completed p text ≠ .error (.tooDeep c) := by
  rw [completed.eq_def]
  split
  · split
    · simp
    · split
      · simp
      · split <;> simp
  · simp

theorem numericEscape_ne_tooDeep (text : List Char) (c : Container) :
    numericEscape text ≠ .error (.tooDeep c) := by
  rw [numericEscape.eq_def]
  split
  · split
    · simp
    · split
      · simp
      · split
        · rename_i hcompleted
          intro h
          cases h
          exact completed_ne_tooDeep _ _ c hcompleted
        · simp
  · simp

theorem stringBody_ne_tooDeep (opening : List Char) (done : Text) (text : List Char) (c : Container) :
    stringBody opening done text ≠ .error (.tooDeep c) := by
  fun_induction stringBody opening done text with
  | case4 =>
    rename_i hescape
    intro h
    cases h
    exact numericEscape_ne_tooDeep _ c hescape
  | case5 => assumption
  | case7 => assumption
  | case9 => assumption
  | _ => simp

theorem string_ne_tooDeep (text : List Char) (c : Container) :
    string text ≠ .error (.tooDeep c) := by
  rw [string.eq_def]
  split
  · split
    · rename_i hbody
      intro h
      cases h
      exact stringBody_ne_tooDeep _ _ _ c hbody
    · simp
  · simp

theorem scalar_ne_tooDeep (text : List Char) (c : Container) :
    scalar text ≠ .error (.tooDeep c) := by
  rw [scalar]
  split
  · simp
  · rw [number]
    split
    · simp
    · simp only
      split
      · split <;> simp
      · simp

/-! ## Containers -/

/-- The texts that satisfy something begin like the parts of a container. -/
def Starts (close : Char) (P : List Char → Prop) : Prop :=
  ∀ {text : List Char}, P text → ∃ c cs, text = c :: cs ∧ isSpace c = false ∧ c ≠ close

section

variable {α : Type} {close : Char} {part : Scanner α} {G : Grammar α} {P : List Char → Prop}
  {c : Container}

theorem AfterParts.exists_cons (hG : Begins close G) (hP : Starts close P) {text : List Char}
    (h : AfterParts G P text) : ∃ c cs, text = c :: cs ∧ isSpace c = false ∧ c ≠ close := by
  cases h with
  | here h => exact hP h
  | later first =>
    obtain ⟨c, cs, rfl, hc, -, hne⟩ := hG first
    exact ⟨c, cs, rfl, hc, hne⟩

theorem afterParts_of_parts (hpart : Recognizes part G)
    (hstops : ∀ text, part text = .error (.tooDeep c) → P text) {done : List α} {text : List Char}
    (h : parts close part done text = .error (.tooDeep c)) : AfterParts G P text := by
  fun_induction parts close part done text with
  | case1 done text o hfirst =>
    cases h
    exact .here (hstops text hfirst)
  | case2 => cases h
  | case3 => cases h
  | case4 done text found hfound after hs _ ih =>
    have hfirst := hpart.sound (Scanner.reads_of_eq hfound)
    have hspace := space_skipSpace found.rest
    rw [hs] at hspace
    exact .later hfirst hspace (space_skipSpace after) (ih h)
  | case5 => cases h

theorem parts_of_afterParts (hpart : Recognizes part G) (hclose : Closes close)
    (hG : Begins close G) (hP : Starts close P)
    (hstops : ∀ text, P text → part text = .error (.tooDeep c)) {text : List Char}
    (h : AfterParts G P text) (done : List α) :
    parts close part done text = .error (.tooDeep c) := by
  induction h generalizing done with
  | here h => rw [parts.eq_def, hstops _ h]
  | later first space space' others ih =>
    have hread := hpart.complete first (space.boundary (boundary_cons (by decide) _))
    obtain ⟨d, ds, rfl, hd, -⟩ := others.exists_cons hG hP
    rw [parts_of_more hread (skipSpace_eq space rfl) hclose.ne_comma, skipSpace_eq space' hd, ih]

/-- A container is given up if the parts in it are, after complete ones. -/
theorem container_eq_tooDeep_iff (hpart : Recognizes part G) (hclose : Closes close)
    (hG : Begins close G) (hP : Starts close P)
    (hstops : ∀ text, part text = .error (.tooDeep c) ↔ P text) (make : List α → Value)
    (opening : Char) (text : List Char) :
    container close part make (opening :: text) = .error (.tooDeep c) ↔
      Inside opening G P (opening :: text) := by
  constructor
  · intro h
    rw [container] at h
    split at h
    · cases h
    · split at h
      · rename_i hparts
        cases h
        exact .mk (space_skipSpace text)
          (afterParts_of_parts hpart (fun text => (hstops text).mp) hparts)
      · cases h
  · rintro ⟨space, inside⟩
    obtain ⟨d, ds, rfl, hd, hne⟩ := inside.exists_cons hG hP
    have hs := skipSpace_eq space hd
    have hparts := parts_of_afterParts hpart hclose hG hP (fun text => (hstops text).mpr) inside []
    rw [container, dif_neg (by simpa [hs] using hne)]
    split
    · rename_i herror
      rw [hs, hparts] at herror
      cases herror
      rfl
    · rename_i hok
      rw [hs, hparts] at hok
      cases hok

end

/-- A member is given up if its value is. -/
theorem member_eq_tooDeep_iff {item : Scanner Value} {P : List Char → Prop} {c : Container}
    (hP : Starts ']' P) (hstops : ∀ text, item text = .error (.tooDeep c) ↔ P text)
    (text : List Char) : member item text = .error (.tooDeep c) ↔ AfterName P text := by
  constructor
  · intro h
    rw [member] at h
    split at h
    · split at h
      · rename_i hname
        cases h
        exact absurd hname (string_ne_tooDeep text c)
      · rename_i name hname
        have hspace := space_skipSpace name.rest
        obtain ⟨body, rfl, hbody⟩ := string_sound (Scanner.reads_of_eq hname)
        split at h
        · rename_i after hs
          rw [hs] at hspace
          split at h
          · rename_i hitem
            cases h
            exact .mk hbody hspace (space_skipSpace after) ((hstops _).mp hitem)
          · cases h
        · cases h
    · cases h
  · rintro @⟨_, _, body, _, _, name, space, space', h⟩
    obtain ⟨d, ds, rfl, hd, -⟩ := hP h
    have hitem : item (skipSpace body) = .error (.tooDeep c) := by
      rw [skipSpace_eq space' hd]
      exact (hstops _).mpr h
    obtain ⟨shorter, hname⟩ := string_complete name
    have hs := skipSpace_eq space rfl
    rw [member]
    simp only [List.head?_cons, if_true, hname]
    split
    · rename_i heq
      rw [hs] at heq
      cases heq
      rw [hitem]
    · rename_i hcolon
      exact absurd hs (hcolon _)

/-! ## Values -/

theorem Descends.head? {limit depth : Nat} {text : List Char} {c : Container}
    (h : Descends limit depth text c) : text.head? = some '[' ∨ text.head? = some '{' := by
  cases depth with
  | zero =>
    cases c with
    | array => exact .inl h
    | object => exact .inr h
  | succ depth =>
    rcases h with ⟨-, -⟩ | ⟨-, -⟩
    · exact .inl rfl
    · exact .inr rfl

theorem starts_descends (limit depth : Nat) (c : Container) :
    Starts ']' (fun text => Descends limit depth text c) := by
  intro text h
  rcases h.head? with h | h
  · obtain ⟨cs, rfl⟩ := List.head?_eq_some_iff.mp h
    exact ⟨_, cs, rfl, rfl, by decide⟩
  · obtain ⟨cs, rfl⟩ := List.head?_eq_some_iff.mp h
    exact ⟨_, cs, rfl, rfl, by decide⟩

theorem starts_afterName (P : List Char → Prop) : Starts '}' (AfterName P) := by
  rintro text ⟨⟩
  exact ⟨_, _, rfl, rfl, by decide⟩

theorem Inside.head?_eq {α : Type} {opening : Char} {part : Grammar α} {P : List Char → Prop}
    {text : List Char} (h : Inside opening part P text) : text.head? = some opening := by
  cases h
  rfl

theorem value_ne_tooDeep {depth : Nat} {text : List Char} {c : Container}
    (hbracket : text.head? ≠ some '[') (hbrace : text.head? ≠ some '{') :
    value depth text ≠ .error (.tooDeep c) := by
  rw [value.eq_def]
  split
  · split
    · rename_i hstring
      intro h
      cases h
      exact string_ne_tooDeep text c hstring
    · simp
  · exact scalar_ne_tooDeep text c

/-- Only what begins like a container has to be looked at. -/
theorem value_eq_tooDeep_iff_of_begins {depth : Nat} {text : List Char} {c : Container}
    (h : ∀ inside, text = '[' :: inside ∨ text = '{' :: inside →
      (value depth text = .error (.tooDeep c) ↔ Descends Decimal.maxDigits depth text c)) :
    value depth text = .error (.tooDeep c) ↔ Descends Decimal.maxDigits depth text c := by
  by_cases hbracket : text.head? = some '['
  · obtain ⟨inside, htext⟩ := List.head?_eq_some_iff.mp hbracket
    exact h inside (.inl htext)
  by_cases hbrace : text.head? = some '{'
  · obtain ⟨inside, htext⟩ := List.head?_eq_some_iff.mp hbrace
    exact h inside (.inr htext)
  exact ⟨fun hvalue => absurd hvalue (value_ne_tooDeep hbracket hbrace),
    fun hdescends => absurd hdescends.head? (not_or.mpr ⟨hbracket, hbrace⟩)⟩

/-- **Where a value is given up**, by induction on the depth: the parts of a container have one less
of it. -/
theorem value_eq_tooDeep_iff (depth : Nat) (text : List Char) (c : Container) :
    value depth text = .error (.tooDeep c) ↔ Descends Decimal.maxDigits depth text c := by
  induction depth generalizing text with
  | zero =>
    refine value_eq_tooDeep_iff_of_begins ?_
    rintro inside (rfl | rfl) <;> cases c <;> simp [value.eq_def, Descends, Container.opening]
  | succ depth ih =>
    have hrec := value_recognizes depth
    have hbegins := @begins_spells Decimal.maxDigits depth
    have hstarts := @starts_descends Decimal.maxDigits depth c
    refine value_eq_tooDeep_iff_of_begins ?_
    -- The first character leaves one of the two kinds of container.
    rintro inside (rfl | rfl)
    · have hvalue : value (depth + 1) ('[' :: inside) = array (value depth) ('[' :: inside) := by
        simp [value.eq_def]
      have hobject : ¬ Inside '{' (Member (Spells Decimal.maxDigits depth))
          (AfterName fun next => Descends Decimal.maxDigits depth next c) ('[' :: inside) :=
        fun h => absurd h.head?_eq (by simp)
      rw [hvalue, array, container_eq_tooDeep_iff hrec closes_bracket hbegins hstarts ih, Descends,
        or_iff_left hobject]
    · have hvalue : value (depth + 1) ('{' :: inside) = object (value depth) ('{' :: inside) := by
        simp [value.eq_def]
      have harray : ¬ Inside '[' (Spells Decimal.maxDigits depth)
          (fun next => Descends Decimal.maxDigits depth next c) ('{' :: inside) :=
        fun h => absurd h.head?_eq (by simp)
      rw [hvalue, object, container_eq_tooDeep_iff (member_recognizes hrec hbegins) closes_brace
        begins_member (starts_afterName _) (member_eq_tooDeep_iff hstarts ih), Descends,
        or_iff_right harray]

/-! ## Whole texts -/

variable (allowed : DepthLimit)

theorem document_eq_tooDeep_iff (text : List Char) (c : Container) :
    document allowed text = .error (.tooDeep c) ↔ IsNestedTooDeep allowed text c := by
  constructor
  · intro h
    rw [document.eq_def] at h
    split at h
    · cases h
    · split at h
      · rename_i hvalue
        cases h
        exact ⟨_, space_skipSpace text, (value_eq_tooDeep_iff _ _ _).mp hvalue⟩
      · split at h <;> cases h
  · rintro ⟨front, hfront, hdescends⟩
    obtain ⟨d, ds, rfl, hd, -⟩ := starts_descends _ _ _ hdescends
    have hvalue : value allowed.levels (skipSpace text) = .error (.tooDeep c) := by
      rw [skipSpace_eq hfront hd]
      exact (value_eq_tooDeep_iff _ _ _).mpr hdescends
    rw [document.eq_def]
    split
    · cases hfront with
      | none => exact absurd hdescends.head? (by simp)
      | more hblank _ => exact absurd hblank (by decide)
    · rw [hvalue]

/-- **Which texts are given up.** -/
theorem decode_eq_tooDeep_iff (text : String) (c : Container) :
    decode allowed text = .error (.tooDeep c) ↔ IsNestedTooDeep allowed text.toList c := by
  rw [← document_eq_tooDeep_iff, decode]
  cases document allowed text.toList with
  | ok v => simp [Except.mapError]
  | error o => cases o <;> simp [Except.mapError, DecodeError.ofObstacle]

theorem descends_replicate (limit depth n : Nat) (h : depth < n) (rest : List Char) :
    Descends limit depth (List.replicate n '[' ++ rest) .array := by
  induction depth generalizing n with
  | zero =>
    obtain ⟨m, rfl⟩ := Nat.exists_eq_add_one_of_ne_zero (Nat.ne_of_gt h)
    rfl
  | succ depth ih =>
    obtain ⟨m, rfl⟩ := Nat.exists_eq_add_one_of_ne_zero (Nat.ne_of_gt (Nat.zero_lt_of_lt h))
    exact .inl (.mk .none (.here (ih m (Nat.lt_of_succ_lt_succ h))))

/-- **Opening brackets are nested too deep if there are more of them than levels**, whether they are
closed or not. -/
theorem isNestedTooDeep_replicate {n : Nat} (h : allowed.levels < n) (rest : List Char) :
    IsNestedTooDeep allowed (List.replicate n '[' ++ rest) .array :=
  ⟨_, .none, descends_replicate _ _ n h rest⟩

end Json

end DigestRecord
