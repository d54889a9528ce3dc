import DigestRecord.Proofs.Json.Strings

/-!
# Values, whole texts and their grammar

Each scanner for containers is made from a scanner for their parts, and each production for
containers from a production for their parts. So containers are treated once, over any parts that
are recognized already (`container_sound`, `container_complete`), and `value_recognizes` is an
induction on the depth.

The parts have to begin with something that is neither white space nor the closing character, or an
empty container could not be told from one that is not (`Begins`).

## Main results

* `value_recognizes` — values, up to any depth
* `decode_eq_ok_iff` — `decode` accepts exactly the documents within its limits, with their values
-/

namespace DigestRecord

namespace Json

/-! ## Words and numbers -/

theorem literal?_sound {text rest : List Char} {v : Value} (h : literal? text = some (v, rest)) :
    ∃ w, (w, v) ∈ literals ∧ text = w ++ rest := by
  obtain ⟨l, hl, hw⟩ := List.exists_of_findSome?_eq_some h
  obtain ⟨after, hafter, heq⟩ := Option.map_eq_some_iff.mp hw
  cases heq
  exact ⟨l.1, hl, afterWord?_eq_some_iff.mp hafter⟩

theorem literal?_append {w : List Char} {v : Value} (h : (w, v) ∈ literals) (rest : List Char) :
    literal? (w ++ rest) = some (v, rest) := by
  simp only [literals, List.mem_cons, Prod.mk.injEq, List.not_mem_nil, or_false] at h
  rcases h with ⟨rfl, rfl⟩ | ⟨rfl, rfl⟩ | ⟨rfl, rfl⟩ | ⟨rfl, rfl⟩ | ⟨rfl, rfl⟩ | ⟨rfl, rfl⟩ <;>
    simp [literal?, literals, afterWord?]

theorem Number.exists_cons {limit : Nat} {text rest : List Char} {v : Value}
    (h : Number limit text v rest) :
    ∃ c cs, text = c :: cs ∧ (Decimal.isDigit c = true ∨
      c = '-' ∧ ∃ d ds, cs = d :: ds ∧ Decimal.isDigit d = true) := by
  have hhead : ∃ negative c cs, Minus text negative (c :: cs) ∧ Decimal.isDigit c = true := by
    cases h with
    | whole hminus hwhole _ =>
      obtain ⟨c, cs, rfl, hc, -⟩ := hwhole.exists_cons
      exact ⟨_, c, cs, hminus, hc⟩
    | real hminus hwhole _ _ _ =>
      obtain ⟨c, cs, rfl, hc, -⟩ := hwhole.exists_cons
      exact ⟨_, c, cs, hminus, hc⟩
  obtain ⟨negative, c, cs, hminus, hc⟩ := hhead
  cases hminus with
  | absent => exact ⟨c, cs, rfl, .inl hc⟩
  | present => exact ⟨'-', c :: cs, rfl, .inr ⟨rfl, c, cs, rfl, hc⟩⟩

/-- No number begins like a word. -/
theorem literal?_of_number {limit : Nat} {text rest : List Char} {v : Value}
    (h : Number limit text v rest) : literal? text = none := by
  obtain ⟨c, cs, rfl, hc | ⟨rfl, d, ds, rfl, hd⟩⟩ := h.exists_cons
  · have hne : 'n' ≠ c ∧ 't' ≠ c ∧ 'f' ≠ c ∧ 'N' ≠ c ∧ 'I' ≠ c ∧ '-' ≠ c := by
      refine ⟨?_, ?_, ?_, ?_, ?_, ?_⟩ <;> (rintro rfl; exact absurd hc (by decide))
    simp [literal?, literals, afterWord?, hne]
  · have hne : 'I' ≠ d := by
      rintro rfl
      exact absurd hd (by decide)
    simp [literal?, literals, afterWord?, hne]

/-! ## Containers -/

/-- The spellings of a production begin with something that is neither white space nor a byte order
mark nor a given character. -/
def Begins {α : Type} (close : Char) (G : Grammar α) : Prop :=
  ∀ {text rest : List Char} {a : α}, G text a rest →
    ∃ c cs, text = c :: cs ∧ isSpace c = false ∧ c ≠ '\ufeff' ∧ c ≠ close

/-- A character by which a container can end. -/
structure Closes (close : Char) : Prop where
  boundary (text : List Char) : Boundary (close :: text)
  not_space : isSpace close = false
  ne_comma : close ≠ ','

theorem closes_bracket : Closes ']' := ⟨boundary_cons (by decide), rfl, by decide⟩

theorem closes_brace : Closes '}' := ⟨boundary_cons (by decide), rfl, by decide⟩

section

variable {α : Type} {close : Char} {part : Scanner α} {G : Grammar α}

theorem parts_of_last {text after rest : List Char} {a : α}
    (hread : Scanner.Reads part text a after) (hs : skipSpace after = close :: rest) (done : List α) :
    parts close part done text = .ok ((a :: done).reverse, rest) := by
  obtain ⟨shorter, hread⟩ := hread
  rw [parts.eq_def, hread]
  simp only
  split
  · rename_i heq
    rw [hs] at heq
    cases heq
  · rename_i heq
    rw [hs] at heq
    cases heq
    exact if_pos rfl

theorem parts_of_more {text after body : List Char} {a : α}
    (hread : Scanner.Reads part text a after) (hs : skipSpace after = ',' :: body)
    (hclose : close ≠ ',') (done : List α) :
    parts close part done text = parts close part (a :: done) (skipSpace body) := by
  obtain ⟨shorter, hread⟩ := hread
  rw [parts.eq_def, hread]
  simp only
  split
  · rename_i heq
    rw [hs] at heq
    cases heq
  · rename_i heq
    rw [hs] at heq
    cases heq
    rw [if_neg (Ne.symm hclose), if_pos rfl]

theorem parts_sound (hpart : Recognizes part G) {done as : List α} {text rest : List Char}
    (h : parts close part done text = .ok (as, rest)) :
    ∃ bs, as = done.reverse ++ bs ∧ Parts close G text bs rest := by
  fun_induction parts close part done text with
  | case1 => cases h
  | case2 => cases h
  | case3 done text found hfound after hs =>
    cases h
    have hfirst := hpart.sound (Scanner.reads_of_eq hfound)
    have hspace := space_skipSpace found.rest
    rw [hs] at hspace
    exact ⟨[found.value], by simp, .last hfirst hspace⟩
  | case4 done text found hfound after hs _ ih =>
    obtain ⟨bs, rfl, hbs⟩ := ih h
    have hfirst := hpart.sound (Scanner.reads_of_eq hfound)
    have hspace := space_skipSpace found.rest
    rw [hs] at hspace
    exact ⟨found.value :: bs, by simp, .more hfirst hspace (space_skipSpace after) hbs⟩
  | case5 => cases h

theorem Parts.exists_cons (hG : Begins close G) {text rest : List Char} {as : List α}
    (h : Parts close G text as rest) :
    ∃ c cs, text = c :: cs ∧ isSpace c = false ∧ c ≠ '\ufeff' ∧ c ≠ close := by
  cases h with
  | last first => exact hG first
  | more first => exact hG first

theorem parts_complete (hpart : Recognizes part G) (hclose : Closes close)
    (hG : Begins close G) {text rest : List Char} {as : List α} (h : Parts close G text as rest)
    (done : List α) : parts close part done text = .ok (done.reverse ++ as, rest) := by
  induction h generalizing done with
  | last first space =>
    have hread := hpart.complete first (space.boundary (hclose.boundary _))
    rw [parts_of_last hread (skipSpace_eq space hclose.not_space)]
    simp
  | more first space space' others ih =>
    have hread := hpart.complete first (space.boundary (boundary_cons (by decide) _))
    obtain ⟨c, cs, rfl, hc, -⟩ := others.exists_cons hG
    rw [parts_of_more hread (skipSpace_eq space rfl) hclose.ne_comma, skipSpace_eq space' hc, ih]
    simp

theorem container_sound (hpart : Recognizes part G) {make : List α → Value} {opening : Char}
    {inside rest : List Char} {v : Value}
    (h : Scanner.Reads (container close part make) (opening :: inside) v rest) :
    ∃ as, v = make as ∧ Enclosed opening close G (opening :: inside) as rest := by
  obtain ⟨found, hfound, rfl, rfl⟩ := Scanner.reads_iff.mp h
  have hspace := space_skipSpace inside
  rw [container] at hfound
  split at hfound
  · rename_i hhead
    cases hfound
    obtain ⟨after, hs⟩ := List.head?_eq_some_iff.mp hhead
    refine ⟨[], rfl, .empty ?_⟩
    rw [hs] at hspace
    simpa [hs] using hspace
  · split at hfound
    · cases hfound
    · rename_i hparts
      cases hfound
      obtain ⟨as, rfl, has⟩ := parts_sound hpart hparts
      exact ⟨_, rfl, .parts hspace has⟩

theorem container_complete (hpart : Recognizes part G) (hclose : Closes close)
    (hG : Begins close G) (make : List α → Value) {opening : Char} {text rest : List Char}
    {as : List α} (h : Enclosed opening close G text as rest) :
    Scanner.Reads (container close part make) text (make as) rest := by
  rw [Scanner.reads_iff]
  cases h with
  | empty space =>
    have hs := skipSpace_eq space hclose.not_space
    simp [container, hs]
  | parts space inside =>
    obtain ⟨c, cs, rfl, hc, -, hne⟩ := inside.exists_cons hG
    have hs := skipSpace_eq space hc
    have hparts := parts_complete hpart hclose hG inside []
    rw [container, dif_neg (by simpa [hs] using hne)]
    split
    · rename_i herror
      rw [hs, hparts] at herror
      cases herror
    · rename_i hok
      rw [hs, hparts] at hok
      cases hok
      exact ⟨_, rfl, rfl, rfl⟩

end

/-! ## Arrays and objects -/

section

variable {item : Scanner Value} {G : Grammar Value}

theorem array_sound (hitem : Recognizes item G) {inside rest : List Char} {v : Value}
    (h : Scanner.Reads (array item) ('[' :: inside) v rest) :
    ∃ vs, v = .array vs ∧ ArrayOf G ('[' :: inside) vs rest := container_sound hitem h

theorem array_complete (hitem : Recognizes item G) (hG : Begins ']' G) {text rest : List Char}
    {vs : List Value} (h : ArrayOf G text vs rest) :
    Scanner.Reads (array item) text (.array vs) rest :=
  container_complete hitem closes_bracket hG .array h

theorem member_recognizes (hitem : Recognizes item G) (hG : Begins ']' G) :
    Recognizes (member item) (Member G) where
  sound {text rest a} h := by
    obtain ⟨found, hfound, rfl, rfl⟩ := Scanner.reads_iff.mp h
    rw [member] at hfound
    split at hfound
    · split at hfound
      · cases hfound
      · rename_i name hname
        have hspace := space_skipSpace name.rest
        obtain ⟨body, rfl, hbody⟩ :=
          string_sound (Scanner.reads_of_eq hname)
        split at hfound
        · rename_i after hs
          rw [hs] at hspace
          split at hfound
          · cases hfound
          · rename_i value hvalue
            cases hfound
            exact .mk hbody hspace (space_skipSpace after)
              (hitem.sound (Scanner.reads_of_eq hvalue))
        · cases hfound
    · cases hfound
  complete {text rest a} h hrest := by
    rw [Scanner.reads_iff]
    cases h with
    | @mk text afterName body next _ name v hname space space' hvalue =>
      obtain ⟨c, cs, rfl, hc, -⟩ := hG hvalue
      have hread : Scanner.Reads item (skipSpace body) v rest := by
        rw [skipSpace_eq space' hc]
        exact hitem.complete hvalue hrest
      obtain ⟨shorter, hread⟩ := hread
      obtain ⟨shorter', hname⟩ := string_complete hname
      have hs := skipSpace_eq space rfl
      rw [member]
      simp only [List.head?_cons, if_true, hname]
      split
      · rename_i heq
        rw [hs] at heq
        cases heq
        rw [hread]
        exact ⟨_, rfl, rfl, rfl⟩
      · rename_i hcolon
        exact absurd hs (hcolon _)

theorem begins_member : Begins '}' (Member G) := by
  rintro text rest a ⟨⟩
  exact ⟨'"', _, rfl, rfl, by decide, by decide⟩

theorem object_sound (hitem : Recognizes item G) (hG : Begins ']' G) {inside rest : List Char}
    {v : Value} (h : Scanner.Reads (object item) ('{' :: inside) v rest) :
    ∃ ms, v = .ofMembers ms ∧ ObjectOf G ('{' :: inside) ms rest :=
  container_sound (member_recognizes hitem hG) h

theorem object_complete (hitem : Recognizes item G) (hG : Begins ']' G) {text rest : List Char}
    {ms : List (Text × Value)} (h : ObjectOf G text ms rest) :
    Scanner.Reads (object item) text (.ofMembers ms) rest :=
  container_complete (member_recognizes hitem hG) closes_brace begins_member .ofMembers h

end

/-! ## Values -/

theorem scalar_sound {text rest : List Char} {v : Value} (h : Scanner.Reads scalar text v rest) :
    Scalar Decimal.maxDigits text v rest := by
  obtain ⟨found, hfound, rfl, rfl⟩ := Scanner.reads_iff.mp h
  rw [scalar] at hfound
  split at hfound
  · rename_i hliteral
    cases hfound
    obtain ⟨w, hw, rfl⟩ := literal?_sound hliteral
    exact .word hw
  · exact .number (number_recognizes.sound (Scanner.reads_of_eq hfound))

theorem scalar_of_literal {w : List Char} {v : Value} (h : (w, v) ∈ literals) (rest : List Char) :
    Scanner.Reads scalar (w ++ rest) v rest := by
  have hliteral := literal?_append h rest
  rw [Scanner.reads_iff, scalar]
  split
  · rename_i heq
    rw [hliteral] at heq
    cases heq
    exact ⟨_, rfl, rfl, rfl⟩
  · rename_i heq
    rw [hliteral] at heq
    cases heq

theorem scalar_of_number {text rest : List Char} {v : Value}
    (h : Number Decimal.maxDigits text v rest) (hrest : Boundary rest) :
    Scanner.Reads scalar text v rest := by
  have hliteral := literal?_of_number h
  obtain ⟨shorter, hread⟩ := number_recognizes.complete h hrest
  rw [Scanner.reads_iff, scalar]
  split
  · rename_i heq
    rw [hliteral] at heq
    cases heq
  · exact ⟨_, hread, rfl, rfl⟩

/-- Whether a word or a number may begin with a character. -/
def BeginsScalar (c : Char) : Prop :=
  isSpace c = false ∧ c ≠ '\ufeff' ∧ c ≠ ']' ∧ c ≠ '"' ∧ c ≠ '[' ∧ c ≠ '{'

instance (c : Char) : Decidable (BeginsScalar c) := inferInstanceAs (Decidable (_ ∧ _))

theorem beginsScalar_of_literal {w : List Char} {v : Value} (h : (w, v) ∈ literals) :
    ∃ c cs, w = c :: cs ∧ BeginsScalar c := by
  simp only [literals, List.mem_cons, Prod.mk.injEq, List.not_mem_nil, or_false] at h
  rcases h with ⟨rfl, -⟩ | ⟨rfl, -⟩ | ⟨rfl, -⟩ | ⟨rfl, -⟩ | ⟨rfl, -⟩ | ⟨rfl, -⟩ <;>
    exact ⟨_, _, rfl, by decide⟩

theorem beginsScalar_of_isDigit {c : Char} (h : Decimal.isDigit c = true) : BeginsScalar c := by
  refine ⟨?_, ?_, ?_, ?_, ?_, ?_⟩
  · rw [← Bool.not_eq_true, isSpace_iff]
    simp only [List.mem_cons, List.not_mem_nil, or_false]
    rintro (rfl | rfl | rfl | rfl) <;> exact absurd h (by decide)
  all_goals
    rintro rfl
    exact absurd h (by decide)

theorem beginsScalar_of_number {limit : Nat} {text rest : List Char} {v : Value}
    (h : Number limit text v rest) : ∃ c cs, text = c :: cs ∧ BeginsScalar c := by
  obtain ⟨c, cs, rfl, hc | ⟨rfl, -⟩⟩ := h.exists_cons
  · exact ⟨c, cs, rfl, beginsScalar_of_isDigit hc⟩
  · exact ⟨_, cs, rfl, by decide⟩

theorem begins_spells (limit depth : Nat) : Begins ']' (Spells limit depth) := by
  have hscalar : Begins ']' (Scalar limit) := by
    rintro text rest v h
    cases h with
    | word hw =>
      obtain ⟨c, cs, rfl, hc⟩ := beginsScalar_of_literal hw
      exact ⟨c, cs ++ rest, rfl, hc.1, hc.2.1, hc.2.2.1⟩
    | number h =>
      obtain ⟨c, cs, rfl, hc⟩ := beginsScalar_of_number h
      exact ⟨c, cs, rfl, hc.1, hc.2.1, hc.2.2.1⟩
    | string => exact ⟨'"', _, rfl, rfl, by decide, by decide⟩
  cases depth with
  | zero =>
    rintro text rest v h
    exact hscalar h
  | succ depth =>
    rintro text rest v (h | ⟨vs, -, h⟩ | ⟨ms, -, h⟩)
    · exact hscalar h
    · cases h <;> exact ⟨'[', _, rfl, rfl, by decide, by decide⟩
    · cases h <;> exact ⟨'{', _, rfl, rfl, by decide, by decide⟩

theorem value_of_beginsScalar {c : Char} (h : BeginsScalar c) (depth : Nat) (text : List Char) :
    value depth (c :: text) = scalar (c :: text) := by
  obtain ⟨-, -, -, hquote, hbracket, hbrace⟩ := h
  rw [value.eq_def]
  simp [hquote, hbracket, hbrace]

theorem value_of_string {body rest : List Char} {t : Text} (h : Characters body t rest)
    (depth : Nat) : Scanner.Reads (value depth) ('"' :: body) (.string t) rest := by
  obtain ⟨shorter, hread⟩ := string_complete h
  rw [Scanner.reads_iff, value.eq_def]
  simp [hread]

theorem value_of_scalar {text rest : List Char} {v : Value}
    (h : Scalar Decimal.maxDigits text v rest) (hrest : Boundary rest) (depth : Nat) :
    Scanner.Reads (value depth) text v rest := by
  cases h with
  | word hw =>
    obtain ⟨c, cs, rfl, hc⟩ := beginsScalar_of_literal hw
    obtain ⟨shorter, hread⟩ := scalar_of_literal hw rest
    exact ⟨shorter, by rw [← hread]; exact value_of_beginsScalar hc depth _⟩
  | number h =>
    obtain ⟨shorter, hread⟩ := scalar_of_number h hrest
    obtain ⟨c, cs, rfl, hc⟩ := beginsScalar_of_number h
    exact ⟨shorter, by rw [value_of_beginsScalar hc, hread]⟩
  | string inside => exact value_of_string inside depth

theorem value_sound {depth : Nat} {text rest : List Char} {v : Value}
    (ih : ∀ below, depth = below + 1 → Recognizes (value below) (Spells Decimal.maxDigits below))
    (h : Scanner.Reads (value depth) text v rest) : Spells Decimal.maxDigits depth text v rest := by
  obtain ⟨found, hfound, rfl, rfl⟩ := Scanner.reads_iff.mp h
  rw [value.eq_def] at hfound
  split at hfound
  · split at hfound
    · cases hfound
    · rename_i name hname
      cases hfound
      obtain ⟨body, rfl, hbody⟩ := string_sound (Scanner.reads_of_eq hname)
      exact (Scalar.string hbody).spells depth
  · split at hfound
    · rename_i hhead
      obtain ⟨inside, rfl⟩ := List.head?_eq_some_iff.mp hhead
      split at hfound
      · cases hfound
      · rename_i depth
        exact .inr (.inl (array_sound (ih depth rfl)
          (Scanner.reads_of_eq hfound)))
    · split at hfound
      · rename_i hhead
        obtain ⟨inside, rfl⟩ := List.head?_eq_some_iff.mp hhead
        split at hfound
        · cases hfound
        · rename_i depth
          exact .inr (.inr (object_sound (ih depth rfl) (begins_spells _ _)
            (Scanner.reads_of_eq hfound)))
      · exact (scalar_sound (Scanner.reads_of_eq hfound)).spells depth

/-- **Values**, by induction on the depth: a container has parts that are nested less deep. -/
theorem value_recognizes (depth : Nat) :
    Recognizes (value depth) (Spells Decimal.maxDigits depth) := by
  induction depth with
  | zero =>
    refine ⟨value_sound fun below h => ?_, fun h hrest => value_of_scalar h hrest 0⟩
    cases h
  | succ depth ih =>
    refine ⟨value_sound fun below h => ?_, ?_⟩
    · cases h
      exact ih
    · rintro text rest v (h | ⟨vs, rfl, h⟩ | ⟨ms, rfl, h⟩) hrest
      · exact value_of_scalar h hrest _
      · obtain ⟨shorter, hread⟩ := array_complete ih (begins_spells _ _) h
        cases h <;> exact ⟨shorter, hread⟩
      · obtain ⟨shorter, hread⟩ := object_complete ih (begins_spells _ _) h
        cases h <;> exact ⟨shorter, hread⟩

/-! ## Whole texts -/

variable {allowed : DepthLimit}

theorem document_eq_ok_iff {text : List Char} {v : Value} :
    document allowed text = .ok v ↔ Document (Spells Decimal.maxDigits allowed.levels) text v := by
  constructor
  · intro h
    rw [document.eq_def] at h
    split at h
    · cases h
    · split at h
      · cases h
      · rename_i found hfound
        split at h
        · rename_i hend
          cases h
          have hback := space_skipSpace found.rest
          rw [hend] at hback
          have hread : Scanner.Reads (value allowed.levels) (skipSpace text) found.value found.rest :=
            Scanner.reads_of_eq hfound
          exact ⟨skipSpace text, found.rest, space_skipSpace text,
            (value_recognizes allowed.levels).sound hread, hback⟩
        · cases h
  · rintro ⟨front, back, hfront, hspells, hback⟩
    obtain ⟨c, cs, rfl, hc, hmark, -⟩ := begins_spells _ _ hspells
    have hread : Scanner.Reads (value allowed.levels) (skipSpace text) v back := by
      rw [skipSpace_eq hfront hc]
      exact (value_recognizes allowed.levels).complete hspells (hback.boundary boundary_nil)
    obtain ⟨shorter, hread⟩ := hread
    rw [document.eq_def]
    split
    · cases hfront with
      | none => exact absurd rfl hmark
      | more hblank _ => exact absurd hblank (by decide)
    · simp only [hread, skipSpace_eq_nil hback]

/-- **`decode` accepts exactly the documents within its limits**, with their values. -/
theorem decode_eq_ok_iff {text : String} {v : Value} :
    decode allowed text = .ok v ↔ Document (Spells Decimal.maxDigits allowed.levels) text.toList v := by
  rw [← document_eq_ok_iff, decode]
  cases document allowed text.toList <;> simp [Except.mapError]

/-- A text within the limits of `decode` is accepted if it is JSON at all. -/
theorem decode_eq_ok_of_isWithinLimits {text : String} (hlimits : IsWithinLimits allowed text.toList)
    {limit depth : Nat} {v : Value} (h : Document (Spells limit depth) text.toList v) :
    decode allowed text = .ok v := decode_eq_ok_iff.mpr (hlimits limit depth v h)

end Json

end DigestRecord
