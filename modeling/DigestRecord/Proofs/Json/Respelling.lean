import DigestRecord.Proofs.Json.Unambiguous
import DigestRecord.Proofs.Text.Digits

/-!
# Texts of the same tokens

A JSON text may be written in many ways: white space may stand between any two tokens, and each character
of a string may be escaped or not. `Respelled` says of two texts that they are made of the same tokens in
the same order, whatever stands between them and however their strings are written. Words and numbers are
the same to the letter.

The grammar does not tell such texts apart. A production is said to survive respelling (`Survives`) if
what it spells at the front of a text it spells at the front of any other text of the same tokens, and
what is left over are again texts of the same tokens. Words and numbers survive because they take bare
characters only and do not look at what follows (`TakesBare`), strings because of what they stand for, and
containers because their parts do.

## Main results

* `Spells.survives` — values survive respelling
* `Document.respelled` — texts of the same tokens spell the same
-/

namespace DigestRecord

namespace Json

/-! ## Tokens -/

/-- The characters that begin, end and separate the parts of a container. -/
def structureMarks : List Char := ['[', ']', '{', '}', ',', ':']

/-- Whether a character may be part of a word or a number. -/
def isBare (c : Char) : Bool := !isSpace c && c != '"' && !structureMarks.contains c

/-- No word and no number goes on with this text. -/
def EndsBare (rest : List Char) : Prop := ∀ c, rest.head? = some c → isBare c = false

/-- Two texts of the same tokens. -/
inductive Respelled : List Char → List Char → Prop
  | done {text text' : List Char} (space : Space text []) (space' : Space text' []) :
      Respelled text text'
  | mark {c : Char} {text text' after after' : List Char} (known : c ∈ structureMarks)
      (space : Space text (c :: after)) (space' : Space text' (c :: after'))
      (rest : Respelled after after') : Respelled text text'
  | bare {word text text' after after' : List Char} (ne_nil : word ≠ [])
      (all_bare : word.all isBare = true) (space : Space text (word ++ after))
      (space' : Space text' (word ++ after')) (ends : EndsBare after) (ends' : EndsBare after')
      (rest : Respelled after after') : Respelled text text'
  | string {t : Text} {text text' body body' after after' : List Char}
      (space : Space text ('"' :: body)) (space' : Space text' ('"' :: body'))
      (inside : Characters body t after) (inside' : Characters body' t after')
      (rest : Respelled after after') : Respelled text text'

theorem isSpace_of_mem_structureMarks {c : Char} (h : c ∈ structureMarks) : isSpace c = false := by
  have hall : structureMarks.all (fun c => !isSpace c) = true := by decide
  simpa using List.all_eq_true.mp hall c h

theorem isBare_of_mem_structureMarks {c : Char} (h : c ∈ structureMarks) : isBare c = false := by
  have hall : structureMarks.all (fun c => !isBare c) = true := by decide
  simpa using List.all_eq_true.mp hall c h

theorem isSpace_of_isBare {c : Char} (h : isBare c = true) : isSpace c = false := by
  cases hspace : isSpace c with
  | false => rfl
  | true => simp [isBare, hspace] at h

theorem isBare_of_isSpace {c : Char} (h : isSpace c = true) : isBare c = false := by
  simp [isBare, h]

theorem endsBare_cons {c : Char} (h : isBare c = false) (text : List Char) : EndsBare (c :: text) := by
  rintro d hd
  obtain rfl : c = d := by simpa using hd
  exact h

theorem endsBare_nil : EndsBare [] := nofun

/-- What follows white space that no word goes on with is no part of a word either. -/
theorem Space.endsBare {text rest : List Char} (h : Space text rest) (hrest : EndsBare rest) :
    EndsBare text := by
  cases h with
  | none => exact hrest
  | more blank _ => exact endsBare_cons (isBare_of_isSpace ((isSpace_iff _).mpr blank)) _

/-! ## White space in front -/

/-- White space that goes as far as it can goes on from everywhere in it. -/
theorem Space.of_space {text front rest : List Char} (h : Space text rest)
    (hrest : skipSpace rest = rest) (hfront : Space text front) : Space front rest := by
  have hskip : skipSpace front = rest := by
    rw [← hfront.skipSpace_eq, h.skipSpace_eq, hrest]
  rw [← hskip]
  exact space_skipSpace front

theorem skipSpace_append_of_isBare {word : List Char} (hne : word ≠ [])
    (h : word.all isBare = true) (rest : List Char) :
    skipSpace (word ++ rest) = word ++ rest := by
  obtain ⟨c, cs, rfl⟩ := List.exists_cons_of_ne_nil hne
  exact skipSpace_cons_of_not (isSpace_of_isBare (List.all_eq_true.mp h c List.mem_cons_self)) _

/-- The white space in front of a text is not part of its tokens. -/
theorem Respelled.of_space {text text' front : List Char} (h : Respelled text text')
    (hfront : Space text front) : Respelled front text' := by
  cases h with
  | done space space' => exact .done (space.of_space rfl hfront) space'
  | mark known space space' rest =>
    have hskip := skipSpace_cons_of_not (isSpace_of_mem_structureMarks known)
    exact .mark known (space.of_space (hskip _) hfront) space' rest
  | bare ne_nil all_bare space space' ends ends' rest =>
    have hskip := skipSpace_append_of_isBare ne_nil all_bare
    exact .bare ne_nil all_bare (space.of_space (hskip _) hfront) space' ends ends' rest
  | string space space' inside inside' rest =>
    have hskip := skipSpace_cons_of_not (c := '"') rfl
    exact .string (space.of_space (hskip _) hfront) space' inside inside' rest

/-! ## The first token -/

/-- Where a word begins, no other token does. -/
theorem Space.head_eq {c d : Char} {text rest : List Char} (h : Space (c :: text) (d :: rest))
    (hc : isSpace c = false) (hd : isSpace d = false) : c = d ∧ text = rest :=
  Space.none.unique h hc hd

theorem Space.ne_nil {c : Char} {text : List Char} (hc : isSpace c = false) :
    ¬ Space (c :: text) [] := by
  intro h
  have hskip := skipSpace_eq_nil h
  rw [skipSpace_cons_of_not hc] at hskip
  cases hskip

/-- A text of no tokens is white space. -/
theorem Respelled.of_nil {text' : List Char} (h : Respelled [] text') : Space text' [] := by
  cases h with
  | done _ space' => exact space'
  | mark _ space _ _ => cases space
  | bare ne_nil _ space _ _ _ _ =>
    obtain ⟨c, word, rfl⟩ := List.exists_cons_of_ne_nil ne_nil
    cases space
  | string space _ _ _ _ => cases space

/-- Texts of the same tokens of which one begins with a mark. -/
theorem Respelled.of_mark {c : Char} {after text' : List Char} (h : Respelled (c :: after) text')
    (hc : c ∈ structureMarks) : ∃ after', Space text' (c :: after') ∧ Respelled after after' := by
  have hspace := isSpace_of_mem_structureMarks hc
  cases h with
  | done space _ => exact absurd space (Space.ne_nil hspace)
  | mark known space space' rest =>
    obtain ⟨rfl, rfl⟩ := space.head_eq hspace (isSpace_of_mem_structureMarks known)
    exact ⟨_, space', rest⟩
  | bare ne_nil all_bare space _ _ _ _ =>
    obtain ⟨d, word, rfl⟩ := List.exists_cons_of_ne_nil ne_nil
    have hd := List.all_eq_true.mp all_bare d List.mem_cons_self
    obtain ⟨rfl, -⟩ := space.head_eq hspace (isSpace_of_isBare hd)
    rw [isBare_of_mem_structureMarks hc] at hd
    cases hd
  | string space _ _ _ _ =>
    obtain ⟨rfl, -⟩ := space.head_eq hspace rfl
    exact absurd hc (by decide)

/-- Texts of the same tokens of which one begins with a string. -/
theorem Respelled.of_string {t : Text} {body after text' : List Char}
    (h : Respelled ('"' :: body) text') (inside : Characters body t after) :
    ∃ body' after', Space text' ('"' :: body') ∧ Characters body' t after' ∧
      Respelled after after' := by
  cases h with
  | done space _ => exact absurd space (Space.ne_nil rfl)
  | mark known space _ _ =>
    obtain ⟨rfl, -⟩ := space.head_eq rfl (isSpace_of_mem_structureMarks known)
    exact absurd known (by decide)
  | bare ne_nil all_bare space _ _ _ _ =>
    obtain ⟨d, word, rfl⟩ := List.exists_cons_of_ne_nil ne_nil
    have hd := List.all_eq_true.mp all_bare d List.mem_cons_self
    obtain ⟨rfl, -⟩ := space.head_eq rfl (isSpace_of_isBare hd)
    cases hd
  | string space space' inside₁ inside' rest =>
    obtain ⟨-, rfl⟩ := space.head_eq rfl rfl
    obtain ⟨rfl, rfl⟩ := inside.unique inside₁
    exact ⟨_, _, space', inside', rest⟩

/-- A word ends where its bare characters end. -/
theorem bare_append_unique {word word' rest rest' : List Char} (h : word.all isBare = true)
    (h' : word'.all isBare = true) (hrest : EndsBare rest) (hrest' : EndsBare rest')
    (heq : word ++ rest = word' ++ rest') : word = word' ∧ rest = rest' := by
  have htake : ∀ {word rest : List Char}, word.all isBare = true → EndsBare rest →
      (word ++ rest).takeWhile isBare = word := by
    intro word rest hword hends
    rw [List.takeWhile_append_of_pos (List.all_eq_true.mp hword)]
    cases rest with
    | nil => exact List.append_nil word
    | cons c rest =>
      rw [List.takeWhile_cons_of_neg (by rw [hends c rfl]; exact Bool.false_ne_true),
        List.append_nil]
  obtain rfl : word = word' := by rw [← htake h hrest, heq, htake h' hrest']
  exact ⟨rfl, List.append_cancel_left heq⟩

/-- Texts of the same tokens of which one begins with a word or a number. -/
theorem Respelled.of_bare {word after text' : List Char} (h : Respelled (word ++ after) text')
    (hne : word ≠ []) (hbare : word.all isBare = true) (hends : EndsBare after) :
    ∃ after', Space text' (word ++ after') ∧ Respelled after after' := by
  obtain ⟨c, cs, rfl⟩ := List.exists_cons_of_ne_nil hne
  have hc := List.all_eq_true.mp hbare c List.mem_cons_self
  have hspace := isSpace_of_isBare hc
  cases h with
  | done space _ => exact absurd space (Space.ne_nil hspace)
  | mark known space _ _ =>
    obtain ⟨rfl, -⟩ := space.head_eq hspace (isSpace_of_mem_structureMarks known)
    rw [isBare_of_mem_structureMarks known] at hc
    cases hc
  | bare ne_nil all_bare space space' ends _ rest =>
    obtain ⟨d, word, rfl⟩ := List.exists_cons_of_ne_nil ne_nil
    have hd := isSpace_of_isBare (List.all_eq_true.mp all_bare d List.mem_cons_self)
    obtain ⟨rfl, htail⟩ := space.head_eq hspace hd
    obtain ⟨hword, rfl⟩ := bare_append_unique hbare all_bare hends ends (congrArg (c :: ·) htail)
    cases hword
    exact ⟨_, space', rest⟩
  | string space _ _ _ _ =>
    obtain ⟨rfl, -⟩ := space.head_eq hspace rfl
    cases hc

/-! ## Words and numbers -/

/-- A production takes bare characters only, and does not look at what follows them. -/
def TakesBare {α : Type} (G : Grammar α) : Prop :=
  ∀ ⦃text rest : List Char⦄ ⦃a : α⦄, G text a rest → ∃ word, text = word ++ rest ∧
    word.all isBare = true ∧ ∀ rest', G (word ++ rest') a rest'

theorem isBare_of_isDigit {c : Char} (h : Decimal.isDigit c = true) : isBare c = true := by
  obtain ⟨d, rfl⟩ := Decimal.exists_eq_digit h
  revert d
  decide

theorem takesBare_digits : TakesBare Digits := by
  rintro text rest digits ⟨rfl, hne, hdigits⟩
  have hbare : digits.all isBare = true :=
    List.all_eq_true.mpr fun c hc => isBare_of_isDigit (hdigits c hc)
  exact ⟨digits, rfl, hbare, fun _ => ⟨rfl, hne, hdigits⟩⟩

theorem takesBare_minus : TakesBare Minus := by
  intro text rest negative h
  cases h with
  | absent => exact ⟨[], rfl, rfl, fun _ => .absent⟩
  | present => exact ⟨['-'], rfl, rfl, fun _ => .present⟩

theorem takesBare_whole : TakesBare Whole := by
  intro text rest digits h
  cases h with
  | zero => exact ⟨['0'], rfl, rfl, fun _ => .zero⟩
  | other run first =>
    obtain ⟨word, rfl, hbare, hrun⟩ := takesBare_digits run
    exact ⟨word, rfl, hbare, fun rest' => .other (hrun rest') first⟩

theorem takesBare_fraction : TakesBare Fraction := by
  intro text rest places h
  cases h with
  | absent => exact ⟨[], rfl, rfl, fun _ => .absent⟩
  | present run =>
    obtain ⟨word, rfl, hbare, hrun⟩ := takesBare_digits run
    exact ⟨'.' :: word, rfl, hbare, fun rest' => .present (hrun rest')⟩

theorem takesBare_sign : TakesBare Sign := by
  intro text rest negative h
  cases h with
  | absent => exact ⟨[], rfl, rfl, fun _ => .absent⟩
  | plus => exact ⟨['+'], rfl, rfl, fun _ => .plus⟩
  | minus => exact ⟨['-'], rfl, rfl, fun _ => .minus⟩

theorem takesBare_exponent : TakesBare Exponent := by
  intro text rest exponent h
  cases h with
  | absent => exact ⟨[], rfl, rfl, fun _ => .absent⟩
  | @present e _ _ _ _ _ letter sign run =>
    obtain ⟨signWord, rfl, hsignBare, hsign⟩ := takesBare_sign sign
    obtain ⟨digitWord, rfl, hdigitBare, hrun⟩ := takesBare_digits run
    have hletter : isBare e = true := by
      rcases letter with rfl | rfl <;> rfl
    refine ⟨e :: (signWord ++ digitWord), by simp, ?_, fun rest' => ?_⟩
    · rw [List.all_cons, List.all_append, hletter, hsignBare, hdigitBare]
      rfl
    · rw [List.cons_append, List.append_assoc]
      exact .present letter (hsign _) (hrun rest')

theorem takesBare_number (limit : Nat) : TakesBare (Number limit) := by
  intro text rest v h
  cases h with
  | whole minus part short =>
    obtain ⟨minusWord, rfl, hminusBare, hminus⟩ := takesBare_minus minus
    obtain ⟨digitWord, rfl, hdigitBare, hpart⟩ := takesBare_whole part
    refine ⟨minusWord ++ digitWord, by simp, ?_, fun rest' => ?_⟩
    · rw [List.all_append, hminusBare, hdigitBare]
      rfl
    · rw [List.append_assoc]
      exact .whole (hminus _) (hpart rest') short
  | real minus part fraction power isReal =>
    obtain ⟨minusWord, rfl, hminusBare, hminus⟩ := takesBare_minus minus
    obtain ⟨digitWord, rfl, hdigitBare, hpart⟩ := takesBare_whole part
    obtain ⟨placeWord, rfl, hplaceBare, hfraction⟩ := takesBare_fraction fraction
    obtain ⟨powerWord, rfl, hpowerBare, hpower⟩ := takesBare_exponent power
    refine ⟨minusWord ++ (digitWord ++ (placeWord ++ powerWord)), by simp, ?_, fun rest' => ?_⟩
    · simp only [List.all_append, hminusBare, hdigitBare, hplaceBare, hpowerBare, Bool.and_self]
    · simp only [List.append_assoc]
      exact .real (hminus _) (hpart _) (hfraction _) (hpower rest') isReal

theorem isBare_of_literal {w : List Char} {v : Value} (h : (w, v) ∈ literals) :
    w ≠ [] ∧ w.all isBare = true := by
  have hall : literals.all (fun l => l.1 != [] && l.1.all isBare) = true := by decide
  have hword := List.all_eq_true.mp hall _ h
  rwa [Bool.and_eq_true, bne_iff_ne] at hword

/-! ## Productions that survive -/

/-- What a production spells at the front of a text it spells in all texts of the same tokens, and
the same tokens are left over. -/
def Survives {α : Type} (G : Grammar α) : Prop :=
  ∀ ⦃text rest text' : List Char⦄ ⦃a : α⦄, G text a rest → EndsBare rest → Respelled text text' →
    ∃ front' rest', Space text' front' ∧ G front' a rest' ∧ Respelled rest rest'

theorem Scalar.survives (limit : Nat) : Survives (Scalar limit) := by
  intro text rest text' v h hrest htext
  cases h with
  | word known =>
    obtain ⟨hne, hbare⟩ := isBare_of_literal known
    obtain ⟨rest', hspace, hafter⟩ := htext.of_bare hne hbare hrest
    exact ⟨_, rest', hspace, .word known, hafter⟩
  | number h =>
    obtain ⟨word, rfl, hbare, hnumber⟩ := takesBare_number limit h
    have hne : word ≠ [] := by
      obtain ⟨c, cs, hcons, -⟩ := (hnumber []).exists_cons
      rw [List.append_nil] at hcons
      exact hcons ▸ List.cons_ne_nil c cs
    obtain ⟨rest', hspace, hafter⟩ := htext.of_bare hne hbare hrest
    exact ⟨_, rest', hspace, .number (hnumber rest'), hafter⟩
  | string inside =>
    obtain ⟨body', rest', hspace, hinside, hafter⟩ := htext.of_string inside
    exact ⟨_, rest', hspace, .string hinside, hafter⟩

section

variable {α : Type} {opening close : Char} {G : Grammar α}

/-- By induction on the parts: each one ends before a mark, where no word goes on. -/
theorem Parts.survives (hG : Survives G) (hclose : close ∈ structureMarks) :
    Survives (Parts close G) := by
  intro text rest text' as h _ htext
  have hcomma : ',' ∈ structureMarks := by decide
  induction h generalizing text' with
  | last first space =>
    have hafter := space.endsBare (endsBare_cons (isBare_of_mem_structureMarks hclose) _)
    obtain ⟨front', after', hfront, hfirst, hleft⟩ := hG first hafter htext
    obtain ⟨rest', hspace, hrest⟩ := (hleft.of_space space).of_mark hclose
    exact ⟨front', rest', hfront, .last hfirst hspace, hrest⟩
  | more first space space' others ih =>
    have hafter := space.endsBare (endsBare_cons (isBare_of_mem_structureMarks hcomma) _)
    obtain ⟨front', after', hfront, hfirst, hleft⟩ := hG first hafter htext
    obtain ⟨body', hspace, hbody⟩ := (hleft.of_space space).of_mark hcomma
    obtain ⟨next', rest', hnext, hothers, hrest⟩ := ih ‹_› (hbody.of_space space')
    exact ⟨front', rest', hfront, .more hfirst hspace hnext hothers, hrest⟩

theorem Enclosed.survives (hG : Survives G) (hopening : opening ∈ structureMarks)
    (hclose : close ∈ structureMarks) : Survives (Enclosed opening close G) := by
  intro text rest text' as h hrest htext
  cases h with
  | empty space =>
    obtain ⟨inside', hfront, hinside⟩ := htext.of_mark hopening
    obtain ⟨rest', hspace, hleft⟩ := (hinside.of_space space).of_mark hclose
    exact ⟨_, rest', hfront, .empty hspace, hleft⟩
  | parts space inside =>
    obtain ⟨inside', hfront, hinside⟩ := htext.of_mark hopening
    obtain ⟨body', rest', hspace, hparts, hleft⟩ :=
      Parts.survives hG hclose inside hrest (hinside.of_space space)
    exact ⟨_, rest', hfront, .parts hspace hparts, hleft⟩

end

theorem Member.survives {item : Grammar Value} (hitem : Survives item) :
    Survives (Member item) := by
  rintro text rest text' m ⟨name, space, space', value⟩ hrest htext
  obtain ⟨body', afterName', hfront, hname, hafter⟩ := htext.of_string name
  obtain ⟨next', hcolon, hnext⟩ := (hafter.of_space space).of_mark (by decide)
  obtain ⟨front', rest', hspace, hvalue, hleft⟩ := hitem value hrest (hnext.of_space space')
  exact ⟨_, rest', hfront, .mk hname hcolon hspace hvalue, hleft⟩

theorem ArrayOf.survives {item : Grammar Value} (hitem : Survives item) :
    Survives (ArrayOf item) := by
  refine Enclosed.survives hitem ?_ ?_ <;> decide

theorem ObjectOf.survives {item : Grammar Value} (hitem : Survives item) :
    Survives (ObjectOf item) := by
  refine Enclosed.survives (Member.survives hitem) ?_ ?_ <;> decide

/-- **Values survive respelling**, by induction on the depth. -/
theorem Spells.survives (limit depth : Nat) : Survives (Spells limit depth) := by
  induction depth with
  | zero => exact Scalar.survives limit
  | succ depth ih =>
    rintro text rest text' v (h | ⟨vs, rfl, h⟩ | ⟨ms, rfl, h⟩) hrest htext
    · obtain ⟨front', rest', hfront, h', hleft⟩ := Scalar.survives limit h hrest htext
      exact ⟨front', rest', hfront, .inl h', hleft⟩
    · obtain ⟨front', rest', hfront, h', hleft⟩ := ArrayOf.survives ih h hrest htext
      exact ⟨front', rest', hfront, .inr (.inl ⟨vs, rfl, h'⟩), hleft⟩
    · obtain ⟨front', rest', hfront, h', hleft⟩ := ObjectOf.survives ih h hrest htext
      exact ⟨front', rest', hfront, .inr (.inr ⟨ms, rfl, h'⟩), hleft⟩

/-- **Texts of the same tokens spell the same.** -/
theorem Document.respelled {α : Type} {G : Grammar α} {text text' : List Char} {a : α}
    (h : Document G text a) (hG : Survives G) (htext : Respelled text text') :
    Document G text' a := by
  obtain ⟨front, back, hfront, hspells, hback⟩ := h
  have hends := hback.endsBare endsBare_nil
  obtain ⟨front', back', hfront', hspells', hleft⟩ := hG hspells hends (htext.of_space hfront)
  exact ⟨front', back', hfront', hspells', (hleft.of_space hback).of_nil⟩

end Json

end DigestRecord
