import DigestRecord.Proofs.Json.Respelling
import DigestRecord.Proofs.Record.Language
import Mathlib.Data.List.Perm.Basic
import Mathlib.Logic.Relation

/-!
# What reading depends on

A text that is decoded to an object is read by three values, those of the last members of the three
names, and by nothing else. The members are those that the text spells, all of them, in their order
(`HasMembers`); a text has one list of them, and what is decoded is the object that they make.

So whatever keeps the three values keeps the outcome, be it a file digest or a refusal: other members,
members that a later one of the same name replaces, the order of members (`Change`), and the spelling of
the text (`Json.Respelled`).

## Main results

* `HasMembers.decode_eq` — the text is decoded to the object of its members
* `Change.lastNamed_eq` — one change to the members keeps the last members of the three names
* `read_decided_by_fieldValues` — texts with the same three values have the same outcome
-/

namespace DigestRecord

namespace Record

variable {allowed : Json.DepthLimit} {text : String} {members members' : List (Text × Json.Value)} {m : Text × Json.Value}

/-! ## The three values -/

/-- The names of the members that an object is read by. -/
def fieldNames : List String := ["algorithm", "hash", "bytes"]

/-- An object is read by a member of this name. -/
def IsField (name : Text) : Prop := ∃ field ∈ fieldNames, name = Text.ofString field

instance (name : Text) : Decidable (IsField name) := List.decidableBEx _ _

/-- The values that an object is read by, each the last one of its name. An algorithm or a digest that
is missing counts as an empty text, a missing count as `null`. -/
def fieldValues (members : List (Text × Json.Value)) : Json.Value × Json.Value × Json.Value :=
  ((lastNamed members "algorithm").getD (.string []), (lastNamed members "hash").getD (.string []),
    (lastNamed members "bytes").getD .null)

theorem ofValue_ofMembers (members : List (Text × Json.Value)) : ofValue (.ofMembers members) =
    check (fieldValues members).1 (fieldValues members).2.1 (fieldValues members).2.2 := by
  rw [Json.Value.ofMembers, ofValue, member_foldl_putMember, member_foldl_putMember,
    member_foldl_putMember]
  rfl

theorem fieldValues_congr
    (h : ∀ field ∈ fieldNames, lastNamed members' field = lastNamed members field) :
    fieldValues members' = fieldValues members := by
  rw [fieldValues, fieldValues, h "algorithm" (by decide), h "hash" (by decide),
    h "bytes" (by decide)]

/-! ## The members of a text -/

/-- A text is decoded, and these are the members of the object that it spells. -/
structure HasMembers (allowed : Json.DepthLimit) (text : String)
    (members : List (Text × Json.Value)) : Prop where
  decodes : ∃ v, Json.decode allowed text = .ok v
  spells : ∃ limit depth,
    Json.Document (Json.ObjectOf (Json.Spells limit depth)) text.toList members

/-- What is decoded is the object of the members, as a text spells one value only. -/
theorem HasMembers.decode_eq (h : HasMembers allowed text members) :
    Json.decode allowed text = .ok (.ofMembers members) := by
  obtain ⟨v, hdecode⟩ := h.decodes
  obtain ⟨limit, depth, front, back, hfront, hobject, hback⟩ := h.spells
  have hdocument : Json.Document (Json.Spells limit (depth + 1)) text.toList (.ofMembers members) :=
    ⟨front, back, hfront, Json.ObjectOf.spells hobject, hback⟩
  obtain rfl := (Json.decode_eq_ok_iff.mp hdecode).unique hdocument
  exact hdecode

/-- A short text is decoded if it spells an object at all. -/
theorem hasMembers_of_length_le {limit depth : Nat} (hlength : text.toList.length ≤ 400)
    (h : Json.Document (Json.ObjectOf (Json.Spells limit depth)) text.toList members) :
    HasMembers allowed text members := by
  refine ⟨?_, limit, depth, h⟩
  obtain ⟨front, back, hfront, hobject, hback⟩ := h
  exact ⟨_, Json.decode_eq_ok_of_isWithinLimits (Json.isWithinLimits_of_length_le allowed hlength)
    ⟨front, back, hfront, Json.ObjectOf.spells hobject, hback⟩⟩

theorem HasMembers.read_eq (h : HasMembers allowed text members) : read allowed text =
    check (fieldValues members).1 (fieldValues members).2.1 (fieldValues members).2.2 := by
  rw [read, h.decode_eq]
  exact ofValue_ofMembers members

/-- A text of the same tokens has the same members. -/
theorem HasMembers.respelled {text' : String} (h : HasMembers allowed text members)
    (htext : Json.Respelled text.toList text'.toList) : HasMembers allowed text' members := by
  obtain ⟨v, hdecode⟩ := h.decodes
  obtain ⟨limit, depth, hobject⟩ := h.spells
  have hvalue := (Json.decode_eq_ok_iff.mp hdecode).respelled (Json.Spells.survives _ _) htext
  exact ⟨⟨v, Json.decode_eq_ok_iff.mpr hvalue⟩, limit, depth,
    hobject.respelled (Json.ObjectOf.survives (Json.Spells.survives limit depth)) htext⟩

/-! ## Changes to the members -/

/-- One change to the members of an object that keeps the three values: neighbours change places, unless
both have the same one of the three names; a member of another name comes in, with any value; a member
comes in whose name comes again after it. -/
inductive Change : List (Text × Json.Value) → List (Text × Json.Value) → Prop
  | swapped {before after : List (Text × Json.Value)} {m n : Text × Json.Value}
      (free : m.1 = n.1 → ¬ IsField m.1) :
      Change (before ++ m :: n :: after) (before ++ n :: m :: after)
  | inserted {before after : List (Text × Json.Value)} {m : Text × Json.Value}
      (other : ¬ IsField m.1) : Change (before ++ after) (before ++ m :: after)
  | shadowed {before after : List (Text × Json.Value)} {m : Text × Json.Value}
      (again : m.1 ∈ after.map Prod.fst) : Change (before ++ after) (before ++ m :: after)

theorem lastNamed_append (before after : List (Text × Json.Value)) (name : String) :
    lastNamed (before ++ after) name = (lastNamed after name).or (lastNamed before name) := by
  rw [lastNamed, List.reverse_append, List.lookup_append]
  rfl

theorem lastNamed_cons (m : Text × Json.Value) (after : List (Text × Json.Value)) (name : String) :
    lastNamed (m :: after) name = (lastNamed after name).or (lastNamed [m] name) :=
  lastNamed_append [m] after name

theorem lastNamed_singleton_of_ne {name : String} (h : m.1 ≠ Text.ofString name) :
    lastNamed [m] name = none := by
  refine List.lookup_eq_none_iff.mpr fun p hp => ?_
  rw [List.reverse_singleton, List.mem_singleton] at hp
  rw [hp, bne_iff_ne]
  exact h.symm

theorem isSome_lastNamed {name : String} (h : Text.ofString name ∈ members.map Prod.fst) :
    (lastNamed members name).isSome = true := by
  obtain ⟨m, hm, hname⟩ := List.mem_map.mp h
  exact List.lookup_isSome_iff.mpr ⟨m, List.mem_reverse.mpr hm, beq_iff_eq.mpr hname.symm⟩

/-- **One change keeps the last members of the three names.** -/
theorem Change.lastNamed_eq (h : Change members members') {field : String}
    (hfield : field ∈ fieldNames) : lastNamed members' field = lastNamed members field := by
  cases h with
  | @swapped before after m n free =>
    have hone : m.1 ≠ Text.ofString field ∨ n.1 ≠ Text.ofString field := by
      by_contra hboth
      obtain ⟨hm, hn⟩ := not_or.mp hboth
      have hm := not_not.mp hm
      exact free (hm.trans (not_not.mp hn).symm) ⟨field, hfield, hm⟩
    rw [lastNamed_append, lastNamed_append, lastNamed_cons n (m :: after), lastNamed_cons m after,
      lastNamed_cons m (n :: after), lastNamed_cons n after]
    rcases hone with hm | hn
    · rw [lastNamed_singleton_of_ne hm, Option.or_none, Option.or_none]
    · rw [lastNamed_singleton_of_ne hn, Option.or_none, Option.or_none]
  | @inserted before after m other =>
    have hname : m.1 ≠ Text.ofString field := fun heq => other ⟨field, hfield, heq⟩
    rw [lastNamed_append, lastNamed_append, lastNamed_cons, lastNamed_singleton_of_ne hname,
      Option.or_none]
  | @shadowed before after m again =>
    rw [lastNamed_append, lastNamed_append, lastNamed_cons]
    by_cases hname : m.1 = Text.ofString field
    · rw [hname] at again
      obtain ⟨v, hv⟩ := Option.isSome_iff_exists.mp (isSome_lastNamed again)
      rw [hv]
      rfl
    · rw [lastNamed_singleton_of_ne hname, Option.or_none]

/-- Any number of changes keeps the three values, by induction on the changes. -/
theorem fieldValues_eq_of_changes (h : Relation.ReflTransGen Change members members') :
    fieldValues members' = fieldValues members := by
  induction h with
  | refl => rfl
  | tail _ hstep ih => exact (fieldValues_congr fun _ hfield => hstep.lastNamed_eq hfield).trans ih

theorem Change.cons (h : Change members members') (m : Text × Json.Value) :
    Change (m :: members) (m :: members') := by
  cases h with
  | @swapped before after _ _ free => exact @Change.swapped (m :: before) after _ _ free
  | @inserted before after _ other => exact @Change.inserted (m :: before) after _ other
  | @shadowed before after _ again => exact @Change.shadowed (m :: before) after _ again

/-- Members of different names can be put in any order, neighbour by neighbour. -/
theorem changes_of_perm (h : members.Perm members') (hnames : (members.map Prod.fst).Nodup) :
    Relation.ReflTransGen Change members members' := by
  induction h with
  | nil => exact .refl
  | cons m _ ih =>
    have hrest := ih (List.nodup_cons.mp hnames).2
    exact Relation.ReflTransGen.lift (m :: ·) (fun _ _ h => h.cons m) _ _ hrest
  | swap m n after =>
    have hne : n.1 ≠ m.1 := by
      intro heq
      simp [heq] at hnames
    exact .single (@Change.swapped [] after n m fun heq => absurd heq hne)
  | trans hfirst _ ih₁ ih₂ =>
    have hnames' := (hfirst.map Prod.fst).nodup_iff.mp hnames
    exact (ih₁ hnames).trans (ih₂ hnames')

/-! ## The outcome -/

/-- **Reading depends on three values only.** Take a text that is decoded to an object. Any other such
text has the same outcome, the same file digest or the same refusal, if the three values are the same;
so it is if its members are the same in another order, or come about by changes that keep the values. A
text of the same tokens, however it is spelled, has the same members and so the same outcome. -/
theorem read_decided_by_fieldValues (h : HasMembers allowed text members) :
    (∀ text' members', HasMembers allowed text' members' →
      (fieldValues members' = fieldValues members → read allowed text' = read allowed text) ∧
      ((members.map Prod.fst).Nodup → members.Perm members' →
        read allowed text' = read allowed text) ∧
      (Relation.ReflTransGen Change members members' → read allowed text' = read allowed text)) ∧
    ∀ text', Json.Respelled text.toList text'.toList →
      HasMembers allowed text' members ∧ read allowed text' = read allowed text := by
  have hsame : ∀ {text' members'}, HasMembers allowed text' members' →
      fieldValues members' = fieldValues members → read allowed text' = read allowed text := by
    intro text' members' h' hvalues
    rw [h'.read_eq, h.read_eq, hvalues]
  refine ⟨fun text' members' h' => ⟨hsame h', fun hnames hperm => ?_, fun hchanges => ?_⟩,
    fun text' htext => ?_⟩
  · exact hsame h' (fieldValues_eq_of_changes (changes_of_perm hperm hnames))
  · exact hsame h' (fieldValues_eq_of_changes hchanges)
  · exact ⟨h.respelled htext, hsame (h.respelled htext) rfl⟩

/-- An object with a digest alone, the same object with two other members in front, and the same tokens
with a space and an escape among them. -/
theorem read_hash_alone :
    let read := read .standard
    HasMembers .standard "\x7b\"hash\":\"a\"\x7d"
        [(Text.ofString "hash", .string (Text.ofString "a"))] ∧
      read "\x7b\"x\":[],\"hash\":\"b\",\"hash\":\"a\"\x7d" = read "\x7b\"hash\":\"a\"\x7d" ∧
      read "\x7b\"h\\u0061sh\" :\"a\"\x7d" = read "\x7b\"hash\":\"a\"\x7d" := by
  intro read
  have hstring : ∀ (c : Char) (rest : List Char), Json.isPlain c = true →
      Json.Characters (c :: '"' :: rest) [CodePoint.ofChar c] rest :=
    fun c rest hc => @Json.characters_of_isPlain [c] (by simpa using hc) rest
  have hmember : ∀ (c : Char) (rest : List Char), Json.isPlain c = true →
      Json.Member (Json.Spells 0 1) ('"' :: ("hash".toList ++ '"' :: ':' :: '"' :: c :: '"' :: rest))
        (Text.ofString "hash", .string [CodePoint.ofChar c]) rest :=
    fun c rest hc => Json.member_of_isPlain "hash" (by decide) (.inl (.string (hstring c rest hc)))
  have hempty : ∀ rest, Json.Member (Json.Spells 0 1) ('"' :: 'x' :: '"' :: ':' :: '[' :: ']' :: rest)
      (Text.ofString "x", .array []) rest :=
    fun rest => Json.member_of_isPlain "x" (by decide) (.inr (.inl ⟨[], rfl, .empty .none⟩))
  have hone : HasMembers .standard "\x7b\"hash\":\"a\"\x7d"
      [(Text.ofString "hash", .string (Text.ofString "a"))] :=
    hasMembers_of_length_le (by decide)
      ⟨_, [], .none, .parts .none (.last (hmember 'a' _ (by decide)) .none), .none⟩
  have hmore : HasMembers .standard "\x7b\"x\":[],\"hash\":\"b\",\"hash\":\"a\"\x7d"
      [(Text.ofString "x", .array []), (Text.ofString "hash", .string (Text.ofString "b")),
        (Text.ofString "hash", .string (Text.ofString "a"))] :=
    hasMembers_of_length_le (by decide)
      ⟨_, [], .none, .parts .none (.more (hempty _) .none .none
        (.more (hmember 'b' _ (by decide)) .none .none (.last (hmember 'a' _ (by decide)) .none))), .none⟩
  have hchanges : Relation.ReflTransGen Change [(Text.ofString "hash", .string (Text.ofString "a"))]
      [(Text.ofString "x", .array []), (Text.ofString "hash", .string (Text.ofString "b")),
        (Text.ofString "hash", .string (Text.ofString "a"))] :=
    .tail (.single (@Change.shadowed [] _ (_, _) (by decide)))
      (@Change.inserted [] _ (_, _) (by decide))
  have hescaped : ∀ rest, Json.Characters
      ('h' :: '\\' :: 'u' :: '0' :: '0' :: '6' :: '1' :: 's' :: 'h' :: '"' :: rest)
      (Text.ofString "hash") rest := fun rest =>
    .plain (by decide) (by decide) (by decide) (.numbered (.mk rfl) nofun
      (@Json.characters_of_isPlain ['s', 'h'] (by decide) rest))
  have hrespelled : Json.Respelled "\x7b\"hash\":\"a\"\x7d".toList
      "\x7b\"h\\u0061sh\" :\"a\"\x7d".toList := by
    have hname := @Json.characters_of_isPlain "hash".toList (by decide)
    refine .mark (by decide) .none .none (.string .none .none (hname _) (hescaped _) ?_)
    refine .mark (by decide) .none (.more (by decide) .none) (.string .none .none
      (hstring 'a' _ (by decide)) (hstring 'a' _ (by decide)) ?_)
    exact .mark (by decide) .none .none (.done .none .none)
  have hread := read_decided_by_fieldValues hone
  exact ⟨hone, (hread.1 _ _ hmore).2.2 hchanges, (hread.2 _ hrespelled).2⟩

end Record

end DigestRecord
