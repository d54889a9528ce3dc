import DigestRecord.Proofs.Json.Documents
import DigestRecord.Proofs.Json.Limits
import DigestRecord.Proofs.Record.Checking
import DigestRecord.Proofs.Record.Lines

/-!
# The language of records

The texts that are read as records, without reading them: `IsRecord text d` says that the text is
JSON by the grammar, with any nesting and with whole numbers of any size, that it is one object, and
that the last members of the three names tell the file digest `d`.

`read` accepts this language and nothing else. Its own limits on nesting and on digits keep some
texts of the language out; they let nothing in, whatever the limit on nesting is.

## Main results

* `ofValue_ofMembers_eq_ok_iff` — which objects are read, by their members as written
* `read_eq_ok_iff_isRecord` — which texts are read
-/

namespace DigestRecord

/-! ## The last member of a name -/

namespace Json

theorem lookup_foldl_putMember (name : Text) (members kept : List (Text × Value)) :
    (members.foldl (fun kept m => putMember m.1 m.2 kept) kept).lookup name =
      (members.reverse.lookup name).or (kept.lookup name) := by
  induction members generalizing kept with
  | nil => rfl
  | cons m members ih =>
    obtain ⟨n, v⟩ := m
    rw [List.foldl_cons, ih, List.reverse_cons, List.lookup_append, Option.or_assoc]
    congr 1
    by_cases h : name = n
    · subst h
      rw [lookup_putMember_self]
      simp
    · have h' : (name == n) = false := by simpa using h
      rw [lookup_putMember_of_ne h]
      simp [List.lookup_cons, h']

end Json

namespace Record

/-- The last of the members with a name. -/
def lastNamed (members : List (Text × Json.Value)) (name : String) : Option Json.Value :=
  members.reverse.lookup (Text.ofString name)

/-- The members of an object tell a file digest. -/
structure Tells (members : List (Text × Json.Value)) (d : FileDigest) : Prop where
  algorithm : ∃ t, lastNamed members "algorithm" = some (.string t) ∧
    t.trim = Text.ofString algorithm
  hash : ∃ v, lastNamed members "hash" = some v ∧ SpellsDigest v d.digest
  byteCount : lastNamed members "bytes" = some (.int d.byteCount)
  nonneg : 0 ≤ d.byteCount

/-- The texts that record a file digest. -/
def IsRecord (text : List Char) (d : FileDigest) : Prop :=
  ∃ limit depth members,
    Json.Document (Json.ObjectOf (Json.Spells limit depth)) text members ∧ Tells members d

/-! ## Objects -/

theorem not_spellsDigest_nil (bytes : List UInt8) : ¬ SpellsDigest (.string []) bytes := by
  intro h
  cases h with
  | text trimmed size _ =>
    rw [List.map_eq_nil_iff.mp trimmed.symm] at size
    cases size

/-- A member that is needed is there, if what would stand for it is no good. -/
theorem exists_of_getD {P : Json.Value → Prop} {found : Option Json.Value} {absent : Json.Value}
    (h : P (found.getD absent)) (habsent : ¬ P absent) : ∃ v, found = some v ∧ P v := by
  cases found with
  | none => exact absurd h habsent
  | some v => exact ⟨v, rfl, h⟩

theorem member_foldl_putMember (members : List (Text × Json.Value)) (name : String)
    (absent : Json.Value) :
    member (members.foldl (fun kept m => Json.putMember m.1 m.2 kept) []) name absent =
      (lastNamed members name).getD absent := by
  rw [member, Json.lookup_foldl_putMember, List.lookup_nil, Option.or_none, lastNamed]

/-- **An object is read by the last members of the three names.** -/
theorem ofValue_ofMembers_eq_ok_iff {members : List (Text × Json.Value)} {d : FileDigest} :
    ofValue (.ofMembers members) = .ok d ↔ Tells members d := by
  rw [Json.Value.ofMembers, ofValue, member_foldl_putMember, member_foldl_putMember,
    member_foldl_putMember, check_eq_ok_iff, checkAlgorithm_eq_ok_iff, checkHash_eq_ok_iff,
    checkByteCount_eq_ok_iff]
  constructor
  · rintro ⟨⟨t, ht, htrim⟩, hhash, hcount, hnonneg⟩
    refine ⟨⟨t, ?_, htrim⟩, ?_, ?_, hnonneg⟩
    · obtain ⟨v, hv, rfl⟩ := exists_of_getD (P := fun v => v = .string t) ht (by
        rintro ⟨⟩
        exact absurd htrim (by decide))
      exact hv
    · exact exists_of_getD (P := fun v => SpellsDigest v d.digest) hhash (not_spellsDigest_nil _)
    · obtain ⟨v, hv, rfl⟩ := exists_of_getD (P := fun v => v = .int d.byteCount) hcount nofun
      exact hv
  · rintro ⟨⟨t, ht, htrim⟩, ⟨v, hv, hhash⟩, hcount, hnonneg⟩
    rw [ht, hv, hcount]
    exact ⟨⟨t, rfl, htrim⟩, hhash, rfl, hnonneg⟩

/-! ## Texts -/

variable {allowed : Json.DepthLimit}

theorem exists_objectOf_of_spells {limit depth : Nat} {text rest : List Char}
    {kept : List (Text × Json.Value)} (h : Json.Spells limit depth text (.object kept) rest) :
    ∃ below members, Json.Value.object kept = .ofMembers members ∧
      Json.ObjectOf (Json.Spells limit below) text members rest := by
  have hscalar : ¬ Json.Scalar limit text (.object kept) rest := by
    intro h
    cases h with
    | word known => simp [Json.literals] at known
    | number h => cases h
  cases depth with
  | zero => exact absurd h hscalar
  | succ depth =>
    rcases h with h | ⟨vs, hv, -⟩ | ⟨members, hv, h⟩
    · exact absurd h hscalar
    · cases hv
    · exact ⟨depth, members, hv, h⟩

/-- What is read is an object of the grammar, under the limits of `decode`. -/
theorem exists_members_of_read {text : String} {d : FileDigest} (h : read allowed text = .ok d) :
    ∃ depth members, Json.Document (Json.ObjectOf (Json.Spells Decimal.maxDigits depth)) text.toList
      members ∧ Tells members d := by
  rw [read] at h
  split at h
  · cases h
  · rename_i v hdecode
    obtain ⟨front, back, hfront, hspells, hback⟩ := Json.decode_eq_ok_iff.mp hdecode
    cases v with
    | object kept =>
      obtain ⟨below, members, hv, hobject⟩ := exists_objectOf_of_spells hspells
      rw [hv] at h
      exact ⟨below, members, ⟨front, back, hfront, hobject, hback⟩,
        ofValue_ofMembers_eq_ok_iff.mp h⟩
    | _ => cases h

theorem isRecord_of_read {text : String} {d : FileDigest} (h : read allowed text = .ok d) :
    IsRecord text.toList d := by
  obtain ⟨depth, members, hobject, htells⟩ := exists_members_of_read h
  exact ⟨_, depth, members, hobject, htells⟩

theorem read_of_isRecord {text : String} {d : FileDigest}
    (hlimits : Json.IsWithinLimits allowed text.toList) (h : IsRecord text.toList d) :
    read allowed text = .ok d := by
  obtain ⟨limit, depth, members, ⟨front, back, hfront, hobject, hback⟩, htells⟩ := h
  have hdecode := Json.decode_eq_ok_of_isWithinLimits hlimits
    ⟨front, back, hfront, Json.ObjectOf.spells hobject, hback⟩
  rw [read, hdecode]
  exact ofValue_ofMembers_eq_ok_iff.mpr htells

/-- The line of a proper file digest is in the language. -/
theorem isRecord_line {d : FileDigest} (hlength : d.digest.length = Sha256.digestSize)
    (hcount : 0 ≤ d.byteCount) : IsRecord (line d) d := by
  have hsize : (Hex.encode d.digest).length = hashDigits := by
    rw [Hex.length_encode, hlength, hashDigits]
  have hhash : SpellsDigest (.string ((Hex.encode d.digest).map CodePoint.ofChar)) d.digest :=
    .text (Hex.trim_map_encode d.digest) hsize (Hex.denotes_encode d.digest)
  refine ⟨_, 0, lineMembers d, document_line (Nat.le_refl _) 0, ?_⟩
  exact ⟨⟨_, rfl, by decide⟩, ⟨_, rfl, hhash⟩, rfl, hcount⟩

/-- **The texts of the language of records are read, and no others.** What is read is always in the
language. Of a text within the limits on nesting and on digits the converse holds too. -/
theorem read_eq_ok_iff_isRecord (allowed : Json.DepthLimit) (text : String) (d : FileDigest) :
    (read allowed text = .ok d → IsRecord text.toList d) ∧
      (Json.IsWithinLimits allowed text.toList →
        (read allowed text = .ok d ↔ IsRecord text.toList d)) :=
  ⟨isRecord_of_read, fun hlimits => ⟨isRecord_of_read, read_of_isRecord hlimits⟩⟩

/-- The line of thirty-two zero bytes that were made from none. -/
theorem read_line_zeros :
    Json.IsWithinLimits .standard (String.ofList (line ⟨List.replicate 32 0, 0⟩)).toList ∧
      read .standard (String.ofList (line ⟨List.replicate 32 0, 0⟩)) =
        .ok ⟨List.replicate 32 0, 0⟩ := by
  have hlength : (line ⟨List.replicate 32 0, 0⟩).length ≤ 400 := by
    have hcount : (Decimal.ofInt 0).length = 1 := Decimal.length_ofNat_zero
    rw [length_line, List.length_replicate, hcount]
    decide
  have hrecord : IsRecord (line ⟨List.replicate 32 0, 0⟩) ⟨List.replicate 32 0, 0⟩ :=
    isRecord_line (by decide) (by decide)
  have hread := (read_eq_ok_iff_isRecord .standard
    (String.ofList (line ⟨List.replicate 32 0, 0⟩)) ⟨List.replicate 32 0, 0⟩).2
  rw [String.toList_ofList] at hread ⊢
  have hlimits := Json.isWithinLimits_of_length_le .standard hlength
  exact ⟨hlimits, (hread hlimits).mpr hrecord⟩

end Record

end DigestRecord
