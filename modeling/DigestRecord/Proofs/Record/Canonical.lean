import DigestRecord.Proofs.Json.Unambiguous
import DigestRecord.Proofs.Record.Language
import DigestRecord.Proofs.Record.Pattern
import DigestRecord.Proofs.Record.RoundTrip

/-!
# Canonical lines

A record can be spelled in many ways: with white space and escapes, with its members in any order,
with other members and repeated ones, and with the digest in either case. Writing what was read
leaves one of these spellings, the line of the pattern, and whatever was spelled otherwise is
brought to that line.

Two things have to be seen for that. What is read can be written: a count of the text has no more
digits than the text may have, and it is written with no more digits than it was read from. And a
text that matches the pattern is the line of what is read from it, not of something else, because a
text spells one value only (`IsRecord.unique`).

## Main results

* `IsRecord.unique` — a text records one file digest at most
* `isWritable_of_read` — what is read can be written
* `format_read_canonical` — writing what was read gives a canonical form
-/

namespace DigestRecord

namespace Json

/-! ## Numbers in a text -/

theorem Whole.isDigit {text digits rest : List Char} (h : Whole text digits rest) :
    ∀ c ∈ digits, Decimal.isDigit c = true := by
  cases h with
  | zero =>
    intro c hc
    rw [List.mem_singleton.mp hc]
    rfl
  | other run _ => exact run.isDigit

/-- A whole number in a text has at most as many digits as the text may have. -/
theorem Number.digitCount_le {limit : Nat} {text rest : List Char} {n : Int}
    (h : Number limit text (.int n) rest) : Decimal.digitCount n ≤ limit := by
  cases h with
  | @whole _ _ digits _ negative _ part short =>
    obtain ⟨-, -, -, -, hne⟩ := part.exists_cons
    have hcount : Decimal.digitCount (signed negative digits) =
        (Decimal.ofNat (Decimal.toNat digits)).length := by
      cases negative <;> simp [Decimal.digitCount, signed]
    rw [hcount]
    exact Nat.le_trans (Decimal.length_ofNat_toNat_le hne part.isDigit) short

theorem Spells.digitCount_le {limit depth : Nat} {text rest : List Char} {n : Int}
    (h : Spells limit depth text (.int n) rest) : Decimal.digitCount n ≤ limit := by
  rcases h.inv with h | ⟨below, -, ⟨vs, hv, -⟩ | ⟨ms, hv, -⟩⟩
  · cases h with
    | word known => simp [literals] at known
    | number h => exact h.digitCount_le
  · cases hv
  · cases hv

/-! ## Parts of a container -/

section

variable {α : Type} {opening close : Char} {part : Grammar α} {text rest : List Char} {as : List α}

theorem Parts.exists_of_mem (h : Parts close part text as rest) {a : α} (ha : a ∈ as) :
    ∃ front back, part front a back := by
  induction h with
  | last first _ =>
    obtain rfl := List.mem_singleton.mp ha
    exact ⟨_, _, first⟩
  | more first _ _ _ ih =>
    rcases List.mem_cons.mp ha with rfl | ha
    · exact ⟨_, _, first⟩
    · exact ih ha

theorem Enclosed.exists_of_mem (h : Enclosed opening close part text as rest) {a : α} (ha : a ∈ as) :
    ∃ front back, part front a back := by
  cases h with
  | empty => cases ha
  | parts _ inside => exact inside.exists_of_mem ha

end

end Json

namespace Record

/-! ## What a text records -/

theorem mem_of_lastNamed {members : List (Text × Json.Value)} {name : String} {v : Json.Value}
    (h : lastNamed members name = some v) : (Text.ofString name, v) ∈ members := by
  obtain ⟨before, after, hsplit, -⟩ := List.lookup_eq_some_iff.mp h
  rw [← List.mem_reverse, hsplit]
  simp

/-- **A text records one file digest at most**, under whatever limits it is read. -/
theorem IsRecord.unique {text : List Char} {d d' : FileDigest} (h : IsRecord text d)
    (h' : IsRecord text d') : d = d' := by
  obtain ⟨limit, depth, members, ⟨front, back, hfront, hobject, hback⟩, htells⟩ := h
  obtain ⟨limit', depth', members', ⟨front', back', hfront', hobject', hback'⟩, htells'⟩ := h'
  have hspells : Json.Document (Json.Spells limit (depth + 1)) text (.ofMembers members) :=
    ⟨front, back, hfront, hobject.spells, hback⟩
  have hspells' : Json.Document (Json.Spells limit' (depth' + 1)) text (.ofMembers members') :=
    ⟨front', back', hfront', hobject'.spells, hback'⟩
  have hread := ofValue_ofMembers_eq_ok_iff.mpr htells
  rw [hspells.unique hspells', ofValue_ofMembers_eq_ok_iff.mpr htells'] at hread
  cases hread
  rfl

theorem SpellsDigest.length_eq {v : Json.Value} {bytes : List UInt8} (h : SpellsDigest v bytes) :
    bytes.length = Sha256.digestSize := by
  have hlength : ∀ {digits : List Char}, Hex.Denotes digits bytes → digits.length = hashDigits →
      bytes.length = Sha256.digestSize := by
    intro digits denotes size
    have hcount := congrArg List.length (Hex.denotes_iff.mp denotes)
    rw [Hex.length_encode, List.length_map, size, hashDigits] at hcount
    omega
  cases h with
  | text _ size denotes => exact hlength denotes size
  | number _ size denotes => exact hlength denotes size

theorem Tells.length_digest {members : List (Text × Json.Value)} {d : FileDigest}
    (h : Tells members d) : d.digest.length = Sha256.digestSize := by
  obtain ⟨v, -, hv⟩ := h.hash
  exact hv.length_eq

variable {allowed : Json.DepthLimit}

/-- **What is read can be written.** -/
theorem isWritable_of_read {text : String} {d : FileDigest} (h : read allowed text = .ok d) :
    Decimal.isWritable d.byteCount = true := by
  obtain ⟨depth, members, ⟨front, back, -, hobject, -⟩, htells⟩ := exists_members_of_read h
  obtain ⟨front', back', hmember⟩ := hobject.exists_of_mem (mem_of_lastNamed htells.byteCount)
  cases hmember with
  | mk _ _ _ value => exact decide_eq_true value.digitCount_le

/-! ## The canonical form -/

/-- Of a text that is read, the line is written, matches the pattern and is read as the text is. -/
theorem exists_line_of_read {text : String} {d : FileDigest} (h : read allowed text = .ok d) :
    format d = .ok (String.ofList (line d)) ∧ MatchesPattern (line d) ∧
      read allowed (String.ofList (line d)) = .ok d := by
  have hwritable := isWritable_of_read h
  obtain ⟨_, _, -, htells⟩ := exists_members_of_read h
  exact ⟨if_pos hwritable, matchesPattern_line htells.length_digest htells.nonneg,
    read_line_eq_ok allowed hwritable htells.length_digest htells.nonneg⟩

/-- A text that matches the pattern is the line of what is read from it. -/
theorem line_eq_of_matchesPattern {text : String} {d : FileDigest} (h : read allowed text = .ok d)
    (hmatches : MatchesPattern text.toList) : line d = text.toList := by
  obtain ⟨d', hdigest, hnonneg, hline⟩ := matchesPattern_iff.mp hmatches
  have hrecord : IsRecord text.toList d' := by
    rw [← hline]
    exact isRecord_line hdigest hnonneg
  rw [(isRecord_of_read h).unique hrecord, hline]

/-- A text that matches the pattern is read if its count is not too long. -/
theorem MatchesWith.exists_read (allowed : Json.DepthLimit) {text : String} {hash count : List Char}
    (h : MatchesWith text.toList hash count) (hshort : count.length ≤ Decimal.maxDigits) :
    ∃ d, read allowed text = .ok d ∧ format d = .ok text := by
  obtain ⟨d, hdigest, hnonneg, hdigits, hline⟩ := h.exists_line
  have hwritable : Decimal.isWritable d.byteCount = true := by
    rw [Decimal.isWritable, hdigits]
    exact decide_eq_true hshort
  have htext : text = String.ofList (line d) := by rw [hline, String.ofList_toList]
  rw [htext]
  exact ⟨d, read_line_eq_ok allowed hwritable hdigest hnonneg, if_pos hwritable⟩

/-- **Writing what was read gives a canonical form.** Of a text that is read, the line that is
written matches the pattern and is read as the text was; it is the text itself if and only if the
text matches the pattern. A text that matches, with a count that is not too long, is read and is
written again character by character. So two texts are read as the same file digest if and only if
the same line is written of them. -/
theorem format_read_canonical (allowed : Json.DepthLimit) :
    (∀ (text : String) (d : FileDigest), read allowed text = .ok d →
      ∃ line, format d = .ok line ∧ MatchesPattern line.toList ∧ read allowed line = .ok d ∧
        (line = text ↔ MatchesPattern text.toList)) ∧
    (∀ (text : String) (hash count : List Char), MatchesWith text.toList hash count →
      count.length ≤ 4300 → ∃ d, read allowed text = .ok d ∧ format d = .ok text) ∧
    ∀ (text text' : String) (d d' : FileDigest), read allowed text = .ok d →
      read allowed text' = .ok d' → (d = d' ↔ format d = format d') := by
  refine ⟨fun text d h => ?_, fun text hash count h hshort => h.exists_read allowed hshort, ?_⟩
  · obtain ⟨hformat, hmatches, hread⟩ := exists_line_of_read h
    refine ⟨_, hformat, ?_, hread, ?_, fun htext => ?_⟩
    · rwa [String.toList_ofList]
    · rintro rfl
      rwa [String.toList_ofList]
    · rw [line_eq_of_matchesPattern h htext, String.ofList_toList]
  · intro text text' d d' h h'
    refine ⟨fun heq => by rw [heq], fun heq => ?_⟩
    obtain ⟨hformat, -, hread⟩ := exists_line_of_read h
    obtain ⟨hformat', -, hread'⟩ := exists_line_of_read h'
    -- Equal lines are read as the same file digest.
    rw [hformat, hformat'] at heq
    rw [Except.ok.inj heq, hread'] at hread
    exact (Except.ok.inj hread).symm

/-- The line of thirty-two zero bytes that were made from none, with a line break: the break is read
over, and is not written again. -/
theorem format_read_zeros_break :
    ∃ text line, read .standard text = .ok ⟨List.replicate 32 0, 0⟩ ∧
      format ⟨List.replicate 32 0, 0⟩ = .ok line ∧ MatchesPattern line.toList ∧ line ≠ text := by
  have hwritable : Decimal.isWritable 0 = true :=
    decide_eq_true (by rw [Decimal.digitCount, Int.natAbs_zero, Decimal.length_ofNat_zero]; decide)
  have hread : read .standard (String.ofList (Record.line ⟨List.replicate 32 0, 0⟩ ++ ['\n'])) =
      .ok ⟨List.replicate 32 0, 0⟩ :=
    read_line_append_eq_ok .standard hwritable (by decide) (by decide) (.more (by decide) .none)
  obtain ⟨line, hformat, hmatches, -⟩ := (format_read_canonical .standard).1 _ _ hread
  refine ⟨_, line, hread, hformat, hmatches, ?_⟩
  have hline : String.ofList (Record.line ⟨List.replicate 32 0, 0⟩) = line :=
    Except.ok.inj ((if_pos hwritable).symm.trans hformat)
  rw [← hline]
  intro heq
  have hlength := congrArg List.length (String.ofList_inj.mp heq)
  rw [List.length_append, List.length_singleton] at hlength
  omega

end Record

end DigestRecord
