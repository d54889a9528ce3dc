import DigestRecord.Proofs.Record.Language
import DigestRecord.Proofs.Record.Lines

/-!
# Reading what was written

Every file digest whose count can be written has a line, also one that no file has: its digest may
be of any length and its count below zero. Read back, such a line is refused, and the refusal tells
what is wrong with it. The digest is checked before the count, so a wrong length is reported even
where the count is wrong as well.

## Main results

* `read_line_append` — reading a line comes down to its digest and its count
* `read_format` — which file digests come back, and what is said of the others
-/

namespace DigestRecord

namespace Record

theorem checkHash_encode (bs : List UInt8) :
    checkHash (.string ((Hex.encode bs).map CodePoint.ofChar)) =
      if bs.length = Sha256.digestSize then .ok bs else .error (.hashLength (2 * bs.length)) := by
  have hsize : (Hex.encode bs).length = hashDigits ↔ bs.length = Sha256.digestSize := by
    rw [Hex.length_encode, hashDigits]
    omega
  split
  · rename_i h
    exact checkHash_of_trim (Hex.trim_map_encode bs) (hsize.mpr h) (Hex.denotes_encode bs)
  · rename_i h
    have hfold : Text.toLower ((Hex.encode bs).map CodePoint.ofChar) =
        (Hex.encode bs).map CodePoint.ofChar := by
      rw [Text.toLower_map_ofChar (Hex.denotes_encode bs).isAscii, Hex.map_toLower_encode]
    have hlength : ((Hex.encode bs).map CodePoint.ofChar).length ≠ hashDigits := by
      rw [List.length_map]
      exact fun hlength => h (hsize.mp hlength)
    rw [checkHash, Json.Value.asText_string, Hex.trim_map_encode, hfold, if_pos hlength,
      List.length_map, Hex.length_encode]

theorem checkByteCount_int (n : Int) :
    checkByteCount (.int n) = if 0 ≤ n then .ok n else .error (.byteCount (.int n)) := by
  rw [checkByteCount]
  split <;> split <;> first | rfl | omega

variable (allowed : Json.DepthLimit)

/-- A line is one object, so one level is enough for it. -/
theorem decode_line_append {d : FileDigest} (h : Decimal.isWritable d.byteCount = true)
    {after : List Char} (hafter : Json.Space after []) :
    Json.decode allowed (String.ofList (line d ++ after)) = .ok (.ofMembers (lineMembers d)) := by
  have hpos : 0 < allowed.levels := Nat.lt_of_lt_of_le (by decide) allowed.enough
  obtain ⟨below, hlevels⟩ := Nat.exists_eq_add_one_of_ne_zero (Nat.ne_of_gt hpos)
  rw [Json.decode_eq_ok_iff, String.toList_ofList, hlevels]
  obtain ⟨front, back, hfront, hobject, hback⟩ :=
    document_line_append (of_decide_eq_true h) below hafter
  exact ⟨front, back, hfront, Json.ObjectOf.spells hobject, hback⟩

theorem ofValue_lineMembers (d : FileDigest) :
    ofValue (.ofMembers (lineMembers d)) =
      check (.string (Text.ofString algorithm))
        (.string ((Hex.encode d.digest).map CodePoint.ofChar)) (.int d.byteCount) := by
  have halgorithm : lastNamed (lineMembers d) "algorithm" =
      some (.string (Text.ofString algorithm)) := rfl
  have hhash : lastNamed (lineMembers d) "hash" =
      some (.string ((Hex.encode d.digest).map CodePoint.ofChar)) := rfl
  have hcount : lastNamed (lineMembers d) "bytes" = some (.int d.byteCount) := rfl
  rw [Json.Value.ofMembers, ofValue, member_foldl_putMember, member_foldl_putMember,
    member_foldl_putMember, halgorithm, hhash, hcount]
  rfl

/-- **Reading a line comes down to its digest and its count**, with or without white space after
it. -/
theorem read_line_append {d : FileDigest} (h : Decimal.isWritable d.byteCount = true)
    {after : List Char} (hafter : Json.Space after []) :
    read allowed (String.ofList (line d ++ after)) =
      if d.digest.length = Sha256.digestSize then
        if 0 ≤ d.byteCount then .ok d else .error (.byteCount (.int d.byteCount))
      else .error (.hashLength (2 * d.digest.length)) := by
  have halgorithm : checkAlgorithm (.string (Text.ofString algorithm)) = .ok () :=
    checkAlgorithm_eq_ok_iff.mpr ⟨_, rfl, by decide⟩
  rw [read, decode_line_append allowed h hafter]
  show ofValue (.ofMembers (lineMembers d)) = _
  rw [ofValue_lineMembers, check, halgorithm, checkHash_encode, checkByteCount_int]
  split
  · split <;> rfl
  · rfl

theorem read_line {d : FileDigest} (h : Decimal.isWritable d.byteCount = true) :
    read allowed (String.ofList (line d)) =
      if d.digest.length = Sha256.digestSize then
        if 0 ≤ d.byteCount then .ok d else .error (.byteCount (.int d.byteCount))
      else .error (.hashLength (2 * d.digest.length)) := by
  rw [← List.append_nil (line d)]
  exact read_line_append allowed h .none

/-- The line of a proper file digest is read as that file digest. -/
theorem read_line_append_eq_ok {d : FileDigest} (h : Decimal.isWritable d.byteCount = true)
    (hlength : d.digest.length = Sha256.digestSize) (hcount : 0 ≤ d.byteCount) {after : List Char}
    (hafter : Json.Space after []) : read allowed (String.ofList (line d ++ after)) = .ok d := by
  rw [read_line_append allowed h hafter, if_pos hlength, if_pos hcount]

theorem read_line_eq_ok {d : FileDigest} (h : Decimal.isWritable d.byteCount = true)
    (hlength : d.digest.length = Sha256.digestSize) (hcount : 0 ≤ d.byteCount) :
    read allowed (String.ofList (line d)) = .ok d := by
  rw [read_line allowed h, if_pos hlength, if_pos hcount]

/-- **A file digest comes back from its line if and only if it has thirty-two bytes and a count that
is not negative.** Every other one is refused for its value, and nothing else is the cause of that:
for the length of its digest if that is wrong, and for its count if only that is. -/
theorem read_format {d : FileDigest} (h : Decimal.isWritable d.byteCount = true) :
    ∃ line, format d = .ok line ∧
      (read allowed line = .ok d ↔ d.digest.length = 32 ∧ 0 ≤ d.byteCount) ∧
      (¬ (d.digest.length = 32 ∧ 0 ≤ d.byteCount) → ∃ e, read allowed line = .error e ∧
        e.cause = none ∧ e.fault = .value (
          if d.digest.length ≠ 32 then
            "Unexpected hash length: " ++ String.ofList (Decimal.ofNat (2 * d.digest.length))
          else "Invalid byte count: " ++ String.ofList (Decimal.ofInt d.byteCount))) := by
  have hline := read_line allowed h
  rw [Sha256.digestSize] at hline
  refine ⟨String.ofList (line d), if_pos h, ?_⟩
  by_cases hlength : d.digest.length = 32
  · rw [if_pos hlength] at hline
    by_cases hcount : 0 ≤ d.byteCount
    · rw [if_pos hcount] at hline
      have hgood : d.digest.length = 32 ∧ 0 ≤ d.byteCount := ⟨hlength, hcount⟩
      exact ⟨⟨fun _ => hgood, fun _ => hline⟩, fun hbad => absurd hgood hbad⟩
    · rw [if_neg hcount] at hline
      refine ⟨⟨fun hread => ?_, fun hgood => absurd hgood.2 hcount⟩, fun _ => ⟨_, hline, rfl, ?_⟩⟩
      · rw [hline] at hread
        cases hread
      · rw [if_neg (not_not_intro hlength)]
        rfl
  · rw [if_neg hlength] at hline
    refine ⟨⟨fun hread => ?_, fun hgood => absurd hgood.1 hlength⟩, fun _ => ⟨_, hline, rfl, ?_⟩⟩
    · rw [hline] at hread
      cases hread
    · rw [if_pos hlength]
      rfl

/-- A digest of thirty-two zero bytes that were made from none. -/
theorem read_format_zeros :
    ∃ line, format ⟨List.replicate 32 0, 0⟩ = .ok line ∧
      read .standard line = .ok ⟨List.replicate 32 0, 0⟩ := by
  have hwritable : Decimal.isWritable 0 = true := by
    simp [Decimal.isWritable, Decimal.digitCount, Decimal.ofNat, Decimal.maxDigits]
  obtain ⟨line, hline, hread, -⟩ := read_format .standard (d := ⟨List.replicate 32 0, 0⟩) hwritable
  exact ⟨line, hline, hread.mpr ⟨by decide, by decide⟩⟩

end Record

end DigestRecord
