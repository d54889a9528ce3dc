import DigestRecord.Proofs.FileSystem.Resolution
import DigestRecord.Proofs.Hashing.Chunks
import DigestRecord.Proofs.Json.Unambiguous
import DigestRecord.Proofs.Record.Lines
import DigestRecord.Proofs.Text.Folding

/-!
# Different file digests have different lines

A line holds a digest of any length and a count of either sign, one after the other and with no length
in front of them. Still the two can be told apart, also where the line would not be read: a line is JSON
whatever the digest and the count are, and the same JSON text never spells different members.

So lines may stand for file digests wherever these are compared. In particular files of different sizes
have different lines, even if their digests are the same.

## Main results

* `line_injective` — a line determines the digest and the count
* `format_eq_format_iff` — records are the same if and only if the file digests are
-/

namespace DigestRecord

/-- The count of a file that is hashed, with whatever primitive, is its size. -/
theorem byteCount_eq_of_leadsToFile {σ : Type} {engine : Engine σ} {fs : FileSystem} {path : String}
    {bytes : List UInt8} (h : fs.LeadsToFile path.toList bytes) {verbose : Bool} {d : FileDigest}
    (hresult : (hashFile verbose engine (fs.source path) path).result = .ok d) :
    d.byteCount = bytes.length := by
  rw [FileSystem.source_of_readFile (FileSystem.readFile_eq_ok_iff.mpr h)] at hresult
  obtain ⟨hrun, -, -⟩ := result_hashFile_eq_ok_iff.mp hresult
  exact hrun.finishes.total_eq (fills_ofBytes bytes)

namespace Record

/-! ## Lines -/

/-- The names in a line are different, so all its members are kept. -/
theorem ofMembers_lineMembers (d : FileDigest) :
    Json.Value.ofMembers (lineMembers d) = .object (lineMembers d) := rfl

theorem lineMembers_injective : Function.Injective lineMembers := by
  rintro ⟨digest, count⟩ ⟨digest', count'⟩ h
  simp only [lineMembers, List.cons.injEq, Prod.mk.injEq, Json.Value.string.injEq,
    Json.Value.int.injEq, true_and, and_true] at h
  obtain ⟨hhash, rfl⟩ := h
  have hencode := List.map_injective_iff.mpr CodePoint.ofChar_injective hhash
  rw [Hex.encode_injective hencode]

/-- **A line determines the digest and the count**, as it spells both under some limit. -/
theorem line_injective : Function.Injective line := by
  intro a b h
  have hspells : ∀ d : FileDigest, Json.Document (Json.Spells (Decimal.digitCount d.byteCount) 1)
      (line d) (.object (lineMembers d)) := by
    intro d
    obtain ⟨front, back, hfront, hobject, hback⟩ := document_line (Nat.le_refl _) 0
    exact ⟨front, back, hfront, ofMembers_lineMembers d ▸ hobject.spells, hback⟩
  have hvalue := (hspells a).unique (h ▸ hspells b)
  exact lineMembers_injective (Json.Value.object.inj hvalue)

/-! ## Records -/

theorem format_of_isWritable {d : FileDigest} (h : Decimal.isWritable d.byteCount = true) :
    format d = .ok (String.ofList (line d)) := if_pos h

theorem eq_of_format_eq {a b : FileDigest} (ha : Decimal.isWritable a.byteCount = true)
    (hb : Decimal.isWritable b.byteCount = true) (h : format a = format b) : a = b := by
  rw [format_of_isWritable ha, format_of_isWritable hb, Except.ok.injEq] at h
  exact line_injective (String.ofList_injective h)

/-- **Records are the same if and only if the file digests are.** The digests may be of any length and
the counts of either sign, as long as they can be written. If the two file digests are what hashing two
files comes to, be it with different primitives, then files of different sizes have different records. -/
theorem format_eq_format_iff {a b : FileDigest} (ha : Decimal.isWritable a.byteCount = true)
    (hb : Decimal.isWritable b.byteCount = true) :
    (∃ line, format a = .ok line) ∧ (∃ line, format b = .ok line) ∧
      (format a = format b ↔ a = b) ∧
      ∀ {σ τ : Type} (engine : Engine σ) (engine' : Engine τ) (fs fs' : FileSystem)
        (verbose verbose' : Bool) (path path' : String) (bytes bytes' : List UInt8),
        fs.LeadsToFile path.toList bytes → fs'.LeadsToFile path'.toList bytes' →
        (hashFile verbose engine (fs.source path) path).result = .ok a →
        (hashFile verbose' engine' (fs'.source path') path').result = .ok b →
        bytes.length ≠ bytes'.length → format a ≠ format b := by
  refine ⟨⟨_, format_of_isWritable ha⟩, ⟨_, format_of_isWritable hb⟩,
    ⟨eq_of_format_eq ha hb, congrArg format⟩, ?_⟩
  intro σ τ engine engine' fs fs' verbose verbose' path path' bytes bytes' hleads hleads' hresult
    hresult' hsize hsame
  obtain rfl := eq_of_format_eq ha hb hsame
  have hcount := byteCount_eq_of_leadsToFile hleads hresult
  have hcount' := byteCount_eq_of_leadsToFile hleads' hresult'
  exact hsize (Int.ofNat.inj (hcount.symm.trans hcount'))

/-- An empty file and one of a single byte, and two file digests that no file has. -/
theorem format_ne_format :
    let fs : FileSystem :=
      ⟨.directory [("e".toList, .file []), ("f".toList, .file [0])], []⟩
    (fs.hashFile false "e").result = .ok ⟨Sha256.digest [], 0⟩ ∧
      (fs.hashFile false "f").result = .ok ⟨Sha256.digest [0], 1⟩ ∧
      format ⟨Sha256.digest [], 0⟩ ≠ format ⟨Sha256.digest [0], 1⟩ ∧
      format ⟨[], -1⟩ ≠ format ⟨[255], -1⟩ := by
  intro fs
  have hwritable : ∀ n : Int, n = 0 ∨ n = 1 ∨ n = -1 → Decimal.isWritable n = true := by
    rintro n (rfl | rfl | rfl) <;>
      simp [Decimal.isWritable, Decimal.digitCount, Decimal.ofNat, Decimal.maxDigits]
  have hempty : fs.readFile "e".toList = .ok [] := rfl
  have hbyte : fs.readFile "f".toList = .ok [0] := rfl
  have hresult : (fs.hashFile false "e").result = .ok ⟨Sha256.digest [], 0⟩ :=
    FileSystem.result_hashFile_of_readFile hempty false
  have hresult' : (fs.hashFile false "f").result = .ok ⟨Sha256.digest [0], 1⟩ :=
    FileSystem.result_hashFile_of_readFile hbyte false
  obtain ⟨-, -, -, hsizes⟩ := format_eq_format_iff (a := ⟨Sha256.digest [], 0⟩)
    (b := ⟨Sha256.digest [0], 1⟩) (hwritable 0 (by decide)) (hwritable 1 (by decide))
  obtain ⟨-, -, hiff, -⟩ := format_eq_format_iff (a := ⟨[], -1⟩) (b := ⟨[255], -1⟩)
    (hwritable (-1) (by decide)) (hwritable (-1) (by decide))
  refine ⟨hresult, hresult', ?_, fun hsame => absurd (hiff.mp hsame) (by decide)⟩
  exact hsizes _ _ fs fs false false "e" "f" [] [0] (FileSystem.readFile_eq_ok_iff.mp hempty)
    (FileSystem.readFile_eq_ok_iff.mp hbyte) hresult hresult' (by decide)

end Record

end DigestRecord
