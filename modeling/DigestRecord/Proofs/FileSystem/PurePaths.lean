import DigestRecord.Proofs.FileSystem.NormalForm
import DigestRecord.Proofs.Hashing.Protocol

/-!
# Paths as objects

A path may come as a text, or as an object that was made from one. The object holds the normal form of the
text (`PurePath`), and this is what is opened, logged and reported. So a file is opened by another text
than the one that was given, and it has to be the same file.

It is, as long as the text leads to a file at all. Leaving out an idle segment takes away one lookup in a
directory and changes nothing else, at any place of the path and whatever links come after it
(`Leads.thinned`). The converse fails: what is left out may have been what kept a path from leading to a
file, as a slash after the name of a file does.

## Main results

* `Leads.thinned` — idle segments make no difference to where a path leads
* `leadsToFile_normalize` — a path and its normal form lead to the same file
* `hashFile_purePath` — what hashing comes to for a text and for the object made from it
-/

namespace DigestRecord

/-! ## Leaving out idle segments -/

namespace FileSystem

/-- Some segments are left out of others, all of them idle. -/
inductive Thinned : List Name → List Name → Prop
  | nil : Thinned [] []
  | keep {s : Name} {fewer segments : List Name} (rest : Thinned fewer segments) :
      Thinned (s :: fewer) (s :: segments)
  | leave {s : Name} {fewer segments : List Name} (idle : s = [] ∨ s = ['.'])
      (rest : Thinned fewer segments) : Thinned fewer (s :: segments)

namespace Thinned

theorem append_left {fewer segments : List Name} (front : List Name) (h : Thinned fewer segments) :
    Thinned (front ++ fewer) (front ++ segments) := by
  induction front with
  | nil => exact h
  | cons s front ih => exact .keep ih

theorem filter (segments : List Name) : Thinned (segments.filter fun s => !Path.isIdle s) segments := by
  induction segments with
  | nil => exact .nil
  | cons s segments ih =>
    by_cases hidle : Path.isIdle s = true
    · rw [List.filter_cons_of_neg (by simp [hidle])]
      exact .leave (Path.isIdle_iff.mp hidle) ih
    · rw [List.filter_cons_of_pos (by simp [hidle])]
      exact .keep ih

theorem replicate_append {few many : Nat} (hle : few ≤ many) {fewer segments : List Name}
    (h : Thinned fewer segments) :
    Thinned (List.replicate few [] ++ fewer) (List.replicate many [] ++ segments) := by
  obtain ⟨extra, rfl⟩ := Nat.exists_eq_add_of_le' hle
  rw [List.replicate_add, List.append_assoc]
  induction extra with
  | zero => exact h.append_left _
  | succ extra ih => exact .leave (.inl rfl) (ih (Nat.le_add_left _ _))

end Thinned

variable {root : Node} {place last : Location} {segments fewer : List Name} {links : Nat}

/-- **Idle segments make no difference to where a path leads.** -/
theorem Leads.thinned (h : Leads root place segments links last) (hthinned : Thinned fewer segments) :
    Leads root place fewer links last := by
  induction h generalizing fewer with
  | arrived =>
    cases hthinned
    exact .arrived
  | stay directory idle _ ih =>
    cases hthinned with
    | keep hrest => exact .stay directory idle (ih hrest)
    | leave _ hrest => exact ih hrest
  | up directory _ ih =>
    cases hthinned with
    | keep hrest => exact .up directory (ih hrest)
    | leave idle _ => exact absurd idle (by decide)
  | down directory name found notLink _ ih =>
    cases hthinned with
    | keep hrest => exact .down directory name found notLink (ih hrest)
    | leave idle _ => exact absurd idle (not_or.mpr ⟨name.ne_nil, name.ne_dot⟩)
  | follow directory name found _ ih =>
    cases hthinned with
    | keep hrest => exact .follow directory name found (ih (hrest.append_left _))
    | leave idle _ => exact absurd idle (not_or.mpr ⟨name.ne_nil, name.ne_dot⟩)

/-- A path without names leads to the directory that it starts in. -/
theorem Leads.directory_of_idle (h : Leads root place segments links last)
    (hidle : segments.filter (fun s => !Path.isIdle s) = []) (hne : segments ≠ []) :
    ∃ entries, root.at? last = some (.directory entries) := by
  have hthinned := Thinned.filter segments
  rw [hidle] at hthinned
  cases h.thinned hthinned
  cases h with
  | arrived => exact absurd rfl hne
  | stay directory _ _ | up directory _ | down directory _ _ _ _ => exact ⟨_, directory⟩

variable {fs : FileSystem} {path : List Char} {bytes : List UInt8}

/-- A path to a file goes through a name. -/
theorem LeadsToFile.names_ne_nil (h : fs.LeadsToFile path bytes) : Path.names path ≠ [] := by
  obtain ⟨links, -, last, hleads, hfile⟩ := h.leads
  intro hnone
  rw [Path.names_eq_filter] at hnone
  rw [← Path.segments_eq_splitOn] at hleads
  obtain ⟨entries, hdirectory⟩ := hleads.directory_of_idle hnone (Path.segments_ne_nil path)
  rw [hdirectory] at hfile
  cases hfile

theorem thinned_normalize (h : Path.names path ≠ []) :
    Thinned (Path.segments (Path.normalize path)) (Path.segments path) := by
  obtain ⟨rest, -, hpath⟩ := Path.exists_eq_slashes_append path
  have hnames : Path.names path = Path.names rest := by
    conv_lhs => rw [hpath, Path.names_slashes_append]
  have hjoin : Path.segments (Path.join (Path.names path)) = Path.names path :=
    Path.segments_join h fun s hs => (Path.isName_of_mem_names hs).2.2
  rw [Path.normalize_eq (.inr h), Path.segments_slashes_append, hjoin, hnames, Path.names_eq_filter]
  conv_rhs => rw [hpath, Path.segments_slashes_append]
  exact .replicate_append (Path.keptSlashes_le_leadingSlashes path) (.filter _)

/-- **A path and its normal form lead to the same file.** -/
theorem leadsToFile_normalize (h : fs.LeadsToFile path bytes) :
    fs.LeadsToFile (Path.normalize path) bytes := by
  have hnames := h.names_ne_nil
  have hsublist := Path.normalize_sublist hnames
  have hne : Path.normalize path ≠ [] := by
    intro hnil
    have hkept := (Path.isNormalFormOf_iff.mpr rfl : Path.IsNormalFormOf _ path).names_eq
    rw [hnil] at hkept
    exact hnames hkept.symm
  obtain ⟨links, hlinks, last, hleads, hfile⟩ := h.leads
  refine ⟨hne, fun hnul => h.no_nul (hsublist.subset hnul),
    (Path.byteSize_le_of_sublist hsublist).trans h.short, links, hlinks, last, ?_, hfile⟩
  rw [← Path.segments_eq_splitOn] at hleads ⊢
  simp only [Path.head?_normalize]
  exact hleads.thinned (thinned_normalize hnames)

end FileSystem

/-! ## Pure paths -/

/-- A path as an object: a text in normal form. -/
@[ext]
structure PurePath where
  text : String
  isNormal : Path.IsNormal text.toList

namespace PurePath

/-- The object that is made from a text. -/
def of (path : String) : PurePath where
  text := String.ofList (Path.normalize path.toList)
  isNormal := by
    rw [String.toList_ofList]
    exact Path.isNormal_normalize _

@[simp] theorem toList_text_of (path : String) :
    (of path).text.toList = Path.normalize path.toList := String.toList_ofList

/-- **What was an object already stays the same.** -/
@[simp] theorem of_text (p : PurePath) : of p.text = p := by
  refine PurePath.ext (String.toList_inj.mp ?_)
  rw [toList_text_of, Path.normalize_of_isNormal p.isNormal]

end PurePath

namespace FileSystem

variable {fs : FileSystem}

/-- Hashes the file that a path as an object leads to. Its text is opened, logged and reported. -/
def hashPure (fs : FileSystem) (verbose : Bool) (p : PurePath) : Report := fs.hashFile verbose p.text

/-- A file digest does not depend on the text that led to the file. -/
theorem result_hashFile_of_leadsToFile {verbose : Bool} {path other : String} {d : FileDigest}
    (hsame : ∀ bytes, fs.LeadsToFile path.toList bytes → fs.LeadsToFile other.toList bytes)
    (h : (fs.hashFile verbose path).result = .ok d) : (fs.hashFile verbose other).result = .ok d := by
  cases hread : fs.readFile path.toList with
  | error e =>
    rw [result_hashFile_of_openError hread] at h
    cases h
  | ok bytes =>
    have hother := readFile_eq_ok_iff.mpr (hsame bytes (readFile_eq_ok_iff.mp hread))
    rw [hashFile, source_of_readFile hread, result_hashFile_eq_ok_iff] at h
    rw [hashFile, source_of_readFile hother, result_hashFile_eq_ok_iff]
    exact h

/-- The file is opened by the path that was given. -/
theorem head?_events_hashFile (verbose : Bool) (path : String) :
    (fs.hashFile verbose path).events.head? = some (.opening path) := by
  rw [hashFile, DigestRecord.hashFile]
  split
  · rw [events_refuse]
    rfl
  · rw [events_closeAfter]
    rfl

/-- What is reported names the path that was given. -/
theorem path_of_reported {verbose : Bool} {path : String} {e : HashError}
    (h : (fs.hashFile verbose path).result = .error (.reported e)) : e.path = path := by
  cases hread : fs.readFile path.toList with
  | error openError =>
    rw [result_hashFile_of_openError hread, Step.error_eq] at h
    cases h
    rfl
  | ok bytes =>
    rw [result_hashFile_of_readFile hread, announce] at h
    split at h <;> cases h

/-- **A path may come as a text or as an object.** Where the text leads to a file, the object made from it
gives the same file digest, though the file is opened by another text: the normal form of the first one. An
object made from the text of an object is the same again. So an object and its own text give the same
result with the same events and the same log, and what they report names that text. -/
theorem hashFile_purePath (fs : FileSystem) (verbose : Bool) (path : String) :
    let p := PurePath.of path
    (∀ d, (fs.hashFile verbose path).result = .ok d → (fs.hashPure verbose p).result = .ok d) ∧
      (fs.hashPure verbose p).events.head? = some (.opening p.text) ∧
      Path.IsNormalFormOf p.text.toList path.toList ∧ PurePath.of p.text = p ∧
      fs.hashPure verbose p = fs.hashFile verbose p.text ∧
      ∀ e, (fs.hashPure verbose p).result = .error (.reported e) → e.path = p.text := by
  intro p
  have htext : p.text.toList = Path.normalize path.toList := PurePath.toList_text_of path
  refine ⟨fun d h => ?_, head?_events_hashFile verbose p.text, Path.isNormalFormOf_iff.mpr htext,
    PurePath.of_text p, rfl, fun e h => ?_⟩
  · refine result_hashFile_of_leadsToFile (fun bytes hleads => ?_) h
    rw [htext]
    exact leadsToFile_normalize hleads
  · exact path_of_reported h

/-- A file behind a link, by a path that is not in normal form. The object made from it has another text
and gives the same. With a slash after the name of the file, only the object gives anything. -/
theorem hashFile_purePath_through_link :
    let fs : FileSystem := ⟨.directory [
      ("w".toList, .directory [("l".toList, .link "..//d".toList)]),
      ("d".toList, .directory [("f".toList, .file [97])])], ["w".toList]⟩
    let d : FileDigest := ⟨Sha256.digest [97], 1⟩
    (fs.hashFile false "./l//f").result = .ok d ∧ (PurePath.of "./l//f").text = "l/f" ∧
      (fs.hashPure false (PurePath.of "./l//f")).result = .ok d ∧
      (∀ d, (fs.hashFile false "l/f/").result ≠ .ok d) ∧
      (fs.hashPure false (PurePath.of "l/f/")).result = .ok d := by
  intro fs d
  have hread : fs.readFile "./l//f".toList = .ok [97] := rfl
  have hslash : fs.readFile "l/f/".toList = .error .notADirectory := rfl
  have hresult : (fs.hashFile false "./l//f").result = .ok d := result_hashFile_of_readFile hread false
  have htext : (PurePath.of "./l//f").text = "l/f" := by decide
  have hother : PurePath.of "l/f/" = PurePath.of "./l//f" := by
    refine PurePath.ext ?_
    decide
  have hpure := (hashFile_purePath fs false "./l//f").1 d hresult
  refine ⟨hresult, htext, hpure, fun d hd => ?_, ?_⟩
  · rw [result_hashFile_of_openError hslash] at hd
    cases hd
  · rw [hother]
    exact hpure

end FileSystem

end DigestRecord
