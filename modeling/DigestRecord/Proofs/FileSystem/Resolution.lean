import DigestRecord.Proofs.FileSystem.Contents

/-!
# The rules of following a path

Where a path leads, as a relation: `Leads root place segments links last` says that from one place the
segments lead to another, and that this takes so many links. There is one rule for each thing that a
segment can be, in the order of the segments. There is no search in it and nothing that gives up; the
bound on the links is put on top.

Every rule asks for a directory to take the next segment from, also for an idle segment. This is what
keeps a path with a slash at its end from leading to a file. The rule for links puts the target in front of
what is left, so that links within targets and links to links need no rules of their own.

The search and the rules take their steps in a different way. The search goes up to the next link in one
call and starts anew from there, so in the one direction the proof follows its two levels, and in the other
one the derivation.

## Main results

* `resolve_eq_ok_present_iff` — the search finds the places that the rules lead to, within its bound
* `readFile_eq_ok_iff` — a path has content if and only if it leads to a file
* `hashFile_leads` — what hashing comes to, at every path of every tree
-/

namespace DigestRecord

namespace FileSystem

/-! ## The rules -/

/-- A segment that has to be looked up, and that is short enough for it. -/
structure IsEntryName (s : Name) : Prop where
  ne_nil : s ≠ []
  ne_dot : s ≠ ['.']
  ne_dots : s ≠ ['.', '.']
  short : Path.byteSize s ≤ 255

/-- From a place, some segments lead through a number of links to a place. -/
inductive Leads (root : Node) : Location → List Name → Nat → Location → Prop
  | arrived {place : Location} : Leads root place [] 0 place
  | stay {place last : Location} {s : Name} {rest : List Name} {links : Nat}
      {entries : Entries} (directory : root.at? place = some (.directory entries))
      (idle : s = [] ∨ s = ['.']) (onward : Leads root place rest links last) :
      Leads root place (s :: rest) links last
  | up {place last : Location} {rest : List Name} {links : Nat} {entries : Entries}
      (directory : root.at? place = some (.directory entries))
      (onward : Leads root place.dropLast rest links last) :
      Leads root place (['.', '.'] :: rest) links last
  | down {place last : Location} {s : Name} {rest : List Name} {links : Nat} {entries : Entries}
      {node : Node} (directory : root.at? place = some (.directory entries)) (name : IsEntryName s)
      (found : entries.lookup s = some node) (notLink : ∀ target, node ≠ .link target)
      (onward : Leads root (place ++ [s]) rest links last) : Leads root place (s :: rest) links last
  | follow {place last : Location} {s : Name} {rest : List Name} {links : Nat} {entries : Entries}
      {target : List Char} (directory : root.at? place = some (.directory entries))
      (name : IsEntryName s) (found : entries.lookup s = some (.link target))
      (onward : Leads root (if target.head? = some '/' then [] else place)
        (target.splitOn '/' ++ rest) links last) :
      Leads root place (s :: rest) (links + 1) last

/-- A path leads to a file with some content: it is a path at all, and from the root or the working
directory it leads there through at most forty links. -/
structure LeadsToFile (fs : FileSystem) (path : List Char) (bytes : List UInt8) : Prop where
  ne_nil : path ≠ []
  no_nul : '\x00' ∉ path
  short : Path.byteSize path ≤ 4095
  leads : ∃ links ≤ 40, ∃ last,
    Leads fs.root (if path.head? = some '/' then [] else fs.workingDirectory) (path.splitOn '/')
      links last ∧ fs.root.at? last = some (.file bytes)

end FileSystem

/-! ## Segments -/

namespace Path

theorem segments_eq_splitOn (path : List Char) : segments path = path.splitOn '/' := by
  induction path with
  | nil => rfl
  | cons c cs ih =>
    rw [segments, List.splitOn, List.splitOnP_cons_eq_if_modifyHead]
    by_cases h : c = '/'
    · simp [h, ih, List.splitOn]
    · obtain ⟨s, ss, hs⟩ := List.exists_cons_of_ne_nil (segments_ne_nil cs)
      have hsplit : cs.splitOnP (· == '/') = s :: ss := by
        rw [← hs, ih, List.splitOn]
      simp [h, hs, hsplit]

theorem isIdle_iff {s : Name} : isIdle s = true ↔ s = [] ∨ s = ['.'] := by
  simp [isIdle]

theorem isParent_iff {s : Name} : isParent s = true ↔ s = ['.', '.'] := beq_iff_eq

theorem isAbsolute_iff {path : List Char} : isAbsolute path = true ↔ path.head? = some '/' :=
  beq_iff_eq

end Path

namespace FileSystem

theorem startOf_eq (path : List Char) (place : Location) :
    startOf path place = if path.head? = some '/' then [] else place := by
  simp only [startOf, Path.isAbsolute_iff]

variable {root : Node} {place last : Location} {s : Name} {rest : List Name} {entries : Entries}

theorem isEntryName_iff : IsEntryName s ↔
    ¬ Path.isIdle s = true ∧ ¬ Path.isParent s = true ∧ ¬ maxNameBytes < Path.byteSize s := by
  rw [Path.isIdle_iff, Path.isParent_iff, not_or, not_lt]
  exact ⟨fun h => ⟨⟨h.ne_nil, h.ne_dot⟩, h.ne_dots, h.short⟩,
    fun ⟨⟨hnil, hdot⟩, hdots, hshort⟩ => ⟨hnil, hdot, hdots, hshort⟩⟩

/-! ## The search up to the next link -/

section

variable (directory : root.at? place = some (.directory entries))

include directory

theorem advance_of_idle (idle : s = [] ∨ s = ['.']) :
    advance root place (s :: rest) = advance root place rest := by
  rw [advance, directory]
  exact if_pos (Path.isIdle_iff.mpr idle)

theorem advance_of_parent :
    advance root place (['.', '.'] :: rest) = advance root place.dropLast rest := by
  rw [advance, directory]
  rfl

theorem advance_of_node (name : IsEntryName s) {node : Node} (found : entries.lookup s = some node)
    (notLink : ∀ target, node ≠ .link target) :
    advance root place (s :: rest) = advance root (place ++ [s]) rest := by
  obtain ⟨hidle, hparent, hshort⟩ := isEntryName_iff.mp name
  rw [advance, directory]
  simp only [hidle, hparent, hshort, found]
  cases node with
  | link target => exact absurd rfl (notLink target)
  | file bytes => rfl
  | directory inner => rfl

theorem advance_of_link (name : IsEntryName s) {target : List Char}
    (found : entries.lookup s = some (.link target)) :
    advance root place (s :: rest) = .ok (.link place target rest) := by
  obtain ⟨hidle, hparent, hshort⟩ := isEntryName_iff.mp name
  rw [advance, directory]
  simp [hidle, hparent, hshort, found]

end

/-- Where the search arrives without a link, there the rules lead without one. -/
theorem leads_of_arrived {segments : List Name}
    (h : advance root place segments = .ok (.arrived last)) : Leads root place segments 0 last := by
  fun_induction advance root place segments with
  | case1 =>
    cases h
    exact .arrived
  | case2 place s rest entries directory idle ih =>
    exact .stay directory (Path.isIdle_iff.mp idle) (ih h)
  | case3 place s rest entries directory _ parent ih =>
    obtain rfl := Path.isParent_iff.mp parent
    exact .up directory (ih h)
  | case7 place s rest entries directory idle parent short node notLink found ih =>
    have name : IsEntryName s := isEntryName_iff.mpr ⟨idle, parent, short⟩
    exact .down directory name found notLink (ih h)
  | case4 | case5 | case6 | case8 => cases h

/-- Where the rules lead from the link at which the search stops, there they lead from the start as well,
through one link more. -/
theorem leads_of_link {segments onward : List Name} {above : Location} {target : List Char}
    (h : advance root place segments = .ok (.link above target onward)) {links : Nat}
    (hleads : Leads root (startOf target above) (Path.segments target ++ onward) links last) :
    Leads root place segments (links + 1) last := by
  fun_induction advance root place segments with
  | case2 place s rest entries directory idle ih =>
    exact .stay directory (Path.isIdle_iff.mp idle) (ih h)
  | case3 place s rest entries directory _ parent ih =>
    obtain rfl := Path.isParent_iff.mp parent
    exact .up directory (ih h)
  | case6 place s rest entries directory idle parent short target found =>
    cases h
    have name : IsEntryName s := isEntryName_iff.mpr ⟨idle, parent, short⟩
    rw [startOf_eq, Path.segments_eq_splitOn] at hleads
    exact .follow directory name found hleads
  | case7 place s rest entries directory idle parent short node notLink found ih =>
    have name : IsEntryName s := isEntryName_iff.mpr ⟨idle, parent, short⟩
    exact .down directory name found notLink (ih h)
  | case1 | case4 | case5 | case8 => cases h

/-! ## The whole search -/

theorem resolve_congr {links : Nat} {place' : Location} {segments segments' : List Name}
    (h : advance root place segments = advance root place' segments') :
    resolve root links place segments = resolve root links place' segments' := by
  rw [resolve.eq_def, resolve.eq_def root links place', h]

theorem exists_leads_of_resolve {links : Nat} {segments : List Name}
    (h : resolve root links place segments = .ok (.present last)) :
    ∃ n ≤ links, Leads root place segments n last := by
  fun_induction resolve root links place segments with
  | case2 links place segments last' hadvance =>
    cases h
    exact ⟨0, Nat.zero_le _, leads_of_arrived hadvance⟩
  | case5 place segments above target onward hadvance links ih =>
    obtain ⟨n, hn, hleads⟩ := ih h
    exact ⟨n + 1, Nat.succ_le_succ hn, leads_of_link hadvance hleads⟩
  | case1 | case3 | case4 => cases h

theorem Leads.resolve_eq {segments : List Name} {n : Nat} (h : Leads root place segments n last)
    {links : Nat} (hn : n ≤ links) : resolve root links place segments = .ok (.present last) := by
  induction h generalizing links with
  | arrived =>
    rw [resolve]
    rfl
  | stay directory idle _ ih =>
    rw [resolve_congr (advance_of_idle directory idle)]
    exact ih hn
  | up directory _ ih =>
    rw [resolve_congr (advance_of_parent directory)]
    exact ih hn
  | down directory name found notLink _ ih =>
    rw [resolve_congr (advance_of_node directory name found notLink)]
    exact ih hn
  | follow directory name found _ ih =>
    obtain ⟨links, rfl⟩ := Nat.exists_eq_add_one_of_ne_zero (Nat.ne_zero_of_lt hn)
    rw [resolve, advance_of_link directory name found]
    simp only [startOf_eq, Path.segments_eq_splitOn]
    exact ih (Nat.le_of_succ_le_succ hn)

/-- **The search finds the places that the rules lead to**, through as many links as it may follow. -/
theorem resolve_eq_ok_present_iff {links : Nat} {segments : List Name} :
    resolve root links place segments = .ok (.present last) ↔
      ∃ n ≤ links, Leads root place segments n last :=
  ⟨exists_leads_of_resolve, fun ⟨_, hn, h⟩ => h.resolve_eq hn⟩

variable {fs : FileSystem} {bytes : List UInt8}

theorem destination_eq_ok_iff {path : List Char} {found : Destination} :
    fs.destination path = .ok found ↔ '\x00' ∉ path ∧ path ≠ [] ∧ Path.byteSize path ≤ maxPathBytes ∧
      resolve fs.root maxLinks (startOf path fs.workingDirectory) (Path.segments path) = .ok found := by
  rw [destination, ← not_lt]
  by_cases hnul : '\x00' ∈ path
  · simp [hnul]
  · by_cases hempty : path = []
    · simp [hempty]
    · by_cases hlong : maxPathBytes < Path.byteSize path <;> simp [hnul, hempty, hlong]

theorem readFile_eq_ok_iff_destination {path : List Char} : fs.readFile path = .ok bytes ↔
    ∃ last, fs.destination path = .ok (.present last) ∧ fs.root.at? last = some (.file bytes) := by
  rw [readFile.eq_def]
  cases hfound : fs.destination path with
  | error e => simp
  | ok found =>
    cases found with
    | missing directory name rest => simp
    | present place =>
      rcases hnode : fs.root.at? place with _ | node
      · simp [hnode]
      · cases node <;> simp [hnode]

/-- **A path has content if and only if it leads to a file.** -/
theorem readFile_eq_ok_iff {path : List Char} :
    fs.readFile path = .ok bytes ↔ fs.LeadsToFile path bytes := by
  simp only [readFile_eq_ok_iff_destination, destination_eq_ok_iff, resolve_eq_ok_present_iff,
    startOf_eq, Path.segments_eq_splitOn]
  constructor
  · rintro ⟨last, ⟨hnul, hempty, hshort, links, hlinks, hleads⟩, hfile⟩
    exact ⟨hempty, hnul, hshort, links, hlinks, last, hleads, hfile⟩
  · rintro ⟨hempty, hnul, hshort, links, hlinks, last, hleads, hfile⟩
    exact ⟨last, ⟨hnul, hempty, hshort, links, hlinks, hleads⟩, hfile⟩

/-! ## Hashing at a path -/

theorem advance_ne_embeddedNul (root : Node) (place : Location) (segments : List Name) :
    advance root place segments ≠ .error .embeddedNul := by
  fun_induction advance root place segments with
  | case2 | case3 | case7 => assumption
  | case1 | case4 | case5 | case6 | case8 => simp

theorem resolve_ne_embeddedNul (root : Node) (links : Nat) (place : Location) (segments : List Name) :
    resolve root links place segments ≠ .error .embeddedNul := by
  fun_induction resolve root links place segments with
  | case1 _ _ _ e hadvance =>
    rintro ⟨⟩
    exact advance_ne_embeddedNul _ _ _ hadvance
  | case2 | case3 | case4 => simp
  | case5 => assumption

/-- Only a path that holds a NUL is refused for one, and it is refused for nothing else. -/
theorem eq_embeddedNul_iff {path : List Char} {e : OpenError} (h : fs.readFile path = .error e) :
    e = .embeddedNul ↔ '\x00' ∈ path := by
  rw [readFile.eq_def, destination] at h
  by_cases hnul : '\x00' ∈ path
  · rw [if_pos (List.contains_iff_mem.mpr hnul)] at h
    cases h
    exact iff_of_true rfl hnul
  · refine iff_of_false ?_ hnul
    rintro rfl
    rw [if_neg fun hcontains => hnul (List.contains_iff_mem.mp hcontains)] at h
    split at h
    · rename_i hdestination
      cases h
      split at hdestination
      · cases hdestination
      · split at hdestination
        · cases hdestination
        · exact resolve_ne_embeddedNul _ _ _ _ hdestination
    · cases h
    · split at h <;> cases h

theorem isSystem_fault (path : String) (e : OpenError) :
    (e.fault path).isSystem = false ↔ e = .embeddedNul := by
  cases e <;> simp [OpenError.fault, Fault.concerning, Fault.isSystem]

/-- **At every path of every tree** hashing yields a file digest or a failure of the file. The file digest is
that of the bytes of the file that the path leads to, and there is one if and only if it leads to a file,
whatever its size. The failure comes with the fault of opening, in the words of that fault. The system
has reported it, unless the path holds a NUL and is no path.

Only a verbose run has a bound on the size, as it puts the size into words. -/
theorem hashFile_leads (fs : FileSystem) (verbose : Bool) (path : String)
    (hsaid : verbose = true → ∀ bytes, fs.LeadsToFile path.toList bytes →
      Decimal.isWritable bytes.length = true) :
    let result := (fs.hashFile verbose path).result
    (∀ d, result = .ok d ↔
        ∃ bytes, fs.LeadsToFile path.toList bytes ∧ d = ⟨Sha256.digest bytes, bytes.length⟩) ∧
      ((∃ bytes, fs.LeadsToFile path.toList bytes) ∨
        ∃ f, result = .error (.reported ⟨.io, path, f.text, some f⟩) ∧
          (f.isSystem = false ↔ '\x00' ∈ path.toList)) := by
  intro result
  cases hread : fs.readFile path.toList with
  | ok bytes =>
    have hleads : fs.LeadsToFile path.toList bytes := readFile_eq_ok_iff.mp hread
    have hunique : ∀ other, fs.LeadsToFile path.toList other → other = bytes := fun other hother =>
      Except.ok.inj ((readFile_eq_ok_iff.mpr hother).symm.trans hread)
    have hresult : result = .ok ⟨Sha256.digest bytes, bytes.length⟩ := by
      refine (result_hashFile_of_readFile hread verbose).trans ?_
      cases verbose with
      | false => rfl
      | true =>
        have hnotice : (Notice.hashed path bytes.length).isWritable = true := hsaid rfl bytes hleads
        rw [announce_of_isWritable hnotice]
    refine ⟨fun d => ?_, .inl ⟨bytes, hleads⟩⟩
    rw [hresult]
    constructor
    · rintro ⟨⟩
      exact ⟨bytes, hleads, rfl⟩
    · rintro ⟨other, hother, rfl⟩
      rw [hunique other hother]
  | error e =>
    have hnone : ∀ bytes, ¬ fs.LeadsToFile path.toList bytes := fun bytes hleads => by
      rw [readFile_eq_ok_iff.mpr hleads] at hread
      cases hread
    have hresult : result = .error (.reported ⟨.io, path, (e.fault path).text, some (e.fault path)⟩) := by
      refine (result_hashFile_of_openError hread verbose).trans ?_
      rw [Step.error_eq]
      rfl
    refine ⟨fun d => ?_, .inr ⟨e.fault path, hresult, ?_⟩⟩
    · rw [hresult]
      exact ⟨fun h => (by cases h), fun ⟨bytes, hleads, _⟩ => absurd hleads (hnone bytes)⟩
    · rw [isSystem_fault, eq_embeddedNul_iff hread]

/-- A link to a file in another directory, in a verbose run, and the same path with a slash at its end. -/
theorem hashFile_leads_through_link :
    let fs : FileSystem := ⟨.directory [
      ("w".toList, .directory [("l".toList, .link "../d/./f".toList)]),
      ("d".toList, .directory [("f".toList, .file [97])])], ["w".toList]⟩
    fs.LeadsToFile "l".toList [97] ∧
      (fs.hashFile true "l").result = .ok ⟨Sha256.digest [97], 1⟩ ∧
      ∃ f, (fs.hashFile true "l/").result = .error (.reported ⟨.io, "l/", f.text, some f⟩) := by
  intro fs
  have hread : fs.readFile "l".toList = .ok [97] := rfl
  have hslash : fs.readFile "l/".toList = .error .notADirectory := rfl
  have hleads : fs.LeadsToFile "l".toList [97] := readFile_eq_ok_iff.mp hread
  have hnone : ∀ bytes, ¬ fs.LeadsToFile "l/".toList bytes := by
    intro bytes h
    cases hslash.symm.trans (readFile_eq_ok_iff.mpr h)
  have hsaid : ∀ bytes, fs.LeadsToFile "l".toList bytes → Decimal.isWritable bytes.length = true := by
    intro bytes h
    cases hread.symm.trans (readFile_eq_ok_iff.mpr h)
    have hone : 1 < 10 ^ Decimal.maxDigits := Nat.one_lt_pow (by decide) (by decide)
    exact Decimal.isWritable_of_lt (by decide) (natCast_lt_pow hone)
  have hresult := (hashFile_leads fs true "l" fun _ => hsaid).1
  have hrefused := (hashFile_leads fs true "l/" fun _ bytes h => absurd h (hnone bytes)).2
  refine ⟨hleads, (hresult _).mpr ⟨[97], hleads, rfl⟩, ?_⟩
  obtain ⟨bytes, h⟩ | ⟨f, hf, -⟩ := hrefused
  · exact absurd h (hnone bytes)
  · exact ⟨f, hf⟩

end FileSystem

end DigestRecord
