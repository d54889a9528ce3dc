import DigestRecord.Proofs.FileSystem.Resolution

/-!
# The normal form of a path

A path in normal form is a dot alone, or names with single slashes between them and up to two slashes in
front (`IsNormal`). A path has one normal form with the same names and, as far as they count, the same
slashes in front (`IsNormalFormOf`): two of them are kept, and more than two are as good as one. That is
the one that `normalize` gives, so a path that is in normal form already stays as it is.

The slashes in front are what the proofs are cut along. They are taken off, the names are found in what
follows them, and both are put together again (`exists_eq_slashes_append`). The dot that stands for the empty
text is a case of its own everywhere.

## Main results

* `isNormalFormOf_iff` — the normal form of a path is what `normalize` gives
* `normalize_of_isNormal` — a path in normal form stays as it is
* `normalize_sublist` — leaving segments out leaves characters out and brings none in
-/

namespace DigestRecord

namespace Path

/-! ## What a normal form is -/

/-- The names that a path goes through: its segments but for the empty ones and the single dots. -/
def names (path : List Char) : List Name :=
  (path.splitOn '/').filter fun s => s ≠ [] ∧ s ≠ ['.']

/-- The number of slashes at the front of a path. -/
def leadingSlashes (path : List Char) : Nat := (path.takeWhile (· = '/')).length

/-- How many of the slashes at the front of a path its normal form keeps. Two stay two, and more are as
good as one. -/
def keptSlashes (path : List Char) : Nat :=
  if leadingSlashes path = 2 then 2 else min (leadingSlashes path) 1

/-- A path in normal form: a dot, or names with single slashes between them, after up to two slashes. -/
inductive IsNormal : List Char → Prop
  | dot : IsNormal ['.']
  | mk {slashes : Nat} {names : List Name} (slashes_le : slashes ≤ 2)
      (isName : ∀ s ∈ names, s ≠ [] ∧ s ≠ ['.'] ∧ '/' ∉ s) (nonempty : slashes ≠ 0 ∨ names ≠ []) :
      IsNormal (List.replicate slashes '/' ++ ['/'].intercalate names)

/-- A path is the normal form of another one: it is in normal form, goes through the same names, and has
the slashes in front that count. -/
structure IsNormalFormOf (normal path : List Char) : Prop where
  isNormal : IsNormal normal
  names_eq : names normal = names path
  leadingSlashes_eq : leadingSlashes normal = keptSlashes path

/-! ## Cutting and joining -/

theorem join_eq_intercalate (segments : List Name) : join segments = ['/'].intercalate segments := by
  induction segments using join.induct with
  | case1 => rfl
  | case2 s => rw [join, List.intercalate_singleton]
  | case3 s rest hrest ih =>
    have hne : rest ≠ [] := fun h => hrest h
    rw [join, ih, List.intercalate_cons_of_ne_nil hne, List.append_assoc, List.singleton_append]
    exact hrest

theorem join_segments (path : List Char) : join (segments path) = path := by
  rw [segments_eq_splitOn, join_eq_intercalate, List.intercalate_splitOn]

theorem segments_join {segments : List Name} (hne : segments ≠ []) (h : ∀ s ∈ segments, '/' ∉ s) :
    Path.segments (join segments) = segments := by
  rw [segments_eq_splitOn, join_eq_intercalate, List.splitOn_intercalate '/' h hne]

theorem slash_not_mem_of_mem_segments {path : List Char} : ∀ s ∈ segments path, '/' ∉ s := by
  induction path with
  | nil => simp
  | cons c path ih =>
    rw [segments]
    split
    · rw [List.forall_mem_cons]
      exact ⟨List.not_mem_nil, ih⟩
    · rename_i hc
      obtain ⟨s, rest, hs⟩ := List.exists_cons_of_ne_nil (segments_ne_nil path)
      rw [hs, List.forall_mem_cons] at ih
      rw [hs, List.forall_mem_cons, List.mem_cons, not_or]
      exact ⟨⟨Ne.symm hc, ih.1⟩, ih.2⟩

theorem join_sublist {fewer segments : List Name} (h : fewer.Sublist segments) :
    (join fewer).Sublist (join segments) := by
  rw [join_eq_intercalate, join_eq_intercalate]
  induction h with
  | slnil => exact List.Sublist.refl _
  | @cons fewer segments s h ih =>
    refine ih.trans ?_
    cases segments with
    | nil => exact List.nil_sublist _
    | cons t segments =>
      rw [List.intercalate_cons_cons]
      exact List.sublist_append_right _ _
  | @cons_cons fewer segments s h ih =>
    cases fewer with
    | nil =>
      cases segments with
      | nil => exact List.Sublist.refl _
      | cons t segments =>
        rw [List.intercalate_singleton, List.intercalate_cons_cons, List.append_assoc]
        exact List.sublist_append_left _ _
    | cons t fewer =>
      obtain ⟨u, rest, rfl⟩ := List.exists_cons_of_ne_nil (List.ne_nil_of_mem (h.subset List.mem_cons_self))
      rw [List.intercalate_cons_cons, List.intercalate_cons_cons]
      exact (List.Sublist.refl _).append ih

/-! ## Names and slashes -/

theorem names_eq_filter (path : List Char) : names path = (segments path).filter fun s => !isIdle s := by
  rw [names, segments_eq_splitOn]
  refine List.filter_congr fun s _ => ?_
  rw [Bool.eq_iff_iff, Bool.not_eq_true', ← Bool.not_eq_true, isIdle_iff, not_or, decide_eq_true_eq]

theorem isName_of_mem_names {path : List Char} {s : Name} (h : s ∈ names path) :
    s ≠ [] ∧ s ≠ ['.'] ∧ '/' ∉ s := by
  rw [names_eq_filter, List.mem_filter] at h
  have hslash := slash_not_mem_of_mem_segments s h.1
  simpa [isIdle, hslash] using h.2

theorem segments_slashes_append (slashes : Nat) (path : List Char) :
    segments (List.replicate slashes '/' ++ path) = List.replicate slashes [] ++ segments path := by
  induction slashes with
  | zero => rfl
  | succ slashes ih =>
    rw [List.replicate_succ, List.cons_append, segments, if_pos rfl, ih]
    rfl

theorem names_slashes_append (slashes : Nat) (path : List Char) :
    names (List.replicate slashes '/' ++ path) = names path := by
  rw [names_eq_filter, segments_slashes_append, List.filter_append, names_eq_filter]
  simp [isIdle]

theorem names_join {found : List Name} (h : ∀ s ∈ found, s ≠ [] ∧ s ≠ ['.'] ∧ '/' ∉ s) :
    names (join found) = found := by
  by_cases hne : found = []
  · subst hne
    rfl
  · rw [names_eq_filter, segments_join hne fun s hs => (h s hs).2.2, List.filter_eq_self]
    intro s hs
    simp [isIdle, (h s hs).1, (h s hs).2.1]

theorem head?_join_ne_slash {found : List Name} (h : ∀ s ∈ found, s ≠ [] ∧ s ≠ ['.'] ∧ '/' ∉ s) :
    (join found).head? ≠ some '/' := by
  cases found with
  | nil => simp [join]
  | cons s rest =>
    obtain ⟨hne, -, hslash⟩ := h s List.mem_cons_self
    obtain ⟨c, cs, rfl⟩ := List.exists_cons_of_ne_nil hne
    have hhead : (join ((c :: cs) :: rest)).head? = some c := by
      cases rest <;> simp [join]
    rw [hhead]
    rintro ⟨⟩
    exact hslash List.mem_cons_self

theorem leadingSlashes_slashes_append (slashes : Nat) {rest : List Char}
    (h : rest.head? ≠ some '/') : leadingSlashes (List.replicate slashes '/' ++ rest) = slashes := by
  have hrest : rest.takeWhile (· = '/') = [] := by
    cases rest with
    | nil => rfl
    | cons c rest =>
      refine List.takeWhile_cons_of_neg ?_
      simpa using h
  rw [leadingSlashes, List.takeWhile_append_of_pos (by simp), hrest, List.append_nil,
    List.length_replicate]

/-- Every path is some slashes and something that does not start with one. -/
theorem exists_eq_slashes_append (path : List Char) :
    ∃ rest : List Char, rest.head? ≠ some '/' ∧
      path = List.replicate (leadingSlashes path) '/' ++ rest := by
  refine ⟨path.dropWhile (· = '/'), ?_, ?_⟩
  · intro hhead
    have hnot := List.head?_dropWhile_not (· = '/') path
    rw [hhead] at hnot
    simp at hnot
  · have hfront : path.takeWhile (· = '/') = List.replicate (leadingSlashes path) '/' :=
      List.eq_replicate_iff.mpr ⟨rfl, fun c hc => by simpa using List.mem_takeWhile_imp hc⟩
    rw [← hfront, List.takeWhile_append_dropWhile]

/-! ## The normal form -/

theorem keptSlashes_le (path : List Char) : keptSlashes path ≤ 2 := by
  rw [keptSlashes]
  split <;> omega

theorem keptSlashes_le_leadingSlashes (path : List Char) :
    keptSlashes path ≤ leadingSlashes path := by
  rw [keptSlashes]
  split <;> omega

theorem keptSlashes_ne_zero_iff {path : List Char} :
    keptSlashes path ≠ 0 ↔ path.head? = some '/' := by
  have hcount : keptSlashes path ≠ 0 ↔ leadingSlashes path ≠ 0 := by
    rw [keptSlashes]
    split <;> omega
  rw [hcount]
  cases path with
  | nil => simp [leadingSlashes]
  | cons c path => by_cases hc : c = '/' <;> simp [leadingSlashes, hc]

theorem root_eq (path : List Char) : root path = List.replicate (keptSlashes path) '/' := by
  obtain ⟨rest, hrest, hpath⟩ := exists_eq_slashes_append path
  have hcases : rest = [] ∨ ∃ c cs, rest = c :: cs ∧ c ≠ '/' := by
    cases rest with
    | nil => exact .inl rfl
    | cons c cs => exact .inr ⟨c, cs, rfl, fun h => hrest (congrArg some h)⟩
  rw [keptSlashes]
  generalize leadingSlashes path = slashes at hpath
  subst hpath
  rcases slashes with _ | _ | _ | slashes <;> rcases hcases with rfl | ⟨c, cs, rfl, hc⟩ <;>
    simp [root, List.replicate_succ, *]

/-- The normal form, unless it is empty. -/
theorem normalize_eq {path : List Char} (h : keptSlashes path ≠ 0 ∨ names path ≠ []) :
    normalize path = List.replicate (keptSlashes path) '/' ++ join (names path) := by
  have hne : List.replicate (keptSlashes path) '/' ++ join (names path) ≠ [] := by
    intro hnil
    obtain ⟨hslashes, hjoin⟩ := List.append_eq_nil_iff.mp hnil
    have hnames : names path = [] := by
      rw [← names_join fun s hs => isName_of_mem_names hs, hjoin]
      rfl
    exact h.elim (fun h => h ((List.replicate_eq_nil_iff '/').mp hslashes)) fun h => h hnames
  rw [normalize, root_eq, ← names_eq_filter]
  exact if_neg fun hempty => hne (List.isEmpty_iff.mp hempty)

/-- The empty text does not stay empty. -/
theorem normalize_eq_dot {path : List Char} (hslashes : keptSlashes path = 0)
    (hnames : names path = []) : normalize path = ['.'] := by
  rw [normalize, root_eq, ← names_eq_filter, hslashes, hnames]
  rfl

/-- **The normal form of a path is what `normalize` gives.** -/
theorem isNormalFormOf_iff {normal path : List Char} :
    IsNormalFormOf normal path ↔ normal = normalize path := by
  have hisName : ∀ s ∈ names path, s ≠ [] ∧ s ≠ ['.'] ∧ '/' ∉ s := fun s hs => isName_of_mem_names hs
  constructor
  · rintro ⟨hnormal, hnames, hslashes⟩
    cases hnormal with
    | dot => exact (normalize_eq_dot hslashes.symm hnames.symm).symm
    | @mk slashes found _ isName nonempty =>
      rw [← join_eq_intercalate] at hnames hslashes ⊢
      rw [names_slashes_append, names_join isName] at hnames
      rw [leadingSlashes_slashes_append _ (head?_join_ne_slash isName)] at hslashes
      subst hnames hslashes
      exact (normalize_eq nonempty).symm
  · rintro rfl
    by_cases h : keptSlashes path ≠ 0 ∨ names path ≠ []
    · rw [normalize_eq h]
      refine ⟨?_, ?_, ?_⟩
      · rw [join_eq_intercalate]
        exact .mk (keptSlashes_le path) hisName h
      · rw [names_slashes_append, names_join hisName]
      · exact leadingSlashes_slashes_append _ (head?_join_ne_slash hisName)
    · rw [not_or, not_not, not_not] at h
      rw [normalize_eq_dot h.1 h.2]
      exact ⟨.dot, h.2.symm, h.1.symm⟩

theorem isNormal_normalize (path : List Char) : IsNormal (normalize path) :=
  (isNormalFormOf_iff.mpr rfl).isNormal

theorem IsNormal.isNormalFormOf_self {path : List Char} (h : IsNormal path) :
    IsNormalFormOf path path := by
  refine ⟨h, rfl, ?_⟩
  cases h with
  | dot => rfl
  | mk slashes_le isName nonempty =>
    rw [← join_eq_intercalate, keptSlashes,
      leadingSlashes_slashes_append _ (head?_join_ne_slash isName)]
    split <;> omega

/-- **A path in normal form stays as it is.** -/
theorem normalize_of_isNormal {path : List Char} (h : IsNormal path) : normalize path = path :=
  (isNormalFormOf_iff.mp h.isNormalFormOf_self).symm

/-! ## Leaving characters out -/

/-- **Leaving segments out leaves characters out**, and brings none in. -/
theorem normalize_sublist {path : List Char} (h : names path ≠ []) :
    (normalize path).Sublist path := by
  obtain ⟨rest, -, hpath⟩ := exists_eq_slashes_append path
  have hnames : names path = names rest := by
    conv_lhs => rw [hpath, names_slashes_append]
  have hslashes : (List.replicate (keptSlashes path) '/').Sublist
      (List.replicate (leadingSlashes path) '/') :=
    (List.replicate_sublist_replicate '/').mpr (keptSlashes_le_leadingSlashes path)
  have hrest : (join (names rest)).Sublist rest := by
    conv_rhs => rw [← join_segments rest]
    rw [names_eq_filter]
    exact join_sublist List.filter_sublist
  rw [normalize_eq (.inr h), hnames]
  conv_rhs => rw [hpath]
  exact hslashes.append hrest

theorem foldl_utf8Size (path : List Char) (size : Nat) :
    path.foldl (fun size c => size + c.utf8Size) size = size + byteSize path := by
  induction path generalizing size with
  | nil => rfl
  | cons c path ih => rw [List.foldl_cons, byteSize, List.foldl_cons, ih, ih, Nat.zero_add, Nat.add_assoc]

@[simp] theorem byteSize_cons (c : Char) (path : List Char) :
    byteSize (c :: path) = c.utf8Size + byteSize path := by
  rw [byteSize, List.foldl_cons, foldl_utf8Size, Nat.zero_add]

theorem byteSize_le_of_sublist {fewer path : List Char} (h : fewer.Sublist path) :
    byteSize fewer ≤ byteSize path := by
  induction h with
  | slnil => exact Nat.le_refl _
  | cons c _ ih =>
    rw [byteSize_cons]
    exact ih.trans (Nat.le_add_left _ _)
  | cons_cons c _ ih =>
    rw [byteSize_cons, byteSize_cons]
    exact Nat.add_le_add_left ih _

/-- The normal form starts at the root if and only if the path does. -/
theorem head?_normalize (path : List Char) :
    (normalize path).head? = some '/' ↔ path.head? = some '/' := by
  have hform : IsNormalFormOf (normalize path) path := isNormalFormOf_iff.mpr rfl
  have hself := hform.isNormal.isNormalFormOf_self
  rw [← keptSlashes_ne_zero_iff, ← keptSlashes_ne_zero_iff, ← hself.leadingSlashes_eq,
    hform.leadingSlashes_eq]

end Path

end DigestRecord
