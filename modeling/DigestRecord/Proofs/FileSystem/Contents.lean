import DigestRecord.FileSystem.Source
import DigestRecord.Proofs.Hashing.FirstFault

/-!
# Files of a tree

A file of a tree reads soundly: its reads deliver its bytes, all of them and in order, as many at a
time as the buffer holds. So hashing it yields the digest of its content and the size of it. A path
that leads to no file cannot be opened, and this is reported as a failure of the file.

A verbose run has to put the size into words, which bounds it. A size within that bound makes the
counts fit, so that all that holds of runs over such counts holds over the files of a tree.

## Main results

* `Read.delivered_ofBytes` — the reads of a file deliver its bytes
* `countsFit_source` — the counts of the file at a path fit if its size can be written
* `result_hashFile_of_readFile`, `result_hashFile_of_openError` — what hashing comes to, at a path that
  leads to a file and at one that does not
-/

namespace DigestRecord

/-! ## Reads of some bytes -/

namespace Read

theorem isSound_delivered {bytes : List UInt8} (h : bytes.length ≤ bufferSize) :
    (delivered bytes (some bytes.length)).IsSound :=
  ⟨Int.natCast_nonneg _, Int.ofNat_le.mpr h, rfl⟩

theorem isSound_of_mem_ofBytes {bytes : List UInt8} : ∀ read ∈ ofBytes bytes, read.IsSound := by
  induction bytes using ofBytes.induct with
  | case1 bytes hfits =>
    rw [ofBytes, if_pos hfits]
    intro read hread
    obtain rfl := List.mem_singleton.mp hread
    exact isSound_delivered hfits
  | case2 bytes hmore ih =>
    have hfront : (bytes.take bufferSize).length = bufferSize := by
      rw [List.length_take]
      omega
    rw [ofBytes, if_neg hmore]
    intro read hread
    rcases List.mem_cons.mp hread with rfl | hread
    · have hsound := isSound_delivered (Nat.le_of_eq hfront)
      rwa [hfront] at hsound
    · exact ih read hread

/-- **The reads of a file deliver its bytes.** -/
theorem delivered_ofBytes (bytes : List UInt8) : DigestRecord.delivered (ofBytes bytes) = bytes := by
  induction bytes using ofBytes.induct with
  | case1 bytes hfits =>
    rw [ofBytes, if_pos hfits]
    cases bytes with
    | nil => rfl
    | cons b bytes =>
      have hcount : ((b :: bytes).length : Int) ≠ 0 := Int.ofNat_ne_zero.mpr (Nat.succ_ne_zero _)
      rw [DigestRecord.delivered, beforeEnd_cons (isEnd_of_ne_zero _ hcount)]
      exact List.append_nil _
  | case2 bytes hmore ih =>
    have hcount : (bufferSize : Int) ≠ 0 := by decide
    rw [DigestRecord.delivered] at ih ⊢
    rw [ofBytes, if_neg hmore, beforeEnd_cons (isEnd_of_ne_zero _ hcount), List.flatMap_cons, ih]
    exact List.take_append_drop bufferSize bytes

end Read

/-- The counts of sound reads add up to the number of bytes that they deliver. -/
theorem sum_count_of_sound {row : List Read} (hsound : ∀ read ∈ row, read.IsSound)
    (hend : ∀ read ∈ row, read.isEnd = false) :
    (row.map Read.count).sum = ((row.flatMap Read.written).length : Int) := by
  induction row with
  | nil => rfl
  | cons read row ih =>
    obtain ⟨written, rfl, -, -⟩ :=
      (hsound read List.mem_cons_self).eq_delivered (hend read List.mem_cons_self)
    have hrow := ih (fun r hr => hsound r (List.mem_cons_of_mem _ hr))
      (fun r hr => hend r (List.mem_cons_of_mem _ hr))
    rw [List.map_cons, List.sum_cons, hrow, List.flatMap_cons, List.length_append, Int.natCast_add]
    rfl

theorem Read.isSound_of_mem_beforeEnd_ofBytes {bytes : List UInt8} :
    ∀ read ∈ beforeEnd (Read.ofBytes bytes), read.IsSound :=
  fun read hread => Read.isSound_of_mem_ofBytes read ((List.takeWhile_subset _) hread)

theorem natCast_lt_pow {n digits : Nat} (h : n < 10 ^ digits) : (n : Int) < 10 ^ digits := by
  exact_mod_cast h

theorem countsFit_nil : CountsFit [] :=
  ⟨fun _ h => absurd h List.not_mem_nil, natCast_lt_pow (Nat.pow_pos (by decide))⟩

/-- The counts of a file fit if its size can be written. -/
theorem countsFit_ofBytes {bytes : List UInt8} (h : bytes.length < 10 ^ Decimal.maxDigits) :
    CountsFit (Read.ofBytes bytes) := by
  have hsound : ∀ read ∈ beforeEnd (Read.ofBytes bytes), read.IsSound :=
    Read.isSound_of_mem_beforeEnd_ofBytes
  have hend : ∀ read ∈ beforeEnd (Read.ofBytes bytes), read.isEnd = false :=
    fun _ hread => isEnd_of_mem_beforeEnd hread
  refine ⟨fun read hread => ?_, ?_⟩
  · obtain ⟨written, rfl, -, -⟩ := (hsound read hread).eq_delivered (hend read hread)
    exact Int.natCast_nonneg _
  · have hsum : ((beforeEnd (Read.ofBytes bytes)).map Read.count).sum = (bytes.length : Int) := by
      rw [sum_count_of_sound hsound hend]
      exact congrArg (fun bytes => (List.length bytes : Int)) (Read.delivered_ofBytes bytes)
    rw [hsum]
    exact natCast_lt_pow h

namespace FileSystem

variable {fs : FileSystem} {path : String} {verbose : Bool}

theorem source_of_readFile {bytes : List UInt8} (h : fs.readFile path.toList = .ok bytes) :
    fs.source path = ⟨none, Read.ofBytes bytes, none⟩ := by
  rw [source, h]
  rfl

theorem source_of_openError {e : OpenError} (h : fs.readFile path.toList = .error e) :
    fs.source path = ⟨some (e.fault path), [], none⟩ := by
  rw [source, h]
  rfl

/-- **The counts at a path fit**, if what it leads to is no file, or one whose size can be written. -/
theorem countsFit_source
    (h : ∀ bytes, fs.readFile path.toList = .ok bytes → bytes.length < 10 ^ Decimal.maxDigits) :
    CountsFit (fs.source path).reads := by
  cases hread : fs.readFile path.toList with
  | ok bytes =>
    rw [source_of_readFile hread]
    exact countsFit_ofBytes (h bytes hread)
  | error e =>
    rw [source_of_openError hread]
    exact countsFit_nil

/-- **A path that leads to a file** is hashed to the digest of its content and its size, as far as the
size can be announced. -/
theorem result_hashFile_of_readFile {bytes : List UInt8} (h : fs.readFile path.toList = .ok bytes)
    (verbose : Bool) : (fs.hashFile verbose path).result =
      (announce verbose (.hashed path bytes.length) (.ok ⟨Sha256.digest bytes, bytes.length⟩)).1 := by
  have hsound : ∀ read ∈ beforeEnd (Read.ofBytes bytes), read.IsSound :=
    Read.isSound_of_mem_beforeEnd_ofBytes
  have hresult := result_hashFile_eq_announce hsound verbose path
  rw [Read.delivered_ofBytes] at hresult
  rw [FileSystem.hashFile, source_of_readFile h]
  exact hresult

theorem isReported_fault (path : String) (e : OpenError) :
    Step.opening.isReported (e.fault path) = true := by
  cases e <;> rfl

/-- **A path that leads to no file** is a failure of the file, for the reason that opening gives. -/
theorem result_hashFile_of_openError {e : OpenError} (h : fs.readFile path.toList = .error e)
    (verbose : Bool) : (fs.hashFile verbose path).result =
      .error (.reported (Step.opening.error path (e.fault path))) := by
  have hresult := result_refuse path (e.fault path)
  rw [Step.failure, if_pos (isReported_fault path e)] at hresult
  rw [FileSystem.hashFile, source_of_openError h]
  exact hresult

end FileSystem

end DigestRecord
