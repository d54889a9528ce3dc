import DigestRecord.Proofs.FileSystem.Contents
import DigestRecord.Proofs.Hashing.Pieces
import DigestRecord.Proofs.Hashing.Protocol
import Mathlib.Algebra.BigOperators.Ring.Finset
import Mathlib.Algebra.Order.Floor.Div

/-!
# How a file is cut up

A file whose reads fill the buffer as long as there is enough left of it is cut up in one way only: into
pieces of the size of the buffer, and a shorter one for what is over. No piece is empty, so a file that
ends with a full buffer takes one more read, which finds the end, and no further update.

`Fills` says of a row of reads that each takes as much as is left and fits. What carries the proof is one
read of it (`chunkSizes_of_pos`): it takes the first of the sizes, and those that remain are the sizes of
the rest of the file.

## Main results

* `chunkSizes_of_pos`, `sum_chunkSizes`, `length_chunkSizes` — the sizes of the pieces
* `Fills.exists_findsEnd` — what a run counts and shows of the reads of such a file
* `hashFile_reads_in_chunks` — the reads and the updates of a run in which nothing fails
-/

namespace DigestRecord

/-! ## Sizes -/

/-- The sizes of the pieces of a file. -/
def chunkSizes (length : Nat) : List Nat :=
  List.replicate (length / bufferSize) bufferSize ++
    if bufferSize ∣ length then [] else [length % bufferSize]

theorem bufferSize_pos : 0 < bufferSize := by decide

@[simp] theorem chunkSizes_zero : chunkSizes 0 = [] := rfl

/-- The first piece is as large as it can be, and the others are those of the rest. -/
theorem chunkSizes_of_pos {length : Nat} (h : 0 < length) :
    chunkSizes length = min bufferSize length :: chunkSizes (length - bufferSize) := by
  by_cases hfull : bufferSize ≤ length
  · obtain ⟨rest, rfl⟩ := Nat.exists_eq_add_of_le hfull
    rw [chunkSizes, Nat.add_div_left rest bufferSize_pos, List.replicate_succ,
      Nat.min_eq_left hfull, Nat.add_sub_cancel_left, chunkSizes, Nat.add_mod_left]
    simp only [Nat.dvd_add_right (Nat.dvd_refl bufferSize), List.cons_append]
  · have hlt : length < bufferSize := Nat.not_le.mp hfull
    have hnot : ¬ bufferSize ∣ length := Nat.not_dvd_of_pos_of_lt h hlt
    rw [chunkSizes, Nat.div_eq_of_lt hlt, if_neg hnot, Nat.mod_eq_of_lt hlt,
      Nat.min_eq_right (Nat.le_of_lt hlt), Nat.sub_eq_zero_of_le (Nat.le_of_lt hlt)]
    rfl

/-- The pieces make up the file. -/
theorem sum_chunkSizes (length : Nat) : (chunkSizes length).sum = length := by
  have hparts := Nat.div_add_mod length bufferSize
  rw [chunkSizes, List.sum_append, List.sum_replicate, smul_eq_mul, Nat.mul_comm]
  split
  · rename_i hdvd
    rw [Nat.mod_eq_zero_of_dvd hdvd] at hparts
    simpa using hparts
  · simpa using hparts

theorem length_chunkSizes (length : Nat) :
    (chunkSizes length).length = length ⌈/⌉ bufferSize := by
  rw [chunkSizes, List.length_append, List.length_replicate, Nat.ceilDiv_eq_add_pred_div]
  split
  · rename_i hdvd
    obtain ⟨n, rfl⟩ := hdvd
    rw [List.length_nil, bufferSize]
    omega
  · rename_i hdvd
    rw [Nat.dvd_iff_mod_eq_zero, bufferSize] at hdvd
    rw [List.length_singleton, bufferSize]
    omega

/-- No piece is empty, or larger than the buffer. -/
theorem pos_of_mem_chunkSizes {length n : Nat} (h : n ∈ chunkSizes length) :
    0 < n ∧ n ≤ bufferSize := by
  rw [chunkSizes, List.mem_append, List.mem_replicate] at h
  rcases h with ⟨-, rfl⟩ | h
  · exact ⟨bufferSize_pos, Nat.le_refl _⟩
  · split at h
    · cases h
    · rename_i hdvd
      obtain rfl := List.mem_singleton.mp h
      exact ⟨Nat.pos_of_ne_zero fun hzero => hdvd (Nat.dvd_of_mod_eq_zero hzero),
        Nat.le_of_lt (Nat.mod_lt _ bufferSize_pos)⟩

/-! ## Reads that fill the buffer -/

/-- The reads of a file with these bytes left: each of them delivers as many as the buffer holds, or all
that are left if they are fewer. What is left of the list after the read that finds the end is open. -/
inductive Fills : List UInt8 → List Read → Prop
  | atEnd {reads : List Read} (ends : FindsEnd reads (some 0)) : Fills [] reads
  | more {bytes : List UInt8} {later : List Read} (left : bytes ≠ [])
      (rest : Fills (bytes.drop bufferSize) later) :
      Fills bytes (.delivered (bytes.take bufferSize)
        (some (min bufferSize bytes.length : Nat)) :: later)

/-- The reads of a sound file fill the buffer. -/
theorem fills_ofBytes (bytes : List UInt8) : Fills bytes (Read.ofBytes bytes) := by
  induction bytes using Read.ofBytes.induct with
  | case1 bytes hfits =>
    rw [Read.ofBytes, if_pos hfits]
    by_cases hnil : bytes = []
    · subst hnil
      exact .atEnd .zero
    · have hrest : Fills (bytes.drop bufferSize) [] := by
        rw [List.drop_eq_nil_of_le hfits]
        exact .atEnd .exhausted
      have hmore := Fills.more hnil hrest
      rwa [List.take_of_length_le hfits, Nat.min_eq_right hfits] at hmore
  | case2 bytes hmore ih =>
    have hle : bufferSize ≤ bytes.length := Nat.le_of_not_le hmore
    have hne : bytes ≠ [] := by
      rintro rfl
      exact hmore (Nat.zero_le _)
    have hfirst := Fills.more hne ih
    rw [Read.ofBytes, if_neg hmore]
    rwa [Nat.min_eq_left hle] at hfirst

/-- **What a run counts and shows of reads that fill the buffer**: the size of each piece, and a read and
an update for it, up to the read that finds the end. By induction on the reads, one piece at a time. -/
theorem Fills.exists_findsEnd {bytes : List UInt8} {reads : List Read} (h : Fills bytes reads) :
    ∃ later, reads = beforeEnd reads ++ later ∧ FindsEnd later (some 0) ∧
      (beforeEnd reads).map Read.count = (chunkSizes bytes.length).map Nat.cast ∧
      rowEvents (beforeEnd reads) =
        (chunkSizes bytes.length).flatMap fun n : Nat => pairEvents n := by
  induction h with
  | atEnd ends =>
    rw [ends.beforeEnd_eq_nil]
    exact ⟨_, rfl, ends, rfl, rfl⟩
  | @more bytes later left _ ih =>
    obtain ⟨last, hlater, hends, hcounts, hrow⟩ := ih
    have hpos : 0 < bytes.length := List.length_pos_iff.mpr left
    have hcount : ((min bufferSize bytes.length : Nat) : Int) ≠ 0 := by
      have := bufferSize_pos
      omega
    rw [beforeEnd_cons (Read.isEnd_of_ne_zero _ hcount), chunkSizes_of_pos hpos]
    rw [List.length_drop] at hcounts hrow
    refine ⟨last, congrArg _ hlater, hends, ?_, ?_⟩
    · rw [List.map_cons, hcounts, List.map_cons]
      rfl
    · rw [rowEvents, List.flatMap_cons, ← rowEvents, hrow, List.flatMap_cons]

/-! ## What a run does -/

/-- The size of the buffer that a read was offered, and what came of it. -/
def Event.read? : Event → Option (Nat × ReadResult)
  | .reading size result => some (size, result)
  | _ => none

/-- How many bytes an update was given. -/
def Event.update? : Event → Option Nat
  | .updating size => some size
  | _ => none

theorem filterMap_read?_flatMap_pairEvents (sizes : List Nat) :
    (sizes.flatMap fun n : Nat => pairEvents n).filterMap Event.read? =
      sizes.map fun n => (bufferSize, .reported (some n)) := by
  induction sizes with
  | nil => rfl
  | cons n sizes ih =>
    rw [List.flatMap_cons, List.filterMap_append, ih]
    rfl

theorem filterMap_update?_flatMap_pairEvents {sizes : List Nat} (h : ∀ n ∈ sizes, n ≤ bufferSize) :
    (sizes.flatMap fun n : Nat => pairEvents n).filterMap Event.update? = sizes := by
  induction sizes with
  | nil => rfl
  | cons n sizes ih =>
    have hslice : Buffer.sliceSize n = n := Nat.min_eq_left (h n List.mem_cons_self)
    rw [List.flatMap_cons, List.filterMap_append, ih fun m hm => h m (List.mem_cons_of_mem _ hm),
      pairEvents, hslice]
    rfl

variable {σ : Type} {engine : Engine σ}

/-- A run that gets to its end, over reads that fill the buffer. -/
theorem Finishes.events_hashFile {reads : List Read} {digest : Option (List UInt8)} {total : Int}
    (h : Finishes engine reads digest total) {bytes : List UInt8} (hfills : Fills bytes reads)
    (verbose : Bool) (closeFault : Option Fault) (path : String) :
    (hashFile verbose engine ⟨none, reads, closeFault⟩ path).events = .opening path :: .starting ::
      (((chunkSizes bytes.length).flatMap fun n : Nat => pairEvents n) ++
        [.reading bufferSize (.reported (some 0)), .finishing, .closing]) := by
  obtain ⟨later, hreads, hends, -, hevents⟩ := hfills.exists_findsEnd
  induction h with
  | @mk _ row rest _ _ _ hstart hrow hends' =>
    have hbefore := hrow.beforeEnd_append rest
    rw [hends'.beforeEnd_eq_nil, List.append_nil] at hbefore
    rw [hbefore] at hreads hevents
    obtain rfl := List.append_cancel_left hreads
    rw [events_hashFile_of_turns hstart hrow, hevents, stream_of_findsEnd hends,
      Progress.events_finish]
    rfl

/-- Its total is the size of the file. -/
theorem Finishes.total_eq {reads : List Read} {digest : Option (List UInt8)} {total : Int}
    (h : Finishes engine reads digest total) {bytes : List UInt8} (hfills : Fills bytes reads) :
    total = bytes.length := by
  obtain ⟨later, -, -, hcounts, -⟩ := hfills.exists_findsEnd
  obtain ⟨-, -, rfl⟩ := finishes_iff.mp h
  rw [hcounts, ← Nat.cast_list_sum, sum_chunkSizes]

/-- **A file is read in full buffers.** Its reads fill the buffer as long as there is enough left, and no
step of the run fails. Then every read is offered the same buffer, there is one read for each piece and
one more, and only the last of them reports zero. The updates are given the pieces: as many full ones as
the file has, and the rest if there is one. None of them is empty, and together they are as large as the
file. So the run comes to its end and closes the file, with the size of the file as its total. -/
theorem hashFile_reads_in_chunks (verbose : Bool) (engine : Engine σ) {source : Source}
    {bytes : List UInt8} (hfills : Fills bytes source.reads)
    (hgood : ∀ step f, ¬ FirstFault engine source step f) (path : String) :
    let events := (hashFile verbose engine source path).events
    let reads := events.filterMap Event.read?
    let updates := events.filterMap Event.update?
    reads.length = bytes.length ⌈/⌉ 65536 + 1 ∧
      reads = (updates.map fun n : Nat => (65536, .reported (some n))) ++
        [(65536, .reported (some 0))] ∧
      updates = List.replicate (bytes.length / 65536) 65536 ++
        (if 65536 ∣ bytes.length then [] else [bytes.length % 65536]) ∧
      0 ∉ updates ∧ updates.sum = bytes.length ∧
      events.getLast? = some .closing ∧
      ∃ digest, Undisturbed engine source digest bytes.length := by
  intro events reads updates
  obtain ⟨step, f, hfault⟩ | ⟨digest, total, hrun⟩ := exists_firstFault_or_undisturbed engine source
  · exact absurd hfault (hgood step f)
  obtain rfl : total = bytes.length := hrun.finishes.total_eq hfills
  have hevents : events = .opening path :: .starting ::
      (((chunkSizes bytes.length).flatMap fun n : Nat => pairEvents n) ++
        [.reading bufferSize (.reported (some 0)), .finishing, .closing]) := by
    obtain ⟨openFault, sourceReads, closeFault⟩ := source
    obtain ⟨rfl, hfinishes, -⟩ := hrun
    exact hfinishes.events_hashFile hfills verbose closeFault path
  have hupdates : updates = chunkSizes bytes.length := by
    simp only [updates, hevents, List.filterMap_cons, List.filterMap_append, Event.update?,
      List.filterMap_nil, List.append_nil]
    exact filterMap_update?_flatMap_pairEvents fun n hn => (pos_of_mem_chunkSizes hn).2
  have hreads : reads = (updates.map fun n : Nat => (65536, .reported (some n))) ++
      [(65536, .reported (some 0))] := by
    simp only [hupdates, reads, hevents, List.filterMap_cons, List.filterMap_append, Event.read?,
      List.filterMap_nil, filterMap_read?_flatMap_pairEvents]
    rfl
  refine ⟨?_, hreads, hupdates, ?_, hupdates ▸ sum_chunkSizes _, ?_, digest, hrun⟩
  · rw [hreads, List.length_append, List.length_map, hupdates, length_chunkSizes]
    rfl
  · rw [hupdates]
    exact fun hzero => absurd (pos_of_mem_chunkSizes hzero).1 (Nat.lt_irrefl 0)
  · rw [hevents, List.getLast?_eq_some_iff]
    exact ⟨.opening path :: .starting ::
      (((chunkSizes bytes.length).flatMap fun n : Nat => pairEvents n) ++
        [.reading bufferSize (.reported (some 0)), .finishing]), by simp⟩

/-- A file of two full buffers takes a third read and no third update. -/
theorem hashFile_reads_two_chunks :
    let source := Source.ofBytes (List.replicate 131072 0)
    let events := (hashFile false Engine.sha256 source "f").events
    (∀ step f, ¬ FirstFault Engine.sha256 source step f) ∧
      (events.filterMap Event.read?).length = 3 ∧
      events.filterMap Event.update? = [65536, 65536] := by
  intro source events
  have hlength : (List.replicate 131072 (0 : UInt8)).length = 131072 := List.length_replicate
  have hsaid : false = true → Decimal.isWritable
      (delivered (Read.ofBytes (List.replicate 131072 0))).length = true := nofun
  have hresult := result_hashFile_of_sound Read.isSound_of_mem_beforeEnd_ofBytes hsaid "f"
  obtain ⟨hrun, -⟩ := result_hashFile_eq_ok_iff.mp hresult
  have hgood : ∀ step f, ¬ FirstFault Engine.sha256 source step f :=
    fun _ _ hfault => hfault.not_undisturbed hrun
  obtain ⟨hreads, -, hupdates, -⟩ := hashFile_reads_in_chunks false Engine.sha256
    (fills_ofBytes (List.replicate 131072 0)) hgood "f"
  rw [hlength] at hreads hupdates
  exact ⟨hgood, hreads, hupdates⟩

end DigestRecord
