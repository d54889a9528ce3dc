import DigestRecord.Proofs.Hashing.FirstFault

/-!
# What is fed, and what is counted

A read may report any number, whatever it wrote: less than that, more than the buffer holds, or a
negative number. What is fed to the primitive is the part of the buffer that the number names, and
what is counted is the number itself. The two have nothing to do with each other but that number.

The buffer is the same for all reads, and a read overwrites its start only. `byteAt` says without any
buffer which byte stands at a place after some reads, and `pieces` cuts out of that what each read
feeds. That a run feeds these pieces and no others is shown turn by turn: the buffer of each turn is
the one that the reads so far have left (`Buffer.IsAfter`).

For the count this means that it is the number of bytes fed only as long as every read reports a
number that the buffer can hold. Otherwise `sum_sub_sum_sliceSize` is the difference.

## Main results

* `Turns.foldlM_pieces`, `exists_turns_of_foldlM` — a row of turns feeds the pieces of its reads
* `finishes_iff` — what reading a file to its end comes to, by its pieces and its counts
* `hashFile_feeds_slices` — which file digest there is, and how its count compares with what was fed
-/

namespace DigestRecord

variable {σ : Type} {engine : Engine σ}

/-! ## The buffer by its reads -/

/-- The byte at a place of the buffer after some reads, the latest of them first: that of the latest
read which wrote as far as this, and zero if none did. -/
def byteAt (reads : List Read) (i : Nat) : UInt8 :=
  (reads.findSome? fun read => read.written[i]?).getD 0

namespace Buffer

/-- A buffer is what some reads have left, the latest of them first. -/
def IsAfter (b : Buffer) (reads : List Read) : Prop :=
  ∀ i < bufferSize, b.bytes[i]? = some (byteAt reads i)

theorem zeros_isAfter : zeros.IsAfter [] := by
  intro i hi
  exact List.getElem?_replicate_of_lt hi

/-- A read leaves its own bytes at the start, and behind them what was there before. -/
theorem IsAfter.overwrite {b : Buffer} {reads : List Read} (h : b.IsAfter reads) (read : Read) :
    (b.overwrite read.written).IsAfter (read :: reads) := by
  intro i hi
  show (read.written.take bufferSize ++ b.bytes.drop read.written.length)[i]? = _
  rw [byteAt, List.findSome?_cons]
  by_cases hfar : i < read.written.length
  · have htake : i < (read.written.take bufferSize).length := by
      rw [List.length_take]
      omega
    rw [List.getElem?_append_left htake, List.getElem?_take_of_lt hi,
      List.getElem?_eq_getElem hfar]
    rfl
  · have htake : (read.written.take bufferSize).length = read.written.length := by
      rw [List.length_take]
      omega
    have hplace : read.written.length + (i - read.written.length) = i := by omega
    rw [List.getElem?_append_right (by omega), htake, List.getElem?_drop, hplace, h i hi,
      List.getElem?_eq_none (by omega)]
    rfl

theorem slice_eq_take (b : Buffer) (n : Int) : b.slice n = b.bytes.take (sliceSize n) := by
  cases n with
  | ofNat n =>
    show b.bytes.take n = b.bytes.take (min n bufferSize)
    rw [← b.length_bytes, List.take_eq_take_min]
  | negSucc n => rfl

/-- What a number names of the buffer, byte by byte. -/
theorem IsAfter.slice {b : Buffer} {reads : List Read} (h : b.IsAfter reads) (n : Int) :
    b.slice n = (List.range (sliceSize n)).map (byteAt reads) := by
  have hle : sliceSize n ≤ bufferSize := by
    cases n with
    | ofNat n => exact Nat.min_le_right ..
    | negSucc n => exact Nat.sub_le ..
  rw [slice_eq_take]
  refine List.ext_getElem? fun i => ?_
  by_cases hi : i < sliceSize n
  · rw [List.getElem?_take_of_lt hi, h i (by omega), List.getElem?_map, List.getElem?_range hi]
    rfl
  · rw [List.getElem?_eq_none (by rw [List.length_take]; omega),
      List.getElem?_eq_none (by rw [List.length_map, List.length_range]; omega)]

end Buffer

/-! ## Pieces -/

/-- The pieces that a row of reads feeds, after some earlier reads: for each of them the bytes at the
places that its number names. -/
def piecesAfter (earlier : List Read) : List Read → List (List UInt8)
  | [] => []
  | read :: row =>
    (List.range (Buffer.sliceSize read.count)).map (byteAt (read :: earlier)) ::
      piecesAfter (read :: earlier) row

/-- The pieces that the reads up to the end feed. -/
def pieces (reads : List Read) : List (List UInt8) := piecesAfter [] (beforeEnd reads)

/-- What the primitive makes of some pieces, each of them in an update of its own. -/
def Engine.digestOf (engine : Engine σ) (pieces : List (List UInt8)) :
    Except Fault (Option (List UInt8)) := do
  let context ← engine.start
  let last ← pieces.foldlM engine.update context
  engine.finish last

theorem Engine.digestOf_eq_ok_iff {pieces : List (List UInt8)} {digest : Option (List UInt8)} :
    engine.digestOf pieces = .ok digest ↔ ∃ context last, engine.start = .ok context ∧
      pieces.foldlM engine.update context = .ok last ∧ engine.finish last = .ok digest := by
  rw [digestOf]
  cases hstart : engine.start with
  | error f => simp [bind, Except.bind]
  | ok context =>
    cases hlast : pieces.foldlM engine.update context with
    | error f => simp [bind, Except.bind, hlast]
    | ok last => simp [bind, Except.bind, hlast]

/-- A row of turns feeds the pieces of its reads, and what comes after it is fed to the context that it
ends with. -/
theorem Turns.foldlM_pieces_append {p q : Progress σ} {row : List Read} (h : Turns engine p row q)
    {earlier : List Read} (hbuffer : p.buffer.IsAfter earlier) (rest : List Read) :
    ∃ before, q.buffer.IsAfter before ∧
      (piecesAfter earlier (row ++ rest)).foldlM engine.update p.context =
        (piecesAfter before rest).foldlM engine.update q.context := by
  induction h generalizing earlier with
  | done => exact ⟨earlier, hbuffer, rfl⟩
  | @turn p q written n context row _ taken _ ih =>
    have hnext := hbuffer.overwrite (.delivered written (some n))
    have hpiece : p.piece written n = (List.range (Buffer.sliceSize n)).map
        (byteAt (.delivered written (some n) :: earlier)) := hnext.slice n
    rw [hpiece] at taken
    obtain ⟨before, hbefore, hfed⟩ := ih hnext
    refine ⟨before, hbefore, ?_⟩
    rw [← hfed, List.cons_append, piecesAfter, List.foldlM_cons,
      show Read.count (.delivered written (some n)) = n from rfl, taken]
    rfl

/-- **A row of turns feeds the pieces of its reads**, if the buffer is what the reads before it have
left. -/
theorem Turns.foldlM_pieces {p q : Progress σ} {row : List Read} (h : Turns engine p row q)
    {earlier : List Read} (hbuffer : p.buffer.IsAfter earlier) :
    (piecesAfter earlier row).foldlM engine.update p.context = .ok q.context := by
  obtain ⟨before, -, hfed⟩ := h.foldlM_pieces_append hbuffer []
  rw [List.append_nil] at hfed
  exact hfed

theorem Turns.hasFailed {p q : Progress σ} {row : List Read} (h : Turns engine p row q) :
    ∀ read ∈ row, read.hasFailed = false := by
  induction h with
  | done => exact fun _ h => absurd h List.not_mem_nil
  | turn _ _ _ ih =>
    rintro read (_ | ⟨_, hread⟩)
    · rfl
    · exact ih read hread

/-- **Reads whose pieces are taken are a row of turns**, if none of them fails or finds the end. -/
theorem exists_turns_of_foldlM {row : List Read} (hend : ∀ read ∈ row, read.isEnd = false)
    (hfail : ∀ read ∈ row, read.hasFailed = false) {p : Progress σ} {earlier : List Read}
    (hbuffer : p.buffer.IsAfter earlier) {last : σ}
    (h : (piecesAfter earlier row).foldlM engine.update p.context = .ok last) :
    ∃ q, Turns engine p row q ∧ q.context = last := by
  induction row generalizing p earlier with
  | nil =>
    cases h
    exact ⟨p, .done, rfl⟩
  | cons read row ih =>
    rcases read with ⟨written, _ | n⟩ | f
    · cases hend _ List.mem_cons_self
    · have hn : n ≠ 0 := by simpa [Read.isEnd] using hend _ List.mem_cons_self
      have hnext := hbuffer.overwrite (.delivered written (some n))
      have hpiece : p.piece written n = (List.range (Buffer.sliceSize n)).map
          (byteAt (.delivered written (some n) :: earlier)) := hnext.slice n
      rw [piecesAfter, List.foldlM_cons, show Read.count (.delivered written (some n)) = n from rfl,
        ← hpiece] at h
      cases hu : engine.update p.context (p.piece written n) with
      | error f =>
        rw [hu] at h
        cases h
      | ok context =>
        rw [hu] at h
        obtain ⟨q, hrow, hq⟩ := ih (fun read hread => hend read (List.mem_cons_of_mem _ hread))
          (fun read hread => hfail read (List.mem_cons_of_mem _ hread))
          (p := ⟨context, p.buffer.overwrite written, p.total + n⟩) hnext h
        exact ⟨q, .turn hn hu hrow, hq⟩
    · cases hfail _ List.mem_cons_self

/-! ## Reading to the end -/

theorem FindsEnd.beforeEnd_eq_nil {reads : List Read} {reported : Option Int}
    (h : FindsEnd reads reported) : beforeEnd reads = [] := by
  cases h <;> rfl

/-- **Reading a file to its end, by its pieces and its counts.** -/
theorem finishes_iff {reads : List Read} {digest : Option (List UInt8)} {total : Int} :
    Finishes engine reads digest total ↔
      (∀ read ∈ beforeEnd reads, read.hasFailed = false) ∧
        engine.digestOf (pieces reads) = .ok digest ∧
        total = ((beforeEnd reads).map Read.count).sum := by
  rw [Engine.digestOf_eq_ok_iff]
  constructor
  · rintro ⟨hstart, hrow, hends, hfinish⟩
    rw [pieces, hrow.beforeEnd_append, hends.beforeEnd_eq_nil, List.append_nil]
    refine ⟨hrow.hasFailed, ⟨_, _, hstart, hrow.foldlM_pieces Buffer.zeros_isAfter, hfinish⟩, ?_⟩
    rw [hrow.total_eq, Progress.start, Int.zero_add]
  · rintro ⟨hfail, ⟨context, last, hstart, hfed, hfinish⟩, rfl⟩
    obtain ⟨later, reported, hreads, hends⟩ := exists_findsEnd reads
    obtain ⟨q, hrow, rfl⟩ := exists_turns_of_foldlM (p := .start context)
      (fun _ hread => isEnd_of_mem_beforeEnd hread) hfail Buffer.zeros_isAfter hfed
    have htotal : q.total = ((beforeEnd reads).map Read.count).sum := by
      rw [hrow.total_eq, Progress.start, Int.zero_add]
    rw [← htotal]
    have hfinishes := Finishes.mk hstart hrow hends hfinish
    rwa [← hreads] at hfinishes

/-! ## Bytes fed and bytes counted -/

theorem length_flatten_piecesAfter (earlier row : List Read) :
    ((piecesAfter earlier row).flatten.length : Int) =
      ((row.map Read.count).map fun n => (Buffer.sliceSize n : Int)).sum := by
  induction row generalizing earlier with
  | nil => rfl
  | cons read row ih =>
    rw [piecesAfter, List.flatten_cons, List.length_append, List.length_map, List.length_range,
      Int.natCast_add, ih, List.map_cons, List.map_cons, List.sum_cons]

/-- What a number counts beyond the bytes that it names. -/
theorem sub_sliceSize (n : Int) :
    n - Buffer.sliceSize n = (if (bufferSize : Int) < n then n - bufferSize else 0) +
      if n < 0 then min n (-(bufferSize : Int)) else 0 := by
  cases n with
  | ofNat n =>
    have hnonneg : ¬ (n : Int) < 0 := Int.not_lt.mpr (Int.natCast_nonneg n)
    rw [Buffer.sliceSize, Int.ofNat_eq_natCast, if_neg hnonneg]
    split <;> omega
  | negSucc n =>
    rw [Buffer.sliceSize, if_neg (by omega), if_pos (by omega)]
    omega

/-- **What is counted beyond what is fed**, by the two kinds of number that the buffer cannot hold. -/
theorem sum_sub_sum_sliceSize (counts : List Int) :
    counts.sum - (counts.map fun n => (Buffer.sliceSize n : Int)).sum =
      ((counts.filter fun n => (bufferSize : Int) < n).map fun n => n - (bufferSize : Int)).sum +
        ((counts.filter fun n => n < 0).map fun n => min n (-(bufferSize : Int))).sum := by
  induction counts with
  | nil => rfl
  | cons n counts ih =>
    have hn := sub_sliceSize n
    rw [List.map_cons, List.sum_cons, List.sum_cons, List.filter_cons, List.filter_cons]
    by_cases hlarge : (bufferSize : Int) < n <;> by_cases hnegative : n < 0
    all_goals
      simp only [hlarge, hnegative, if_true, if_false, decide_true, decide_false, List.map_cons,
        List.sum_cons, Bool.false_eq_true] at hn ⊢
      omega

theorem sum_sliceSize_eq {counts : List Int} (h : ∀ n ∈ counts, 0 ≤ n ∧ n ≤ bufferSize) :
    (counts.map fun n => (Buffer.sliceSize n : Int)).sum = counts.sum := by
  refine congrArg List.sum ((List.map_congr_left fun n hn => ?_).trans (List.map_id counts))
  obtain ⟨hnonneg, hle⟩ := h n hn
  have hexcess := sub_sliceSize n
  rw [if_neg (by omega), if_neg (by omega)] at hexcess
  show (Buffer.sliceSize n : Int) = n
  omega

/-! ## The whole run -/

/-- A run without a fault, by its pieces and its counts. -/
theorem undisturbed_iff {source : Source} {digest : Option (List UInt8)} {total : Int} :
    Undisturbed engine source digest total ↔
      source.openFault = none ∧ source.closeFault = none ∧
        (∀ read ∈ beforeEnd source.reads, read.hasFailed = false) ∧
        engine.digestOf (pieces source.reads) = .ok digest ∧
        total = ((beforeEnd source.reads).map Read.count).sum := by
  constructor
  · rintro ⟨hopens, hfinishes, hcloses⟩
    exact ⟨hopens, hcloses, finishes_iff.mp hfinishes⟩
  · rintro ⟨hopens, hcloses, hfinishes⟩
    exact ⟨hopens, finishes_iff.mpr hfinishes, hcloses⟩

/-- **What is fed are the slices of the buffer, and what is counted are the numbers.**

The reads report any numbers and write anything. A run in which nothing fails has fed, for each read
before the end, the bytes that its number names of the buffer as the reads have left it so far, and its
total is the sum of the numbers. It yields a file digest with this total if the digest has the right
length, and there is no other way to get one.

So the total exceeds the number of bytes fed by what numbers larger than the buffer count beyond it,
less what negative numbers take off. Where neither kind comes up the two are the same. -/
theorem hashFile_feeds_slices (verbose : Bool) (engine : Engine σ) (source : Source)
    (path : String) :
    let counts := (beforeEnd source.reads).map Read.count
    let fed := pieces source.reads
    (∀ digest total, Undisturbed engine source digest total ↔
        source.openFault = none ∧ source.closeFault = none ∧
          (∀ read ∈ beforeEnd source.reads, read.hasFailed = false) ∧
          engine.digestOf fed = .ok digest ∧ total = counts.sum) ∧
      (∀ d, (hashFile verbose engine source path).result = .ok d ↔
        Undisturbed engine source (some d.digest) d.byteCount ∧ d.digest.length = 32 ∧
          (verbose = true → Decimal.isWritable d.byteCount = true)) ∧
      counts.sum - fed.flatten.length =
        ((counts.filter fun n => (65536 : Int) < n).map fun n => n - 65536).sum +
          ((counts.filter fun n => n < 0).map fun n => min n (-65536)).sum ∧
      ((∀ n ∈ counts, 0 ≤ n ∧ n ≤ 65536) → counts.sum = fed.flatten.length) := by
  intro counts fed
  have hlength : (fed.flatten.length : Int) =
      (counts.map fun n => (Buffer.sliceSize n : Int)).sum := length_flatten_piecesAfter [] _
  refine ⟨fun digest total => undisturbed_iff, fun d => result_hashFile_eq_ok_iff, ?_, ?_⟩
  · rw [hlength]
    exact sum_sub_sum_sliceSize counts
  · intro hfits
    rw [hlength]
    exact (sum_sliceSize_eq hfits).symm

/-- Two of the numbers are negative and leave two and three bytes of the buffer. Behind the byte that was
just written there stands a zero the first time, and a byte that was not fed before the last time. -/
example : pieces [.delivered [97] (some (-65534)), .delivered [98, 99] (some 1),
    .delivered [] (some (-65533)), .delivered [] none] = [[97, 0], [98], [98, 99, 0]] := by decide

end DigestRecord
