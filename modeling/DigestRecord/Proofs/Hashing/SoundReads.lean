import DigestRecord.Proofs.Hashing.Turns
import Mathlib.Data.List.TakeWhile

/-!
# Files whose reads are sound

A sound read wrote as many bytes as it reports, and no more than the buffer holds. The buffer is
used again for every read, so behind the bytes of a short read there still stand those of earlier
ones; the point is that none of them is ever hashed.

What carries the proof is `Progress.StandsAt`: after every turn, the context is the one that took in
the bytes delivered so far, in one piece, and the total counts them. Where the pieces were cut has
dropped out of it.

## Main results

* `turns_of_sound` — sound reads are a row of turns, and it leads to where their bytes stand
* `stream_append_of_isEnd` — what comes after a read that finds the end makes no difference
* `hashFile_sha256_of_sound` — the digest of a sound file, and its length
-/

namespace DigestRecord

/-! ## Sound reads -/

namespace Read

/-- A read that reports a number wrote that many bytes, and they fit the buffer. -/
def IsSound : Read → Prop
  | .delivered written (some n) => 0 ≤ n ∧ n ≤ bufferSize ∧ written.length = n
  | .delivered _ none => True
  | .failed _ => False

/-- The bytes that a read wrote. -/
def written : Read → List UInt8
  | .delivered written _ => written
  | .failed _ => []

/-- A sound read before the end reports the number of bytes it wrote. -/
theorem IsSound.eq_delivered {read : Read} (h : read.IsSound) (hend : read.isEnd = false) :
    ∃ written : List UInt8, read = .delivered written (some written.length) ∧
      written.length ≠ 0 ∧ written.length ≤ bufferSize := by
  rcases read with ⟨written, _ | n⟩ | f
  · cases hend
  · obtain ⟨-, hle, hlen⟩ := h
    have hn : n ≠ 0 := by simpa [isEnd] using hend
    exact ⟨written, by rw [hlen], by omega, by omega⟩
  · exact h.elim

end Read

/-- The reads before the first one that finds the end. -/
def beforeEnd (reads : List Read) : List Read := reads.takeWhile fun read => !read.isEnd

/-- The bytes that come in before the end. -/
def delivered (reads : List Read) : List UInt8 := (beforeEnd reads).flatMap Read.written

theorem isEnd_of_mem_beforeEnd {reads : List Read} {read : Read} (h : read ∈ beforeEnd reads) :
    read.isEnd = false := by
  simpa using List.mem_takeWhile_imp h

/-- After the reads before the end, the next one finds it. -/
theorem exists_findsEnd (reads : List Read) :
    ∃ later reported, reads = beforeEnd reads ++ later ∧ FindsEnd later reported := by
  refine ⟨reads.dropWhile fun read => !read.isEnd, ?_⟩
  have happ : reads = beforeEnd reads ++ reads.dropWhile fun read => !read.isEnd :=
    List.takeWhile_append_dropWhile.symm
  cases hd : reads.dropWhile fun read => !read.isEnd with
  | nil => exact ⟨some 0, by rwa [hd] at happ, .exhausted⟩
  | cons read later =>
    have hend : read.isEnd = true := by
      simpa [hd] using List.head?_dropWhile_not (fun read : Read => !read.isEnd) reads
    obtain ⟨reported, h⟩ := Read.findsEnd_of_isEnd hend
    exact ⟨reported, by rwa [hd] at happ, h later⟩

/-! ## Where a run stands -/

/-- A run stands at some bytes if its context took them in and its total counts them. -/
structure Progress.StandsAt (p : Progress Sha256.Context) (bytes : List UInt8) : Prop where
  context : p.context = Sha256.Context.start.update bytes
  total : p.total = bytes.length

theorem Progress.start_standsAt :
    (Progress.start Sha256.Context.start).StandsAt [] := ⟨rfl, rfl⟩

/-- One turn with a sound read. The slice that is fed is what was just written: the rest of the
buffer, whatever it holds, stays out of it. -/
theorem Progress.StandsAt.turn {p : Progress Sha256.Context} {bytes : List UInt8}
    (h : p.StandsAt bytes) {written : List UInt8} (hfit : written.length ≤ bufferSize) :
    Progress.StandsAt ⟨p.context.update (p.piece written written.length),
      p.buffer.overwrite written, p.total + written.length⟩ (bytes ++ written) := by
  have hpiece : p.piece written written.length = written := p.buffer.slice_overwrite hfit
  refine ⟨?_, ?_⟩
  · rw [hpiece, h.context, Sha256.Context.update_append]
  · rw [h.total, List.length_append, Int.natCast_add]

/-- **Sound reads are a row of turns.** -/
theorem turns_of_sound {row : List Read} (hsound : ∀ read ∈ row, read.IsSound)
    (hend : ∀ read ∈ row, read.isEnd = false) {p : Progress Sha256.Context} {bytes : List UInt8}
    (h : p.StandsAt bytes) :
    ∃ q, Turns Engine.sha256 p row q ∧ q.StandsAt (bytes ++ row.flatMap Read.written) := by
  induction row generalizing p bytes with
  | nil => exact ⟨p, .done, by simpa using h⟩
  | cons read row ih =>
    obtain ⟨written, rfl, hpos, hfit⟩ :=
      (hsound read List.mem_cons_self).eq_delivered (hend read List.mem_cons_self)
    obtain ⟨q, hrow, hq⟩ := ih (fun r hr => hsound r (List.mem_cons_of_mem _ hr))
      (fun r hr => hend r (List.mem_cons_of_mem _ hr)) (h.turn hfit)
    refine ⟨q, .turn (by omega) rfl hrow, ?_⟩
    rwa [List.append_assoc] at hq

/-! ## What comes after the end -/

theorem stream_append_of_isEnd {σ : Type} (verbose : Bool) (engine : Engine σ) (path : String)
    (p : Progress σ) {last : Read} (hlast : last.isEnd = true) (before later later' : List Read) :
    stream verbose engine path p (before ++ last :: later) =
      stream verbose engine path p (before ++ last :: later') := by
  obtain ⟨row, rest, q, rfl, hrow, hstop⟩ := exists_turns engine p before
  rw [List.append_assoc, List.append_assoc, stream_turns hrow, stream_turns hrow]
  cases hstop with
  | readFails => rw [List.cons_append, List.cons_append, stream_failed, stream_failed]
  | updateFails hn hu =>
    rw [List.cons_append, List.cons_append, stream_of_update_error hn hu,
      stream_of_update_error hn hu]
  | findsEnd h =>
    obtain ⟨reported, hall⟩ := h.append hlast
    rw [stream_of_findsEnd (hall later), stream_of_findsEnd (hall later')]

/-! ## The whole run -/

/-- A stream of sound reads ends with the digest of the bytes delivered, in one piece. -/
theorem stream_of_sound {reads : List Read} (hsound : ∀ read ∈ beforeEnd reads, read.IsSound)
    (verbose : Bool) (path : String) :
    let run := stream verbose Engine.sha256 path (.start .start) reads
    run.result = .ok (some (Sha256.digest (delivered reads)), (delivered reads).length) ∧
      run.log = [] := by
  obtain ⟨later, reported, happ, hfinds⟩ := exists_findsEnd reads
  obtain ⟨q, hrow, hq⟩ := turns_of_sound hsound (fun _ h => isEnd_of_mem_beforeEnd h)
    Progress.start_standsAt
  rw [List.nil_append] at hq
  have hdigest : q.context.finish = Sha256.digest (delivered reads) := by
    rw [hq.context]
    exact Sha256.Context.finish_update_start _
  have htotal : q.total = (delivered reads).length := hq.total
  rw [happ, stream_turns hrow, stream_of_findsEnd hfinds, ← happ]
  simp [Progress.finish, Engine.sha256, hdigest, htotal]

/-- A run over sound reads comes to the digest of the bytes delivered and their number, as far as that
can be announced. -/
theorem result_hashFile_eq_announce {reads : List Read}
    (hsound : ∀ read ∈ beforeEnd reads, read.IsSound) (verbose : Bool) (path : String) :
    (hashFile verbose Engine.sha256 ⟨none, reads, none⟩ path).result =
      (announce verbose (.hashed path (delivered reads).length)
        (.ok ⟨Sha256.digest (delivered reads), (delivered reads).length⟩)).1 := by
  have hrun : digestReads verbose Engine.sha256 path reads =
      ⟨.ok (some (Sha256.digest (delivered reads)), (delivered reads).length),
        .starting :: (stream verbose Engine.sha256 path (.start .start) reads).events, []⟩ := by
    obtain ⟨hresult, hlog⟩ := stream_of_sound hsound verbose path
    rw [← hresult, ← hlog]
    rfl
  simp [hashFile, hrun, closeAfter, conclude]

theorem result_hashFile_of_sound {reads : List Read}
    (hsound : ∀ read ∈ beforeEnd reads, read.IsSound) {verbose : Bool}
    (hsaid : verbose = true → Decimal.isWritable (delivered reads).length = true) (path : String) :
    (hashFile verbose Engine.sha256 ⟨none, reads, none⟩ path).result =
      .ok ⟨Sha256.digest (delivered reads), (delivered reads).length⟩ := by
  have hsaid' :
      (verbose && !Notice.isWritable (.hashed path (delivered reads).length)) = false := by
    cases verbose with
    | false => rfl
    | true => simpa [Notice.isWritable] using hsaid rfl
  rw [result_hashFile_eq_announce hsound]
  simp [announce, hsaid']

/-- **A sound file is hashed as a whole.** The digest is that of the bytes delivered before the end,
whatever stands in the rest of the buffer, and the count is their number. So how the reads cut the
bytes up makes no difference, and neither does anything after the read that finds the end.

The count has no bound. Only a verbose run has one: it ends by putting the count into words. -/
theorem hashFile_sha256_of_sound {reads : List Read}
    (hsound : ∀ read ∈ beforeEnd reads, read.IsSound) {verbose : Bool}
    (hsaid : verbose = true → Decimal.isWritable (delivered reads).length = true) (path : String) :
    let hash (reads : List Read) := hashFile verbose Engine.sha256 ⟨none, reads, none⟩ path
    (hash reads).result = .ok ⟨Sha256.digest (delivered reads), (delivered reads).length⟩ ∧
      (∀ other, (∀ read ∈ beforeEnd other, read.IsSound) → delivered other = delivered reads →
        (hash other).result = (hash reads).result) ∧
      ∀ last later, last.isEnd = true →
        hash (beforeEnd reads ++ last :: later) = hash (beforeEnd reads ++ [last]) := by
  intro hash
  refine ⟨result_hashFile_of_sound hsound hsaid path, ?_, ?_⟩
  · intro other hother hsame
    have hsaid' : verbose = true → Decimal.isWritable (delivered other).length = true := by
      rwa [hsame]
    rw [show (hash other).result = _ from result_hashFile_of_sound hother hsaid' path,
      show (hash reads).result = _ from result_hashFile_of_sound hsound hsaid path, hsame]
  · intro last later hlast
    have hstream := stream_append_of_isEnd verbose Engine.sha256 path (.start .start) hlast
      (beforeEnd reads) later []
    simp only [hash, hashFile, digestReads, Engine.sha256] at hstream ⊢
    rw [hstream]

/-- A short read after a longer one, in a verbose run, and a failing read after the end. -/
theorem hashFile_sha256_abcde :
    let reads : List Read := [.delivered [97, 98, 99] (some 3), .delivered [100, 101] (some 2),
      .delivered [] none, .failed (.runtime "late")]
    (hashFile true Engine.sha256 ⟨none, reads, none⟩ "f").result =
      .ok ⟨Sha256.digest [97, 98, 99, 100, 101], 5⟩ := by
  intro reads
  have hsound : ∀ read ∈ beforeEnd reads, read.IsSound := by
    simp [reads, beforeEnd, Read.isEnd, Read.IsSound, bufferSize]
  have hsaid : Decimal.isWritable (delivered reads).length = true := by
    simp [reads, delivered, beforeEnd, Read.isEnd, Read.written, Decimal.isWritable,
      Decimal.digitCount, Decimal.ofNat, Decimal.maxDigits]
  exact (hashFile_sha256_of_sound hsound (fun _ => hsaid) "f").1

end DigestRecord
