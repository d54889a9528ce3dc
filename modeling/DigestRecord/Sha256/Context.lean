import DigestRecord.Sha256.Basic

/-!
# SHA-256 piece by piece

A context takes in a message in pieces of any size and keeps less than a block of it. Bytes come in
one by one: a byte waits until its block is complete, and then the block is compressed. So feeding two
pieces one after the other is the same as feeding them joined (`update_append`).

Padding is fed through the same door as the message. What a context finishes with is the digest of the
message that went in, however it was cut up (`finish_update_start`).
-/

namespace DigestRecord

namespace Sha256

/-- A hash under way: the chaining value of the complete blocks, the bytes after them, newest
first, and how many bytes came in so far. -/
structure Context where
  state : State
  pending : List UInt8
  length : Nat
  deriving DecidableEq

namespace Context

/-- Nothing has come in yet. -/
def start : Context := ⟨State.start, [], 0⟩

/-- Takes in one byte. The last byte of a block has the block compressed. -/
def absorb (c : Context) (b : UInt8) : Context :=
  if c.length % blockSize = blockSize - 1 then
    ⟨c.state.compress (b :: c.pending).reverse, [], c.length + 1⟩
  else
    ⟨c.state, b :: c.pending, c.length + 1⟩

/-- Takes in a piece of the message. -/
def update (c : Context) (bs : List UInt8) : Context := bs.foldl absorb c

/-- The digest of what a context took in. -/
def finish (c : Context) : List UInt8 := (c.update (padding c.length)).state.toBytes

@[simp] theorem update_nil (c : Context) : c.update [] = c := rfl

/-- Where a message is cut does not matter. -/
@[simp] theorem update_append (c : Context) (as bs : List UInt8) :
    c.update (as ++ bs) = (c.update as).update bs := List.foldl_append

@[simp] theorem length_finish (c : Context) : c.finish.length = digestSize :=
  State.length_toBytes _

/-! ## What a context stands for -/

/-- A context stands for the bytes that it took in: whole blocks of them are in its chaining value,
and the rest of them, less than a block, are waiting. -/
structure StandsFor (c : Context) (bs : List UInt8) : Prop where
  state : ∃ whole, bs = whole ++ c.pending.reverse ∧ whole.length % blockSize = 0 ∧
    c.state = (blocks whole).foldl State.compress State.start
  pending : c.pending.length < blockSize
  length : c.length = bs.length

theorem start_standsFor : start.StandsFor [] :=
  ⟨⟨[], rfl, rfl, by rw [blocks_of_lt (by decide)]; rfl⟩, by decide, rfl⟩

theorem StandsFor.absorb {c : Context} {bs : List UInt8} (h : c.StandsFor bs) (b : UInt8) :
    (c.absorb b).StandsFor (bs ++ [b]) := by
  obtain ⟨⟨whole, hbs, hmod, hstate⟩, hpending, hlength⟩ := h
  have hsum : c.length = whole.length + c.pending.length := by
    rw [hlength, hbs, List.length_append, List.length_reverse]
  unfold Context.absorb
  split
  · rename_i hlast
    have hfull : (b :: c.pending).reverse.length = blockSize := by
      rw [List.length_reverse, List.length_cons]
      simp only [blockSize] at *
      omega
    refine ⟨⟨whole ++ (b :: c.pending).reverse, ?_, ?_, ?_⟩, ?_, ?_⟩
    · rw [hbs, List.reverse_cons, List.reverse_nil, List.append_nil, List.append_assoc]
    · rw [List.length_append, hfull, Nat.add_mod_right, hmod]
    · rw [blocks_append hmod, blocks_singleton hfull, List.foldl_append, ← hstate]
      rfl
    · exact Nat.zero_lt_succ _
    · rw [hlength, List.length_append]
      rfl
  · rename_i hlast
    refine ⟨⟨whole, ?_, hmod, hstate⟩, ?_, ?_⟩
    · rw [hbs, List.reverse_cons, List.append_assoc]
    · rw [List.length_cons]
      simp only [blockSize] at *
      omega
    · rw [hlength, List.length_append]
      rfl

theorem StandsFor.update {c : Context} {as : List UInt8} (h : c.StandsFor as) (bs : List UInt8) :
    (c.update bs).StandsFor (as ++ bs) := by
  induction bs generalizing c as with
  | nil => rwa [List.append_nil]
  | cons b bs ih =>
    have := ih (h.absorb b)
    rwa [List.append_assoc] at this

/-- The digest does not show how the message was cut up. -/
theorem finish_update_start (message : List UInt8) :
    (start.update message).finish = digest message := by
  have h := start_standsFor.update message
  rw [List.nil_append] at h
  have hp := h.update (padding message.length)
  obtain ⟨⟨whole, hbs, hmod, hstate⟩, hpending, -⟩ := hp
  have hlen : message.length + (padding message.length).length =
      whole.length + (((start.update message).update (padding message.length)).pending).length := by
    have := congrArg List.length hbs
    rwa [List.length_append, List.length_append, List.length_reverse] at this
  have hnone : (((start.update message).update (padding message.length)).pending) = [] := by
    have := length_padded_mod message.length
    rw [hlen] at this
    rw [← List.length_eq_zero_iff]
    simp only [blockSize] at *
    omega
  rw [hnone, List.reverse_nil, List.append_nil] at hbs
  unfold finish digest
  rw [h.length, hstate, hbs]

end Context

end Sha256

end DigestRecord
