import ReverseTunnel.Buffer.PrependBuffer

/-!
# The array behind the prepend buffer

Whatever is done with a prepend buffer, in whatever order, its positions are `off ≤ len ≤ cap`, every
block that is copied lies in the array, and the cells from `off` to `len` hold the **list** that the
calls make: accepted writes are put in front of it, and reads take from its front. A call of
`PrependOp` is one of the functions of the class; `hold` is what it does to the list.
-/

namespace ReverseTunnel

open Blit

/-- A call. Storage is handed over with its size, or there is none. -/
inductive PrependOp where
  /-- `reset(storage, capacity)` -/
  | reset (storage : List UInt8)
  /-- `reset(nullptr, capacity)` -/
  | unbind (capacity : ℕ)
  /-- `writeToFront` -/
  | writeToFront (data : List UInt8)
  /-- `read` -/
  | read (len : ℕ)
  /-- `clear` -/
  | clear

namespace PrependBuffer

/-- What a call leaves of the buffer. -/
def call (b : PrependBuffer) : PrependOp → PrependBuffer
  | .reset storage => reset (some storage) storage.length
  | .unbind capacity => reset none capacity
  | .writeToFront data => (b.writeToFront data).2
  | .read len => (b.read len).2
  | .clear => b.clear

/-- What a call makes of a list: an accepted write goes in front of it, and what was read is gone. -/
def hold (b : PrependBuffer) (held : List UInt8) : PrependOp → List UInt8
  | .reset _ => []
  | .unbind _ => []
  | .writeToFront data => if (b.writeToFront data).1 = 0 then held else data ++ held
  | .read len => held.drop (b.read len).1.length
  | .clear => []

/-- The buffer after calls, and the list they make. -/
def calls : List PrependOp → PrependBuffer × List UInt8
  | [] => ({}, [])
  | op :: before => ((calls before).1.call op, (calls before).1.hold (calls before).2 op)

/-- Bound to its storage and well formed, or unbound and empty, with whatever capacity. -/
def Laid (b : PrependBuffer) : Prop := b.WF ∨ b.buf = none ∧ b.len = 0 ∧ b.off = 0

section Calls

variable {b : PrependBuffer} {data : List UInt8}

theorem Laid.tight (h : b.Laid) : b.off < b.len ∨ b.len = 0 ∧ b.off = 0 := by
  rcases h with h | ⟨-, h⟩
  · exact h.tight
  · exact .inr h

theorem Laid.len_le (h : b.Laid) : b.len ≤ b.cap := by
  rcases h with h | ⟨-, h, -⟩
  · exact h.len_le
  · rw [h]
    exact Nat.zero_le _

theorem Laid.storage (h : b.Laid) : ∀ s ∈ b.buf, s.length = b.cap := by
  rcases h with h | ⟨h, -⟩
  · exact h.storage
  · intro s hs
    rw [h] at hs
    exact absurd hs (Option.not_mem_none s)

theorem Laid.pending_le (h : b.Laid) : b.pending ≤ b.cap := by
  have hlen := h.len_le
  rw [pending_eq]
  omega

/-- A write is refused exactly when nothing can be stored, and then nothing changes. -/
theorem writeToFront_zero_iff :
    (b.writeToFront data).1 = 0 ↔ b.buf = none ∨ data = [] ∨ b.cap < b.pending + data.length := by
  constructor
  · intro hzero
    by_contra hrej
    obtain ⟨hbound, hne, hfit⟩ := (not_or.trans (and_congr_right' not_or)).1 hrej
    obtain ⟨s, hs⟩ := Option.ne_none_iff_exists'.1 hbound
    rw [writeToFront_accept hs hne (by omega)] at hzero
    exact hne (List.length_eq_zero_iff.1 hzero)
  · intro hrej
    rw [writeToFront_reject hrej]

theorem writeToFront_of_zero (h : (b.writeToFront data).1 = 0) : (b.writeToFront data).2 = b := by
  rw [writeToFront_reject (writeToFront_zero_iff.1 h)]

/-- Nothing can be read without storage. -/
theorem read_unbound (h : b.buf = none) (len : ℕ) : b.read len = ([], b) := by
  rw [PrependBuffer.read, h]

/-- **One call** keeps the positions, and does to the cells what it does to the list. -/
theorem Laid.call {held : List UInt8} (h : b.Laid) (hheld : b.pendingBytes = held) (op : PrependOp) :
    (b.call op).Laid ∧ (b.call op).pendingBytes = b.hold held op := by
  cases op with
  | reset storage => exact ⟨.inl (wf_reset storage), pendingBytes_reset ..⟩
  | unbind capacity => exact ⟨.inr ⟨rfl, rfl, rfl⟩, pendingBytes_reset ..⟩
  | writeToFront data =>
    by_cases hzero : (b.writeToFront data).1 = 0
    · show (b.writeToFront data).2.Laid ∧ (b.writeToFront data).2.pendingBytes = _
      rw [writeToFront_of_zero hzero, hold, if_pos hzero]
      exact ⟨h, hheld⟩
    · have haccept := mt writeToFront_zero_iff.2 hzero
      obtain ⟨hbound, hne, hfit⟩ := (not_or.trans (and_congr_right' not_or)).1 haccept
      have hwf : b.WF := h.resolve_right fun hunbound ↦ hbound hunbound.1
      rw [hold, if_neg hzero, ← hheld]
      exact ⟨.inl (hwf.writeToFront data),
        (hwf.pendingBytes_writeToFront hbound hne (by omega)).2⟩
  | read len =>
    show (b.read len).2.Laid ∧ (b.read len).2.pendingBytes = held.drop (b.read len).1.length
    rcases h with h | ⟨hunbound, hpos⟩
    · refine ⟨.inl (h.read len), ?_⟩
      rw [(h.read_spec len).1, (h.read_spec len).2, hheld, List.length_take]
      exact List.drop_eq_drop_min
    · rw [read_unbound hunbound]
      exact ⟨.inr ⟨hunbound, hpos⟩, hheld⟩
  | clear =>
    refine ⟨?_, pendingBytes_clear b⟩
    rcases h with h | ⟨hunbound, -⟩
    · exact .inl h.clear
    · exact .inr ⟨hunbound, rfl, rfl⟩

/-- **All calls**: the induction is on the calls, the last one first. -/
theorem calls_laid (ops : List PrependOp) :
    (calls ops).1.Laid ∧ (calls ops).1.pendingBytes = (calls ops).2 := by
  induction ops with
  | nil => exact ⟨.inl wf_default, rfl⟩
  | cons op before ih => exact ih.1.call ih.2 op

end Calls

/-- The buffer represents a list in its array. -/
structure Represents (b : PrependBuffer) (held : List UInt8) : Prop where
  /-- The positions are in order. -/
  off_le : b.off ≤ b.len
  /-- They are positions of the array. -/
  len_le : b.len ≤ b.cap
  /-- Something is pending, or the positions have started over. -/
  tight : b.off < b.len ∨ b.len = 0 ∧ b.off = 0
  /-- `cap_ - pending()` does not underflow. -/
  pending_le : b.pending ≤ b.cap
  /-- The array has its size, and the list is in the cells from `off` to `len`. -/
  cells : ∀ s ∈ b.buf, s.length = b.cap ∧ slice s b.off (b.len - b.off) = held
  /-- Without an array there is nothing. -/
  unbound : b.buf = none → held = []
  /-- What an accepted write moves, where it moves it and what it copies lie in the array. -/
  write_inside : ∀ s ∈ b.buf, ∀ data, (b.writeToFront data).1 ≠ 0 →
    b.off + b.pending ≤ s.length ∧ data.length + b.pending ≤ s.length
  /-- What a read copies lies in the array. -/
  read_inside : ∀ s ∈ b.buf, ∀ n, b.off + min (b.len - b.off) n ≤ s.length
  /-- A read returns the front of the list. -/
  read : ∀ n, (b.read n).1 = held.take n
  /-- A write is accepted if there is an array with room for it, and something to write. -/
  accepts : ∀ data, (b.writeToFront data).1 ≠ 0 ↔
    b.buf ≠ none ∧ data ≠ [] ∧ held.length + data.length ≤ b.cap
  /-- A write that is refused changes nothing. -/
  refused : ∀ data, (b.writeToFront data).1 = 0 → (b.writeToFront data).2 = b

/-- **The buffer represents the list that the calls make**, after any calls in any order. -/
theorem calls_represent (ops : List PrependOp) : Represents (calls ops).1 (calls ops).2 := by
  obtain ⟨hlaid, hheld⟩ := calls_laid ops
  have hlen := hlaid.len_le
  have htight := hlaid.tight
  have hoff : (calls ops).1.off ≤ (calls ops).1.len := by
    rcases htight with h | h <;> omega
  have hpending := pending_eq (calls ops).1
  have hlength : (calls ops).2.length = (calls ops).1.pending := by
    rw [← hheld]
    rcases hlaid with hwf | ⟨hunbound, hzero, -⟩
    · exact hwf.length_pendingBytes
    · rw [pendingBytes, hunbound, hpending]
      show 0 = _
      omega
  exact
    { off_le := hoff
      len_le := hlen
      tight := htight
      pending_le := hlaid.pending_le
      cells := by
        intro s hs
        refine ⟨hlaid.storage s hs, ?_⟩
        rw [← hheld, pendingBytes, Option.mem_def.1 hs]
      unbound := by
        intro hunbound
        rw [← hheld, pendingBytes, hunbound]
      write_inside := by
        intro s hs data haccept
        have hfit := (not_or.1 (not_or.1 (mt writeToFront_zero_iff.2 haccept)).2).2
        rw [hlaid.storage s hs]
        omega
      read_inside := by
        intro s hs n
        rw [hlaid.storage s hs]
        omega
      read := by
        intro n
        -- without a buffer both sides are empty
        rcases hlaid with hwf | ⟨hunbound, -⟩
        · rw [(hwf.read_spec n).1, hheld]
        · rw [read_unbound hunbound, ← hheld, pendingBytes, hunbound]
          show [] = List.take n []
          rw [List.take_nil]
      accepts := by
        intro data
        rw [Ne, writeToFront_zero_iff, not_or, not_or, Nat.not_lt, hlength]
      refused := fun data ↦ writeToFront_of_zero }

end PrependBuffer

end ReverseTunnel
