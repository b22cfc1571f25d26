import ReverseTunnel.Lib.Blit

/-!
# The prepend buffer

`PrependBuffer` holds bytes that must be read *before* the ring: what a partial write or an `EAGAIN`
gave back. It does not own its storage; `reset` binds it to an array of `cap` bytes (or to nothing),
and the pending bytes are the cells `off .. len`.

The operations work on the array as the code does, with an overlapping move and a copy. `WF` is the
representation invariant and `pendingBytes` what the buffer means; every operation keeps the first
and acts on the second as the deque it implements.
-/

namespace ReverseTunnel

open Blit

/-- The prepend buffer: its storage (`none` for an unbound one), the capacity, and the bounds of the
pending bytes. -/
structure PrependBuffer where
  /-- `buf_`: the storage, `none` while unbound. -/
  buf : Option (List UInt8) := none
  /-- `cap_`. -/
  cap : ℕ := 0
  /-- `len_`: end of the pending bytes. -/
  len : ℕ := 0
  /-- `off_`: start of the pending bytes. -/
  off : ℕ := 0

namespace PrependBuffer

/-- Bind to a backing storage, or to none; the read and write positions start over. -/
def reset (storage : Option (List UInt8)) (capacity : ℕ) : PrependBuffer :=
  { buf := storage, cap := capacity, len := 0, off := 0 }

/-- Number of bytes waiting to be read. -/
def pending (b : PrependBuffer) : ℕ := if b.len > b.off then b.len - b.off else 0

/-- Nothing is waiting to be read. -/
def empty (b : PrependBuffer) : Bool := b.len ≤ b.off

/-- Put `data` in front of what is pending. Returns the number of bytes stored: all of them, or `0`
when the buffer is unbound, `data` is empty or the two together exceed the capacity. -/
def writeToFront (b : PrependBuffer) (data : List UInt8) : ℕ × PrependBuffer :=
  match b.buf with
  | none => (0, b)
  | some storage =>
    if data.length = 0 then (0, b)
    else
      let pendingLen := b.pending
      if data.length > b.cap - pendingLen then (0, b)
      else
        let moved :=
          if pendingLen > 0 then blit storage data.length (slice storage b.off pendingLen)
          else storage
        (data.length,
          { b with buf := some (blit moved 0 data), len := data.length + pendingLen, off := 0 })

/-- Step over `copy` bytes; the positions start over once nothing is left. -/
def advance (b : PrependBuffer) (copy : ℕ) : PrependBuffer :=
  if b.off + copy ≥ b.len then { b with len := 0, off := 0 } else { b with off := b.off + copy }

/-- Read up to `len` bytes from the front. -/
def read (b : PrependBuffer) (len : ℕ) : List UInt8 × PrependBuffer :=
  match b.buf with
  | none => ([], b)
  | some storage =>
    if len = 0 ∨ b.len ≤ b.off then ([], b)
    else
      let copy := min (b.len - b.off) len
      (slice storage b.off copy, b.advance copy)

/-- Forget what is pending. -/
def clear (b : PrependBuffer) : PrependBuffer := { b with len := 0, off := 0 }

/-- What the buffer means: the bytes waiting to be read, first one first. -/
def pendingBytes (b : PrependBuffer) : List UInt8 :=
  match b.buf with
  | none => []
  | some storage => slice storage b.off (b.len - b.off)

/-- The representation invariant. -/
structure WF (b : PrependBuffer) : Prop where
  /-- The storage has the announced size. -/
  storage : ∀ s ∈ b.buf, s.length = b.cap
  /-- An unbound buffer has no capacity. -/
  unbound : b.buf = none → b.cap = 0
  /-- The pending bytes lie inside the storage. -/
  len_le : b.len ≤ b.cap
  /-- Positions never point past the end, and are reset as soon as nothing is pending. -/
  tight : b.off < b.len ∨ b.len = 0 ∧ b.off = 0

theorem wf_default : ({} : PrependBuffer).WF :=
  ⟨by simp, fun _ ↦ rfl, Nat.le_refl _, Or.inr ⟨rfl, rfl⟩⟩

theorem wf_reset (s : List UInt8) : (reset (some s) s.length).WF :=
  ⟨by simp [reset], by simp [reset], Nat.zero_le _, Or.inr ⟨rfl, rfl⟩⟩

@[simp] theorem pendingBytes_reset (s : Option (List UInt8)) (n : ℕ) :
    (reset s n).pendingBytes = [] := by
  cases s <;> simp [reset, pendingBytes, slice]

section

variable {b : PrependBuffer}

theorem pending_eq (b : PrependBuffer) : b.pending = b.len - b.off := by
  rw [pending]
  split <;> omega

theorem WF.len_eq_zero (h : b.WF) (hb : b.buf = none) : b.len = 0 := by
  have := h.len_le
  have := h.unbound hb
  omega

theorem WF.length_pendingBytes (h : b.WF) : b.pendingBytes.length = b.pending := by
  have hlen := h.len_le
  rw [pending_eq, pendingBytes]
  split
  · next hb => simp [h.len_eq_zero hb]
  · next s hb =>
    have hs := h.storage s hb
    exact length_slice (by rcases h.tight with ht | ht <;> omega)

theorem WF.pending_le (h : b.WF) : b.pending ≤ b.cap := by
  have := h.len_le
  rw [pending_eq]
  omega

theorem WF.empty_iff (h : b.WF) : b.empty = true ↔ b.pendingBytes = [] := by
  rw [← List.length_eq_zero_iff, h.length_pendingBytes, pending_eq, empty, decide_eq_true_iff]
  omega

/-! ### Writing to the front -/

/-- A write is rejected exactly when it is empty or does not fit; then nothing changes. -/
theorem writeToFront_reject {data : List UInt8}
    (hrej : b.buf = none ∨ data = [] ∨ b.cap < b.pending + data.length) :
    b.writeToFront data = (0, b) := by
  rw [writeToFront]
  split
  · rfl
  · next s hs =>
    split
    · rfl
    · next hne =>
      simp only
      split
      · rfl
      · next hfit =>
        rcases hrej with h | h | h
        · rw [hs] at h; exact absurd h (by simp)
        · exact absurd (congrArg List.length h) hne
        · omega

/-- The shape of an accepted write. -/
theorem writeToFront_accept {data s : List UInt8} (hs : b.buf = some s) (hne : data ≠ [])
    (hfit : b.pending + data.length ≤ b.cap) :
    b.writeToFront data =
      (data.length,
        { b with
          buf := some (blit
            (if b.pending > 0 then blit s data.length (slice s b.off b.pending) else s) 0 data),
          len := data.length + b.pending, off := 0 }) := by
  have hlen : data.length ≠ 0 := fun h ↦ hne (List.length_eq_zero_iff.1 h)
  rw [writeToFront, hs]
  simp only [hlen, if_false]
  rw [if_neg (by omega)]

variable {data : List UInt8}

/-- An accepted write puts its bytes before the pending ones. -/
theorem WF.pendingBytes_writeToFront (h : b.WF) (hbound : b.buf ≠ none) (hne : data ≠ [])
    (hfit : b.pending + data.length ≤ b.cap) :
    (b.writeToFront data).1 = data.length ∧
      (b.writeToFront data).2.pendingBytes = data ++ b.pendingBytes := by
  obtain ⟨s, hs⟩ := Option.ne_none_iff_exists'.1 hbound
  have hslen := h.storage s hs
  rw [writeToFront_accept hs hne hfit]
  refine ⟨rfl, ?_⟩
  have hpend : b.pendingBytes = slice s b.off b.pending := by
    rw [pendingBytes, hs, pending_eq]
  have hplen : (slice s b.off b.pending).length = b.pending := by
    rw [← hpend, h.length_pendingBytes]
  rw [hpend]
  simp only [pendingBytes, Nat.sub_zero]
  by_cases hp : b.pending > 0
  · rw [if_pos hp]
    have := slice_blit_blit s data (slice s b.off b.pending) (by omega)
    rwa [hplen] at this
  · have hp0 : b.pending = 0 := by omega
    rw [if_neg hp, hp0, blit_zero, slice, List.drop_zero, Nat.add_zero, List.take_left, slice,
      List.take_zero, List.append_nil]

theorem WF.writeToFront (h : b.WF) (data : List UInt8) : (b.writeToFront data).2.WF := by
  by_cases hrej : b.buf = none ∨ data = [] ∨ b.cap < b.pending + data.length
  · rw [writeToFront_reject hrej]; exact h
  · rw [not_or, not_or] at hrej
    obtain ⟨hbound, hne, hfit⟩ := hrej
    obtain ⟨s, hs⟩ := Option.ne_none_iff_exists'.1 hbound
    have hslen := h.storage s hs
    have hpos : 0 < data.length := List.length_pos_iff.2 hne
    have hplen : (slice s b.off b.pending).length = b.pending :=
      length_slice (by have := h.len_le; rw [pending_eq]; rcases h.tight with ht | ht <;> omega)
    rw [writeToFront_accept hs hne (by omega)]
    refine ⟨?_, fun hn ↦ by simp at hn, by simp only; omega, Or.inl (by simp only; omega)⟩
    intro s' hs'
    simp only [Option.mem_def, Option.some.injEq] at hs'
    rw [← hs']
    have hmid : (if b.pending > 0 then blit s data.length (slice s b.off b.pending)
        else s).length = s.length := by
      split
      · exact length_blit (by omega)
      · rfl
    rw [length_blit (by omega), hmid, hslen]

@[simp] theorem cap_writeToFront (b : PrependBuffer) (data : List UInt8) :
    (b.writeToFront data).2.cap = b.cap := by
  rw [PrependBuffer.writeToFront]
  split
  · rfl
  · split
    · rfl
    · simp only
      split <;> rfl

@[simp] theorem buf_isNone_writeToFront (b : PrependBuffer) (data : List UInt8) :
    (b.writeToFront data).2.buf = none ↔ b.buf = none := by
  rw [PrependBuffer.writeToFront]
  split
  · next hb => simp [hb]
  · next s hb =>
    split
    · simp [hb]
    · simp only
      split <;> simp [hb]

/-! ### Reading -/

@[simp] theorem cap_advance (b : PrependBuffer) (n : ℕ) : (b.advance n).cap = b.cap := by
  rw [advance]
  split <;> rfl

@[simp] theorem buf_advance (b : PrependBuffer) (n : ℕ) : (b.advance n).buf = b.buf := by
  rw [advance]
  split <;> rfl

theorem WF.advance (h : b.WF) (n : ℕ) : (b.advance n).WF := by
  rw [PrependBuffer.advance]
  split
  · exact ⟨h.storage, h.unbound, Nat.zero_le _, Or.inr ⟨rfl, rfl⟩⟩
  · next hlt => exact ⟨h.storage, h.unbound, h.len_le, Or.inl (by simp only; omega)⟩

/-- Stepping over pending bytes drops them. -/
theorem pendingBytes_advance (b : PrependBuffer) (n : ℕ) :
    (b.advance n).pendingBytes = b.pendingBytes.drop n := by
  rcases hb : b.buf with - | s
  · simp [pendingBytes, hb]
  · have hdrop : (slice s b.off (b.len - b.off)).drop n =
        slice s (b.off + n) (b.len - (b.off + n)) := by
      rw [slice, slice, List.drop_take, List.drop_drop]
      congr 1
      omega
    simp only [pendingBytes, buf_advance, hb]
    rw [hdrop, PrependBuffer.advance]
    split
    · next hend =>
      have hz : b.len - (b.off + n) = 0 := by omega
      rw [hz]
      simp [slice]
    · rfl

/-- A read returns a prefix of the pending bytes and leaves the rest. -/
theorem WF.read_spec (h : b.WF) (len : ℕ) :
    (b.read len).1 = b.pendingBytes.take len ∧
      (b.read len).2.pendingBytes = b.pendingBytes.drop len := by
  rw [PrependBuffer.read]
  split
  · next hb => simp [pendingBytes, hb]
  · next s hb =>
    have hpend : b.pendingBytes = slice s b.off (b.len - b.off) := by rw [pendingBytes, hb]
    have hpl := h.length_pendingBytes
    rw [pending_eq] at hpl
    split
    · next hz =>
      rcases hz with rfl | hz
      · simp
      · have hnil : b.pendingBytes = [] := List.length_eq_zero_iff.1 (by omega)
        simp [hnil]
    · constructor
      · rw [hpend]
        simp only [slice, List.take_take, Nat.min_comm]
      · rw [pendingBytes_advance]
        rcases Nat.le_total (b.len - b.off) len with hle | hle
        · rw [Nat.min_eq_left hle, List.drop_eq_nil_of_le (by omega),
            List.drop_eq_nil_of_le (by omega)]
        · rw [Nat.min_eq_right hle]

theorem WF.read (h : b.WF) (len : ℕ) : (b.read len).2.WF := by
  rw [PrependBuffer.read]
  split
  · exact h
  · split
    · exact h
    · exact h.advance _

@[simp] theorem cap_read (b : PrependBuffer) (len : ℕ) : (b.read len).2.cap = b.cap := by
  rw [PrependBuffer.read]
  split
  · rfl
  · split
    · rfl
    · exact cap_advance b _

@[simp] theorem buf_read (b : PrependBuffer) (len : ℕ) : (b.read len).2.buf = b.buf := by
  rw [PrependBuffer.read]
  split
  · rfl
  · split
    · rfl
    · exact buf_advance b _

/-! ### Clearing -/

theorem WF.clear (h : b.WF) : b.clear.WF :=
  ⟨h.storage, h.unbound, Nat.zero_le _, Or.inr ⟨rfl, rfl⟩⟩

@[simp] theorem pendingBytes_clear (b : PrependBuffer) : b.clear.pendingBytes = [] := by
  rw [PrependBuffer.clear, pendingBytes]
  split <;> simp [slice]

end

end PrependBuffer

end ReverseTunnel
