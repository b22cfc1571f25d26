import ReverseTunnel.Transport.Slot

/-!
# Put-back always fits

`restoreUnsent` puts back what a send or a write did not take of the bytes that were just read. It has a
fallback that appends them to the ring, which would **reorder** the stream. The fallback is never taken,
whatever state the ring is in: a read that asks for no more than the prepend buffer holds leaves room for
what it returned, whether it drained the prepend buffer in part, exactly, or went on into the ring.
-/

namespace ReverseTunnel

/-- A call of a ring. -/
inductive RingOp where
  /-- `write` -/
  | write (data : List UInt8)
  /-- `writeToFront` -/
  | writeToFront (data : List UInt8)
  /-- `read`, with the size that the ring hands out at most. -/
  | read (len cut : ℕ)
  /-- `clear`, with the sizes that the ring hands out at most. -/
  | clear (cuts : ℕ → ℕ)

namespace DataRingBuffer

/-- What a call leaves of the ring. -/
def call (b : DataRingBuffer) : RingOp → DataRingBuffer
  | .write data => (b.write data).2
  | .writeToFront data => (b.writeToFront data).2
  | .read len cut => (b.read len cut).2
  | .clear cuts => b.clear cuts

/-- A ring after calls, the last one first. `ok` says whether its allocations were made. -/
def calls (capacity prependCap : ℕ) (ok : Bool) : List RingOp → DataRingBuffer
  | [] => create capacity prependCap ok
  | op :: before => (calls capacity prependCap ok before).call op

theorem sameShape_call (b : DataRingBuffer) (op : RingOp) : SameShape b (b.call op) := by
  cases op with
  | write data => exact b.sameShape_write data
  | writeToFront data => exact sameShape_writeToFront data
  | read len cut => exact b.sameShape_read len cut
  | clear cuts => exact sameShape_clear cuts

/-- No call changes the size of the prepend buffer. -/
theorem prependCap_calls {capacity prependCap : ℕ} {ok : Bool} (ops : List RingOp)
    (hs : (calls capacity prependCap ok ops).handle.isSome = true) :
    (calls capacity prependCap ok ops).prepend.cap = prependCap := by
  induction ops with
  | nil =>
    rw [calls, handle_isSome_create] at hs
    rw [calls, hs]
    exact prependCap_create capacity prependCap
  | cons op before ih =>
    have hshape := sameShape_call (calls capacity prependCap ok before) op
    rw [calls, hshape.prependCap]
    exact ih (hshape.handle ▸ hs)

end DataRingBuffer

/-- **Put-back always fits**, in every state that a ring can be in: the bytes from `k` on go back to the
front, all of them, the fallback is not taken, and what the ring holds then is what it held without the
first `k` bytes. -/
theorem put_back_fits (capacity prependCap : ℕ) (ok : Bool) (ops : List RingOp) {n k : ℕ} (cut : ℕ)
    (hn : n ≤ prependCap) :
    let b := DataRingBuffer.calls capacity prependCap ok ops
    let data := (b.read n cut).1.drop k
    k ≤ (b.read n cut).1.length →
      (data ≠ [] → ((b.read n cut).2.writeToFront data).1 = data.length) ∧
        restoreUnsent (b.read n cut).2 data =
          (if data = [] then (0, (b.read n cut).2) else (b.read n cut).2.writeToFront data) ∧
        (restoreUnsent (b.read n cut).2 data).1 = data.length ∧
        (restoreUnsent (b.read n cut).2 data).2.content = b.content.drop k := by
  intro b data hk
  have happend := b.drop_read_append hk
  by_cases hempty : data = []
  · have hrestore : restoreUnsent (b.read n cut).2 data = (0, (b.read n cut).2) := by
      rw [restoreUnsent, hempty]
      rfl
    rw [hrestore, if_pos hempty]
    refine ⟨fun hne ↦ absurd hempty hne, rfl, ?_, ?_⟩
    · rw [hempty]
      rfl
    · rw [← happend]
      show _ = data ++ _
      rw [hempty, List.nil_append]
  · -- Something was read, so the ring exists and its prepend buffer has its size.
    have hs : b.handle.isSome = true := by
      refine b.isSome_of_content_ne_nil fun hc ↦ hempty ?_
      rw [hc, List.drop_nil] at happend
      exact (List.append_eq_nil_iff.1 happend).1
    have hcap : b.prepend.cap = prependCap := DataRingBuffer.prependCap_calls ops hs
    obtain ⟨hstored, hcontent⟩ := b.writeToFront_read (hcap ▸ hn) hk hempty
    have hrestore : restoreUnsent (b.read n cut).2 data = (b.read n cut).2.writeToFront data := by
      have hlen : data.length ≠ 0 := fun h ↦ hempty (List.length_eq_zero_iff.1 h)
      rw [restoreUnsent, if_neg hlen]
      exact if_pos hstored
    rw [hrestore, if_neg hempty]
    exact ⟨fun _ ↦ hstored, rfl, hstored, hcontent⟩

/-- A ring with two bytes in front of three. -/
def twoParts : List RingOp := [.writeToFront [1, 2], .write [3, 4, 5]]

/-- A read of both parts, of which only the first byte is taken. -/
theorem put_back_fits_twoParts :
    let b := DataRingBuffer.calls 16 8 true twoParts
    (b.read 4 9).1 = [1, 2, 3, 4] ∧
      (restoreUnsent (b.read 4 9).2 ((b.read 4 9).1.drop 1)).1 = 3 ∧
      (restoreUnsent (b.read 4 9).2 ((b.read 4 9).1.drop 1)).2.content = [2, 3, 4, 5] := by
  intro b
  have hread : (b.read 4 9).1 = [1, 2, 3, 4] := by decide
  have hk : 1 ≤ (b.read 4 9).1.length := by decide
  obtain ⟨-, -, hstored, hcontent⟩ := put_back_fits 16 8 true twoParts 9 (n := 4) (by decide) hk
  refine ⟨hread, ?_, ?_⟩
  · rw [hstored, hread]
    rfl
  · rw [hcontent]
    decide

end ReverseTunnel
