import ReverseTunnel.Buffer.DataRingBuffer
import ReverseTunnel.Lib.Refinement

/-!
# The data ring is one queue

Two stores of different capacities, one of which is read first, written to in front and refused when it
is full, the other appended to as far as it goes: to its user a `DataRingBuffer` is **one** sequence of
bytes. `Deque` is that sequence, with the place where the first store ends, which nothing but the two
limits depends on. Every run of the ring is a run of the deque, in which a `read` may stop short but
never returns nothing while there is something to read.
-/

namespace ReverseTunnel

open Refinement

/-! ### The queue -/

/-- An operation of the ring. -/
inductive BufferOp where
  /-- `write` -/
  | write (data : List UInt8)
  /-- `writeToFront` -/
  | writeToFront (data : List UInt8)
  /-- `read` of up to `len` bytes -/
  | read (len : ℕ)
  /-- `clear` -/
  | clear

/-- What an operation returns. -/
inductive BufferAns where
  /-- A number of bytes that were stored. -/
  | stored (n : ℕ)
  /-- The bytes that were read. -/
  | bytes (bs : List UInt8)
  /-- Nothing. -/
  | done

/-- A sequence of bytes in two parts. -/
structure Deque where
  /-- What was put back. -/
  front : List UInt8 := []
  /-- What was appended. -/
  back : List UInt8 := []

/-- The bytes, the next one to be read first. -/
def Deque.content (q : Deque) : List UInt8 := q.front ++ q.back

/-- What a byte queue does that has room for `capacity` appended bytes and for `prependCap` bytes that
were put back. -/
inductive Deque.Step (capacity prependCap : ℕ) : Deque → BufferOp → BufferAns → Deque → Prop
  /-- The longest prefix that fits is appended. -/
  | write (q : Deque) (data : List UInt8) :
    Step capacity prependCap q (.write data)
      (.stored (min data.length (capacity - q.back.length)))
      { q with back := q.back ++ data.take (capacity - q.back.length) }
  /-- What fits is put back whole. -/
  | putBack (q : Deque) {data : List UInt8} (hne : data ≠ [])
      (hfit : q.front.length + data.length ≤ prependCap) :
    Step capacity prependCap q (.writeToFront data) (.stored data.length)
      { q with front := data ++ q.front }
  /-- What does not fit is not put back at all. -/
  | refuse (q : Deque) {data : List UInt8}
      (h : data = [] ∨ prependCap < q.front.length + data.length) :
    Step capacity prependCap q (.writeToFront data) (.stored 0) q
  /-- A prefix is taken out; not an empty one, if there is something and something was asked for. -/
  | read (q : Deque) {len n : ℕ} (hlen : n ≤ len) (hall : n ≤ q.content.length)
      (hpos : 0 < len → q.content ≠ [] → 0 < n) :
    Step capacity prependCap q (.read len) (.bytes (q.content.take n))
      ⟨q.front.drop n, q.back.drop (n - q.front.length)⟩
  /-- Everything goes. -/
  | clear (q : Deque) : Step capacity prependCap q .clear .done {}

/-- The queue as a system. -/
def Deque.system (capacity prependCap : ℕ) : System BufferOp BufferAns Deque :=
  ⟨Deque.Step capacity prependCap⟩

/-! ### The ring -/

/-- The ring as a system: where the ring wraps is left open. -/
inductive DataRingBuffer.Step : DataRingBuffer → BufferOp → BufferAns → DataRingBuffer → Prop
  /-- `write` -/
  | write (b : DataRingBuffer) (data : List UInt8) :
    Step b (.write data) (.stored (b.write data).1) (b.write data).2
  /-- `writeToFront` -/
  | writeToFront (b : DataRingBuffer) (data : List UInt8) :
    Step b (.writeToFront data) (.stored (b.writeToFront data).1) (b.writeToFront data).2
  /-- `read` -/
  | read (b : DataRingBuffer) (len cut : ℕ) :
    Step b (.read len) (.bytes (b.read len cut).1) (b.read len cut).2
  /-- `clear` -/
  | clear (b : DataRingBuffer) (cuts : ℕ → ℕ) : Step b .clear .done (b.clear cuts)

/-- The ring as a system. -/
def DataRingBuffer.system : System BufferOp BufferAns DataRingBuffer := ⟨DataRingBuffer.Step⟩

/-- The queue a ring stands for. -/
def DataRingBuffer.deque (b : DataRingBuffer) : Deque :=
  ⟨b.prepend.pendingBytes, b.handle.getD []⟩

namespace DataRingBuffer

variable {b : DataRingBuffer} {capacity prependCap : ℕ}

/-- The ring exists and is of this make. -/
structure Made (capacity prependCap : ℕ) (b : DataRingBuffer) : Prop where
  /-- All its memory could be allocated. -/
  isSome : b.handle.isSome = true
  /-- Its capacity. -/
  capacity : b.capacity = capacity
  /-- The capacity of the prepend buffer. -/
  prependCap : b.prepend.cap = prependCap

theorem made_create : Made capacity prependCap (create capacity prependCap true) :=
  ⟨rfl, rfl, rfl⟩

theorem Made.of_sameShape {b' : DataRingBuffer} (h : Made capacity prependCap b)
    (hs : SameShape b b') : Made capacity prependCap b' :=
  ⟨hs.handle.trans h.isSome, hs.capacity.trans h.capacity, hs.prependCap.trans h.prependCap⟩

theorem Made.available_eq (h : Made capacity prependCap b) :
    b.available = capacity - b.deque.back.length := by
  obtain ⟨ring, hring⟩ := Option.isSome_iff_exists.1 h.isSome
  rw [DataRingBuffer.available_eq b hring, h.capacity, deque, hring, Option.getD_some]

theorem length_front (b : DataRingBuffer) : b.deque.front.length = b.prepend.pending :=
  b.prepend_wf.length_pendingBytes

theorem deque_read (len cut : ℕ) {n : ℕ} (hn : n ≤ b.content.length)
    (hread : (b.read len cut).1 = b.content.take n) :
    (b.read len cut).2.deque =
      ⟨b.deque.front.drop n, b.deque.back.drop (n - b.deque.front.length)⟩ := by
  obtain ⟨hfront, hback⟩ := b.read_parts len cut
  have hlen : (b.read len cut).1.length = n := by
    rw [hread, List.length_take, Nat.min_eq_left hn]
  rw [hlen] at hfront hback
  rw [deque, hfront, hback]
  rfl

/-- A step of the ring is a step of the queue. -/
theorem Made.step {op : BufferOp} {ans : BufferAns} {b' : DataRingBuffer}
    (h : Made capacity prependCap b) (hs : Step b op ans b') :
    Deque.Step capacity prependCap b.deque op ans b'.deque := by
  cases hs with
  | write data =>
    obtain ⟨ring, hring⟩ := Option.isSome_iff_exists.1 h.isSome
    obtain ⟨hcount, hhandle, hprepend, -⟩ := b.write_of_handle data hring
    have hback : b.deque.back = ring := by rw [deque, hring, Option.getD_some]
    rw [hcount, h.capacity, ← hback]
    have hdeque : (b.write data).2.deque =
        { b.deque with back := b.deque.back ++ data.take (capacity - b.deque.back.length) } := by
      rw [deque, hhandle, hprepend, hback, h.capacity, Option.getD_some]
      rfl
    rw [hdeque]
    exact .write b.deque data
  | writeToFront data =>
    by_cases hrej : data = [] ∨ b.prepend.cap < b.prepend.pending + data.length
    · rw [writeToFront_reject hrej]
      rw [h.prependCap, ← length_front] at hrej
      exact .refuse b.deque hrej
    · rw [not_or, Nat.not_lt] at hrej
      obtain ⟨hne, hfit⟩ := hrej
      have hbound : b.prepend.buf ≠ none := by
        rw [Ne, b.bound, ← Option.not_isSome_iff_eq_none, not_not]
        exact h.isSome
      obtain ⟨hcount, hbytes⟩ := b.prepend_wf.pendingBytes_writeToFront hbound hne hfit
      rw [h.prependCap, ← length_front] at hfit
      have hdeque : (b.writeToFront data).2.deque =
          { b.deque with front := data ++ b.deque.front } := by
        rw [deque, handle_writeToFront]
        show Deque.mk ((b.prepend.writeToFront data).2.pendingBytes) _ = _
        rw [hbytes]
        rfl
      rw [hdeque, show (b.writeToFront data).1 = data.length from hcount]
      exact .putBack b.deque hne hfit
  | read len cut =>
    obtain ⟨n, hlen, hall, hpos, hread, -, -, -⟩ := b.read_spec len cut
    rw [deque_read len cut hall hread, hread]
    exact .read b.deque hlen hall hpos
  | clear cuts =>
    obtain ⟨hhandle, hbytes⟩ := clear_spec h.isSome cuts
    have hdeque : (b.clear cuts).deque = {} := by rw [deque, hhandle, hbytes]; rfl
    rw [hdeque]
    exact .clear b.deque

/-- The ring refines the queue. -/
def simulation (capacity prependCap : ℕ) :
    Simulation system (Deque.system capacity prependCap) where
  abs := deque
  inv := Made capacity prependCap
  keeps := by
    intro b op ans b' h hs
    refine h.of_sameShape ?_
    cases hs with
    | write data => exact sameShape_write b data
    | writeToFront data => exact sameShape_writeToFront data
    | read len cut => exact (b.read_spec len cut).choose_spec.2.2.2.2.2.1
    | clear cuts => exact sameShape_clear cuts
  step := fun h hs ↦ h.step hs

end DataRingBuffer

/-- **The data ring is one queue.** Whatever was done to a buffer that could be allocated, with these
answers: a byte queue could have given them, and holds what the buffer holds; `size`, `empty` and
`available` tell of it what they should; and the loop of `clear` ends, wherever the ring wraps. -/
theorem dataRingBuffer_refines_deque {capacity prependCap : ℕ} {b : DataRingBuffer}
    {l : List (BufferOp × BufferAns)}
    (h : DataRingBuffer.system.Run (.create capacity prependCap true) l b) :
    (Deque.system capacity prependCap).Run {} l b.deque ∧ b.content = b.deque.content ∧
      b.size = b.deque.content.length ∧ (b.empty = true ↔ b.deque.content = []) ∧
      b.available = capacity - b.deque.back.length ∧
      ∀ cuts, ∃ fuel, clearLoop capacity fuel cuts b.deque.back = some [] := by
  obtain ⟨hmade, hrun⟩ :=
    (DataRingBuffer.simulation capacity prependCap).run DataRingBuffer.made_create h
  refine ⟨?_, rfl, b.size_eq_length, b.empty_iff, hmade.available_eq,
    fun cuts ↦ ⟨b.deque.back.length + 1, ?_⟩⟩
  · have hempty : (DataRingBuffer.create capacity prependCap true).deque = {} := by
      rw [DataRingBuffer.deque]
      show Deque.mk (PrependBuffer.pendingBytes (.reset _ _)) [] = {}
      rw [PrependBuffer.pendingBytes_reset]
    rw [← hempty]
    exact hrun
  · obtain ⟨ring, hring⟩ := Option.isSome_iff_exists.1 hmade.isSome
    have hfits := b.fits ring hring
    rw [hmade.capacity] at hfits
    rw [DataRingBuffer.deque, hring]
    exact clearLoop_eq hfits (Nat.lt_succ_self _) cuts

/-- Three bytes are appended, one is read, since the ring wraps there, and put back. -/
def putBackBuffer : DataRingBuffer :=
  ((((DataRingBuffer.create 8 4 true).write [1, 2, 3]).2.read 2 1).2.writeToFront [1]).2

theorem dataRingBuffer_refines_deque_putBackBuffer :
    (Deque.system 8 4).Run {}
        [(.writeToFront [1], .stored 1), (.read 2, .bytes [1]), (.write [1, 2, 3], .stored 3)]
        putBackBuffer.deque ∧
      putBackBuffer.deque.content = [1, 2, 3] := by
  have hrun : DataRingBuffer.system.Run (.create 8 4 true)
      [(.writeToFront [1], .stored 1), (.read 2, .bytes [1]), (.write [1, 2, 3], .stored 3)]
      putBackBuffer :=
    .step (.step (.step .refl (.write _ [1, 2, 3])) (.read _ 2 1)) (.writeToFront _ [1])
  exact ⟨(dataRingBuffer_refines_deque hrun).1, by decide⟩

end ReverseTunnel
