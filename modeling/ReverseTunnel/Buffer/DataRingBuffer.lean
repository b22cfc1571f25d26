import ReverseTunnel.Buffer.PrependBuffer

/-!
# The data ring

`DataRingBuffer` is a FreeRTOS byte ring with a prepend buffer in front of it. Bytes are appended to
the ring, read from the prepend buffer first and from the ring afterwards, and put back in front of
both by `writeToFront`.

The FreeRTOS ring is modelled by what its documentation promises: a FIFO of at most `capacity`
bytes, `xRingbufferGetCurFreeSize` is the capacity minus what is stored, `xRingbufferSend` of at
most that many bytes succeeds, and `xRingbufferReceiveUpTo` hands out a non-empty prefix of at most
the requested size whenever the ring is non-empty. **How long** that prefix is depends on where the
ring wraps, so it is a silent choice (`cut`) of the environment.

A ring whose allocations failed has no handle: it stores nothing and reports no room, but still
reports the capacity it was asked for. The structure carries its own well-formedness, so no lemma
below needs a side condition for it.
-/

namespace ReverseTunnel

open Blit

/-- A byte ring with its prepend buffer. -/
structure DataRingBuffer where
  /-- `handle`: the bytes in the FreeRTOS ring, `none` when it could not be created. -/
  handle : Option (List UInt8)
  /-- `capacity`: the requested size, whether or not the ring exists. -/
  capacity : ℕ
  /-- `prepend_`. -/
  prepend : PrependBuffer
  /-- The ring never holds more than its capacity. -/
  fits : ∀ r ∈ handle, r.length ≤ capacity
  /-- The prepend buffer is well formed. -/
  prepend_wf : prepend.WF
  /-- Ring and prepend storage exist together or not at all. -/
  bound : prepend.buf = none ↔ handle = none

/-- `xRingbufferReceiveUpTo`: the bytes handed out and the bytes left. -/
def receiveUpTo (ring : List UInt8) (max cut : ℕ) : List UInt8 × List UInt8 :=
  let n := min (min max ring.length) (Nat.max 1 cut)
  (ring.take n, ring.drop n)

/-- The loop of `DataRingBuffer::write` on a ring of the given capacity: `written` bytes of `data`
are stored already. Each round stores at least one byte, so `fuel` rounds are enough for `fuel`
bytes. -/
def writeLoop (capacity : ℕ) (data : List UInt8) :
    (fuel : ℕ) → (ring : List UInt8) → (written : ℕ) → ℕ × List UInt8
  | 0, ring, written => (written, ring)
  | fuel + 1, ring, written =>
    if written < data.length then
      let freeSpace := capacity - ring.length
      if freeSpace = 0 then (written, ring)
      else
        let chunk := min (data.length - written) freeSpace
        writeLoop capacity data fuel (ring ++ slice data written chunk) (written + chunk)
    else (written, ring)

/-- The loop stores the longest prefix that fits. -/
theorem writeLoop_eq (capacity : ℕ) (data : List UInt8) (fuel : ℕ) (ring : List UInt8)
    (written : ℕ) (hw : written ≤ data.length) (hf : data.length - written ≤ fuel)
    (hr : ring.length ≤ capacity) :
    writeLoop capacity data fuel ring written =
      (written + min (data.length - written) (capacity - ring.length),
        ring ++ slice data written (capacity - ring.length)) := by
  induction fuel generalizing ring written with
  | zero =>
    have : written = data.length := by omega
    subst this
    simp [writeLoop, slice]
  | succ fuel ih =>
    rw [writeLoop]
    split
    · next hlt =>
      simp only
      split
      · next hfree => simp [hfree, slice]
      · next hfree =>
        have hchunk : min (data.length - written) (capacity - ring.length) ≤ data.length - written :=
          Nat.min_le_left _ _
        have hlen : (slice data written (min (data.length - written)
            (capacity - ring.length))).length =
            min (data.length - written) (capacity - ring.length) :=
          length_slice (by omega)
        rw [ih _ _ (by omega) (by omega) (by rw [List.length_append, hlen]; omega)]
        -- either the data or the room is used up by this round
        rcases Nat.le_total (data.length - written) (capacity - ring.length) with hle | hle
        · rw [Nat.min_eq_left hle] at hlen ⊢
          have hend : written + (data.length - written) = data.length := by omega
          rw [hend]
          refine Prod.ext (by simp) ?_
          have hrest : slice data data.length
              (capacity - (ring ++ slice data written (data.length - written)).length) = [] := by
            simp [slice]
          rw [hrest, List.append_nil, slice, slice, List.take_of_length_le (by simp),
            List.take_of_length_le (by rw [List.length_drop]; exact hle)]
        · rw [Nat.min_eq_right hle] at hlen ⊢
          have hfull : capacity -
              (ring ++ slice data written (capacity - ring.length)).length = 0 := by
            rw [List.length_append, hlen]
            omega
          rw [hfull, Nat.min_zero, Nat.add_zero, slice, slice, List.take_zero, List.append_nil]
    · next hge =>
      have : written = data.length := by omega
      subst this
      simp [slice]

/-- The loop of `clear`: take bytes out, up to the capacity at once, until there are none. `cuts` says
where each round is cut short; `none` when the rounds were too few. -/
def clearLoop (capacity : ℕ) : (fuel : ℕ) → (cuts : ℕ → ℕ) → (ring : List UInt8) →
    Option (List UInt8)
  | 0, _, _ => none
  | fuel + 1, cuts, ring =>
    let item := receiveUpTo ring capacity (cuts 0)
    if item.1.isEmpty then some ring
    else clearLoop capacity fuel (fun k ↦ cuts (k + 1)) item.2

/-- The loop of `clear` ends, and leaves nothing. -/
theorem clearLoop_eq {capacity fuel : ℕ} {ring : List UInt8} (hr : ring.length ≤ capacity)
    (hf : ring.length < fuel) (cuts : ℕ → ℕ) : clearLoop capacity fuel cuts ring = some [] := by
  induction fuel generalizing ring cuts with
  | zero => exact absurd hf (Nat.not_lt_zero _)
  | succ fuel ih =>
    rw [clearLoop]
    rcases hring : ring with - | ⟨x, rest⟩
    · simp [receiveUpTo]
    · -- a round takes at least one byte out
      have htakes : 0 < min (min capacity ring.length) (Nat.max 1 (cuts 0)) := by
        have : 1 ≤ Nat.max 1 (cuts 0) := Nat.le_max_left _ _
        rw [hring, List.length_cons] at hr ⊢
        omega
      have hsome : (receiveUpTo ring capacity (cuts 0)).1.isEmpty = false := by
        rw [receiveUpTo, List.isEmpty_eq_false_iff, Ne, List.take_eq_nil_iff, hring]
        rw [hring] at htakes
        rintro (h | h)
        · exact absurd h (Nat.ne_of_gt htakes)
        · cases h
      have hless : (receiveUpTo ring capacity (cuts 0)).2.length < ring.length := by
        rw [receiveUpTo, List.length_drop]
        omega
      rw [← hring]
      simp only [hsome, Bool.false_eq_true, if_false]
      exact ih (by omega) (by omega) _

namespace DataRingBuffer

variable (b : DataRingBuffer)

/-- The constructor: with every allocation made, an empty ring of `capacity` bytes and an empty
prepend buffer of `prependCap` bytes; otherwise a ring without a handle. -/
def create (capacity prependCap : ℕ) (ok : Bool) : DataRingBuffer :=
  if ok then
    { handle := some []
      capacity := capacity
      prepend := .reset (some (List.replicate prependCap 0)) prependCap
      fits := by simp
      prepend_wf := by
        have := PrependBuffer.wf_reset (List.replicate prependCap 0)
        rwa [List.length_replicate] at this
      bound := by simp [PrependBuffer.reset] }
  else
    { handle := none
      capacity := capacity
      prepend := {}
      fits := by simp
      prepend_wf := PrependBuffer.wf_default
      bound := by simp }

/-- Free space of the ring. The prepend buffer does not count. -/
def available : ℕ :=
  match b.handle with
  | none => 0
  | some r => b.capacity - r.length

/-- Bytes held, in both parts. -/
def size : ℕ :=
  match b.handle with
  | none => b.prepend.pending
  | some r =>
    let freeSpace := b.capacity - r.length
    b.prepend.pending + if freeSpace > b.capacity then 0 else b.capacity - freeSpace

/-- No byte is held. -/
def empty : Bool := b.size == 0

/-- What the buffer means: the bytes it holds, next one to be read first. -/
def content : List UInt8 := b.prepend.pendingBytes ++ b.handle.getD []

/-- Append at the end. Returns the number of bytes stored. -/
def write (data : List UInt8) : ℕ × DataRingBuffer :=
  match h : b.handle with
  | none => (0, b)
  | some ring =>
    if data.length = 0 then (0, b)
    else
      let res := writeLoop b.capacity data data.length ring 0
      (res.1,
        { b with
          handle := some res.2
          fits := by
            have hr := b.fits ring h
            intro r hmem
            obtain rfl : res.2 = r := by simpa using hmem
            have hres : res = _ :=
              writeLoop_eq b.capacity data data.length ring 0 (Nat.zero_le _) (Nat.le_refl _) hr
            rw [hres, List.length_append, slice, List.length_take]
            omega
          bound := by rw [b.bound, h]; simp })

/-- Put bytes back in front of everything. -/
def writeToFront (data : List UInt8) : ℕ × DataRingBuffer :=
  ((b.prepend.writeToFront data).1,
    { b with
      prepend := (b.prepend.writeToFront data).2
      prepend_wf := b.prepend_wf.writeToFront data
      bound := by rw [PrependBuffer.buf_isNone_writeToFront]; exact b.bound })

/-- Take the bytes of the ring part away, up to `remaining` of them. -/
def readRing (remaining cut : ℕ) : List UInt8 × DataRingBuffer :=
  match h : b.handle with
  | none => ([], b)
  | some ring =>
    ((receiveUpTo ring remaining cut).1,
      { b with
        handle := some (receiveUpTo ring remaining cut).2
        fits := by
          have hr := b.fits ring h
          intro r hmem
          obtain rfl : (receiveUpTo ring remaining cut).2 = r := by simpa using hmem
          rw [receiveUpTo, List.length_drop]
          omega
        bound := by rw [b.bound, h]; simp })

/-- Take the bytes of the prepend part away, up to `len` of them. -/
def readPrepend (len : ℕ) : List UInt8 × DataRingBuffer :=
  ((b.prepend.read len).1,
    { b with
      prepend := (b.prepend.read len).2
      prepend_wf := b.prepend_wf.read len
      bound := by rw [PrependBuffer.buf_read]; exact b.bound })

/-- Read up to `len` bytes: the prepend buffer first, then the ring. -/
def read (len cut : ℕ) : List UInt8 × DataRingBuffer :=
  if len = 0 then ([], b)
  else
    let front := if b.prepend.empty then ([], b) else b.readPrepend len
    if front.1.length ≥ len then front
    else
      let item := front.2.readRing (len - front.1.length) cut
      (front.1 ++ item.1, item.2)

/-- Drop everything. -/
def clear (cuts : ℕ → ℕ) : DataRingBuffer :=
  { b with
    handle := b.handle.map fun ring ↦
      (clearLoop b.capacity (ring.length + 1) cuts ring).getD ring
    prepend := b.prepend.clear
    fits := by
      intro r hmem
      obtain ⟨ring, hring, rfl⟩ := Option.map_eq_some_iff.1 hmem
      rw [clearLoop_eq (b.fits ring hring) (Nat.lt_succ_self _)]
      exact Nat.zero_le _
    prepend_wf := b.prepend_wf.clear
    bound := by
      rw [Option.map_eq_none_iff]
      exact b.bound }

/-- Two rings of the same make: sizes and existence agree, whatever they hold. -/
structure SameShape (b b' : DataRingBuffer) : Prop where
  /-- Same capacity. -/
  capacity : b'.capacity = b.capacity
  /-- Same prepend capacity. -/
  prependCap : b'.prepend.cap = b.prepend.cap
  /-- Both exist or neither does. -/
  handle : b'.handle.isSome = b.handle.isSome

theorem SameShape.refl : SameShape b b := ⟨rfl, rfl, rfl⟩

theorem SameShape.trans {b b' b'' : DataRingBuffer} (h : SameShape b b') (h' : SameShape b' b'') :
    SameShape b b'' :=
  ⟨h'.capacity.trans h.capacity, h'.prependCap.trans h.prependCap, h'.handle.trans h.handle⟩

/-! ### Sizes -/

theorem size_eq_length : b.size = b.content.length := by
  rw [size, content, List.length_append, b.prepend_wf.length_pendingBytes]
  split
  · next h => simp [h]
  · next r h =>
    have := b.fits r h
    simp only [h, Option.getD_some]
    rw [if_neg (by omega)]
    omega

theorem empty_iff : b.empty = true ↔ b.content = [] := by
  rw [empty, beq_iff_eq, size_eq_length, List.length_eq_zero_iff]

theorem available_eq {r : List UInt8} (h : b.handle = some r) :
    b.available = b.capacity - r.length := by
  simp [available, h]

/-- A ring that reports room exists. -/
theorem isSome_of_available_pos (h : 0 < b.available) : b.handle.isSome = true := by
  rw [available] at h
  split at h
  · omega
  · next hr => simp [hr]

/-- A ring that holds something exists. -/
theorem isSome_of_content_ne_nil (h : b.content ≠ []) : b.handle.isSome = true := by
  rcases hh : b.handle with - | r
  · have hbuf := b.bound.2 hh
    exact absurd (by simp [content, hh, PrependBuffer.pendingBytes, hbuf]) h
  · rfl

/-- A ring that exists and holds nothing has all its room. -/
theorem available_of_content_nil (hs : b.handle.isSome = true) (hc : b.content = []) :
    b.available = b.capacity := by
  obtain ⟨r, hr⟩ := Option.isSome_iff_exists.1 hs
  have hnil : r = [] := by
    rw [content, hr, Option.getD_some, List.append_eq_nil_iff] at hc
    exact hc.2
  simp [available, hr, hnil]

@[simp] theorem content_create (capacity prependCap : ℕ) (ok : Bool) :
    (create capacity prependCap ok).content = [] := by
  cases ok <;> simp [create, content, PrependBuffer.pendingBytes]
  rfl

@[simp] theorem capacity_create (capacity prependCap : ℕ) (ok : Bool) :
    (create capacity prependCap ok).capacity = capacity := by
  cases ok <;> rfl

@[simp] theorem handle_isSome_create (capacity prependCap : ℕ) (ok : Bool) :
    (create capacity prependCap ok).handle.isSome = ok := by
  cases ok <;> rfl

theorem prependCap_create (capacity prependCap : ℕ) :
    (create capacity prependCap true).prepend.cap = prependCap := rfl

/-! ### Appending -/

theorem write_of_handle {ring : List UInt8} (data : List UInt8) (h : b.handle = some ring) :
    (b.write data).1 = min data.length (b.capacity - ring.length) ∧
      (b.write data).2.handle = some (ring ++ data.take (b.capacity - ring.length)) ∧
      (b.write data).2.prepend = b.prepend ∧ (b.write data).2.capacity = b.capacity := by
  have hr := b.fits ring h
  rw [write]
  split
  · next hn => rw [h] at hn; exact absurd hn (by simp)
  · next ring' h' =>
    obtain rfl : ring = ring' := Option.some.inj (h.symm.trans h')
    split
    · next hz =>
      have : data = [] := List.length_eq_zero_iff.1 hz
      subst this
      simp [h]
    · simp only
      rw [writeLoop_eq b.capacity data data.length ring 0 (Nat.zero_le _) (Nat.le_refl _) hr]
      simp [slice]

/-- `write` appends the longest prefix that fits. -/
theorem write_spec (data : List UInt8) :
    (b.write data).1 = min data.length b.available ∧
      (b.write data).2.content = b.content ++ data.take b.available := by
  rcases h : b.handle with - | ring
  · have hw : b.write data = (0, b) := by
      rw [write]
      split
      · rfl
      · next hs => rw [h] at hs; exact absurd hs (by simp)
    simp [hw, available, h]
  · obtain ⟨h1, h2, h3, -⟩ := b.write_of_handle data h
    rw [b.available_eq h, h1, content, h2, h3, content, h]
    simp

theorem sameShape_write (data : List UInt8) : SameShape b (b.write data).2 := by
  rcases h : b.handle with - | ring
  · have hw : b.write data = (0, b) := by
      rw [write]
      split
      · rfl
      · next hs => rw [h] at hs; exact absurd hs (by simp)
    rw [hw]
    exact SameShape.refl b
  · obtain ⟨-, h2, h3, h4⟩ := b.write_of_handle data h
    exact ⟨h4, by rw [h3], by rw [h2, h]; rfl⟩

variable {b}

/-- A write that fits is stored whole. -/
theorem write_of_le {data : List UInt8} (h : data.length ≤ b.available) :
    (b.write data).1 = data.length ∧ (b.write data).2.content = b.content ++ data := by
  obtain ⟨h1, h2⟩ := b.write_spec data
  rw [h1, h2, List.take_of_length_le h, Nat.min_eq_left h]
  exact ⟨rfl, rfl⟩

/-- Room left after a write. -/
theorem available_write (data : List UInt8) :
    (b.write data).2.available = b.available - data.length := by
  rcases h : b.handle with - | ring
  · have hw : b.write data = (0, b) := by
      rw [write]
      split
      · rfl
      · next hs => rw [h] at hs; exact absurd hs (by simp)
    simp [hw, available, h]
  · obtain ⟨-, h2, -, h4⟩ := b.write_of_handle data h
    rw [available_eq _ h2, available_eq _ h, h4, List.length_append, List.length_take]
    omega

/-! ### Putting back -/

/-- Bytes that fit in the prepend buffer go in front of the content. -/
theorem writeToFront_spec {data : List UInt8} (hs : b.handle.isSome = true) (hne : data ≠ [])
    (hfit : b.prepend.pending + data.length ≤ b.prepend.cap) :
    (b.writeToFront data).1 = data.length ∧
      (b.writeToFront data).2.content = data ++ b.content := by
  have hbound : b.prepend.buf ≠ none := by
    rw [Ne, b.bound]
    exact fun h ↦ by rw [h] at hs; exact absurd hs (by simp)
  obtain ⟨h1, h2⟩ := b.prepend_wf.pendingBytes_writeToFront hbound hne hfit
  refine ⟨h1, ?_⟩
  rw [content, content]
  simp only [writeToFront]
  rw [h2, List.append_assoc]

theorem sameShape_writeToFront (data : List UInt8) : SameShape b (b.writeToFront data).2 :=
  ⟨rfl, PrependBuffer.cap_writeToFront _ _, rfl⟩

/-- Bytes that do not fit, or none at all, change nothing. -/
theorem writeToFront_reject {data : List UInt8}
    (h : data = [] ∨ b.prepend.cap < b.prepend.pending + data.length) :
    b.writeToFront data = (0, b) := by
  have hrej := PrependBuffer.writeToFront_reject (b := b.prepend) (.inr h)
  rw [writeToFront]
  simp only [hrej]

theorem handle_writeToFront (data : List UInt8) :
    (b.writeToFront data).2.handle = b.handle := rfl

/-! ### Clearing -/

/-- `clear` leaves nothing in either part. -/
theorem clear_spec (hs : b.handle.isSome = true) (cuts : ℕ → ℕ) :
    (b.clear cuts).handle = some [] ∧ (b.clear cuts).prepend.pendingBytes = [] := by
  obtain ⟨ring, hring⟩ := Option.isSome_iff_exists.1 hs
  refine ⟨?_, PrependBuffer.pendingBytes_clear _⟩
  show b.handle.map _ = some []
  rw [hring, Option.map_some, clearLoop_eq (b.fits ring hring) (Nat.lt_succ_self _)]
  rfl

theorem sameShape_clear (cuts : ℕ → ℕ) : SameShape b (b.clear cuts) :=
  ⟨rfl, rfl, Option.isSome_map ..⟩

/-! ### Reading -/

theorem readPrepend_spec (len : ℕ) :
    (b.readPrepend len).1 = b.prepend.pendingBytes.take len ∧
      (b.readPrepend len).2.prepend.pendingBytes = b.prepend.pendingBytes.drop len ∧
      (b.readPrepend len).2.handle = b.handle :=
  ⟨(b.prepend_wf.read_spec len).1, (b.prepend_wf.read_spec len).2, rfl⟩

/-- The ring part hands out a prefix, non-empty when there is something to hand out. -/
theorem readRing_spec (remaining cut : ℕ) :
    ∃ n, n ≤ remaining ∧ n ≤ (b.handle.getD []).length ∧
      (0 < remaining → b.handle.getD [] ≠ [] → 0 < n) ∧
      (b.readRing remaining cut).1 = (b.handle.getD []).take n ∧
      (b.readRing remaining cut).2.handle.getD [] = (b.handle.getD []).drop n ∧
      (b.readRing remaining cut).2.prepend = b.prepend := by
  rw [readRing]
  split
  · next h => exact ⟨0, by simp [h]⟩
  · next ring h =>
    refine ⟨min (min remaining ring.length) (Nat.max 1 cut), by omega,
      by simp only [h, Option.getD_some]; omega,
      ?_, by simp [h, receiveUpTo], by simp [h, receiveUpTo], rfl⟩
    intro hpos hne
    have hlen : 0 < ring.length := List.length_pos_iff.2 (by simpa [h] using hne)
    have : 1 ≤ Nat.max 1 cut := Nat.le_max_left _ _
    omega

theorem sameShape_readRing (remaining cut : ℕ) : SameShape b (b.readRing remaining cut).2 := by
  rw [readRing]
  split
  · exact SameShape.refl b
  · next h => exact ⟨rfl, rfl, by simp [h]⟩

theorem sameShape_readPrepend (len : ℕ) : SameShape b (b.readPrepend len).2 :=
  ⟨rfl, PrependBuffer.cap_read _ _, rfl⟩

/-- The prepend part of a read: it yields a prefix, and either yields all it was asked for or leaves
nothing pending. -/
private theorem front_spec (len : ℕ) :
    ∃ front : List UInt8 × DataRingBuffer,
      (if b.prepend.empty then ([], b) else b.readPrepend len) = front ∧
        front.1 = b.prepend.pendingBytes.take len ∧
        front.2.prepend.pendingBytes = b.prepend.pendingBytes.drop len ∧
        front.2.handle = b.handle ∧ SameShape b front.2 := by
  split
  · next he =>
    have hnil := b.prepend_wf.empty_iff.1 he
    exact ⟨_, rfl, by simp [hnil], by simp [hnil], rfl, SameShape.refl b⟩
  · obtain ⟨h1, h2, h3⟩ := b.readPrepend_spec len
    exact ⟨_, rfl, h1, h2, h3, sameShape_readPrepend len⟩

/-- `read` removes a prefix of the content and returns it. The prefix is non-empty when bytes were
asked for and there are some; and what stays in the prepend buffer leaves room to put the prefix
back, as long as no more was asked for than the prepend buffer holds. -/
theorem read_spec (len cut : ℕ) :
    ∃ n, n ≤ len ∧ n ≤ b.content.length ∧ (0 < len → b.content ≠ [] → 0 < n) ∧
      (b.read len cut).1 = b.content.take n ∧ (b.read len cut).2.content = b.content.drop n ∧
      SameShape b (b.read len cut).2 ∧
      (len ≤ b.prepend.cap → (b.read len cut).2.prepend.pending + n ≤ b.prepend.cap) := by
  rw [read]
  split
  · next hz =>
    refine ⟨0, by omega, by omega, by omega, by simp, by simp, SameShape.refl b, fun _ ↦ ?_⟩
    have := b.prepend_wf.pending_le
    omega
  · next hz =>
    obtain ⟨front, hfront, h1, h2, h3, h4⟩ := b.front_spec len
    rw [hfront]
    have hp := b.prepend_wf.length_pendingBytes
    have hpl := b.prepend_wf.pending_le
    have hf1 : front.1.length = min len b.prepend.pending := by rw [h1, List.length_take, hp]
    have hf2 : front.2.prepend.pending = b.prepend.pending - len := by
      rw [← front.2.prepend_wf.length_pendingBytes, h2, List.length_drop, hp]
    simp only
    split
    · next hfull =>
      -- the prepend buffer held all that was asked for
      have hle : len ≤ b.prepend.pendingBytes.length := by omega
      refine ⟨len, Nat.le_refl _, by rw [content, List.length_append]; omega, fun h _ ↦ h, ?_, ?_,
        h4, fun _ ↦ by omega⟩
      · rw [h1, content, List.take_append_of_le_length hle]
      · rw [content, content, h2, h3, List.drop_append_of_le_length hle]
    · next hshort =>
      have hall : b.prepend.pendingBytes.length ≤ len := by omega
      have hnil : front.2.prepend.pendingBytes = [] := by
        rw [h2, List.drop_eq_nil_of_le hall]
      have htake : front.1 = b.prepend.pendingBytes := by
        rw [h1, List.take_of_length_le hall]
      obtain ⟨n, hn1, hn2, hn3, hn4, hn5, hn6⟩ :=
        front.2.readRing_spec (len - front.1.length) cut
      rw [h3] at hn2 hn3 hn4 hn5
      have hlen : front.1.length = b.prepend.pendingBytes.length := by rw [htake]
      refine ⟨b.prepend.pendingBytes.length + n, by omega, ?_, ?_, ?_, ?_,
        h4.trans (sameShape_readRing _ _), fun hcap ↦ ?_⟩
      · rw [content, List.length_append]
        omega
      · intro _ hne
        by_contra hzero
        have hring : b.handle.getD [] ≠ [] := by
          intro hr
          rw [content, hr, List.append_nil] at hne
          exact hne (List.length_eq_zero_iff.1 (by omega))
        have := hn3 (by omega) hring
        omega
      · rw [hn4, htake, content, List.take_length_add_append]
      · rw [content, hn5, hn6, hnil, content, List.nil_append, List.drop_length_add_append]
      · rw [hn6, hf2]
        omega

/-- `read` takes its bytes from the prepend buffer first and only then from the ring. -/
theorem read_parts (len cut : ℕ) :
    (b.read len cut).2.prepend.pendingBytes =
        b.prepend.pendingBytes.drop (b.read len cut).1.length ∧
      (b.read len cut).2.handle.getD [] = (b.handle.getD []).drop
        ((b.read len cut).1.length - b.prepend.pendingBytes.length) := by
  rw [read]
  split
  · simp
  obtain ⟨front, hfront, h1, h2, h3, -⟩ := b.front_spec len
  rw [hfront]
  simp only
  split
  · next hfull =>
    have hlen : front.1.length = len := by
      rw [h1, List.length_take] at hfull ⊢
      omega
    have hle : len ≤ b.prepend.pendingBytes.length := by
      rw [h1, List.length_take] at hlen
      omega
    rw [hlen, h2, h3, Nat.sub_eq_zero_of_le hle]
    exact ⟨rfl, rfl⟩
  · next hshort =>
    have hall : b.prepend.pendingBytes.length ≤ len := by
      rw [h1, List.length_take] at hshort
      omega
    have htake : front.1 = b.prepend.pendingBytes := by
      rw [h1, List.take_of_length_le hall]
    obtain ⟨n, -, hn, -, hitem, hrest, hprepend⟩ := front.2.readRing_spec (len - front.1.length) cut
    rw [h3] at hn hitem hrest
    have hlen : (front.1 ++ (front.2.readRing (len - front.1.length) cut).1).length =
        b.prepend.pendingBytes.length + n := by
      rw [List.length_append, htake, ← htake, hitem, List.length_take, Nat.min_eq_left hn]
    rw [hlen, hprepend, h2, hrest, List.drop_eq_nil_of_le hall,
      List.drop_eq_nil_of_le (Nat.le_add_right _ _), Nat.add_sub_cancel_left]
    exact ⟨rfl, rfl⟩

/-- Reading from a non-empty buffer never yields nothing. -/
theorem read_ne_nil {len : ℕ} (hlen : 0 < len) (cut : ℕ) (hne : b.content ≠ []) :
    (b.read len cut).1 ≠ [] := by
  obtain ⟨n, -, hn2, hn3, hn4, -⟩ := b.read_spec len cut
  have := hn3 hlen hne
  intro h
  have hl := congrArg List.length hn4
  rw [h, List.length_take, List.length_nil] at hl
  omega

/-! ### Putting back what was read -/

/-- What is left of a read belongs in front of what it left. -/
theorem drop_read_append {n cut k : ℕ} (hk : k ≤ (b.read n cut).1.length) :
    (b.read n cut).1.drop k ++ (b.read n cut).2.content = b.content.drop k := by
  obtain ⟨m, -, hm, -, hread, hrest, -⟩ := b.read_spec n cut
  rw [hread, List.length_take] at hk
  have hdrop : b.content.drop m = (b.content.drop k).drop (m - k) := by
    rw [List.drop_drop]
    congr 1
    omega
  rw [hread, hrest, List.drop_take, hdrop, List.take_append_drop]

/-- **Put-back fits**: what is left of a read goes back in front, whole, as long as no more was asked for
than the prepend buffer holds. -/
theorem writeToFront_read {n cut k : ℕ} (hn : n ≤ b.prepend.cap) (hk : k ≤ (b.read n cut).1.length)
    (hne : (b.read n cut).1.drop k ≠ []) :
    ((b.read n cut).2.writeToFront ((b.read n cut).1.drop k)).1 =
        ((b.read n cut).1.drop k).length ∧
      ((b.read n cut).2.writeToFront ((b.read n cut).1.drop k)).2.content = b.content.drop k := by
  have happend := b.drop_read_append hk
  obtain ⟨m, -, hm, -, hread, -, hshape, hroom⟩ := b.read_spec n cut
  have hlen : (b.read n cut).1.length = m := by
    rw [hread, List.length_take]
    omega
  have hcontent : b.content ≠ [] := by
    intro hc
    rw [hread, hc, List.take_nil, List.drop_nil] at hne
    exact hne rfl
  have hs := b.isSome_of_content_ne_nil hcontent
  have hfit : (b.read n cut).2.prepend.pending + ((b.read n cut).1.drop k).length ≤
      (b.read n cut).2.prepend.cap := by
    have hpending := hroom hn
    rw [hshape.prependCap, List.length_drop, hlen]
    omega
  obtain ⟨hstored, hfront⟩ := writeToFront_spec (hshape.handle ▸ hs) hne hfit
  exact ⟨hstored, hfront.trans happend⟩

theorem sameShape_read (n cut : ℕ) : SameShape b (b.read n cut).2 := by
  obtain ⟨_, -, -, -, -, -, hshape, -⟩ := b.read_spec n cut
  exact hshape

end DataRingBuffer

end ReverseTunnel
