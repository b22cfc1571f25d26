import Mathlib.Data.List.Nodup
import ReverseTunnel.System.Handles

/-!
# Every channel has one owner

Channels accepted by libssh2 live in slots and in the two queues. Between operations, and whenever a
function that works on the queues returns, no channel is in two places, and every channel that is in
one of them is **usable**: it has not been freed, and the session it was accepted in is still up. Only
usable channels are ever passed to libssh2, so nothing is freed twice and nothing is used after it was
freed or after its session has gone down.
-/

namespace ReverseTunnel

open Traced TunnelM

variable {p : Params} {g : Ledger} {w w' : TunnelWorld} {i : ℕ} {h : Handle}

/-- Every channel is in one place and is usable. -/
structure HeldOnce (s : SSHTunnel) (tr : Trace SSHTunnel Call Call.Reply Mark) : Prop where
  /-- Not in two slots. -/
  slots : ∀ i j h, (s.channels.slots i).sshChannel = some h →
    (s.channels.slots j).sshChannel = some h → i = j
  /-- Not twice in the queues. -/
  queues : (s.pending.live ++ s.deferredClose.live).Nodup
  /-- Not in a slot and in a queue. -/
  apart : ∀ i h, (s.channels.slots i).sshChannel = some h →
    some h ∉ s.pending.live ++ s.deferredClose.live
  /-- Those in slots are usable. -/
  usableSlots : ∀ i h, (s.channels.slots i).sshChannel = some h → usable h tr = true
  /-- And so are those in queues. -/
  usableQueues : ∀ x ∈ s.pending.live ++ s.deferredClose.live, ∃ h, x = some h ∧ usable h tr = true

/-! ### Owners in the ledger -/

/-- Slots and ledger have every channel once, and all are usable. -/
structure Owned (w : TunnelWorld) (g : Ledger) : Prop where
  /-- Not in two slots. -/
  slots : ∀ i j h, (w.st.channels.slots i).sshChannel = some h →
    (w.st.channels.slots j).sshChannel = some h → i = j
  /-- Not twice in the ledger. -/
  nodup : g.all.Nodup
  /-- Not in a slot and in the ledger. -/
  apart : ∀ i h, (w.st.channels.slots i).sshChannel = some h → h ∉ g.all
  /-- Those in slots are usable. -/
  usableSlots : ∀ i h, (w.st.channels.slots i).sshChannel = some h →
    usable h w.trace = true ∧ h < w.serial
  /-- And so are those in the ledger. -/
  usableLedger : ∀ h ∈ g.all, usable h w.trace = true ∧ h < w.serial

theorem Owned.heldOnce (ho : Owned w g) (ht : Tracks w.st g) : HeldOnce w.st w.trace := by
  have hlive := ht.live
  have hsub : ∀ h ∈ g.pending ++ g.deferred, h ∈ g.all := fun h hh ↦ List.mem_append_left _ hh
  refine ⟨ho.slots, ?_, fun i h hi hmem ↦ ?_, fun i h hi ↦ (ho.usableSlots i h hi).1,
    fun x hx ↦ ?_⟩
  · rw [hlive]
    exact List.Nodup.map (fun _ _ heq ↦ Option.some.inj heq) (List.nodup_append.1 ho.nodup).1
  · rw [hlive, List.mem_map] at hmem
    obtain ⟨h', hh', heq⟩ := hmem
    obtain rfl := Option.some.inj heq
    exact ho.apart i h' hi (hsub h' hh')
  · rw [hlive, List.mem_map] at hx
    obtain ⟨h, hh, rfl⟩ := hx
    exact ⟨h, rfl, (ho.usableLedger h (hsub h hh)).1⟩

/-- Nothing has changed but for entries that free nothing. -/
theorem Owned.same (ho : Owned w g)
    (hslots : ∀ i, (w'.st.channels.slots i).sshChannel = (w.st.channels.slots i).sshChannel)
    (hu : ∀ h, usable h w'.trace = usable h w.trace) (hserial : w.serial ≤ w'.serial) :
    Owned w' g := by
  refine ⟨fun i j h hi hj ↦ ?_, ho.nodup, fun i h hi ↦ ?_, fun i h hi ↦ ?_, fun h hh ↦ ?_⟩
  · rw [hslots] at hi hj
    exact ho.slots i j h hi hj
  · rw [hslots] at hi
    exact ho.apart i h hi
  · rw [hslots] at hi
    obtain ⟨h1, h2⟩ := ho.usableSlots i h hi
    exact ⟨(hu h).trans h1, Nat.lt_of_lt_of_le h2 hserial⟩
  · obtain ⟨h1, h2⟩ := ho.usableLedger h hh
    exact ⟨(hu h).trans h1, Nat.lt_of_lt_of_le h2 hserial⟩

/-- The ledger may lose channels and rearrange them. -/
theorem Owned.ledger {g' : Ledger} (ho : Owned w g) (lost : List Handle)
    (hp : g.all.Perm (lost ++ g'.all)) : Owned w g' := by
  have hback : ∀ h ∈ g'.all, h ∈ g.all := fun h hh ↦ hp.mem_iff.2 (List.mem_append_right _ hh)
  exact ⟨ho.slots, (List.nodup_append.1 (hp.nodup_iff.1 ho.nodup)).2.1,
    fun i h hi hh ↦ ho.apart i h hi (hback h hh), ho.usableSlots,
    fun h hh ↦ ho.usableLedger h (hback h hh)⟩

/-- A slot that loses its channel. -/
theorem Owned.vacate (ho : Owned w g)
    (hi : (w'.st.channels.slots i).sshChannel = none)
    (hslots : ∀ j, j ≠ i →
      (w'.st.channels.slots j).sshChannel = (w.st.channels.slots j).sshChannel)
    (hu : ∀ h, (w.st.channels.slots i).sshChannel ≠ some h →
      usable h w'.trace = usable h w.trace) (hserial : w.serial ≤ w'.serial) : Owned w' g := by
  have hback : ∀ j h, (w'.st.channels.slots j).sshChannel = some h →
      j ≠ i ∧ (w.st.channels.slots j).sshChannel = some h := by
    intro j h hj
    by_cases hji : j = i
    · rw [hji, hi] at hj
      cases hj
    · exact ⟨hji, hslots j hji ▸ hj⟩
  refine ⟨fun j k h hj hk ↦ ?_, ho.nodup, fun j h hj ↦ ?_, fun j h hj ↦ ?_, fun h hh ↦ ?_⟩
  · exact ho.slots j k h (hback j h hj).2 (hback k h hk).2
  · exact ho.apart j h (hback j h hj).2
  · obtain ⟨hji, hj⟩ := hback j h hj
    obtain ⟨h1, h2⟩ := ho.usableSlots j h hj
    exact ⟨(hu h fun hno ↦ hji (ho.slots j i h hj hno)).trans h1, Nat.lt_of_lt_of_le h2 hserial⟩
  · obtain ⟨h1, h2⟩ := ho.usableLedger h hh
    exact ⟨(hu h fun hno ↦ ho.apart i h hno hh).trans h1, Nat.lt_of_lt_of_le h2 hserial⟩

/-- A slot without a channel gets the one in hand. -/
theorem Owned.occupy {hand : List Handle} (ho : Owned w g) (hh : g.hand = h :: hand)
    (hi : (w'.st.channels.slots i).sshChannel = some h)
    (hslots : ∀ j, j ≠ i →
      (w'.st.channels.slots j).sshChannel = (w.st.channels.slots j).sshChannel)
    (hu : ∀ h, usable h w'.trace = usable h w.trace) (hserial : w.serial ≤ w'.serial) :
    Owned w' { g with hand } := by
  have hall : g.all = g.pending ++ g.deferred ++ h :: hand := congrArg _ hh
  have hperm : g.all.Perm (h :: ({ g with hand } : Ledger).all) := hall ▸ List.perm_middle
  have hnodup := (hperm.nodup_iff).1 ho.nodup
  have hmem : h ∈ g.all := hperm.mem_iff.2 (List.mem_cons_self ..)
  have hback : ∀ h' ∈ ({ g with hand } : Ledger).all, h' ∈ g.all := fun h' hh' ↦
    hperm.mem_iff.2 (List.mem_cons_of_mem _ hh')
  refine ⟨fun j k h' hj hk ↦ ?_, (List.nodup_cons.1 hnodup).2, fun j h' hj hh' ↦ ?_,
    fun j h' hj ↦ ?_, fun h' hh' ↦ ?_⟩
  · by_cases hji : j = i
    · by_cases hki : k = i
      · exact hji.trans hki.symm
      · rw [hji, hi] at hj
        obtain rfl := Option.some.inj hj
        exact absurd hmem (ho.apart k h (hslots k hki ▸ hk))
    · by_cases hki : k = i
      · rw [hki, hi] at hk
        obtain rfl := Option.some.inj hk
        exact absurd hmem (ho.apart j h (hslots j hji ▸ hj))
      · exact ho.slots j k h' (hslots j hji ▸ hj) (hslots k hki ▸ hk)
  · by_cases hji : j = i
    · rw [hji, hi] at hj
      obtain rfl := Option.some.inj hj
      exact (List.nodup_cons.1 hnodup).1 hh'
    · exact ho.apart j h' (hslots j hji ▸ hj) (hback h' hh')
  · by_cases hji : j = i
    · rw [hji, hi] at hj
      obtain rfl := Option.some.inj hj
      obtain ⟨h1, h2⟩ := ho.usableLedger h hmem
      exact ⟨(hu h).trans h1, Nat.lt_of_lt_of_le h2 hserial⟩
    · obtain ⟨h1, h2⟩ := ho.usableSlots j h' (hslots j hji ▸ hj)
      exact ⟨(hu h').trans h1, Nat.lt_of_lt_of_le h2 hserial⟩
  · obtain ⟨h1, h2⟩ := ho.usableLedger h' (hback h' hh')
    exact ⟨(hu h').trans h1, Nat.lt_of_lt_of_le h2 hserial⟩

/-! ### Every step keeps the owners -/

/-- Where a function that works on the queues returns, every channel has one owner. -/
def ReturnsOwned (x : Item SSHTunnel Call Call.Reply Mark)
    (past : Trace SSHTunnel Call Call.Reply Mark) : Prop :=
  match x with
  | .mark _ s .returned => HeldOnce s past
  | _ => True

/-- The invariant. -/
structure OwnedAlways (w : TunnelWorld) (g : Ledger) : Prop where
  /-- Only usable channels have been passed to libssh2. -/
  passes : History.Always PassesUsable w.trace
  /-- Functions on the queues have returned with all channels in order. -/
  returns : History.Always ReturnsOwned w.trace
  /-- While the session is up, every channel has one owner. -/
  owned : g.down = false → Owned w g

theorem returnsOwned_of_isCalm {x : Item SSHTunnel Call Call.Reply Mark} (hx : isCalm x)
    (past : Trace SSHTunnel Call Call.Reply Mark) : ReturnsOwned x past := by
  cases x with
  | call id t s c r => exact trivial
  | mark t s m =>
    cases m with
    | note n => exact trivial
    | _ => exact hx.elim

theorem returnsOwned_of_slotItem {x : Item SSHTunnel Call Call.Reply Mark}
    (hx : (slotItem? i x).isSome = true) (past : Trace SSHTunnel Call Call.Reply Mark) :
    ReturnsOwned x past := by
  cases x with
  | call id t s c r => exact trivial
  | mark t s m =>
    cases m with
    | slot j m => exact trivial
    | _ => cases hx

theorem SlotMove.returnsOwned (hm : SlotMove i w w') (hw : History.Always ReturnsOwned w.trace) :
    History.Always ReturnsOwned w'.trace := by
  obtain ⟨items, ht, hi⟩ := hm.trace
  rw [ht]
  exact hw.append fun x hx ↦ returnsOwned_of_slotItem (hi x hx)

theorem SlotMove.sshChannel (hm : SlotMove i w w') {j : ℕ} (hj : j ≠ i) :
    (w'.st.channels.slots j).sshChannel = (w.st.channels.slots j).sshChannel :=
  congrArg (·.ch.sshChannel) (hm.view_eq j hj)

theorem owned_of_vacant (hat : At p false g w) (hv : Vacant w.st g) : Owned w g := by
  have hnone : ∀ i, (w.st.channels.slots i).sshChannel = none := fun i ↦
    hat.sshChannel_eq_none (hv.slots i)
  have hall : g.all = [] := by rw [Ledger.all, hv.pending, hv.deferred, hv.hand]; rfl
  refine ⟨fun i j h hi ↦ ?_, ?_, fun i h hi ↦ ?_, fun i h hi ↦ ?_, fun h hh ↦ ?_⟩
  · rw [hnone i] at hi
    cases hi
  · rw [hall]
    exact List.nodup_nil
  · rw [hnone i] at hi
    cases hi
  · rw [hnone i] at hi
    cases hi
  · rw [hall] at hh
    cases hh

/-- A channel that has just been accepted is in hand. -/
theorem Owned.accept {l t : ℕ} (ho : Owned w g) :
    Owned (w.after (.sys (.forwardAccept l)) true t) { g with hand := w.serial :: g.hand } := by
  have hu : ∀ h, h < w.serial →
      usable h (w.after (.sys (.forwardAccept l)) true t).trace = usable h w.trace := by
    intro h hlt
    refine usable_cons_of_neutral (fun heq ↦ ?_) rfl nofun
    exact absurd (Option.some.inj heq) (Nat.ne_of_gt hlt)
  have hnew : usable w.serial (w.after (.sys (.forwardAccept l)) true t).trace = true := by
    rw [World.after_trace, usable, if_pos]
    rfl
  have hperm : ({ g with hand := w.serial :: g.hand } : Ledger).all.Perm (w.serial :: g.all) :=
    List.perm_middle
  have hfresh : w.serial ∉ g.all := fun hmem ↦ absurd (ho.usableLedger _ hmem).2 (Nat.lt_irrefl _)
  refine ⟨ho.slots, hperm.nodup_iff.2 (List.nodup_cons.2 ⟨hfresh, ho.nodup⟩), fun i h hi hh ↦ ?_,
    fun i h hi ↦ ?_, fun h hh ↦ ?_⟩
  · rcases List.mem_cons.1 (hperm.mem_iff.1 hh) with rfl | hh
    · exact absurd (ho.usableSlots i _ hi).2 (Nat.lt_irrefl _)
    · exact ho.apart i h hi hh
  · obtain ⟨h1, h2⟩ := ho.usableSlots i h hi
    exact ⟨(hu h h2).trans h1, Nat.lt_succ_of_lt h2⟩
  · rcases List.mem_cons.1 (hperm.mem_iff.1 hh) with rfl | hh
    · exact ⟨hnew, Nat.lt_succ_self _⟩
    · obtain ⟨h1, h2⟩ := ho.usableLedger h hh
      exact ⟨(hu h h2).trans h1, Nat.lt_succ_of_lt h2⟩

/-- A channel in hand is freed. -/
theorem Owned.free {hand : List Handle} {rc : Int} {t : ℕ} (ho : Owned w g)
    (hh : g.hand = h :: hand) :
    Owned (w.after (.sys (.channelFree h)) rc t) { g with hand } := by
  have hall : g.all = g.pending ++ g.deferred ++ h :: hand := congrArg _ hh
  have hperm : g.all.Perm (h :: ({ g with hand } : Ledger).all) := hall ▸ List.perm_middle
  have hmem : h ∈ g.all := hperm.mem_iff.2 (List.mem_cons_self ..)
  have hu : ∀ h', h' ≠ h →
      usable h' (w.after (.sys (.channelFree h)) rc t).trace = usable h' w.trace := by
    intro h' hne
    refine usable_cons_of_neutral nofun rfl fun heq ↦ ?_
    rw [frees] at heq
    split at heq
    · cases heq
    · exact hne (Option.some.inj heq).symm
  have hne : ∀ i h', (w.st.channels.slots i).sshChannel = some h' → h' ≠ h := by
    rintro i h' hi rfl
    exact ho.apart i h' hi hmem
  have ho' := ho.ledger [h] hperm
  refine ⟨ho'.slots, ho'.nodup, ho'.apart, fun i h' hi ↦ ?_, fun h' hh' ↦ ?_⟩
  · obtain ⟨h1, h2⟩ := ho.usableSlots i h' hi
    exact ⟨(hu h' (hne i h' hi)).trans h1, Nat.lt_succ_of_lt h2⟩
  · obtain ⟨h1, h2⟩ := ho'.usableLedger h' hh'
    have hne' : h' ≠ h := by
      rintro rfl
      exact (List.nodup_cons.1 (hperm.nodup_iff.1 ho.nodup)).1 hh'
    exact ⟨(hu h' hne').trans h1, Nat.lt_succ_of_lt h2⟩

/-- An entry that neither accepts nor frees a channel and passes none. -/
theorem OwnedAlways.cons {x : Item SSHTunnel Call Call.Reply Mark} (ho : OwnedAlways w g)
    (hw : w'.trace = x :: w.trace) (hst : w'.st.channels = w.st.channels)
    (hserial : w.serial ≤ w'.serial) (ha : accepts x = none) (hd : goesDown x = false)
    (hf : frees x = none) (hp : PassesUsable x w.trace) (hr : ReturnsOwned x w.trace) :
    OwnedAlways w' g := by
  refine ⟨hw ▸ ⟨hp, ho.passes⟩, hw ▸ ⟨hr, ho.returns⟩, fun hdown ↦ ?_⟩
  refine (ho.owned hdown).same (fun i ↦ by rw [hst]) (fun h ↦ ?_) hserial
  rw [hw]
  exact usable_cons_of_neutral (by simp [ha]) hd (by simp [hf])

theorem OwnedAlways.step (hat : At p false g w) (ho : OwnedAlways w g) {g' : Ledger}
    (hs : TunnelStep p false (w, g) (w', g')) : OwnedAlways w' g' := by
  cases hs with
  | calm hc =>
    obtain ⟨items, ht, hi⟩ := hc.trace
    refine ⟨hc.passesUsable ho.passes, ?_, fun hdown ↦
      (ho.owned hdown).same (fun i ↦ by rw [hc.channels]) hc.usable hc.serial_le⟩
    rw [ht]
    exact ho.returns.append fun x hx ↦ returnsOwned_of_isCalm (hi x hx)
  | update hc hs =>
    exact ⟨ho.passes, ho.returns, fun hdown ↦ (ho.owned hdown).same
      (fun i ↦ by rw [World.update_st, hc]) (fun _ ↦ rfl) (Nat.le_refl _)⟩
  | breaker hc hs =>
    exact ⟨ho.passes, ho.returns, fun hdown ↦ (ho.owned hdown).same
      (fun i ↦ by rw [World.update_st, hc]) (fun _ ↦ rfl) (Nat.le_refl _)⟩
  | state hc hv =>
    exact ⟨ho.passes, ho.returns, fun hdown ↦ (ho.owned hdown).same
      (fun i ↦ by rw [World.update_st, hc]) (fun _ ↦ rfl) (Nat.le_refl _)⟩
  | mark hm =>
    rcases hm with ⟨_, _, rfl, -⟩ | ⟨_, rfl⟩ | rfl <;>
      exact ho.cons rfl rfl (Nat.le_refl _) rfl rfl rfl nofun trivial
  | returned ht hdown =>
    exact ho.cons rfl rfl (Nat.le_refl _) rfl rfl rfl nofun ((ho.owned hdown).heldOnce ht)
  | tornDown ht hmid hd => exact ho.cons rfl rfl (Nat.le_refl _) rfl rfl rfl nofun trivial
  | accept ht hdown hst =>
    exact ⟨⟨nofun, ho.passes⟩, ⟨trivial, ho.returns⟩, fun _ ↦ (ho.owned hdown).accept⟩
  | grab h hext => cases hext
  -- from hand to queue or back: the handles are the same in another order
  | shuffle hp =>
    refine ⟨ho.passes, ho.returns, fun hdown ↦ (ho.owned hdown).ledger [] ?_⟩
    exact hp.symm
  | @close _ _ h rc t ht hdown hh =>
    refine ho.cons rfl rfl (Nat.le_succ _) rfl rfl rfl (fun h' heq ↦ ?_) trivial
    obtain rfl : h = h' := Option.some.inj heq
    exact ((ho.owned hdown).usableLedger h (List.mem_append_right _ hh)).1
  | @free _ _ h hand rc t ht hdown hh =>
    refine ⟨⟨fun h' heq ↦ ?_, ho.passes⟩, ⟨trivial, ho.returns⟩, fun _ ↦ (ho.owned hdown).free hh⟩
    obtain rfl : h = h' := Option.some.inj heq
    refine ((ho.owned hdown).usableLedger h (List.mem_append_right _ ?_)).1
    rw [hh]
    exact List.mem_cons_self ..
  -- nobody holds it any more, which is a leak but no double use
  | @lose _ _ h hand hh hfull =>
    refine ⟨ho.passes, ho.returns, fun hdown ↦ (ho.owned hdown).ledger [h] ?_⟩
    rw [Ledger.all, hh]
    exact List.perm_middle
  | connect ht hadm => exact ho.cons rfl rfl (Nat.le_succ _) rfl rfl rfl nofun trivial
  | @work _ _ _ i hi hdown hm hw hc =>
    obtain ⟨hu, hp⟩ := hm.handles_work hw.ownLog
    have how := ho.owned hdown
    refine ⟨hp (fun h hh ↦ (how.usableSlots i h hh).1) ho.passes, hm.returnsOwned ho.returns,
      fun _ ↦ how.same (fun j ↦ ?_) hu hm.serial_le⟩
    by_cases hj : j = i
    · rw [hj]
      exact hw.retains.sshChannel
    · exact hm.sshChannel hj
  | @bind _ _ _ i h hand fd okLocal okRemote id t t' hi hdown hh hm hact hfd ht ht' hv hok hcount
      harch =>
    obtain ⟨hu, hp⟩ := hm.handles_bind hv
    have how := ho.owned hdown
    have hmem : h ∈ g.all := List.mem_append_right _ (by rw [hh]; exact List.mem_cons_self ..)
    exact ⟨hp (how.usableLedger h hmem).1 ho.passes, hm.returnsOwned ho.returns, fun _ ↦
      how.occupy hh (congrArg (·.ch.sshChannel) hv) (fun j hj ↦ hm.sshChannel hj) hu hm.serial_le⟩
  | @release _ _ _ i v h id id' t t' t'' rc progress hi hdown hm hw hact hh hdone ht ht' ht'' hv
      hcount harch =>
    obtain ⟨hu, -, hp⟩ := hm.handles_release hw hh hdone hv
    have how := ho.owned hdown
    have hch : (w.st.channels.slots i).sshChannel = some h := hw.retains.sshChannel.symm.trans hh
    refine ⟨hp (how.usableSlots i h hch).1 ho.passes, hm.returnsOwned ho.returns, fun _ ↦
      how.vacate (congrArg (·.ch.sshChannel) hv) (fun j hj ↦ hm.sshChannel hj) (fun h' hne ↦ ?_)
        hm.serial_le⟩
    -- only the handle of this slot was freed
    refine hu h' fun heq ↦ hne ?_
    rw [hch, heq]
  | @abandon _ _ _ i id t hi hm hact ht hv hcount harch =>
    obtain ⟨hu, hp⟩ := hm.handles_abandon hv
    refine ⟨hp ho.passes, hm.returnsOwned ho.returns, fun hdown ↦ ?_⟩
    have how := (ho.owned hdown).vacate (congrArg (·.ch.sshChannel) hv)
      (fun j hj ↦ hm.sshChannel hj) (fun h' _ ↦ hu h') hm.serial_le
    exact ⟨how.slots, how.nodup, how.apart, how.usableSlots, how.usableLedger⟩
  | goDown => exact ⟨⟨nofun, ho.passes⟩, ⟨trivial, ho.returns⟩, nofun⟩
  | forget hdown =>
    refine ⟨ho.passes, ho.returns, fun hno ↦ ?_⟩
    rw [show g.down = true from hdown] at hno
    cases hno
  | comeUp hdown hv =>
    have how := owned_of_vacant hat hv
    exact ⟨ho.passes, ho.returns, fun _ ↦
      ⟨how.slots, how.nodup, how.apart, how.usableSlots, how.usableLedger⟩⟩

theorem At.ownedAlways (h : At p false g w) : OwnedAlways w g := by
  suffices h : At p false g w ∧ OwnedAlways w g from h.2
  refine h.invariant (I := fun x ↦ At p false x.2 x.1 ∧ OwnedAlways x.1 x.2) (fun clock ↦ ?_) ?_
  · exact ⟨at_initial clock, trivial, trivial, fun _ ↦
      owned_of_vacant (at_initial (p := p) clock) ⟨fun _ ↦ rfl, rfl, rfl, rfl⟩⟩
  · rintro ⟨w, g⟩ ⟨w', g'⟩ ⟨hat, ho⟩ hs
    exact ⟨hat.step hs, ho.step hat hs⟩

/-! ### The guarantee -/

/-- **Every channel has one owner**, between operations and whenever a function that works on the
queues returns, and only usable channels are passed to libssh2. -/
theorem unique_ownership (hw : TunnelRun p w) :
    HeldOnce w.st w.trace ∧ History.Always ReturnsOwned w.trace ∧
      History.Always PassesUsable w.trace := by
  obtain ⟨_, ⟨g, hat, ht, -, hdown, -⟩, -⟩ := hw.resting false
  have ho := hat.ownedAlways
  exact ⟨(ho.owned hdown).heldOnce ht, ho.returns, ho.passes⟩

/-- One slot, and channels that come in faster than it is free. -/
def crowdedRun : TunnelWorld := afterTunnelOps (smallTunnel 1)
  [(.connectSSH, acceptingWorld 60), (.loop, acceptingWorld 60), (.loop, acceptingWorld 120)]

theorem run_crowdedRun : TunnelRun (smallTunnel 1) crowdedRun := tunnelRun_after _

theorem unique_ownership_crowdedRun :
    HeldOnce crowdedRun.st crowdedRun.trace ∧
      (crowdedRun.st.channels.slots 0).sshChannel = some 26 ∧
      crowdedRun.st.pending.live = [some 44, some 64] :=
  ⟨(unique_ownership run_crowdedRun).1, by decide +kernel, by decide +kernel⟩

end ReverseTunnel
