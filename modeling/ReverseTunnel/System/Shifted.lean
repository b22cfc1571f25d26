import ReverseTunnel.Transport.Shifted
import ReverseTunnel.Tunnel.Tunnel

/-!
# Two runs of the channel machinery, with clocks apart

The channel manager and the transport pump, run twice in the same environment with clocks `k` apart.
As long as no slot of either run holds, in a timestamp that is compared with `0`, a reading that is
exactly `0` in the other run, the two runs make the same calls and their slots stay synced.
-/

namespace ReverseTunnel

open Traced Clock32 TunnelM ChannelSlot

/-- Synced slots, and the same pump. -/
structure SameTunnel (k : ℕ) (s s' : SSHTunnel) : Prop where
  /-- The slots are synced. -/
  slots : ∀ i, Synced (stamp k) (s.channels.slots i) (s'.channels.slots i)
  /-- The pump is the same. -/
  transport : s'.transport = s.transport

/-- Two runs of the tunnel, the second clock `k` ahead. -/
def tunnelGap (k : ℕ) : Gap SSHTunnel where
  lag := k
  left s := ∀ i, (s.channels.slots i).Avoids (stamp k) (-stamp k)
  right s := ∀ i, (s.channels.slots i).Avoids (stamp k) (stamp k)

/-- Two programs that make the same calls and keep the slots synced. -/
abbrev TunnelInStep {α : Type} (k : ℕ) (m m' : TunnelM α) : Prop :=
  Abreast (tunnelGap k) (SameTunnel k) m m' (Alike (SameTunnel k))

section Rules

variable {α : Type} {k : ℕ} {P : SSHTunnel → SSHTunnel → Prop}
  {Q : α → α → SSHTunnel → SSHTunnel → Prop}

theorem tunnelInStep_pure (a : α) : TunnelInStep k (pure a) (pure a) :=
  Abreast.ret fun _ _ h ↦ ⟨rfl, h⟩

theorem tunnelInStep_sysId (c : SysCall) : TunnelInStep k (sysId c) (sysId c) :=
  Abreast.callId fun _ _ h _ _ ↦ h

theorem tunnelInStep_sys (c : SysCall) : TunnelInStep k (sys c) (sys c) :=
  Abreast.call fun _ _ h _ _ ↦ h

/-- The clock is read `k` later. -/
theorem tunnel_millis_bind {f f' : UInt32 → TunnelM α}
    (h : ∀ now, Abreast (tunnelGap k) P (f now) (f' (now + stamp k)) Q) :
    Abreast (tunnelGap k) P (millis >>= f) (millis >>= f') Q := by
  have hmillis : Abreast (tunnelGap k) P millis millis
      fun now now' s s' ↦ now' = now + stamp k ∧ P s s' := by
    refine Abreast.bind Abreast.tick fun t t' ↦ Abreast.ret fun s s' hs ↦ ⟨?_, hs.2⟩
    rw [hs.1, ← stamp_add]
    rfl
  refine Abreast.bind hmillis fun now now' e s s' hclock hserial hp ↦ ?_
  obtain ⟨rfl, hp⟩ := hp
  exact h now e s s' hclock hserial hp

/-- A slot is read. The two differ in their timestamps only. -/
theorem tunnel_getSlot_bind {i : ℕ} {f f' : ChannelSlot → TunnelM α}
    (h : ∀ ch t, Synced (stamp k) ch (ch.restamp t) →
      Abreast (tunnelGap k) (SameTunnel k) (f ch) (f' (ch.restamp t)) Q) :
    Abreast (tunnelGap k) (SameTunnel k) (getSlot i >>= f) (getSlot i >>= f') Q := by
  have hget : Abreast (tunnelGap k) (SameTunnel k) (getSlot i) (getSlot i)
      fun ch ch' s s' ↦ Synced (stamp k) ch ch' ∧ SameTunnel k s s' :=
    Abreast.getBind fun _ _ hs ↦ Abreast.ret fun _ _ hs' ↦ ⟨hs.slots i, hs'⟩
  refine Abreast.bind hget fun ch ch' e s s' hclock hserial hp ↦ ?_
  obtain ⟨hch, hp⟩ := hp
  have hrest : ch' = ch.restamp ch' := hch.rest
  rw [hrest] at hch ⊢
  exact h ch ch' hch e s s' hclock hserial hp

theorem tunnelInStep_onSlot {i : ℕ} {m m' : SlotM α} (h : InStep k m m') :
    TunnelInStep k (onSlot i m) (onSlot i m') := by
  refine Abreast.zoom rfl (fun x s hs ↦ ?_) (fun x s hs ↦ ?_) (fun s s' hs ↦ ?_)
    (fun x x' s s' hs hx ↦ ?_) h
  · simpa [SSHTunnel.setCtx, slotGap] using hs i
  · simpa [SSHTunnel.setCtx, slotGap] using hs i
  · exact ⟨hs.slots i, congrArg TransportPump.work hs.transport,
      congrArg TransportPump.lastBytesMoved hs.transport⟩
  · refine ⟨fun j ↦ ?_, ?_⟩
    · by_cases hj : j = i
      · subst hj
        simpa [SSHTunnel.setCtx] using hx.ch
      · simpa [SSHTunnel.setCtx, hj] using hs.slots j
    · simp only [SSHTunnel.setCtx, hs.transport, hx.work, hx.moved]

/-- The slots are left alone. -/
theorem tunnelInStep_modifyChannels {f f' : ChannelManager → ChannelManager}
    (hf : ∀ c, (f c).slots = c.slots) (hf' : ∀ c, (f' c).slots = c.slots) :
    TunnelInStep k (modifyChannels f) (modifyChannels f') :=
  Abreast.modify fun s s' hs ↦ ⟨fun i ↦ by
    show Synced _ ((f s.channels).slots i) ((f' s'.channels).slots i)
    rw [hf, hf']
    exact hs.slots i, hs.transport⟩

theorem tunnelInStep_modifyTransport (f : TransportPump → TransportPump) :
    TunnelInStep k (modifyTransport f) (modifyTransport f) :=
  Abreast.modify fun _ _ hs ↦ ⟨hs.slots, congrArg f hs.transport⟩

theorem tunnelInStep_mark (l : Mark) : TunnelInStep k (Prog.mark l) (Prog.mark l) :=
  Abreast.mark fun _ _ hs _ _ ↦ hs

end Rules

variable {k : ℕ} {p : Params}

/-! ### The channel manager -/

theorem tunnelInStep_connectToLocalEndpoint (mapping : TunnelConfig) :
    TunnelInStep k (connectToLocalEndpoint mapping) (connectToLocalEndpoint mapping) := by
  have hgiveUp (fd : Int) : TunnelInStep k (do let _ ← sys (.localClose fd); pure (-1 : Int))
      (do let _ ← sys (.localClose fd); pure (-1 : Int)) :=
    (tunnelInStep_sys _).bindAlike fun _ ↦ tunnelInStep_pure _
  refine (tunnelInStep_sysId _).bindAlike fun res ↦
    Abreast.ite Iff.rfl (fun _ ↦ tunnelInStep_pure _) fun _ ↦ ?_
  refine (tunnelInStep_sys _).bindAlike fun valid ↦ Abreast.ite Iff.rfl (fun _ ↦ hgiveUp _) fun _ ↦
    ?_
  refine (tunnelInStep_sys _).bindAlike fun flags ↦ Abreast.ite Iff.rfl (fun _ ↦ hgiveUp _) fun _ ↦
    ?_
  refine (tunnelInStep_sys _).bindAlike fun nonblocking ↦
    Abreast.ite Iff.rfl (fun _ ↦ hgiveUp _) fun _ ↦ (tunnelInStep_sys _).bindAlike fun result ↦ ?_
  cases result with
  | done => exact tunnelInStep_pure _
  | failed => exact hgiveUp _
  | inProgress =>
    refine (tunnelInStep_sys _).bindAlike fun sel ↦ Abreast.ite Iff.rfl (fun _ ↦ hgiveUp _) fun _ ↦
      ?_
    exact (tunnelInStep_sys _).bindAlike fun sockErr ↦
      Abreast.ite Iff.rfl (fun _ ↦ hgiveUp _) fun _ ↦ tunnelInStep_pure _

/-- The table of the circuit breaker is not looked at here. -/
theorem tunnelInStep_bindChannel (slotIndex : Int) (h : Handle) (mapping : TunnelConfig) :
    TunnelInStep k (bindChannel p slotIndex h mapping) (bindChannel p slotIndex h mapping) := by
  have hgiveUp (fd : Int) : TunnelInStep k (do let _ ← sys (.localClose fd); pure false)
      (do let _ ← sys (.localClose fd); pure false) :=
    (tunnelInStep_sys _).bindAlike fun _ ↦ tunnelInStep_pure _
  refine Abreast.ite Iff.rfl (fun _ ↦ tunnelInStep_pure _) fun _ ↦ tunnel_getSlot_bind fun ch t _ ↦
    Abreast.ite Iff.rfl (fun _ ↦ tunnelInStep_pure _) fun _ ↦ ?_
  refine (tunnelInStep_connectToLocalEndpoint mapping).bindAlike fun fd ↦
    Abreast.ite Iff.rfl (fun _ ↦ tunnel_millis_bind fun now ↦ ?_) fun _ ↦ ?_
  · exact (tunnelInStep_modifyChannels (fun _ ↦ by rfl) fun _ ↦ by rfl).bindAlike fun _ ↦
      tunnelInStep_pure _
  refine (tunnelInStep_modifyChannels (fun _ ↦ by rfl) fun _ ↦ by rfl).bindAlike fun _ ↦
    (tunnelInStep_sys _).bindAlike fun heap ↦ Abreast.ite Iff.rfl (fun _ ↦ hgiveUp _) fun _ ↦ ?_
  refine (tunnelInStep_sys _).bindAlike fun okLocal ↦ (tunnelInStep_sys _).bindAlike fun okRemote ↦
    Abreast.ite Iff.rfl (fun _ ↦ hgiveUp _) fun _ ↦ ?_
  refine (tunnelInStep_onSlot (inStep_bindSlot _ _ _ _)).bindAlike fun _ ↦ ?_
  exact (tunnelInStep_modifyChannels (fun _ ↦ by rfl) fun _ ↦ by rfl).bindAlike fun _ ↦
    tunnelInStep_pure _

theorem tunnelInStep_beginCloseAt (slotIndex : Int) (reason : ChannelCloseReason) :
    TunnelInStep k (beginCloseAt p slotIndex reason) (beginCloseAt p slotIndex reason) :=
  Abreast.ite Iff.rfl (fun _ ↦ tunnelInStep_pure _) fun _ ↦
    tunnelInStep_onSlot (inStep_beginClose reason)

theorem tunnelInStep_archiveSlotStats (i : ℕ) :
    TunnelInStep k (archiveSlotStats i) (archiveSlotStats i) :=
  tunnelInStep_modifyChannels (fun _ ↦ by rfl) fun _ ↦ by rfl

theorem tunnelInStep_finalizeClose (slotIndex : Int) :
    TunnelInStep k (finalizeClose p slotIndex) (finalizeClose p slotIndex) := by
  refine Abreast.ite Iff.rfl (fun _ ↦ tunnelInStep_pure _) fun _ ↦ tunnel_getSlot_bind fun ch t _ ↦
    Abreast.ite Iff.rfl (fun _ ↦ tunnelInStep_pure _) fun _ ↦ ?_
  refine (tunnelInStep_onSlot inStep_releaseChannel).bindAlike fun freed ↦
    Abreast.ite Iff.rfl (fun _ ↦ tunnelInStep_pure _) fun _ ↦ ?_
  refine (tunnelInStep_onSlot inStep_discardLocal).bindAlike fun _ ↦
    (tunnelInStep_archiveSlotStats _).bindAlike fun _ ↦
    (tunnelInStep_onSlot inStep_closeSlot).bindAlike fun _ ↦ ?_
  exact (tunnelInStep_modifyChannels (fun _ ↦ by rfl) fun _ ↦ by rfl).bindAlike fun _ ↦
    tunnelInStep_pure _

theorem tunnelInStep_abandonSlot (slotIndex : Int) (reason : ChannelCloseReason) :
    TunnelInStep k (abandonSlot p slotIndex reason) (abandonSlot p slotIndex reason) := by
  refine Abreast.ite Iff.rfl (fun _ ↦ tunnelInStep_pure _) fun _ ↦ tunnel_getSlot_bind fun ch t _ ↦
    Abreast.ite Iff.rfl (fun _ ↦ tunnelInStep_pure _) fun _ ↦ ?_
  refine (tunnelInStep_onSlot inStep_dropLocal).bindAlike fun _ ↦
    (tunnelInStep_archiveSlotStats _).bindAlike fun _ ↦ ?_
  exact (tunnelInStep_modifyChannels (fun _ ↦ by rfl) fun _ ↦ by rfl).bindAlike fun _ ↦
    tunnelInStep_onSlot inStep_reset

/-- A slot that was finalized is free again in both runs or in neither. -/
theorem findFreeSlot_shifted {s s' : SSHTunnel} (h : SameTunnel k s s') (hl : (tunnelGap k).left s)
    (hr : (tunnelGap k).right s') (n : ℕ) (now : UInt32) :
    findFreeSlot s'.channels.slots n (now + stamp k) = findFreeSlot s.channels.slots n now := by
  refine congrArg (List.find? · _) (funext fun i ↦ ?_)
  have hi := h.slots i
  have hactive : (s'.channels.slots i).active = (s.channels.slots i).active := by
    rw [hi.rest]
    rfl
  have hzero := hi.lastFinalizeMs.zero_iff ((hl i).ne (by simp [guarded]))
    ((hr i).ne (by simp [guarded]))
  rw [hactive]
  by_cases h0 : (s.channels.slots i).lastFinalizeMs = 0
  · simp [h0, hzero.2 h0]
  · have h0' : (s'.channels.slots i).lastFinalizeMs ≠ 0 := fun h ↦ h0 (hzero.1 h)
    rw [hi.lastFinalizeMs.elapsed h0, bne_iff_ne.2 h0, bne_iff_ne.2 h0']

theorem tunnel_allocateSlot : Abreast (tunnelGap k)
    (fun s s' ↦ SameTunnel k s s' ∧ (tunnelGap k).left s ∧ (tunnelGap k).right s')
    (allocateSlot p) (allocateSlot p) (Alike (SameTunnel k)) := by
  refine tunnel_millis_bind fun now ↦ Abreast.getBind fun s s' hs ↦ ?_
  have hfree := findFreeSlot_shifted hs.1 hs.2.1 hs.2.2 p.maxSlots now
  have hstale : ∀ i, ((s'.channels.slots i).active &&
      expired (now + stamp k) (s'.channels.slots i).lastActivity p.channelTimeoutMs) =
      ((s.channels.slots i).active &&
        expired now (s.channels.slots i).lastActivity p.channelTimeoutMs) := fun i ↦ by
    have hi := hs.1.slots i
    have hactive : (s'.channels.slots i).active = (s.channels.slots i).active := by
      rw [hi.rest]
      rfl
    rw [hactive, expired_later hi.lastActivity hi.lastActivity_zero]
  simp only [hfree, hstale]
  refine Abreast.pre ?_ fun _ _ h ↦ h.1
  split
  · exact tunnelInStep_pure _
  · split
    · exact (tunnelInStep_onSlot (inStep_beginClose _)).bindAlike fun _ ↦ tunnelInStep_pure _
    · exact tunnelInStep_pure _

/-! ### The transport pump -/

theorem tunnelInStep_pumpFallback : TunnelInStep k (pumpFallback p) (pumpFallback p) := by
  refine Abreast.getBind fun s s' hs ↦ ?_
  have hslot (i : ℕ) : s'.channels.slots i = (s.channels.slots i).restamp (s'.channels.slots i) :=
    (hs.slots i).rest
  have hactive (i : ℕ) : (s'.channels.slots i).active = (s.channels.slots i).active := by
    rw [hslot i]
    rfl
  have hchannel (i : ℕ) : (s'.channels.slots i).sshChannel = (s.channels.slots i).sshChannel := by
    rw [hslot i]
    rfl
  have heof (i : ℕ) : (s'.channels.slots i).remoteEof = (s.channels.slots i).remoteEof := by
    rw [hslot i]
    rfl
  simp only [hactive, hchannel, heof]
  split
  · exact tunnelInStep_pure _
  · split
    · exact tunnelInStep_pure _
    · exact tunnelInStep_onSlot (inStep_pumpRead _ _)

theorem tunnelInStep_pumpSshSlot (i : ℕ) :
    TunnelInStep k (pumpSshSlot p i) (pumpSshSlot p i) := by
  refine tunnel_getSlot_bind fun ch t _ ↦ (tunnelInStep_onSlot inStep_pumpSlot).bindAlike fun _ ↦ ?_
  exact (Abreast.when rfl fun _ ↦ tunnelInStep_mark _).bindAlike fun _ ↦ tunnelInStep_pure _

theorem tunnelInStep_pumpSshTransport :
    TunnelInStep k (pumpSshTransport p) (pumpSshTransport p) := by
  refine (tunnelInStep_sys _).bindAlike fun locked ↦
    Abreast.ite Iff.rfl (fun _ ↦ tunnelInStep_pure _) fun _ ↦ Abreast.getBind fun s s' hs ↦ ?_
  rw [hs.transport]
  refine (Abreast.fold fun any i ↦ ?_).bindAlike fun anyReadDone ↦ ?_
  · exact (tunnelInStep_pumpSshSlot i).bindAlike fun _ ↦ tunnelInStep_pure _
  · exact (Abreast.when rfl fun _ ↦ tunnelInStep_pumpFallback).bindAlike fun _ ↦ tunnelInStep_sys _

theorem tunnelInStep_drainSshToLocal :
    TunnelInStep k (drainSshToLocal p) (drainSshToLocal p) := by
  refine Abreast.getBind fun s s' hs ↦ ?_
  rw [hs.transport]
  exact Abreast.each fun i ↦ tunnelInStep_onSlot inStep_drainSlot

theorem tunnelInStep_drainToRemote (i : ℕ) :
    TunnelInStep k (drainToRemote p i) (drainToRemote p i) := by
  refine (tunnelInStep_sys _).bindAlike fun locked ↦
    Abreast.ite Iff.rfl (fun _ ↦ ?_) fun _ ↦ tunnelInStep_pure _
  refine (tunnelInStep_onSlot (inStep_writeChunks _ _)).bindAlike fun _ ↦ ?_
  exact (tunnelInStep_sys _).bindAlike fun _ ↦ tunnelInStep_onSlot inStep_checkWriteStall

theorem tunnelInStep_drainLocalSlot (i : ℕ) :
    TunnelInStep k (drainLocalSlot p i) (drainLocalSlot p i) := by
  refine tunnel_getSlot_bind fun ch t hch ↦
    Abreast.ite Iff.rfl (fun _ ↦ tunnelInStep_pure _) fun _ ↦
    Abreast.ite (pos_iff_of_zero_iff hch.eofSentMs_zero) (fun _ ↦ tunnelInStep_pure _) fun _ ↦ ?_
  refine (Abreast.when rfl fun _ ↦ tunnelInStep_drainToRemote i).bindAlike fun _ ↦ ?_
  exact (tunnelInStep_onSlot inStep_localBackpressure).bindAlike fun _ ↦
    (tunnelInStep_onSlot inStep_recvChunks).bindAlike fun _ ↦ tunnelInStep_mark _

theorem tunnelInStep_drainLocalToSsh :
    TunnelInStep k (drainLocalToSsh p) (drainLocalToSsh p) := by
  refine Abreast.ite Iff.rfl (fun _ ↦ tunnelInStep_pure _) fun _ ↦ Abreast.getBind fun s s' hs ↦ ?_
  rw [hs.transport]
  exact (Abreast.each fun i ↦ tunnelInStep_drainLocalSlot i).bindAlike fun _ ↦
    tunnelInStep_modifyTransport _

/-- The decision about a draining slot depends on elapsed times only. -/
theorem verdict_shifted {c : UInt32} {ch ch' : ChannelSlot} (h : Synced c ch ch')
    (hdraining : ch.state = .draining) (now : UInt32) : verdict ch' (now + c) = verdict ch now := by
  have hstart : now + c - ch'.closeStartMs = now - ch.closeStartMs := by
    rw [h.draining hdraining, elapsed_eq]
  have herrors : ch'.consecutiveErrors = ch.consecutiveErrors := by
    rw [h.rest]
    rfl
  have hrings : ch'.toLocal = ch.toLocal ∧ ch'.toRemote = ch.toRemote := by
    rw [h.rest]
    exact ⟨rfl, rfl⟩
  by_cases h0 : ch.eofSentMs = 0
  · simp only [verdict, hstart, herrors, hrings, h0, h.eofSentMs_zero.2 h0, if_true]
  · have h0' : ch'.eofSentMs ≠ 0 := fun h' ↦ h0 (h.eofSentMs_zero.1 h')
    simp only [verdict, hstart, herrors, hrings, h0, h0', h.eofSentMs.elapsed h0, if_false]

theorem tunnelInStep_scanSlot (now : UInt32) (picks : Picks) (i : ℕ) :
    TunnelInStep k (scanSlot p now picks i) (scanSlot p (now + stamp k) picks i) := by
  refine tunnel_getSlot_bind fun ch t hch ↦
    Abreast.ite Iff.rfl (fun _ ↦ tunnelInStep_pure _) fun hdraining ↦ ?_
  have hstate : ch.state = .draining := by
    by_contra hne
    simp [hne] at hdraining
  rw [verdict_shifted hch hstate]
  cases verdict ch now with
  | abandon =>
    refine (tunnelInStep_mark _).bindAlike fun _ ↦
      (tunnelInStep_abandonSlot _ _).bindAlike fun _ ↦
      (tunnelInStep_modifyTransport _).bindAlike fun _ ↦ ?_
    exact (tunnelInStep_modifyTransport _).bindAlike fun _ ↦ tunnelInStep_pure _
  | close => exact tunnelInStep_pure _
  | sendEof => exact tunnelInStep_pure _
  | wait => exact tunnelInStep_pure _

theorem tunnelInStep_sendEofs (toSendEof : List ℕ) :
    TunnelInStep k (sendEofs toSendEof) (sendEofs toSendEof) := by
  refine Abreast.ite Iff.rfl (fun _ ↦ ?_) fun _ ↦ tunnelInStep_pure _
  refine (tunnelInStep_sys _).bindAlike fun locked ↦
    Abreast.ite Iff.rfl (fun _ ↦ ?_) fun _ ↦ tunnelInStep_pure _
  exact (Abreast.each fun i ↦ tunnelInStep_onSlot inStep_sendEofSlot).bindAlike fun _ ↦
    tunnelInStep_sys _

theorem tunnelInStep_finalizePick (now : UInt32) (i : ℕ) :
    TunnelInStep k (finalizePick p now i) (finalizePick p (now + stamp k) i) := by
  refine tunnel_getSlot_bind fun ch t _ ↦
    (tunnelInStep_onSlot (inStep_mark _ _)).bindAlike fun _ ↦ ?_
  exact (tunnelInStep_finalizeClose _).bindAlike fun done ↦
    Abreast.when rfl fun _ ↦ tunnelInStep_modifyTransport _

theorem tunnelInStep_finalizePicks (now : UInt32) (toClose : List ℕ) :
    TunnelInStep k (finalizePicks p now toClose) (finalizePicks p (now + stamp k) toClose) := by
  refine Abreast.ite Iff.rfl (fun _ ↦ ?_) fun _ ↦ tunnelInStep_pure _
  refine (tunnelInStep_sys _).bindAlike fun locked ↦
    Abreast.ite Iff.rfl (fun _ ↦ ?_) fun _ ↦ tunnelInStep_pure _
  exact (Abreast.each fun i ↦ tunnelInStep_finalizePick now i).bindAlike fun _ ↦ tunnelInStep_sys _

theorem tunnelInStep_checkCloses : TunnelInStep k (checkCloses p) (checkCloses p) := by
  refine tunnel_millis_bind fun now ↦
    (Abreast.each fun i ↦ tunnelInStep_onSlot (inStep_checkSlot now)).bindAlike fun _ ↦
    tunnel_millis_bind fun now ↦
    (Abreast.fold fun picks i ↦ tunnelInStep_scanSlot now picks i).bindAlike fun picks ↦ ?_
  exact (tunnelInStep_sendEofs _).bindAlike fun _ ↦ tunnelInStep_finalizePicks now _

theorem tunnelInStep_pumpAll : TunnelInStep k (pumpAll p) (pumpAll p) := by
  refine (tunnelInStep_modifyTransport _).bindAlike fun _ ↦
    tunnelInStep_pumpSshTransport.bindAlike fun _ ↦
    tunnelInStep_drainSshToLocal.bindAlike fun _ ↦
    tunnelInStep_drainLocalToSsh.bindAlike fun _ ↦
    tunnelInStep_checkCloses.bindAlike fun _ ↦ Abreast.getBind fun s s' hs ↦ ?_
  rw [hs.transport]
  exact tunnelInStep_pure _

/-! ### Operations -/

/-- Every operation of the channel manager and every pump cycle, from states that hold no reading
whose counterpart is `0`. -/
theorem tunnel_managerOp (op : ManagerOp) : Abreast (tunnelGap k)
    (fun s s' ↦ SameTunnel k s s' ∧ (tunnelGap k).left s ∧ (tunnelGap k).right s')
    (op.prog p) (op.prog p) (Alike (SameTunnel k)) := by
  cases op with
  | allocateSlot => exact tunnel_allocateSlot.bindAlike fun _ ↦ tunnelInStep_pure _
  | bindChannel i h mapping =>
    refine Abreast.pre ?_ fun _ _ hs ↦ hs.1
    exact (tunnelInStep_bindChannel i h mapping).bindAlike fun _ ↦ tunnelInStep_pure _
  | beginClose i reason =>
    exact Abreast.pre (tunnelInStep_beginCloseAt i reason) fun _ _ hs ↦ hs.1
  | finalizeClose i =>
    refine Abreast.pre ?_ fun _ _ hs ↦ hs.1
    exact (tunnelInStep_finalizeClose i).bindAlike fun _ ↦ tunnelInStep_pure _
  | abandonSlot i reason =>
    exact Abreast.pre (tunnelInStep_abandonSlot i reason) fun _ _ hs ↦ hs.1
  | pumpAll =>
    refine Abreast.pre ?_ fun _ _ hs ↦ hs.1
    exact tunnelInStep_pumpAll.bindAlike fun _ ↦ tunnelInStep_pure _

end ReverseTunnel
