import ReverseTunnel.Lifetime.Requests
import ReverseTunnel.System.Trace

/-!
# What every operation of the tunnel keeps to

One pass over the programs of the tunnel, for two rules about the calls they make. `LockRule`: libssh2
gets a channel or a listener only while the session lock is held, the lock is not asked for while it
is held, and it is given back only then. `SiteRule`: a program for a slot asks for as many bytes as
`SiteOk` says.

`Abides p locked` says that both rules have been kept so far and whether the lock is held now. A
program that works under the lock preserves `Abides p true`, one that takes the lock itself preserves
`Abides p false`, and one that never touches it preserves both.
-/

namespace ReverseTunnel

open Traced TunnelM

/-- A call that libssh2 must not get without the session lock. -/
def Call.needsLock : Call → Bool
  | .io _ c => c.handle.isSome
  | .sys (.channelClose _) | .sys (.channelFree _) | .sys (.forwardAccept _)
  | .sys (.forwardListen _ _ _ _) | .sys (.forwardCancel _) => true
  | .sys _ => false

/-- An attempt to take the session lock. -/
def Call.takesLock : Call → Bool
  | .sys (.lock _) => true
  | _ => false

/-- The session lock is given back. -/
def Call.givesLock : Call → Bool
  | .sys .unlock => true
  | _ => false

/-- Whether the session lock is held, after what has happened so far. -/
def holding : Trace SSHTunnel Call Call.Reply Mark → Bool
  | [] => false
  | .call _ _ _ (.sys (.lock _)) true :: _ => true
  | .call _ _ _ (.sys .unlock) _ :: _ => false
  | _ :: past => holding past

/-- The rule for the session lock. -/
def LockRule (x : Item SSHTunnel Call Call.Reply Mark)
    (past : Trace SSHTunnel Call Call.Reply Mark) : Prop :=
  match x with
  | .call _ _ _ c _ =>
    (c.needsLock = true → holding past = true) ∧ (c.takesLock = true → holding past = false) ∧
      (c.givesLock = true → holding past = true)
  | .mark _ _ _ => True

/-- The rule for the size of requests. -/
def SiteRule (p : Params) (x : SlotItem) (past : SlotLog) : Prop :=
  match x with
  | .call _ _ ch c _ => inFlush past = true ∨ SiteOk p ch c
  | .mark _ _ _ => True

/-- Both rules have been kept, and the lock is held or not. -/
structure Abides (p : Params) (locked : Bool) (w : TunnelWorld) : Prop where
  /-- The rule for the lock. -/
  lockRule : History.Always LockRule w.trace
  /-- Whether the lock is held. -/
  holding_eq : holding w.trace = locked
  /-- The rule for requests. -/
  siteRule : ∀ i, History.Always (SiteRule p) (slotLog i w.trace)

variable {p : Params} {locked : Bool} {w : TunnelWorld}

/-! ### Single operations -/

/-- Calls that have nothing to do with the lock. -/
theorem holding_call {c : Call} (hc : c.takesLock = false) (hc' : c.givesLock = false) {id t : ℕ}
    {s : SSHTunnel} {r : c.Reply} {past : Trace SSHTunnel Call Call.Reply Mark} :
    holding (.call id t s c r :: past) = holding past := by
  cases c with
  | io i c => rfl
  | sys c =>
    cases c with
    | lock ms => cases hc
    | unlock => cases hc'
    | _ => rfl

/-- A call made on behalf of the session keeps to both rules if the lock is held where it is needed, and
is not touched. -/
theorem Abides.sys {c : SysCall} (h : Abides p locked w) (hc : (Call.sys c).takesLock = false)
    (hc' : (Call.sys c).givesLock = false)
    (hneed : (Call.sys c).needsLock = true → locked = true) (r : c.Reply) (t : ℕ) :
    Abides p locked (w.after (.sys c) r t) := by
  refine ⟨⟨⟨fun hn ↦ ?_, fun hn ↦ ?_, fun hn ↦ ?_⟩, h.lockRule⟩, ?_, h.siteRule⟩
  · rw [h.holding_eq, hneed hn]
  · rw [hc] at hn
    cases hn
  · rw [hc'] at hn
    cases hn
  · exact (holding_call hc hc').trans h.holding_eq

/-- A call that needs no lock and does not touch it. -/
def SysCall.free (c : SysCall) : Bool :=
  !(Call.sys c).needsLock && !(Call.sys c).takesLock && !(Call.sys c).givesLock

/-- A free call may be made anywhere. -/
theorem abides_sysId {c : SysCall} (hc : c.free = true) : Preserves (Abides p locked) (sysId c) := by
  simp only [SysCall.free, Bool.and_eq_true, Bool.not_eq_true'] at hc
  obtain ⟨⟨hneed, htake⟩, hgive⟩ := hc
  intro w h
  exact wp_callId fun r t _ ↦ h.sys htake hgive (fun hno ↦ by rw [hneed] at hno; cases hno) r t

/-- The same, where only the answer is wanted. -/
theorem abides_sys {c : SysCall} (hc : c.free = true) : Preserves (Abides p locked) (sys c) :=
  (abides_sysId hc).bind fun _ ↦ Preserves.ret

/-- Under the lock libssh2 may get a channel or a listener. -/
theorem abidesLocked_sysId {c : SysCall} (hc : (Call.sys c).takesLock = false)
    (hc' : (Call.sys c).givesLock = false) : Preserves (Abides p true) (sysId c) :=
  fun _ h ↦ wp_callId fun r t _ ↦ h.sys hc hc' (fun _ ↦ rfl) r t

/-- Under the lock, a call may need it. -/
theorem abidesLocked_sys {c : SysCall} (hc : (Call.sys c).takesLock = false)
    (hc' : (Call.sys c).givesLock = false) : Preserves (Abides p true) (sys c) :=
  (abidesLocked_sysId hc hc').bind fun _ ↦ Preserves.ret

/-- The lock is asked for where it is not held. The answer says whether it is held from then on. -/
theorem abides_lock (ms : ℕ) :
    Triple (Abides p false) (lock ms) fun locked ↦ Abides p locked := by
  refine fun w h ↦ wp_call fun got t _ ↦ ⟨⟨⟨fun hn ↦ ?_, fun _ ↦ h.holding_eq, fun hn ↦ ?_⟩,
    h.lockRule⟩, ?_, h.siteRule⟩
  · cases hn
  · cases hn
  · cases got with
    | true => rfl
    | false => exact h.holding_eq

/-- The lock is given back where it is held. -/
theorem abides_unlock : Triple (Abides p true) unlock fun _ ↦ Abides p false := by
  refine fun w h ↦ wp_call fun _ t _ ↦ ⟨⟨⟨fun hn ↦ ?_, fun hn ↦ ?_, fun _ ↦ h.holding_eq⟩,
    h.lockRule⟩, rfl, h.siteRule⟩
  · cases hn
  · cases hn

/-- The rules are about calls, so the state may change in any way. -/
theorem abides_modify (f : SSHTunnel → SSHTunnel) : Preserves (Abides p locked) (Prog.modify f) :=
  fun _ h ↦ wp_modify ⟨h.lockRule, h.holding_eq, h.siteRule⟩

/-- The state of the channel manager is part of it. -/
theorem abides_modifyChannels (f : ChannelManager → ChannelManager) :
    Preserves (Abides p locked) (modifyChannels f) :=
  abides_modify _

/-- So is that of the pump. -/
theorem abides_modifyTransport (f : TransportPump → TransportPump) :
    Preserves (Abides p locked) (modifyTransport f) :=
  abides_modify _

/-- And so are the two queues. -/
theorem abides_modifyQueue (q : QueueName) (f : ChannelQueue → ChannelQueue) :
    Preserves (Abides p locked) (modifyQueue q f) := by
  cases q with
  | pending =>
    rw [modifyQueue]
    exact abides_modify _
  | deferredClose =>
    rw [modifyQueue]
    exact abides_modify _

/-- Reading the clock leaves no entry. -/
theorem abides_millis : Preserves (Abides p locked) millis :=
  fun _ h ↦ wp_tick_bind fun _ _ ↦ wp_pure ⟨h.lockRule, h.holding_eq, h.siteRule⟩

/-- Nor does looking at a slot. -/
theorem abides_getSlot (i : ℕ) : Preserves (Abides p locked) (getSlot i) :=
  Preserves.get_bind fun _ ↦ Preserves.ret

/-- A mark of the tunnel itself. -/
def Mark.own : Mark → Bool
  | .slot _ _ => false
  | _ => true

/-- A mark is not a call. Those of a slot are left to `abides_onSlot`. -/
theorem abides_mark {m : Mark} (hm : m.own = true) : Preserves (Abides p locked) (Prog.mark m) := by
  refine fun w h ↦ wp_mark ⟨⟨trivial, h.lockRule⟩, h.holding_eq, fun i ↦ ?_⟩
  cases m with
  | slot j m => cases hm
  | _ => exact h.siteRule i

/-! ### Work on a slot -/

/-- What follows `channelSendEof` in a part of the log follows it in the whole. -/
theorem inFlush_append {log rest : SlotLog} (h : inFlush log = true) :
    inFlush (log ++ rest) = true := by
  induction log with
  | nil => cases h
  | cons x log ih =>
    cases x with
    | mark t s m => cases h
    | call id t s c r =>
      cases c with
      | channelSendEof hd => rfl
      | channelRead hd n => exact ih h
      | _ => cases h

/-- A program for a slot neither takes the lock nor gives it back. -/
theorem holding_append {i : ℕ} {items past : Trace SSHTunnel Call Call.Reply Mark}
    (h : ∀ x ∈ items, (slotItem? i x).isSome = true) : holding (items ++ past) = holding past := by
  induction items with
  | nil => rfl
  | cons x items ih =>
    have ih := ih fun y hy ↦ h y (List.mem_cons_of_mem _ hy)
    obtain ⟨y, hy⟩ := Option.isSome_iff_exists.1 (h x (List.mem_cons_self ..))
    rcases slotItem?_eq_some.1 hy with ⟨id, t, s, c, r, rfl, rfl⟩ | ⟨t, s, m, rfl, rfl⟩ <;> exact ih

/-- What a program for a slot has done, as part of the whole. -/
theorem Abides.lift {i : ℕ} {l : SlotWorld} (h : Abides p locked w) (hl : Locally p locked l) :
    Abides p locked (lift i w l) := by
  have hslot : ∀ x ∈ l.trace.map (Item.map (R := Call.Reply) (fun c ↦ w.st.setCtx i c) (Call.io i)
      (Mark.slot i)), (slotItem? i x).isSome = true := by
    intro x hx
    obtain ⟨y, -, rfl⟩ := List.mem_map.1 hx
    rw [slotItem?_map_same]
    rfl
  refine ⟨?_, (holding_append hslot).trans h.holding_eq, fun j ↦ ?_⟩
  · rw [Locally] at hl
    show History.Always LockRule (_ ++ w.trace)
    generalize l.trace = trace at hl hslot
    induction trace with
    | nil => exact h.lockRule
    | cons x trace ih =>
      have hslot' := fun y hy ↦ hslot y (List.mem_cons_of_mem _ hy)
      refine ⟨?_, ih hl.2 hslot'⟩
      cases x with
      | mark t c m => trivial
      | call id t c io r =>
        refine ⟨fun hn ↦ ?_, fun hn ↦ (by cases hn), fun hn ↦ (by cases hn)⟩
        refine (holding_append hslot').trans (h.holding_eq.trans ?_)
        cases locked with
        | true => rfl
        | false =>
          have hnone : io.handle = none := hl.1.1 rfl
          have hn : io.handle.isSome = true := hn
          rw [hnone] at hn
          cases hn
  · by_cases hj : j = i
    · subst hj
      rw [← slotView_log, slotView_lift_same]
      refine History.Always.append_of hl (h.siteRule j) fun x near hx ↦ ?_
      cases x with
      | mark t s m => trivial
      | call id t s c r => exact hx.2.imp_left inFlush_append
    · rw [← slotView_log, slotView_lift_ne hj]
      exact h.siteRule j

/-- The rules for a program for a slot are those of `Locally`. -/
theorem abides_onSlot {α : Type} (i : ℕ) {m : SlotM α} (hm : Preserves (Locally p locked) m) :
    Preserves (Abides p locked) (onSlot i m) :=
  fun _ h ↦ wp_onSlot (wp_mono (hm _ trivial) fun _ _ hl ↦ h.lift hl)

/-! ### Locked sections -/

section Sections

variable {α : Type} {m m' : TunnelM α} {Q : α → Assertion SSHTunnel Call Call.Reply Mark}

/-- A program that goes on either way, with the lock or without it. -/
theorem abides_lock_bind {ms : ℕ} {f : Bool → TunnelM α}
    (hf : ∀ locked, Triple (Abides p locked) (f locked) Q) :
    Triple (Abides p false) (lock ms >>= f) Q :=
  (abides_lock ms).bind hf

/-- Work under the lock, if it was got. -/
theorem abides_ifLocked {ms : ℕ} (hm : Triple (Abides p true) m Q)
    (hm' : Triple (Abides p false) m' Q) :
    Triple (Abides p false) (do
      let locked : Bool ← lock ms
      if locked then m else m') Q := by
  refine abides_lock_bind fun locked ↦ ?_
  cases locked with
  | true => exact hm
  | false => exact hm'

/-- The same, asked the other way round. -/
theorem abides_unlessLocked {ms : ℕ} (hm' : Triple (Abides p false) m' Q)
    (hm : Triple (Abides p true) m Q) :
    Triple (Abides p false) (do
      let locked : Bool ← lock ms
      if !locked then m' else m) Q := by
  refine abides_lock_bind fun locked ↦ ?_
  cases locked with
  | true => exact hm
  | false => exact hm'

/-- After the lock was given back a program goes on without it. -/
theorem abides_unlock_bind {f : Unit → TunnelM α} (hf : Triple (Abides p false) (f ()) Q) :
    Triple (Abides p true) (unlock >>= f) Q :=
  abides_unlock.bind fun _ ↦ hf

/-- The lock is given back if it was got. -/
theorem abides_unlockIf : Triple (Abides p locked) (Prog.when locked unlock) fun _ ↦ Abides p false := by
  cases locked with
  | true => exact abides_unlock
  | false => exact Preserves.ret

end Sections

/-! ### The session -/

/-- A listener that cannot be cancelled for want of the lock is left alone. -/
theorem abides_cancelListener (entry : ListenerEntry) :
    Preserves (Abides p false) (cancelListener entry) := by
  rw [cancelListener]
  split
  · exact Preserves.ret
  · exact abides_ifLocked (Triple.bind (abidesLocked_sys rfl rfl) fun _ ↦ abides_unlock)
      Preserves.ret

/-- Each listener is cancelled under a lock of its own. -/
theorem abides_cancelAllListeners : Preserves (Abides p false) cancelAllListeners :=
  Preserves.get_bind fun _ ↦ (Preserves.each fun _ _ ↦ abides_cancelListener _).bind fun _ ↦
    abides_modify _

/-- Closing the socket does not involve libssh2, so it may happen with the lock or without it. -/
theorem abides_closeTransport : Preserves (Abides p locked) closeTransport :=
  Preserves.get_bind fun _ ↦ Preserves.ite
    ((abides_sys rfl).bind fun _ ↦ (abides_sys rfl).bind fun _ ↦ abides_modify _) Preserves.ret

/-- Freeing the session passes it no channel, however often that is tried. -/
theorem abides_retrySessionFree (session n : ℕ) (freeRc : Int) :
    Preserves (Abides p locked) (retrySessionFree session n freeRc) := by
  induction n generalizing freeRc with
  | zero => exact Preserves.ret
  | succ n ih =>
    exact Preserves.ite ((abides_sys rfl).bind fun _ ↦ (abides_sys rfl).bind fun rc ↦ ih rc)
      Preserves.ret

/-- Neither does freeing it by force, once the socket is closed. -/
theorem abides_forceSessionFree (session : ℕ) (freeRc : Int) :
    Preserves (Abides p locked) (forceSessionFree session freeRc) :=
  Preserves.get_bind fun _ ↦ Preserves.ite
    (abides_closeTransport.bind fun _ ↦ abides_retrySessionFree _ _ _) Preserves.ret

/-- The session is freed with the lock or without it. -/
theorem abides_freeSession : Preserves (Abides p false) freeSession := by
  refine Preserves.get_bind fun s ↦ ?_
  split
  · exact Preserves.ret
  · refine abides_lock_bind fun locked ↦ ?_
    refine Triple.bind (abides_sys rfl) fun _ ↦ Triple.bind (abides_sys rfl) fun freeRc ↦ ?_
    refine Triple.bind (abides_forceSessionFree _ _) fun _ ↦ ?_
    exact Triple.bind (Preserves.when (abides_modify _)) fun _ ↦ abides_unlockIf

/-- The whole of the cleanup, listeners first. -/
theorem abides_cleanupSession : Preserves (Abides p false) cleanupSession :=
  abides_cancelAllListeners.bind fun _ ↦ abides_freeSession.bind fun _ ↦
    abides_closeTransport.bind fun _ ↦ abides_modify _

/-- The listeners are cancelled twice, the second time as a part of the cleanup. -/
theorem abides_sessionDisconnect : Preserves (Abides p false) sessionDisconnect :=
  (abides_mark rfl).bind fun _ ↦ abides_cancelAllListeners.bind fun _ ↦ abides_cleanupSession

/-- The TCP connection is made before there is a session. -/
theorem abides_tcpConnect : Preserves (Abides p locked) (tcpConnect p) := by
  have hgiveUp : ∀ fd : Int, Preserves (Abides p locked) (do
      let _ ← sys (.tcpClose fd)
      modifySession fun s ↦ { s with socketfd := -1 }
      pure false) := fun fd ↦
    (abides_sys rfl).bind fun _ ↦ (abides_modify _).bind fun _ ↦ Preserves.ret
  refine (abides_sysId rfl).bind fun res ↦ Preserves.ite
    ((abides_modify _).bind fun _ ↦ Preserves.ret) ?_
  refine (abides_modify _).bind fun _ ↦ (abides_sys rfl).bind fun _ ↦
    Preserves.ite (hgiveUp _) ?_
  exact (abides_sys rfl).bind fun _ ↦ Preserves.ite (hgiveUp _) Preserves.ret

/-- The handshake runs under the lock, which is given back on both ways out. -/
theorem abides_handshake : Preserves (Abides p false) handshake := by
  refine (abides_sysId rfl).bind fun res ↦ Preserves.ite
    ((abides_modify _).bind fun _ ↦ Preserves.ret) ?_
  refine (abides_modify _).bind fun _ ↦ abides_unlessLocked ?_ ?_
  · exact (abides_sys rfl).bind fun _ ↦ (abides_modify _).bind fun _ ↦ Preserves.ret
  · intro w h
    refine wp_get_bind.2 (Triple.bind (abides_sys rfl) (fun rc w h ↦ wp_ite (fun _ ↦ ?_) fun _ ↦ ?_) w h)
    · exact Triple.bind (abides_sys rfl) (fun _ ↦ Triple.bind (abides_modify _) fun _ ↦
        abides_unlock_bind Preserves.ret) w h
    · exact abides_unlock_bind Preserves.ret w h

/-- The fingerprint is compared without libssh2. -/
theorem abides_checkHostKey (sshConfig : SSHServerConfig) (hostKeyType : Int)
    (hash : List UInt8) : Preserves (Abides p false) (checkHostKey sshConfig hostKeyType hash) :=
  Preserves.ite Preserves.ret <| Preserves.ite Preserves.ret <|
    Preserves.ite ((abides_sys rfl).bind fun _ ↦ Preserves.ret) Preserves.ret

/-- The host key is fetched under the lock, and compared after it was given back. -/
theorem abides_verifyHostKey (session : ℕ) : Preserves (Abides p false) (verifyHostKey p session) := by
  refine Preserves.ite Preserves.ret (abides_unlessLocked Preserves.ret ?_)
  refine Triple.bind (abides_sys rfl) fun hostKey ↦ abides_unlock_bind ?_
  cases hostKey.hash with
  | none => exact Preserves.ret
  | some hash => exact Preserves.ite Preserves.ret (abides_checkHostKey _ _ _)

/-- The lock is taken for the text of an error only. -/
theorem abides_lockForLog (ms : ℕ) : Preserves (Abides p false) (lockForLog ms) :=
  abides_lock_bind fun _ ↦ abides_unlockIf

/-- Each of the three requests has a lock of its own. -/
theorem abides_authenticate (session : ℕ) : Preserves (Abides p false) (authenticate p session) := by
  have hask : ∀ {c : SysCall} {f : c.Reply → Bool}, c.free = true → Preserves (Abides p false) (do
      let locked : Bool ← lock 1000
      if !locked then pure false
      else do
        let rc ← sys c
        unlock
        pure (f rc)) := fun hc ↦
    abides_unlessLocked Preserves.ret (Triple.bind (abides_sys hc) fun _ ↦
      abides_unlock_bind Preserves.ret)
  refine abides_unlessLocked Preserves.ret (Triple.bind (abides_sys rfl) fun _ ↦ ?_)
  refine abides_unlock_bind (Preserves.ite ((abides_lockForLog _).bind fun _ ↦ Preserves.ret) ?_)
  exact Preserves.ite (hask rfl) (Preserves.ite (Preserves.ite Preserves.ret (hask rfl)) Preserves.ret)

/-- Keepalives are configured under the lock. -/
theorem abides_configureKeepalive (session : ℕ) :
    Preserves (Abides p false) (configureKeepalive p session) :=
  Preserves.ite Preserves.ret (abides_ifLocked (Triple.bind (abides_sys rfl) fun _ ↦
    abides_unlock_bind Preserves.ret) Preserves.ret)

/-- A listener is asked for under the lock, and the pause before the next attempt is made without it. By
induction on the attempts that are left. -/
theorem abides_listenAttempts (session : ℕ) (mapping : TunnelConfig) (n : ℕ) :
    Preserves (Abides p false) (listenAttempts p session mapping n) := by
  induction n with
  | zero => exact Preserves.ret
  | succ n ih =>
    refine abides_unlessLocked ((abides_sys rfl).bind fun _ ↦ ih) ?_
    refine Triple.bind (abidesLocked_sysId rfl rfl) fun res ↦ abides_unlock_bind ?_
    split
    · exact Preserves.ret
    · exact (abides_sys rfl).bind fun _ ↦ ih

/-- Why no listener was opened is looked up under another lock. -/
theorem abides_createListenerForMapping (session : ℕ) (mapping : TunnelConfig) :
    Preserves (Abides p false) (createListenerForMapping p session mapping) := by
  refine (abides_listenAttempts _ _ _).bind fun handle ↦ ?_
  split
  · exact (abides_lockForLog _).bind fun _ ↦ Preserves.ret
  · exact Preserves.ret

/-- One listener after the other; the first that cannot be opened takes the others down. By induction on
the mappings. -/
theorem abides_addListeners (session : ℕ) (mappings : List TunnelConfig) :
    Preserves (Abides p false) (addListeners p session mappings) := by
  induction mappings with
  | nil => exact Preserves.get_bind fun _ ↦ Preserves.ret
  | cons mapping rest ih =>
    refine (abides_createListenerForMapping _ _).bind fun entry ↦ ?_
    split
    · exact abides_cancelAllListeners.bind fun _ ↦ Preserves.ret
    · exact (abides_modify _).bind fun _ ↦ ih

/-- Every way out of the set-up of a session passes through the cleanup or keeps the session. -/
theorem abides_establish (session : ℕ) : Preserves (Abides p false) (establish p session) := by
  have hgiveUp : Preserves (Abides p false) (do
      cleanupSession
      pure false) := abides_cleanupSession.bind fun _ ↦ Preserves.ret
  refine (abides_verifyHostKey _).bind fun _ ↦ Preserves.ite hgiveUp ?_
  refine (abides_authenticate _).bind fun _ ↦ Preserves.ite hgiveUp ?_
  refine (abides_configureKeepalive _).bind fun _ ↦ Preserves.bind ?_ fun _ ↦
    Preserves.ite hgiveUp ((abides_sys rfl).bind fun _ ↦ Preserves.ret)
  exact abides_cancelAllListeners.bind fun _ ↦ (abides_modify _).bind fun _ ↦
    Preserves.ite Preserves.ret (abides_addListeners _ _)

/-- An old session is cleaned up before a new one is set up. -/
theorem abides_sessionConnect : Preserves (Abides p false) (sessionConnect p) := by
  refine (abides_modify _).bind fun _ ↦ Preserves.get_bind fun _ ↦
    (Preserves.when abides_cleanupSession).bind fun _ ↦ Preserves.get_bind fun _ ↦
    Preserves.ite Preserves.ret ?_
  refine abides_tcpConnect.bind fun _ ↦ Preserves.ite Preserves.ret ?_
  refine abides_handshake.bind fun _ ↦ Preserves.get_bind fun _ ↦ ?_
  split
  · exact abides_establish _
  · exact abides_cleanupSession.bind fun _ ↦ Preserves.ret

/-- Each listener is asked under a lock of its own. By induction on the listeners. -/
theorem abides_acceptFrom (session : ℕ) (listeners : List ListenerEntry) :
    Preserves (Abides p false) (acceptFrom session listeners) := by
  induction listeners with
  | nil => exact Preserves.ret
  | cons entry rest ih =>
    rw [acceptFrom]
    split
    · exact ih
    · refine abides_unlessLocked ih (Triple.bind (abidesLocked_sysId rfl rfl) fun res w h ↦
        wp_ite (fun _ ↦ ?_) fun _ ↦ ?_)
      · exact abides_unlock_bind ((abides_modify _).bind fun _ ↦ Preserves.ret) w h
      · exact Triple.bind (abides_sys rfl) (fun _ ↦ abides_unlock_bind
          ((abides_modify _).bind fun _ ↦ ih)) w h

/-- Without a session no listener is asked. -/
theorem abides_acceptChannel : Preserves (Abides p false) acceptChannel := by
  refine Preserves.get_bind fun s ↦ ?_
  split
  · exact Preserves.ret
  · exact abides_acceptFrom _ _

/-- The socket is not libssh2's business. -/
theorem abides_logSocketError : Preserves (Abides p locked) logSocketError :=
  Preserves.get_bind fun _ ↦ Preserves.ite ((abides_sys rfl).bind fun _ ↦ Preserves.ret) Preserves.ret

/-- Counting failures makes no call. -/
theorem abides_keepaliveFailed (rc : Int) : Preserves (Abides p locked) (keepaliveFailed rc) := by
  refine Preserves.ite (Preserves.get_bind fun _ ↦ Preserves.ite ?_ ?_)
    (Preserves.ite ?_ Preserves.ret) <;>
    exact (abides_modify _).bind fun _ ↦ Preserves.ret

/-- The keepalive is sent under the lock, and what became of it is looked into afterwards. -/
theorem abides_sendKeepalive : Preserves (Abides p false) sendKeepalive := by
  refine Preserves.get_bind fun s ↦ ?_
  split
  · exact Preserves.ret
  · refine abides_unlessLocked Preserves.ret (Triple.bind (abides_sys rfl) fun _ ↦
      abides_unlock_bind (Preserves.ite ?_ ?_))
    · exact (abides_modify _).bind fun _ ↦ Preserves.ret
    · exact abides_logSocketError.bind fun _ ↦ abides_keepaliveFailed _

/-- Asking the socket for its error needs no lock. -/
theorem abides_checkConnection : Preserves (Abides p locked) checkConnection :=
  Preserves.get_bind fun _ ↦ Preserves.ite Preserves.ret ((abides_sys rfl).bind fun _ ↦ Preserves.ret)

/-! ### The channel manager -/

/-- Making room may begin to close a slot, which makes no call. -/
theorem abides_allocateSlot : Preserves (Abides p locked) (allocateSlot p) := by
  refine abides_millis.bind fun now ↦ Preserves.get_bind fun s ↦ ?_
  split
  · exact Preserves.ret
  · dsimp only
    split
    · exact (abides_onSlot _ (locally_beginClose _)).bind fun _ ↦ Preserves.ret
    · exact Preserves.ret

/-- The local connection has nothing to do with libssh2, on any of its ways out. -/
theorem abides_connectToLocalEndpoint (mapping : TunnelConfig) :
    Preserves (Abides p locked) (connectToLocalEndpoint mapping) := by
  have hgiveUp : ∀ fd : Int, Preserves (Abides p locked) (do
      let _ ← sys (.localClose fd)
      pure (-1 : Int)) := fun fd ↦ (abides_sys rfl).bind fun _ ↦ Preserves.ret
  refine (abides_sysId rfl).bind fun res ↦ Preserves.ite Preserves.ret ?_
  refine (abides_sys rfl).bind fun _ ↦ Preserves.ite (hgiveUp _) ?_
  refine (abides_sys rfl).bind fun _ ↦ Preserves.ite (hgiveUp _) ?_
  refine (abides_sys rfl).bind fun _ ↦ Preserves.ite (hgiveUp _) ?_
  refine (abides_sys rfl).bind fun _ ↦ ?_
  split
  · exact Preserves.ret
  · exact hgiveUp _
  · refine (abides_sys rfl).bind fun _ ↦ Preserves.ite (hgiveUp _) ?_
    exact (abides_sys rfl).bind fun _ ↦ Preserves.ite (hgiveUp _) Preserves.ret

/-- Binding ends with a call that passes the channel to libssh2, so it needs the lock. -/
theorem abides_bindChannel (i : Int) (h : Handle) (mapping : TunnelConfig) :
    Preserves (Abides p true) (bindChannel p i h mapping) := by
  refine Preserves.ite Preserves.ret ((abides_getSlot _).bind fun _ ↦ ?_)
  refine Preserves.ite Preserves.ret
    ((abides_connectToLocalEndpoint mapping).bind fun fd ↦ Preserves.ite ?_ ?_)
  · exact abides_millis.bind fun _ ↦ (abides_modify _).bind fun _ ↦ Preserves.ret
  · have hgiveUp : Preserves (Abides p true) (do
        let _ ← sys (.localClose fd)
        pure false) := (abides_sys rfl).bind fun _ ↦ Preserves.ret
    refine (abides_modify _).bind fun _ ↦ (abides_sys rfl).bind fun _ ↦ Preserves.ite hgiveUp ?_
    refine (abides_sys rfl).bind fun _ ↦ (abides_sys rfl).bind fun _ ↦ Preserves.ite hgiveUp ?_
    exact (abides_onSlot _ (locally_bindSlot _ _ _ _)).bind fun _ ↦
      (abides_modifyChannels _).bind fun _ ↦ Preserves.ret

/-- The statistics are a part of the state. -/
theorem abides_archiveSlotStats (i : ℕ) : Preserves (Abides p locked) (archiveSlotStats i) :=
  abides_modifyChannels _

/-- Closing and freeing the channel needs the lock. -/
theorem abides_finalizeClose (i : Int) : Preserves (Abides p true) (finalizeClose p i) := by
  refine Preserves.ite Preserves.ret ((abides_getSlot _).bind fun _ ↦ Preserves.ite Preserves.ret ?_)
  refine (abides_onSlot _ locally_releaseChannel).bind fun _ ↦ Preserves.ite Preserves.ret ?_
  exact (abides_onSlot _ locally_discardLocal).bind fun _ ↦ (abides_archiveSlotStats _).bind fun _ ↦
    (abides_onSlot _ locally_closeSlot).bind fun _ ↦ (abides_modifyChannels _).bind fun _ ↦
    Preserves.ret

/-- Abandoning a slot is what can be done without it. -/
theorem abides_abandonSlot (i : Int) (reason : ChannelCloseReason) :
    Preserves (Abides p locked) (abandonSlot p i reason) := by
  refine Preserves.ite Preserves.ret ((abides_getSlot _).bind fun _ ↦ Preserves.ite Preserves.ret ?_)
  exact (abides_onSlot _ locally_dropLocal).bind fun _ ↦ (abides_archiveSlotStats _).bind fun _ ↦
    (abides_modifyChannels _).bind fun _ ↦ abides_onSlot _ (locally_modifySlot _)

/-! ### The pump -/

/-- The fallback slot is one whose remote end is done. -/
theorem abides_pumpFallback : Preserves (Abides p true) (pumpFallback p) := by
  intro w hw
  rw [pumpFallback, wp_get_bind]
  dsimp only
  split
  · exact wp_pure hw
  · next i hi =>
    have heof : (w.st.channels.slots i).remoteEof = true := by
      have := List.find?_some hi
      simp only [Bool.and_eq_true] at this
      exact this.2
    split
    · exact wp_pure hw
    · exact wp_onSlot (wp_mono (locally_pumpRead _ _ trivial heof) fun _ _ hl ↦ hw.lift hl)

/-- Reading one slot needs the lock. -/
theorem abides_pumpSshSlot (i : ℕ) : Preserves (Abides p true) (pumpSshSlot p i) :=
  (abides_getSlot i).bind fun _ ↦ (abides_onSlot i locally_pumpSlot).bind fun _ ↦
    (Preserves.when (abides_mark rfl)).bind fun _ ↦ Preserves.ret

/-- Phase 1 reads all of them under one lock. -/
theorem abides_pumpSshTransport : Preserves (Abides p false) (pumpSshTransport p) := by
  refine abides_unlessLocked Preserves.ret ?_
  intro w h
  refine wp_get_bind.2 ?_
  refine Triple.bind (Preserves.fold fun any i _ ↦ ?_) (fun any ↦ ?_) w h
  · exact (abides_pumpSshSlot i).bind fun _ ↦ Preserves.ret
  · exact Triple.bind (Preserves.when abides_pumpFallback) fun _ ↦ abides_unlock

/-- Phase 2 only sends to local sockets, so it may run with the lock or without it. -/
theorem abides_drainSshToLocal : Preserves (Abides p locked) (drainSshToLocal p) :=
  Preserves.get_bind fun _ ↦ Preserves.each fun i _ ↦ abides_onSlot i locally_drainSlot

/-- Phase 3 writes to the channel under the lock and receives from the socket without it. -/
theorem abides_drainLocalSlot (i : ℕ) : Preserves (Abides p false) (drainLocalSlot p i) := by
  refine (abides_getSlot i).bind fun _ ↦ Preserves.ite Preserves.ret (Preserves.ite Preserves.ret ?_)
  refine (Preserves.when (abides_ifLocked ?_ Preserves.ret)).bind fun _ ↦ ?_
  · exact Triple.bind (abides_onSlot i (locally_writeChunks _ _)) fun _ ↦
      abides_unlock_bind (abides_onSlot i locally_checkWriteStall)
  · exact (abides_onSlot i locally_localBackpressure).bind fun _ ↦
      (abides_onSlot i locally_recvChunks).bind fun _ ↦ abides_mark rfl

/-- The lock is given back between two slots. -/
theorem abides_drainLocalToSsh : Preserves (Abides p false) (drainLocalToSsh p) :=
  Preserves.ite Preserves.ret (Preserves.get_bind fun _ ↦
    (Preserves.each fun i _ ↦ abides_drainLocalSlot i).bind fun _ ↦ abides_modify _)

/-- An event is only noted. -/
theorem abides_pushCloseEvent (i : ℕ) (reason : ChannelCloseReason) :
    Preserves (Abides p locked) (pushCloseEvent i reason) :=
  abides_modifyTransport _

/-- Step 2 looks at each slot, and may abandon it. -/
theorem abides_scanSlot (now : UInt32) (picks : Picks) (i : ℕ) :
    Preserves (Abides p locked) (scanSlot p now picks i) := by
  refine (abides_getSlot i).bind fun ch ↦ Preserves.ite Preserves.ret ?_
  split
  · exact (abides_mark rfl).bind fun _ ↦ (abides_abandonSlot _ _).bind fun _ ↦
      (abides_modifyTransport _).bind fun _ ↦ (abides_pushCloseEvent _ _).bind fun _ ↦ Preserves.ret
  · exact Preserves.ret
  · exact Preserves.ret
  · exact Preserves.ret

/-- The slot that was picked is finalized. -/
theorem abides_finalizePick (now : UInt32) (i : ℕ) :
    Preserves (Abides p true) (finalizePick p now i) :=
  (abides_getSlot i).bind fun _ ↦ (abides_onSlot i (locally_mark _)).bind fun _ ↦
    (abides_finalizeClose _).bind fun _ ↦ Preserves.when (abides_pushCloseEvent _ _)

/-- Phase 4 takes the lock for the end of the streams, gives it back, and takes it again for the slot
that was picked. -/
theorem abides_checkCloses : Preserves (Abides p false) (checkCloses p) := by
  refine abides_millis.bind fun now ↦ Preserves.bind ?_ fun _ ↦ abides_millis.bind fun now ↦ ?_
  · exact Preserves.each fun i _ ↦ abides_onSlot i (locally_checkSlot now)
  refine (Preserves.fold fun picks i _ ↦ abides_scanSlot now picks i).bind fun picks ↦ ?_
  refine Preserves.bind (Preserves.ite (abides_ifLocked ?_ Preserves.ret) Preserves.ret) fun _ ↦ ?_
  · exact Triple.bind (Preserves.each fun i _ ↦ abides_onSlot i locally_sendEofSlot) fun _ ↦
      abides_unlock
  · refine Preserves.ite (abides_ifLocked ?_ Preserves.ret) Preserves.ret
    exact Triple.bind (Preserves.each fun i _ ↦ abides_finalizePick now i) fun _ ↦ abides_unlock

/-- The four phases, one after the other. -/
theorem abides_pumpAll : Preserves (Abides p false) (pumpAll p) :=
  (abides_modify _).bind fun _ ↦ abides_pumpSshTransport.bind fun _ ↦
    abides_drainSshToLocal.bind fun _ ↦ abides_drainLocalToSsh.bind fun _ ↦
    abides_checkCloses.bind fun _ ↦ Preserves.get_bind fun _ ↦ Preserves.ret

/-! ### The queues -/

/-- The mark of the return is not a call. -/
theorem abides_returning {α : Type} {m : TunnelM α} (hm : Preserves (Abides p locked) m) :
    Preserves (Abides p locked) (returning m) :=
  hm.bind fun _ ↦ (abides_mark rfl).bind fun _ ↦ Preserves.ret

/-- A pass over a queue does what its body does with each entry. -/
theorem abides_compactQueue (q : QueueName)
    {body : PendingChannel → Handle → TunnelM (Option PendingChannel)}
    (hbody : ∀ pending h, Preserves (Abides p locked) (body pending h)) :
    Preserves (Abides p locked) (compactQueue q body) := by
  refine abides_returning (Preserves.get_bind fun s ↦ Preserves.bind ?_ fun _ ↦
    abides_modifyQueue _ _)
  refine Preserves.fold fun writeIdx i _ ↦ Preserves.get_bind fun s ↦ ?_
  dsimp only
  split
  · exact Preserves.ret
  · refine (hbody _ _).bind fun kept ↦ ?_
    split
    · exact (abides_modifyQueue _ _).bind fun _ ↦ Preserves.ret
    · exact (abides_modifyQueue _ _).bind fun _ ↦
        (Preserves.when (abides_modifyQueue _ _)).bind fun _ ↦ Preserves.ret

/-- Without the lock nothing is closed. -/
theorem abides_closeAcceptedChannel (h : Handle) (ms : ℕ) :
    Preserves (Abides p false) (closeAcceptedChannel h ms) :=
  abides_ifLocked (Triple.bind (abidesLocked_sys rfl rfl) fun _ ↦
    Triple.bind (abidesLocked_sys rfl rfl) fun _ ↦ abides_unlock_bind Preserves.ret) Preserves.ret

/-- Without the lock nothing is bound. -/
theorem abides_bindAcceptedChannel (slot : ℕ) (h : Handle) (mapping : TunnelConfig) (ms : ℕ) :
    Preserves (Abides p false) (bindAcceptedChannel p slot h mapping ms) :=
  abides_unlessLocked Preserves.ret (Triple.bind (abides_bindChannel _ h mapping) fun _ ↦
    abides_unlock_bind Preserves.ret)

/-- Closing is tried at once; a queue is only a part of the state. -/
theorem abides_enqueueDeferredClose (h : Handle) (mapping : TunnelConfig) :
    Preserves (Abides p false) (enqueueDeferredClose h mapping) := by
  refine abides_returning ((abides_closeAcceptedChannel h _).bind fun _ ↦ Preserves.ite Preserves.ret ?_)
  refine (abides_mark rfl).bind fun _ ↦ Preserves.get_bind fun _ ↦ Preserves.ite Preserves.ret ?_
  exact abides_millis.bind fun _ ↦ (abides_modifyQueue _ _).bind fun _ ↦ Preserves.ret

/-- An entry is closed or kept. -/
theorem abides_closeEntry (pending : PendingChannel) (h : Handle) (ms : ℕ) :
    Preserves (Abides p false) (closeEntry pending h ms) :=
  (abides_closeAcceptedChannel h ms).bind fun _ ↦ Preserves.ret

/-- An entry is closed, bound or kept. -/
theorem abides_drainPendingEntry (now : UInt32) (pending : PendingChannel) (h : Handle) :
    Preserves (Abides p false) (drainPendingEntry p now pending h) := by
  refine Preserves.ite (Preserves.ite (abides_closeEntry _ _ _) (abides_closeEntry _ _ _))
    (Preserves.ite (abides_closeEntry _ _ _) (abides_allocateSlot.bind fun slot ↦ ?_))
  split
  · exact Preserves.ret
  · refine (abides_mark rfl).bind fun _ ↦ (abides_bindAcceptedChannel _ _ _ _).bind fun _ ↦ ?_
    split
    · exact (abides_sys rfl).bind fun _ ↦ Preserves.ret
    · exact Preserves.ret
    · exact abides_closeEntry _ _ _

/-- Both passes over the pending queue. -/
theorem abides_drainPendingIfAny : Preserves (Abides p false) (drainPendingIfAny p) := by
  refine Preserves.get_bind fun _ ↦ Preserves.ite (Preserves.bind ?_ fun _ ↦ ?_) Preserves.ret
  · exact abides_millis.bind fun now ↦ abides_compactQueue _ fun pending h ↦
      Preserves.ite (abides_closeEntry _ _ _) Preserves.ret
  · exact abides_millis.bind fun now ↦ abides_compactQueue _ fun pending h ↦
      abides_drainPendingEntry now pending h

/-- The pass over the queue of those to be closed. -/
theorem abides_drainDeferredIfAny : Preserves (Abides p false) drainDeferredIfAny := by
  refine Preserves.get_bind fun _ ↦ Preserves.ite (abides_millis.bind fun now ↦ ?_) Preserves.ret
  exact abides_compactQueue _ fun pending h ↦
    (abides_closeAcceptedChannel _ _).bind fun _ ↦ Preserves.ret

/-- The entries of a queue are closed under one lock. -/
theorem abides_clearQueue (q : QueueName) : Preserves (Abides p false) (clearQueue q) := by
  refine abides_returning (Preserves.get_bind fun s ↦ Preserves.ite Preserves.ret ?_)
  refine abides_unlessLocked Preserves.ret (Triple.bind (Preserves.each fun i _ ↦ ?_) fun _ ↦
    abides_unlock_bind ((abides_modifyQueue _ _).bind fun _ ↦ Preserves.ret))
  refine Preserves.get_bind fun s ↦ ?_
  split
  · exact Preserves.ret
  · exact (abidesLocked_sys rfl rfl).bind fun _ ↦ (abidesLocked_sys rfl rfl).bind fun _ ↦
      abides_modifyQueue _ _

/-! ### Teardown -/

/-- The statistics of the system are not libssh2's. -/
theorem abides_updateStats : Preserves (Abides p locked) (updateStats p) :=
  (abides_sys rfl).bind fun _ ↦ Preserves.ite
    ((abides_modify _).bind fun _ ↦ (abides_sys rfl).bind fun _ ↦ Preserves.ret) Preserves.ret

/-- The session goes first, so the slots that are left can only be abandoned. -/
theorem abides_dropEverything (reason : ChannelCloseReason) :
    Preserves (Abides p false) (dropEverything p reason) := by
  refine abides_sessionDisconnect.bind fun _ ↦ Preserves.bind ?_ fun _ ↦ ?_
  · exact Preserves.each fun i _ ↦ abides_abandonSlot i reason
  · exact (abides_modifyQueue _ _).bind fun _ ↦ abides_modifyQueue _ _

/-- A slot is released through libssh2 only with the lock. -/
theorem abides_releaseSlot (i : ℕ) (reason : ChannelCloseReason) :
    Preserves (Abides p locked) (releaseSlot p locked i reason) := by
  cases locked with
  | true => exact (abides_finalizeClose _).bind fun _ ↦ Preserves.ret
  | false => exact abides_abandonSlot _ reason

/-- What is left of a slot is released in the way the lock allows. -/
theorem abides_closeOrphan (i : ℕ) : Preserves (Abides p locked) (closeOrphan p locked i) :=
  (abides_getSlot i).bind fun _ ↦ Preserves.ite
    ((abides_releaseSlot _ _).bind fun _ ↦ abides_sys rfl) Preserves.ret

/-- An active slot is, too. -/
theorem abides_closeManually (i : ℕ) : Preserves (Abides p locked) (closeManually p locked i) :=
  (abides_getSlot i).bind fun _ ↦ Preserves.ite Preserves.ret
    ((abides_releaseSlot _ _).bind fun _ ↦ abides_sys rfl)

/-- The queues are cleared, then the slots are released under one lock, if it can be got, and then the
session goes down. -/
theorem abides_enterErrorState : Preserves (Abides p false) (enterErrorState p) := by
  refine (abides_mark rfl).bind fun _ ↦ (abides_clearQueue _).bind fun _ ↦
    (abides_clearQueue _).bind fun _ ↦ abides_lock_bind fun locked ↦ ?_
  refine Triple.bind (Preserves.each fun i _ ↦ abides_closeOrphan i) fun _ ↦
    Triple.bind abides_unlockIf fun _ ↦ ?_
  exact (abides_dropEverything _).bind fun _ ↦ abides_updateStats.bind fun _ ↦
    (abides_modify _).bind fun _ ↦ abides_millis.bind fun _ ↦ (abides_modify _).bind fun _ ↦
    (abides_mark rfl).bind fun _ ↦ (abides_sys rfl).bind fun _ ↦ abides_mark rfl

/-- Without a session there is nothing to lock. -/
theorem abides_lockIfConnected (ms : ℕ) :
    Triple (Abides p false) (lockIfConnected ms) fun locked ↦ Abides p locked := by
  intro w h
  rw [lockIfConnected, wp_get_bind]
  exact wp_ite (fun _ ↦ abides_lock ms w h) fun _ ↦ wp_pure h

/-- The same on request. -/
theorem abides_disconnect : Preserves (Abides p false) (disconnect p) := by
  refine (abides_mark rfl).bind fun _ ↦ (abides_clearQueue _).bind fun _ ↦
    (abides_clearQueue _).bind fun _ ↦ Triple.bind (abides_lockIfConnected _) fun locked ↦ ?_
  refine Triple.bind (Preserves.each fun i _ ↦ abides_closeManually i) fun _ ↦
    Triple.bind abides_unlockIf fun _ ↦ ?_
  refine (abides_dropEverything _).bind fun _ ↦ abides_updateStats.bind fun _ ↦
    Preserves.get_bind fun _ ↦ (Preserves.when (abides_sys rfl)).bind fun _ ↦ ?_
  exact (abides_modify _).bind fun _ ↦ abides_mark rfl

/-! ### Connecting and the main loop -/

/-- The tunnel connects at most once, and says what came of it. -/
theorem abides_connectSSH : Preserves (Abides p false) (connectSSH p) := by
  refine Preserves.get_bind fun _ ↦ Preserves.ite Preserves.ret ((abides_modify _).bind fun _ ↦ ?_)
  refine abides_millis.bind fun _ ↦ (abides_modify _).bind fun _ ↦ (abides_mark rfl).bind fun _ ↦
    abides_sessionConnect.bind fun _ ↦ Preserves.ite ?_ ?_
  · exact (abides_modify _).bind fun _ ↦ (abides_sys rfl).bind fun _ ↦ Preserves.ret
  · exact (abides_modify _).bind fun _ ↦ (abides_mark rfl).bind fun _ ↦ abides_millis.bind fun _ ↦
      (abides_modify _).bind fun _ ↦ (abides_sys rfl).bind fun _ ↦ Preserves.ret

/-- A request for a new connection is only noted. -/
theorem abides_requestReconnect : Preserves (Abides p locked) requestReconnect :=
  Preserves.get_bind fun _ ↦ Preserves.ite Preserves.ret
    (abides_millis.bind fun _ ↦ (abides_modify _).bind fun _ ↦ (abides_mark rfl).bind fun _ ↦
      abides_mark rfl)

/-- Whether it is time for an attempt is a question to the clock. -/
theorem abides_reconnectAllowed : Preserves (Abides p locked) (reconnectAllowed p) :=
  Preserves.get_bind fun _ ↦ Preserves.ite (abides_millis.bind fun _ ↦ Preserves.ite Preserves.ret
    ((abides_modify _).bind fun _ ↦ Preserves.ret)) Preserves.ret

/-- An attempt begins with the end of what was there before. -/
theorem abides_handleReconnection : Preserves (Abides p false) (handleReconnection p) := by
  refine abides_returning (abides_reconnectAllowed.bind fun _ ↦ Preserves.ite Preserves.ret ?_)
  refine abides_millis.bind fun _ ↦ Preserves.get_bind fun _ ↦ Preserves.ite Preserves.ret ?_
  exact (abides_clearQueue _).bind fun _ ↦ (abides_clearQueue _).bind fun _ ↦
    (abides_dropEverything _).bind fun _ ↦ (abides_modify _).bind fun _ ↦
    (abides_mark rfl).bind fun _ ↦ abides_connectSSH.bind fun _ ↦ Preserves.when (abides_modify _)

/-- A channel that has to wait is put into a queue. -/
theorem abides_queueForBinding (h : Handle) (mapping : TunnelConfig) :
    Preserves (Abides p locked) (queueForBinding h mapping) :=
  abides_millis.bind fun _ ↦ abides_modifyQueue _ _

/-- It is bound, queued, or left to be closed. -/
theorem abides_bindAccepted (i : ℕ) (h : Handle) (mapping : TunnelConfig) :
    Preserves (Abides p false) (bindAccepted p i h mapping) := by
  refine (abides_bindAcceptedChannel _ _ _ _).bind fun _ ↦ ?_
  split
  · exact (abides_sys rfl).bind fun _ ↦ Preserves.ret
  · exact Preserves.get_bind fun _ ↦ Preserves.ite
      ((abides_queueForBinding _ _).bind fun _ ↦ Preserves.ret)
      ((abides_enqueueDeferredClose _ _).bind fun _ ↦ Preserves.ret)
  · exact (abides_enqueueDeferredClose _ _).bind fun _ ↦ Preserves.ret

/-- A channel that is not wanted is closed at once, or later, or by force. -/
theorem abides_rejectAccepted (h : Handle) (mapping : TunnelConfig) (ms : ℕ) (force : Bool) :
    Preserves (Abides p false) (rejectAccepted h mapping ms force) :=
  (abides_closeAcceptedChannel _ _).bind fun _ ↦ Preserves.ite Preserves.ret
    ((abides_enqueueDeferredClose _ _).bind fun _ ↦ Preserves.ite Preserves.ret
      ((abides_closeAcceptedChannel _ _).bind fun _ ↦ Preserves.ret))

/-- Every channel that was accepted is bound, queued or rejected. -/
theorem abides_handleAccepted (h : Handle) (mapping : TunnelConfig) :
    Preserves (Abides p false) (handleAccepted p h mapping) := by
  refine abides_millis.bind fun _ ↦ Preserves.get_bind fun _ ↦ Preserves.ite
    ((abides_rejectAccepted _ _ _ _).bind fun _ ↦ Preserves.ret) ?_
  refine (abides_mark rfl).bind fun _ ↦ abides_allocateSlot.bind fun slot ↦ ?_
  split
  · exact abides_bindAccepted _ _ _
  · exact Preserves.get_bind fun _ ↦ Preserves.ite
      ((abides_queueForBinding _ _).bind fun _ ↦ Preserves.ret)
      ((abides_rejectAccepted _ _ _ _).bind fun _ ↦ Preserves.ret)

/-- One round of the accept loop. -/
theorem abides_handleNewConnection : Preserves (Abides p false) (handleNewConnection p) := by
  refine abides_returning (abides_acceptChannel.bind fun accepted ↦ ?_)
  split
  · exact Preserves.get_bind fun _ ↦ (Preserves.when abides_enterErrorState).bind fun _ ↦ Preserves.ret
  · exact abides_handleAccepted _ _

/-- A session that has failed too often is torn down here. -/
theorem abides_checkHealth : Preserves (Abides p false) (checkHealth p) := by
  refine abides_checkConnection.bind fun _ ↦ Preserves.get_bind fun _ ↦ Preserves.ite ?_ ?_
  · exact (abides_modify _).bind fun _ ↦ abides_enterErrorState.bind fun _ ↦ Preserves.ret
  · refine (abides_modify _).bind fun _ ↦ abides_millis.bind fun _ ↦ Preserves.get_bind fun _ ↦
      Preserves.ite (abides_sendKeepalive.bind fun _ ↦ Preserves.ite ?_ ?_) Preserves.ret
    · exact abides_enterErrorState.bind fun _ ↦ Preserves.ret
    · exact (abides_modify _).bind fun _ ↦ Preserves.ret

/-- What is left to do after the pump, for a session that is still good. -/
theorem abides_loopTail : Preserves (Abides p false) (loopTail p) := by
  refine Preserves.bind ?_ fun closeEvents ↦ Preserves.bind ?_ fun _ ↦ ?_
  · exact Preserves.get_bind fun _ ↦ (abides_modifyTransport _).bind fun _ ↦ Preserves.ret
  · exact Preserves.each fun _ _ ↦ abides_sys rfl
  · refine Preserves.get_bind fun _ ↦ Preserves.ite ?_ ?_
    · exact (abides_modifyTransport _).bind fun _ ↦ abides_enterErrorState
    · exact abides_drainPendingIfAny.bind fun _ ↦ abides_drainDeferredIfAny.bind fun _ ↦
        abides_updateStats

/-- One iteration of the main loop, in every state of the tunnel. -/
theorem abides_loop : Preserves (Abides p false) (loop p) := by
  refine Preserves.get_bind fun _ ↦ Preserves.ite abides_handleReconnection
    (Preserves.ite Preserves.ret (Preserves.ite abides_enterErrorState ?_))
  refine abides_checkHealth.bind fun _ ↦ Preserves.when ?_
  exact abides_drainDeferredIfAny.bind fun _ ↦
    (Preserves.attempts abides_handleNewConnection).bind fun _ ↦ abides_pumpAll.bind fun _ ↦
    abides_loopTail

/-- Every public operation starts and ends without the lock. -/
theorem abides_prog (op : TunnelOp) : Preserves (Abides p false) (op.prog p) := by
  cases op with
  | connectSSH => exact abides_connectSSH.bind fun _ ↦ Preserves.ret
  | loop => exact abides_loop
  | disconnect => exact abides_disconnect
  | requestReconnect => exact abides_requestReconnect

/-- **Both rules have been kept in every run**, and the lock is not held between two operations. -/
theorem TunnelRun.abides (hw : TunnelRun p w) : Abides p false w :=
  hw.invariant (fun _ ↦ ⟨trivial, rfl, fun _ ↦ trivial⟩) (by
    rintro _ ⟨op, rfl⟩
    exact abides_prog op)

end ReverseTunnel
