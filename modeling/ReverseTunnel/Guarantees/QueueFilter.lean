import ReverseTunnel.System.Discipline

/-!
# The queues are filtered, in order

`drainPendingQueue`, `cleanExpiredPending` and `drainDeferredCloseQueue` go through a queue and
compact it in the array they read from. Whatever the queue holds and whatever the lock, the slots and
the local endpoints do, each entry has one `Fate`: its channel is bound to a slot, or closed and
freed once under the session lock, or the entry stays.

A `Touch` is what the record of a run says about a channel that left its queue: bound, closed, freed.
`Treated` pairs an entry with its fate, which says both what is left of the entry and which touches
it leaves behind. The result is that the queue afterwards and the touches of the whole run are what
the list of treated entries says, in the order of the queue.

Nothing is assumed about the tunnel here except that the entries hold channels.
-/

namespace ReverseTunnel

open Traced TunnelM Clock32

/-! ### What happens to a channel -/

/-- Something that ends a channel's time in a queue. -/
inductive Touch where
  /-- It has been bound to slot `i`. -/
  | bound (i : ℕ) (h : Handle)
  /-- `libssh2_channel_close` -/
  | closed (h : Handle)
  /-- `libssh2_channel_free` -/
  | freed (h : Handle)

/-- The touch an item records. -/
def touch : Item SSHTunnel Call Call.Reply Mark → Option Touch
  | .call _ _ _ (.sys (.channelClose h)) _ => some (.closed h)
  | .call _ _ _ (.sys (.channelFree h)) _ => some (.freed h)
  | .call _ _ _ (.io _ (.channelClose h)) _ => some (.closed h)
  | .call _ _ _ (.io _ (.channelFree h)) _ => some (.freed h)
  | .mark _ s (.slot i .bound) => (s.channels.slots i).sshChannel.map (.bound i)
  | _ => none

/-- Closing and freeing happens with the lock taken since the past began. -/
def UnderLock (x : Item SSHTunnel Call Call.Reply Mark)
    (past : Trace SSHTunnel Call Call.Reply Mark) : Prop :=
  match touch x with
  | some (.closed _) | some (.freed _) => holding past = true
  | _ => True

/-- From `w` to `w'` channels were touched as `ts` says, oldest first. Slots that were active still
are, with the same channels, and only those that `ts` names have become so. -/
structure Touches (ts : List Touch) (w w' : TunnelWorld) : Prop where
  /-- What was recorded. -/
  record : ∃ items, w'.trace = items ++ w.trace ∧ items.reverse.filterMap touch = ts ∧
    History.Always UnderLock items
  /-- Active slots stay. -/
  slots : ∀ j, (w.st.channels.slots j).active = true →
    (w'.st.channels.slots j).active = true ∧
      (w'.st.channels.slots j).sshChannel = (w.st.channels.slots j).sshChannel
  /-- No other slot becomes active. -/
  others : ∀ j, (∀ h, .bound j h ∉ ts) →
    (w'.st.channels.slots j).active = (w.st.channels.slots j).active

/-- The same, with both queues as they were. -/
structure Handled (ts : List Touch) (w w' : TunnelWorld) : Prop extends Touches ts w w' where
  /-- The queues. -/
  queue : ∀ q, w'.st.queue q = w.st.queue q

section Touches

variable {p : Params} {ts ts' : List Touch} {w w' w'' w₀ : TunnelWorld} {h : Handle} {i : ℕ}

theorem holding_of_near {newer past : Trace SSHTunnel Call Call.Reply Mark}
    (hn : holding newer = true) : holding (newer ++ past) = true := by
  induction newer with
  | nil => cases hn
  | cons x newer ih =>
    cases x with
    | mark t s m => exact ih hn
    | call id t s c r =>
      cases c with
      | io i c => exact ih hn
      | sys c =>
        cases c with
        | lock ms =>
          cases r with
          | true => rfl
          | false => exact ih hn
        | unlock => cases hn
        | _ => exact ih hn

theorem Touches.refl (w : TunnelWorld) : Touches [] w w :=
  ⟨⟨[], rfl, rfl, trivial⟩, fun _ hj ↦ ⟨hj, rfl⟩, fun _ _ ↦ rfl⟩

theorem Touches.trans (h : Touches ts w w') (h' : Touches ts' w' w'') :
    Touches (ts ++ ts') w w'' := by
  obtain ⟨items, htr, hts, hlock⟩ := h.record
  obtain ⟨items', htr', hts', hlock'⟩ := h'.record
  refine ⟨⟨items' ++ items, by rw [htr', htr, List.append_assoc], ?_, ?_⟩, fun j hj ↦ ?_, fun j hj ↦ ?_⟩
  · rw [List.reverse_append, List.filterMap_append, hts, hts']
  · refine hlock'.append_of hlock fun x near hx ↦ ?_
    simp only [UnderLock] at hx ⊢
    split at hx
    · exact holding_of_near hx
    · exact holding_of_near hx
    · trivial
  · obtain ⟨hact, hch⟩ := h.slots j hj
    obtain ⟨hact', hch'⟩ := h'.slots j hact
    exact ⟨hact', hch'.trans hch⟩
  · have hold := h.others j fun k hk ↦ hj k (List.mem_append_left _ hk)
    exact (h'.others j fun k hk ↦ hj k (List.mem_append_right _ hk)).trans hold

theorem Handled.refl (w : TunnelWorld) : Handled [] w w :=
  ⟨.refl w, fun _ ↦ rfl⟩

theorem Handled.trans (h : Handled ts w w') (h' : Handled ts' w' w'') :
    Handled (ts ++ ts') w w'' :=
  ⟨h.toTouches.trans h'.toTouches, fun q ↦ (h'.queue q).trans (h.queue q)⟩

/-- The queues are no business of `Touches`. -/
theorem Touches.mapQueue {q : QueueName} {f : ChannelQueue → ChannelQueue}
    (h : Touches ts w w') : Touches ts w (w'.update (·.mapQueue q f)) :=
  ⟨h.record, fun j hj ↦ by
    rw [World.update_st, SSHTunnel.channels_mapQueue]
    exact h.slots j hj, fun j hj ↦ by
    rw [World.update_st, SSHTunnel.channels_mapQueue]
    exact h.others j hj⟩

/-! ### Calls that touch nothing -/

theorem Handled.call {c : SysCall} (h : Handled ts w₀ w) (hc : c.handle = none) (r : c.Reply)
    (t : ℕ) : Handled ts w₀ (w.after (.sys c) r t) := by
  have htouch : touch (.call w.serial t w.st (.sys c) r) = none := by
    cases c <;> first | rfl | cases hc
  have hone : Handled [] w (w.after (.sys c) r t) := by
    refine ⟨⟨⟨[_], rfl, ?_, ⟨?_, trivial⟩⟩, fun _ hj ↦ ⟨hj, rfl⟩, fun _ _ ↦ rfl⟩, fun _ ↦ rfl⟩
    · rw [List.reverse_singleton, List.filterMap_cons_none htouch, List.filterMap_nil]
    · rw [UnderLock, htouch]
      trivial
  have := h.trans hone
  rwa [List.append_nil] at this

theorem handled_sysId {c : SysCall} (hc : c.handle = none) :
    Preserves (Handled ts w₀) (sysId c) :=
  fun _ hw ↦ wp_callId fun r t _ ↦ hw.call hc r t

theorem handled_sys {c : SysCall} (hc : c.handle = none) : Preserves (Handled ts w₀) (sys c) :=
  fun _ hw ↦ wp_call fun r t _ ↦ hw.call hc r t

theorem handled_millis : Preserves (Handled ts w₀) millis :=
  fun _ hw ↦ wp_tick_bind fun _ _ ↦ wp_pure ⟨⟨hw.record, hw.slots, hw.others⟩, hw.queue⟩

theorem handled_modifyChannels {f : ChannelManager → ChannelManager}
    (hf : ∀ c, (f c).slots = c.slots) : Preserves (Handled ts w₀) (modifyChannels f) := by
  refine fun w hw ↦ wp_modify ⟨⟨hw.record, fun j hj ↦ ?_, fun j hj ↦ ?_⟩, fun q ↦ ?_⟩
  · show ((f w.st.channels).slots j).active = true ∧ ((f w.st.channels).slots j).sshChannel = _
    rw [hf]
    exact hw.slots j hj
  · show ((f w.st.channels).slots j).active = _
    rw [hf]
    exact hw.others j hj
  · rw [← hw.queue q]
    cases q <;> rfl

theorem handled_mark {queued : Bool} {mapping : TunnelConfig} :
    Preserves (Handled ts w₀) (Prog.mark (.admitted queued mapping)) := by
  intro w hw
  have hone : Handled [] w (w.marked (.admitted queued mapping)) :=
    ⟨⟨⟨[_], rfl, rfl, ⟨trivial, trivial⟩⟩, fun _ hj ↦ ⟨hj, rfl⟩, fun _ _ ↦ rfl⟩, fun _ ↦ rfl⟩
  have := hw.trans hone
  rw [List.append_nil] at this
  exact wp_mark this

theorem handled_onSlot {α : Type} {m : SlotM α} (hm : wp m (fun _ l ↦
      (∀ x ∈ l.trace, touch (x.map (w.st.setCtx i ·) (Call.io i) (Mark.slot i)) = none) ∧
      l.st.ch.active = (w.st.channels.slots i).active ∧
      ((w.st.channels.slots i).active = true →
        l.st.ch.sshChannel = (w.st.channels.slots i).sshChannel))
      (slotWorld i w)) :
    wp (onSlot i m) (fun _ w' ↦ Handled [] w w') w := by
  refine wp_onSlot (wp_mono hm fun _ l hl ↦
    ⟨⟨⟨_, rfl, ?_, ?_⟩, fun j hj ↦ ?_, fun j _ ↦ ?_⟩, fun q ↦ ?_⟩)
  · rw [List.filterMap_reverse, List.filterMap_map, List.reverse_eq_nil_iff,
      List.filterMap_eq_nil_iff]
    exact fun x hx ↦ hl.1 x hx
  · rw [← List.append_nil (List.map _ _)]
    refine History.Always.append trivial fun x hx rest ↦ ?_
    obtain ⟨y, hy, rfl⟩ := List.mem_map.1 hx
    rw [UnderLock, hl.1 y hy]
    trivial
  · by_cases hji : j = i
    · subst hji
      show ((w.st.setCtx j l.st).channels.slots j).active = true ∧ _
      rw [lift, setCtx_slots_same]
      exact ⟨hl.2.1.trans hj, hl.2.2 hj⟩
    · rw [lift, setCtx_slots_ne _ _ hji]
      exact ⟨hj, rfl⟩
  · by_cases hji : j = i
    · subst hji
      rw [lift, setCtx_slots_same]
      exact hl.2.1
    · rw [lift, setCtx_slots_ne _ _ hji]
  · cases q <;> rfl

theorem wp_handled_beginClose (reason : ChannelCloseReason) :
    wp (onSlot i (beginClose reason)) (fun _ w' ↦ Handled [] w w') w := by
  refine handled_onSlot (wp_slot_bind.2 (wp_ite (fun _ ↦ wp_pure ?_) fun _ ↦ ?_))
  · exact ⟨fun x hx ↦ absurd hx List.not_mem_nil, rfl, fun _ ↦ rfl⟩
  · refine wp_mark_bind.2 (wp_bind (wp_tick_bind fun t _ ↦ wp_pure ?_))
    refine wp_modify_bind.2 (wp_mark ⟨fun x hx ↦ ?_, rfl, fun _ ↦ rfl⟩)
    rcases List.mem_cons.1 hx with rfl | hx
    · rfl
    · rcases List.mem_singleton.1 hx with rfl
      rfl

/-- The slot is filled: the one touch that binds a channel. -/
theorem wp_handled_bindSlot {fd : Int} {toLocal toRemote : DataRingBuffer}
    (hfree : (w.st.channels.slots i).active = false) :
    wp (onSlot i (bindSlot h fd toLocal toRemote)) (fun _ w' ↦ Handled [.bound i h] w w' ∧
      (w'.st.channels.slots i).active = true ∧
      (w'.st.channels.slots i).sshChannel = some h) w := by
  refine wp_onSlot (wp_modify_bind.2 (wp_bind (wp_tick_bind fun t _ ↦ wp_pure ?_)))
  refine wp_modify_bind.2 (wp_mark_bind.2 (wp_call_bind fun r t' _ ↦ wp_pure ?_))
  refine ⟨⟨⟨⟨_, rfl, ?_, ?_⟩, fun j hj ↦ ?_, fun j hj ↦ ?_⟩, fun q ↦ ?_⟩, ?_⟩
  · simp [slotWorld, Item.map, touch, SSHTunnel.setCtx, ChannelSlot.initialised]
  · exact ⟨trivial, by simp [slotWorld, Item.map, UnderLock, touch, SSHTunnel.setCtx,
      ChannelSlot.initialised], trivial⟩
  · have hji : j ≠ i := fun hji ↦ by
      rw [hji, hfree] at hj
      cases hj
    rw [lift, setCtx_slots_ne _ _ hji]
    exact ⟨hj, rfl⟩
  · have hji : j ≠ i := fun hji ↦ hj h (hji ▸ List.mem_singleton.2 rfl)
    rw [lift, setCtx_slots_ne _ _ hji]
  · cases q <;> rfl
  · rw [lift, setCtx_slots_same]
    exact ⟨rfl, rfl⟩

/-! ### Finding a slot and binding a channel -/

theorem wp_handled_allocateSlot : wp (allocateSlot p) (fun _ w' ↦ Handled [] w w') w := by
  rw [allocateSlot]
  refine wp_bind (wp_mono (handled_millis w (.refl w)) fun now w₁ h₁ ↦ wp_get_bind.2 ?_)
  split
  · exact wp_pure h₁
  · dsimp only
    split
    · exact wp_bind (wp_mono (wp_handled_beginClose _) fun _ w₂ h₂ ↦ wp_pure (h₁.trans h₂))
    · exact wp_pure h₁

theorem handled_connectToLocalEndpoint (mapping : TunnelConfig) :
    Preserves (Handled ts w₀) (connectToLocalEndpoint mapping) := by
  have hgiveUp : ∀ fd : Int, Preserves (Handled ts w₀) (do
      let _ ← sys (.localClose fd)
      pure (-1 : Int)) := fun fd ↦ (handled_sys rfl).bind fun _ ↦ Preserves.ret
  refine (handled_sysId rfl).bind fun res ↦ Preserves.ite Preserves.ret ?_
  refine (handled_sys rfl).bind fun _ ↦ Preserves.ite (hgiveUp _) ?_
  refine (handled_sys rfl).bind fun _ ↦ Preserves.ite (hgiveUp _) ?_
  refine (handled_sys rfl).bind fun _ ↦ Preserves.ite (hgiveUp _) ?_
  refine (handled_sys rfl).bind fun connectResult ↦ ?_
  cases connectResult with
  | done => exact Preserves.ret
  | failed => exact hgiveUp _
  | inProgress =>
    refine (handled_sys rfl).bind fun _ ↦ Preserves.ite (hgiveUp _) ?_
    exact (handled_sys rfl).bind fun _ ↦ Preserves.ite (hgiveUp _) Preserves.ret

/-- From `w` to `w'` the channel `h` was bound to slot `i`, which was free. -/
structure BoundTo (i : ℕ) (h : Handle) (w w' : TunnelWorld) : Prop
    extends Handled [.bound i h] w w' where
  /-- The slot was free. -/
  free : (w.st.channels.slots i).active = false
  /-- It is not any more. -/
  active : (w'.st.channels.slots i).active = true
  /-- It holds the channel. -/
  holds : (w'.st.channels.slots i).sshChannel = some h

theorem BoundTo.before (hb : BoundTo i h w w') (h₀ : Handled [] w₀ w) : BoundTo i h w₀ w' :=
  ⟨h₀.trans hb.toHandled, (h₀.others i fun _ ↦ List.not_mem_nil).symm.trans hb.free, hb.active,
    hb.holds⟩

theorem BoundTo.after (hb : BoundTo i h w w') (h' : Handled [] w' w'') : BoundTo i h w w'' := by
  have hheld := h'.slots i hb.active
  exact ⟨hb.toHandled.trans h', hb.free, hheld.1, hheld.2.trans hb.holds⟩

/-- `bindChannel` binds the channel it is given, or leaves it alone. -/
theorem wp_handled_bindChannel {slotIndex : Int} {mapping : TunnelConfig} :
    wp (bindChannel p slotIndex h mapping) (fun bound w' ↦
      if bound then BoundTo slotIndex.toNat h w w' else Handled [] w w') w := by
  have hgiveUp : ∀ {fd : Int} {u}, Handled [] w u → wp (do
      let _ ← sys (.localClose fd)
      pure false) (fun bound w' ↦
        if bound then BoundTo slotIndex.toNat h w w' else Handled [] w w') u :=
    fun hu ↦ wp_bind (wp_mono (handled_sys rfl _ hu) fun _ _ hu' ↦ wp_pure hu')
  have hbreaker : ∀ (f : ChannelManager → CircuitBreaker) (c : ChannelManager),
      ({ c with breaker := f c } : ChannelManager).slots = c.slots := fun _ _ ↦ rfl
  have hcount : ∀ (f : ChannelManager → Int) (c : ChannelManager),
      ({ c with activeCount := f c } : ChannelManager).slots = c.slots := fun _ _ ↦ rfl
  rw [bindChannel]
  refine wp_ite (fun _ ↦ wp_pure (.refl w)) fun _ ↦ ?_
  rw [wp_getSlot_bind]
  refine wp_ite (fun _ ↦ wp_pure (.refl w)) fun hfree ↦ ?_
  rw [Bool.not_eq_true] at hfree
  refine wp_bind (wp_mono (handled_connectToLocalEndpoint mapping w (.refl w)) fun fd w₁ h₁ ↦ ?_)
  refine wp_ite (fun _ ↦ ?_) fun _ ↦ ?_
  · refine wp_bind (wp_mono (handled_millis _ h₁) fun now w₂ h₂ ↦ ?_)
    refine wp_bind (wp_mono (handled_modifyChannels (hbreaker _) _ h₂) fun _ _ h₃ ↦ wp_pure h₃)
  refine wp_bind (wp_mono (handled_modifyChannels (hbreaker _) _ h₁) fun _ w₂ h₂ ↦ ?_)
  refine wp_bind (wp_mono (handled_sys rfl _ h₂) fun heap w₃ h₃ ↦ ?_)
  refine wp_ite (fun _ ↦ hgiveUp h₃) fun _ ↦ ?_
  refine wp_bind (wp_mono (handled_sys rfl _ h₃) fun okLocal w₄ h₄ ↦ ?_)
  refine wp_bind (wp_mono (handled_sys rfl _ h₄) fun okRemote w₅ h₅ ↦ ?_)
  refine wp_ite (fun _ ↦ hgiveUp h₅) fun _ ↦ ?_
  have hfree₅ := (h₅.others slotIndex.toNat fun _ ↦ List.not_mem_nil).trans hfree
  refine wp_bind (wp_mono (wp_handled_bindSlot hfree₅) fun _ w₆ hbound ↦ ?_)
  obtain ⟨h₆, hact, hch⟩ := hbound
  refine wp_bind (wp_mono (handled_modifyChannels (hcount _) _ (.refl w₆)) fun _ w₇ h₇ ↦ ?_)
  exact wp_pure (((BoundTo.mk h₆ hfree₅ hact hch).after h₇).before h₅)

end Touches

/-! ### What becomes of an entry -/

/-- What becomes of an entry. -/
inductive Fate where
  /-- Its channel is bound to slot `i`. -/
  | bound (i : ℕ)
  /-- Its channel is closed and freed. -/
  | closed
  /-- It stays, with this action. -/
  | kept (action : Action)

/-- An entry that holds a channel, and what becomes of it. -/
structure Treated where
  /-- The entry. -/
  entry : PendingChannel
  /-- Its channel. -/
  channel : Handle
  /-- What becomes of it. -/
  fate : Fate

namespace Treated

/-- What is left of the entry: all of it, but perhaps for the action. -/
def left (t : Treated) : Option PendingChannel :=
  match t.fate with
  | .kept action => some { t.entry with action := action }
  | .bound _ | .closed => none

/-- What happens to the channel, oldest first. -/
def touches (t : Treated) : List Touch :=
  match t.fate with
  | .bound i => [.bound i t.channel]
  | .closed => [.closed t.channel, .freed t.channel]
  | .kept _ => []

/-- What a pass at clock value `now` may do. Only a pass that `binds` binds, and then only an entry
that waits to be bound and has not waited too long; an action changes to `close` at most. -/
structure Allowed (now : UInt32) (binds : Bool) (t : Treated) : Prop where
  /-- The entry holds the channel. -/
  holds : t.entry.channel = some t.channel
  /-- The rule for binding. -/
  bound : ∀ i, t.fate = .bound i →
    binds = true ∧ t.entry.action = .bind ∧ ¬ now - t.entry.queuedAtMs > pendingTimeoutMs
  /-- The rule for actions. -/
  kept : ∀ action, t.fate = .kept action → action = t.entry.action ∨ action = .close

/-- The slot the channel is bound to, if it is, was free before and holds the channel after. -/
def Settles (t : Treated) (w w' : TunnelWorld) : Prop :=
  ∀ i, t.fate = .bound i → (w.st.channels.slots i).active = false ∧
    (w'.st.channels.slots i).active = true ∧
    (w'.st.channels.slots i).sshChannel = some t.channel

end Treated

/-- The program works on one entry of a queue as `Treated` says. -/
def Treats (now : UInt32) (binds : Bool)
    (body : PendingChannel → Handle → TunnelM (Option PendingChannel)) : Prop :=
  ∀ w e h, e.channel = some h → wp (body e h) (fun kept w' ↦ ∃ fate,
    Treated.Allowed now binds ⟨e, h, fate⟩ ∧ kept = Treated.left ⟨e, h, fate⟩ ∧
      Handled (Treated.touches ⟨e, h, fate⟩) w w' ∧ Treated.Settles ⟨e, h, fate⟩ w w') w

section Bodies

variable {p : Params} {w : TunnelWorld} {e : PendingChannel} {h : Handle} {now : UInt32}
  {binds : Bool}

/-- An entry may always stay as it is. -/
theorem Treated.allowed_kept (he : e.channel = some h) {action : Action}
    (hact : action = e.action ∨ action = .close) :
    Treated.Allowed now binds ⟨e, h, .kept action⟩ :=
  ⟨he, nofun, fun _ ha ↦ by cases ha; exact hact⟩

theorem Treated.allowed_closed (he : e.channel = some h) :
    Treated.Allowed now binds ⟨e, h, .closed⟩ :=
  ⟨he, nofun, nofun⟩

/-- With the lock, a channel is closed and freed; without, nothing happens to it. -/
theorem wp_handled_closeAcceptedChannel {ms : ℕ} :
    wp (closeAcceptedChannel h ms) (fun closed w' ↦
      Handled (if closed then [.closed h, .freed h] else []) w w') w := by
  refine wp_call_bind fun locked t _ ↦ ?_
  cases locked with
  | false =>
    exact wp_pure ((Handled.refl w).call (c := .lock ms) rfl false t)
  | true =>
    refine wp_call_bind fun rc t₁ _ ↦ wp_call_bind fun rc' t₂ _ ↦ wp_call_bind fun u t₃ _ ↦ ?_
    -- newest first: the lock is given back, the channel freed, closed, and the lock taken
    refine wp_pure ⟨⟨⟨[_, _, _, _], rfl, rfl, ?_⟩, fun _ hj ↦ ⟨hj, rfl⟩, fun _ _ ↦ rfl⟩,
      fun _ ↦ rfl⟩
    exact ⟨trivial, rfl, rfl, trivial, trivial⟩

theorem treats_closeEntry (ms : ℕ) : Treats now binds fun e h ↦ closeEntry e h ms := by
  intro w e h he
  refine wp_bind (wp_mono wp_handled_closeAcceptedChannel fun closed w' hw' ↦ wp_pure ?_)
  cases closed with
  | true => exact ⟨.closed, Treated.allowed_closed he, rfl, hw', nofun⟩
  | false => exact ⟨.kept .close, Treated.allowed_kept he (.inr rfl), rfl, hw', nofun⟩

theorem treats_drainDeferredEntry : Treats now binds (drainDeferredEntry now) := by
  intro w e h he
  refine wp_bind (wp_mono wp_handled_closeAcceptedChannel fun closed w' hw' ↦ wp_pure ?_)
  cases closed with
  | true => exact ⟨.closed, Treated.allowed_closed he, rfl, hw', nofun⟩
  | false => exact ⟨.kept e.action, Treated.allowed_kept he (.inl rfl), rfl, hw', nofun⟩

theorem treats_cleanExpiredEntry : Treats now binds (cleanExpiredEntry now) := by
  intro w e h he
  refine wp_ite (fun _ ↦ treats_closeEntry 200 w e h he) fun _ ↦ wp_pure ?_
  exact ⟨.kept e.action, Treated.allowed_kept he (.inl rfl), rfl, .refl w, nofun⟩

/-- What `bindAcceptedChannel` does with the channel. -/
theorem wp_handled_bindAcceptedChannel {i ms : ℕ} {mapping : TunnelConfig} :
    wp (bindAcceptedChannel p i h mapping ms) (fun res w' ↦
      if res = .bound then BoundTo i h w w' else Handled [] w w') w := by
  refine wp_bind (wp_mono (handled_sys rfl w (.refl w)) fun locked w₁ h₁ ↦ ?_)
  refine wp_ite (fun _ ↦ wp_pure h₁) fun _ ↦ ?_
  refine wp_bind (wp_mono wp_handled_bindChannel fun bound w₂ h₂ ↦ ?_)
  refine wp_bind (wp_mono (handled_sys rfl w₂ (.refl w₂)) fun _ w₃ h₃ ↦ wp_pure ?_)
  cases bound with
  | true => exact (h₂.before h₁).after h₃
  | false => exact (h₁.trans h₂).trans h₃

theorem treats_drainPendingEntry : Treats now true (drainPendingEntry p now) := by
  intro w e h he
  rw [drainPendingEntry]
  refine wp_ite (fun _ ↦ wp_ite (fun _ ↦ treats_closeEntry 100 w e h he) fun _ ↦
    treats_closeEntry 200 w e h he) fun haction ↦ wp_ite (fun _ ↦ treats_closeEntry 200 w e h he)
    fun hyoung ↦ ?_
  have hbind : e.action = .bind := by
    cases hact : e.action with
    | bind => rfl
    | close => exact absurd hact haction
  have hstays : ∀ {u}, Handled [] w u → ∃ fate, Treated.Allowed now true ⟨e, h, fate⟩ ∧
      some e = Treated.left ⟨e, h, fate⟩ ∧ Handled (Treated.touches ⟨e, h, fate⟩) w u ∧
      Treated.Settles ⟨e, h, fate⟩ w u :=
    fun hu ↦ ⟨.kept e.action, Treated.allowed_kept he (.inl rfl), rfl, hu, fun _ hi ↦ (by cases hi)⟩
  refine wp_bind (wp_mono wp_handled_allocateSlot fun slot w₁ h₁ ↦ ?_)
  cases slot with
  | none => exact wp_pure (hstays h₁)
  | some i =>
    refine wp_bind (wp_mono (handled_mark w₁ h₁) fun _ w₂ h₂ ↦ ?_)
    refine wp_bind (wp_mono wp_handled_bindAcceptedChannel fun res w₃ h₃ ↦ ?_)
    cases res with
    | bound =>
      refine wp_bind (wp_mono (handled_sys rfl w₃ (.refl w₃)) fun _ w₄ h₄ ↦ wp_pure ?_)
      have hb : BoundTo i h w w₄ := (h₃.before h₂).after h₄
      refine ⟨.bound i, ⟨he, fun _ _ ↦ ⟨rfl, hbind, hyoung⟩, fun _ hno ↦ (by cases hno)⟩, rfl,
        hb.toHandled, ?_⟩
      rintro j hj
      cases hj
      exact ⟨hb.free, hb.active, hb.holds⟩
    | lockUnavailable => exact wp_pure (hstays (h₂.trans h₃))
    | failed =>
      have h₃' : Handled [] w w₃ := h₂.trans h₃
      have hclose : Treats now true fun e h ↦ closeEntry e h 200 := treats_closeEntry 200
      refine wp_mono (hclose w₃ e h he) ?_
      rintro kept w₄ ⟨fate, hallowed, hkept, h₄, hsettles⟩
      refine ⟨fate, hallowed, hkept, h₃'.trans h₄, fun i hi ↦ ?_⟩
      obtain ⟨hwas, hnow⟩ := hsettles i hi
      exact ⟨(h₃'.others i fun _ ↦ List.not_mem_nil).symm.trans hwas, hnow⟩

end Bodies

/-! ### Going through the array -/

/-- The entries in use. -/
def ChannelQueue.contents (x : ChannelQueue) : List PendingChannel :=
  (List.range x.count).map x.entries

/-- A pass over the queue `q` at clock value `now`: what was in it is what `ts` treats, and what is
in it now is what `ts` leaves, in the same order. -/
structure Pass (q : QueueName) (binds : Bool) (now : UInt32) (ts : List Treated)
    (w w' : TunnelWorld) : Prop extends Touches (ts.flatMap Treated.touches) w w' where
  /-- Each entry is treated once. -/
  before : (w.st.queue q).contents = ts.map Treated.entry
  /-- As the pass may. -/
  allowed : ∀ t ∈ ts, t.Allowed now binds
  /-- What stays. -/
  after : (w'.st.queue q).contents = ts.filterMap Treated.left
  /-- The other queue is not touched. -/
  other : ∀ q', q' ≠ q → w'.st.queue q' = w.st.queue q'
  /-- Channels are where they were bound. -/
  settles : ∀ t ∈ ts, t.Settles w w'

/-- A pass that has read `i` entries and kept `k` of them. -/
structure Halfway (q : QueueName) (binds : Bool) (now : UInt32) (w₀ : TunnelWorld) (i k : ℕ)
    (ts : List Treated) (w : TunnelWorld) : Prop
    extends Touches (ts.flatMap Treated.touches) w₀ w where
  /-- What has been read. -/
  read : (List.range i).map (w₀.st.queue q).entries = ts.map Treated.entry
  /-- What has been written. -/
  written : (List.range k).map (w.st.queue q).entries = ts.filterMap Treated.left
  /-- Writing does not overtake reading. -/
  le : k ≤ i
  /-- What is still to be read is as it was. -/
  rest : ∀ j, i ≤ j → (w.st.queue q).entries j = (w₀.st.queue q).entries j
  /-- So is the count. -/
  count : (w.st.queue q).count = (w₀.st.queue q).count
  /-- The other queue is not touched. -/
  other : ∀ q', q' ≠ q → w.st.queue q' = w₀.st.queue q'
  /-- The pass has done what it may. -/
  allowed : ∀ t ∈ ts, t.Allowed now binds
  /-- Channels are where they were bound. -/
  settles : ∀ t ∈ ts, t.Settles w₀ w

section Compaction

variable {q : QueueName} {binds : Bool} {now : UInt32} {w₀ w w₁ : TunnelWorld} {i k : ℕ}
  {ts : List Treated} {body : PendingChannel → Handle → TunnelM (Option PendingChannel)}

theorem Treated.Settles.before {t : Treated} (ht : t.Settles w w₁) {l : List Touch}
    (h₀ : Touches l w₀ w) : t.Settles w₀ w₁ := by
  intro i hi
  obtain ⟨hwas, hnow⟩ := ht i hi
  refine ⟨?_, hnow⟩
  cases hact : (w₀.st.channels.slots i).active with
  | false => rfl
  | true => exact absurd (h₀.slots i hact).1 (by simp [hwas])

theorem Treated.Settles.after {t : Treated} (ht : t.Settles w₀ w) {l : List Touch}
    (h' : Touches l w w₁) : t.Settles w₀ w₁ := by
  intro i hi
  obtain ⟨hwas, hact, hch⟩ := ht i hi
  obtain ⟨hact', hch'⟩ := h'.slots i hact
  exact ⟨hwas, hact', hch'.trans hch⟩

/-- One entry has been treated, and the array been written to: the pass is one entry further if the
array holds what it should. -/
theorem Halfway.next (hw : Halfway q binds now w₀ i k ts w) {t : Treated} {k' : ℕ}
    (htouch : Touches t.touches w w₁) (hallowed : t.Allowed now binds) (hsettles : t.Settles w w₁)
    (hentry : (w₀.st.queue q).entries i = t.entry)
    (hwritten : (List.range k').map (w₁.st.queue q).entries
      = ts.filterMap Treated.left ++ t.left.toList)
    (hle : k' ≤ i + 1)
    (hrest : ∀ j, i < j → (w₁.st.queue q).entries j = (w.st.queue q).entries j)
    (hcount : (w₁.st.queue q).count = (w.st.queue q).count)
    (hother : ∀ q', q' ≠ q → w₁.st.queue q' = w.st.queue q') :
    Halfway q binds now w₀ (i + 1) k' (ts ++ [t]) w₁ where
  toTouches := by
    rw [List.flatMap_append, List.flatMap_singleton]
    exact hw.toTouches.trans htouch
  read := by
    rw [List.range_succ, List.map_append, List.map_append, hw.read, List.map_singleton, hentry]
    rfl
  written := by
    rw [hwritten, List.filterMap_append]
    cases hleft : t.left <;> simp [hleft]
  le := hle
  rest := fun j hj ↦ (hrest j hj).trans (hw.rest j (by omega))
  count := hcount.trans hw.count
  other := fun q' hq' ↦ (hother q' hq').trans (hw.other q' hq')
  allowed := fun x hx ↦ by
    rcases List.mem_append.1 hx with hx | hx
    · exact hw.allowed x hx
    · rwa [List.mem_singleton.1 hx]
  settles := fun x hx ↦ by
    rcases List.mem_append.1 hx with hx | hx
    · exact (hw.settles x hx).after htouch
    · rw [List.mem_singleton.1 hx]
      exact hsettles.before hw.toTouches

/-- The part of the array written so far is not touched by writing further on. -/
theorem map_range_set {x : ChannelQueue} {j : ℕ} {e : PendingChannel} (hj : k ≤ j) :
    (List.range k).map (x.set j e).entries = (List.range k).map x.entries :=
  List.map_congr_left fun _ hm ↦
    ChannelQueue.entries_set_ne x e (Nat.ne_of_lt (Nat.lt_of_lt_of_le (List.mem_range.1 hm) hj))

/-- One round. -/
theorem wp_halfway_compactEntry (hbody : Treats now binds body)
    (hw : Halfway q binds now w₀ i k ts w)
    (hfull : ((w₀.st.queue q).entries i).channel ≠ none) :
    wp (compactEntry q body k i) (fun k' w' ↦ ∃ t, Halfway q binds now w₀ (i + 1) k' (ts ++ [t]) w')
      w := by
  have hentry := hw.rest i (Nat.le_refl i)
  obtain ⟨h, hh⟩ := Option.ne_none_iff_exists'.1 hfull
  rw [compactEntry, wp_get_bind]
  simp only [hentry, hh]
  refine wp_bind (wp_mono (hbody w _ h hh) ?_)
  rintro kept w₁ ⟨fate, hallowed, rfl, hdone, hsettles⟩
  have hwritten : (List.range k).map (w₁.st.queue q).entries = ts.filterMap Treated.left := by
    rw [hdone.queue, hw.written]
  have hle := hw.le
  simp only [modifyQueue_eq]
  cases hleft : Treated.left ⟨(w₀.st.queue q).entries i, h, fate⟩ with
  | none =>
    dsimp only
    rw [wp_modify_bind]
    refine wp_pure ⟨_, hw.next hdone.mapQueue hallowed (hsettles.after (Touches.refl w₁).mapQueue)
      rfl ?_ (by omega) (fun j hj ↦ ?_) ?_ fun q' hq' ↦ ?_⟩
    all_goals rw [World.update_st]
    · rw [SSHTunnel.queue_mapQueue_same, map_range_set hle, hwritten, hleft]
      simp
    · rw [SSHTunnel.queue_mapQueue_same, ChannelQueue.entries_set_ne _ _ (by omega), hdone.queue]
    · rw [SSHTunnel.queue_mapQueue_same, ← hdone.queue]
      rfl
    · rw [SSHTunnel.queue_mapQueue_ne _ _ _ hq', hdone.queue]
  | some e' =>
    -- what the array has to look like at the end of the round
    have hend : ∀ u : TunnelWorld, Touches [] w₁ u → (u.st.queue q).entries k = e' →
        (∀ j, j ≠ k → j ≠ i → (u.st.queue q).entries j = (w₁.st.queue q).entries j) →
        (u.st.queue q).count = (w₁.st.queue q).count →
        (∀ q', q' ≠ q → u.st.queue q' = w₁.st.queue q') →
        ∃ t, Halfway q binds now w₀ (i + 1) (k + 1) (ts ++ [t]) u := by
      intro u hu hk hsame hcount hother
      have htouch := hdone.toTouches.trans hu
      rw [List.append_nil] at htouch
      refine ⟨_, hw.next htouch hallowed (hsettles.after hu) rfl ?_ (by omega) (fun j hj ↦ ?_) ?_
        fun q' hq' ↦ ?_⟩
      · rw [List.range_succ, List.map_append, List.map_singleton, hk, hleft, ← hwritten]
        congr 1
        refine List.map_congr_left fun j hj ↦ ?_
        have := List.mem_range.1 hj
        exact hsame j (by omega) (by omega)
      · rw [hsame j (by omega) (by omega), hdone.queue]
      · rw [hcount, hdone.queue]
      · rw [hother q' hq', hdone.queue]
    dsimp only
    rw [wp_modify_bind]
    refine wp_bind (wp_when (fun hki ↦ wp_modify (wp_pure ?_)) fun hki ↦ wp_pure ?_)
    · refine hend _ (Touches.refl w₁).mapQueue.mapQueue ?_ (fun j hjk hji ↦ ?_) ?_ fun q' hq' ↦ ?_
      all_goals simp only [World.update_st]
      · rw [SSHTunnel.queue_mapQueue_same, ChannelQueue.entries_set_same]
      · rw [SSHTunnel.queue_mapQueue_same, SSHTunnel.queue_mapQueue_same,
          ChannelQueue.entries_set_ne _ _ hjk, ChannelQueue.entries_set_ne _ _ hji]
      · rw [SSHTunnel.queue_mapQueue_same, SSHTunnel.queue_mapQueue_same]
        rfl
      · rw [SSHTunnel.queue_mapQueue_ne _ _ _ hq', SSHTunnel.queue_mapQueue_ne _ _ _ hq']
    · have hki : k = i := by simpa using hki
      refine hend _ (Touches.refl w₁).mapQueue ?_ (fun j _ hji ↦ ?_) ?_ fun q' hq' ↦ ?_
      all_goals rw [World.update_st]
      · rw [SSHTunnel.queue_mapQueue_same, hki, ChannelQueue.entries_set_same]
      · rw [SSHTunnel.queue_mapQueue_same, ChannelQueue.entries_set_ne _ _ hji]
      · rw [SSHTunnel.queue_mapQueue_same]
        rfl
      · rw [SSHTunnel.queue_mapQueue_ne _ _ _ hq']

/-- The whole pass. -/
theorem wp_pass_compactQueue (hbody : Treats now binds body)
    (hfull : ∀ e ∈ (w.st.queue q).contents, e.channel ≠ none) :
    wp (compactQueue q body) (fun _ w' ↦ ∃ ts, Pass q binds now ts w w') w := by
  -- the invariant is that of a pass that has read the first `i` entries and kept `k` of them
  have hloop := Triple.fold (l := List.range (w.st.queue q).count) (a := 0)
    (f := compactEntry q body)
    (I := fun l k u ↦ ∃ i ts, l = List.range' i ((w.st.queue q).count - i) ∧
      i ≤ (w.st.queue q).count ∧ Halfway q binds now w i k ts u) fun i l' k _ ↦ by
    rintro u ⟨i', ts, hl, hi', hu⟩
    obtain ⟨m, hm⟩ : ∃ m, (w.st.queue q).count - i' = m + 1 := by
      cases hcount : (w.st.queue q).count - i' with
      | zero =>
        rw [hcount] at hl
        cases hl
      | succ m => exact ⟨m, rfl⟩
    rw [hm, List.range'_succ] at hl
    obtain ⟨rfl, rfl⟩ := List.cons.inj hl
    have hmem : (w.st.queue q).entries i ∈ (w.st.queue q).contents :=
      List.mem_map_of_mem (List.mem_range.2 (by omega))
    refine wp_mono (wp_halfway_compactEntry hbody hu (hfull _ hmem)) fun k' u' ⟨t, hu'⟩ ↦ ?_
    exact ⟨i + 1, _, by rw [show (w.st.queue q).count - (i + 1) = m by omega], by omega, hu'⟩
  have hstart : Halfway q binds now w 0 0 [] w :=
    { toTouches := Touches.refl w
      read := rfl
      written := rfl
      le := Nat.le_refl 0
      rest := fun _ _ ↦ rfl
      count := rfl
      other := fun _ _ ↦ rfl
      allowed := nofun
      settles := nofun }
  refine wp_bind (wp_get_bind.2 (wp_bind (wp_mono (hloop w ⟨0, [], by
    rw [Nat.sub_zero, List.range_eq_range'], Nat.zero_le _, hstart⟩) ?_)))
  rintro k u ⟨i, ts, hl, hi, hu⟩
  have hin : i = (w.st.queue q).count := by
    have hlen := congrArg List.length hl
    rw [List.length_nil, List.length_range'] at hlen
    omega
  rw [modifyQueue_eq]
  refine wp_modify (wp_bind (wp_mark (wp_pure ⟨ts, ?_⟩)))
  have hmark : Touches [] (u.update (·.mapQueue q fun x ↦ { x with count := k }))
      ((u.update (·.mapQueue q fun x ↦ { x with count := k })).marked .returned) :=
    ⟨⟨[_], rfl, rfl, ⟨trivial, trivial⟩⟩, fun _ hj ↦ ⟨hj, rfl⟩, fun _ _ ↦ rfl⟩
  have hall := (hu.toTouches.mapQueue (q := q) (f := fun x ↦ { x with count := k })).trans hmark
  rw [List.append_nil] at hall
  refine ⟨hall, ?_, hu.allowed, ?_, fun q' hq' ↦ ?_, fun t ht ↦ ?_⟩
  · rw [ChannelQueue.contents, ← hin, hu.read]
  · rw [World.marked_st, World.update_st, SSHTunnel.queue_mapQueue_same, ← hu.written]
    rfl
  · rw [World.marked_st, World.update_st, SSHTunnel.queue_mapQueue_ne _ _ _ hq', hu.other q' hq']
  · exact ((hu.settles t ht).after (Touches.refl u).mapQueue).after hmark

/-- Reading the clock and going through a queue. -/
theorem wp_pass_sweep {body : UInt32 → PendingChannel → Handle → TunnelM (Option PendingChannel)}
    (hbody : ∀ now, Treats now binds (body now))
    (hfull : ∀ e ∈ (w.st.queue q).contents, e.channel ≠ none) :
    wp (do
      let now ← millis
      compactQueue q (body now)) (fun _ w' ↦ ∃ t ts, w.clock ≤ t ∧ t ≤ w'.clock ∧
        Pass q binds (stamp t) ts w w') w := by
  refine wp_bind (wp_tick_bind fun t ht ↦ wp_pure ?_)
  refine wp_mono (wp_forward (wp_pass_compactQueue (hbody (stamp t)) (w := w.wait t) hfull)) ?_
  rintro _ w' ⟨⟨ts, hpass⟩, hclock, -⟩
  exact ⟨t, ts, ht, hclock, ⟨hpass.record, hpass.slots, hpass.others⟩, hpass.before, hpass.allowed,
    hpass.after, hpass.other, hpass.settles⟩

end Compaction

/-- **Going through a queue is a stable, exact filter.** Whatever the entries, so long as they hold
channels, and whatever the lock, the slots and the endpoints do: each entry is bound to one slot, or
its channel is closed and freed once under the lock, or it stays, in order and with nothing but
perhaps its action changed. Only `drainPendingQueue` binds, and no entry that is to be closed or has
waited too long. -/
theorem queue_passes (p : Params) (w : TunnelWorld)
    (hpending : ∀ e ∈ w.st.pending.contents, e.channel ≠ none)
    (hdeferred : ∀ e ∈ w.st.deferredClose.contents, e.channel ≠ none) :
    wp (drainPendingQueue p) (fun _ w' ↦ ∃ t ts, w.clock ≤ t ∧ t ≤ w'.clock ∧
      Pass .pending true (stamp t) ts w w') w ∧
    wp cleanExpiredPending (fun _ w' ↦ ∃ t ts, w.clock ≤ t ∧ t ≤ w'.clock ∧
      Pass .pending false (stamp t) ts w w') w ∧
    wp drainDeferredCloseQueue (fun _ w' ↦ ∃ t ts, w.clock ≤ t ∧ t ≤ w'.clock ∧
      Pass .deferredClose false (stamp t) ts w w') w :=
  ⟨wp_pass_sweep (fun _ ↦ treats_drainPendingEntry) hpending,
    wp_pass_sweep (fun _ ↦ treats_cleanExpiredEntry) hpending,
    wp_pass_sweep (fun _ ↦ treats_drainDeferredEntry) hdeferred⟩

/-- Two channels wait, one to be bound and one to be closed. -/
def waitingWorld : TunnelWorld :=
  (initial 0).update fun s ↦
    { s with
      pending :=
        { entries := fun i ↦
            if i = 0 then { channel := some 1 } else { channel := some 2, action := .close }
          count := 2 } }

theorem queue_passes_waiting :
    wp (drainPendingQueue (smallTunnel 1)) (fun _ w' ↦ ∃ t ts, 0 ≤ t ∧ t ≤ w'.clock ∧
      Pass .pending true (stamp t) ts waitingWorld w') waitingWorld :=
  (queue_passes (smallTunnel 1) waitingWorld (by decide) (by decide)).1

end ReverseTunnel
