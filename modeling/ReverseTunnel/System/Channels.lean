import ReverseTunnel.System.Step
import ReverseTunnel.Lifetime.Closing

/-!
# The channel manager takes steps

`allocateSlot`, `bindChannel`, `finalizeClose` and `abandonSlot` are steps of the tunnel. All but
`bindChannel` let channels only leave: `Subsides` is what that means for the rest of the tunnel.
-/

namespace ReverseTunnel

open Traced Clock32 TunnelM

variable {p : Params} {ext : Bool} {g g' : Ledger} {w w' w'' : TunnelWorld} {i : ℕ}

/-- From `w` to `w'` the queues were left alone. -/
structure QueueFrame (w w' : TunnelWorld) : Prop where
  /-- The tunnel state is as it was. -/
  state : w'.st.state = w.st.state
  /-- The pending queue is as it was. -/
  pending : w'.st.pending = w.st.pending
  /-- The deferred-close queue is as it was. -/
  deferredClose : w'.st.deferredClose = w.st.deferredClose
  /-- The degradation flag stays set. -/
  sessionDegraded : w.st.transport.sessionDegraded = true →
    w'.st.transport.sessionDegraded = true

theorem QueueFrame.refl (w : TunnelWorld) : QueueFrame w w := ⟨rfl, rfl, rfl, id⟩

theorem QueueFrame.trans (h : QueueFrame w w') (h' : QueueFrame w' w'') : QueueFrame w w'' :=
  ⟨h'.state.trans h.state, h'.pending.trans h.pending, h'.deferredClose.trans h.deferredClose,
    fun hd ↦ h'.sessionDegraded (h.sessionDegraded hd)⟩

theorem QueueFrame.queue (h : QueueFrame w w') (q : QueueName) : w'.st.queue q = w.st.queue q := by
  cases q with
  | pending => exact h.pending
  | deferredClose => exact h.deferredClose

theorem QueueFrame.tracks (h : QueueFrame w w') (ht : Tracks w.st g) : Tracks w'.st g := by
  intro q
  rw [h.queue q]
  exact ht q

theorem Calms.queueFrame (h : Calms w w') : QueueFrame w w' :=
  ⟨h.state, h.pending, h.deferredClose, fun hd ↦ h.sessionDegraded.trans hd⟩

theorem SlotMove.queueFrame (h : SlotMove i w w') : QueueFrame w w' :=
  ⟨h.state, h.pending, h.deferredClose, fun hd ↦ h.sessionDegraded.trans hd⟩

/-- From `w` to `w'` no slot was taken into use, and no teardown began. -/
structure Recedes (p : Params) (ext : Bool) (w w' : TunnelWorld) : Prop where
  /-- Slots only leave. -/
  views : ∀ j, Retires p ext (slotView j w) (slotView j w')
  /-- No teardown begins. -/
  trace : ∃ items, w'.trace = items ++ w.trace ∧ ∀ x ∈ items, isTearingDown x = false

namespace Recedes

theorem refl (w : TunnelWorld) : Recedes p ext w w := ⟨fun _ ↦ .refl, [], rfl, by simp⟩

theorem trans (h : Recedes p ext w w') (h' : Recedes p ext w' w'') : Recedes p ext w w'' := by
  obtain ⟨items, ht, hi⟩ := h.trace
  obtain ⟨items', ht', hi'⟩ := h'.trace
  refine ⟨fun j ↦ (h.views j).trans (h'.views j), items' ++ items,
    by rw [ht', ht, List.append_assoc], fun x hx ↦ ?_⟩
  rcases List.mem_append.1 hx with hx | hx
  · exact hi' x hx
  · exact hi x hx

/-- A call of the tunnel. -/
theorem after {c : SysCall} {r : c.Reply} {t : ℕ} (ht : w.clock ≤ t) :
    Recedes p ext w (w.after (.sys c) r t) :=
  ⟨fun _ ↦ retires_wait ht, [_], rfl, by simp [isTearingDown]⟩

/-- A change of state that no slot sees. -/
theorem update {f : SSHTunnel → SSHTunnel} (h : (f w.st).channels.slots = w.st.channels.slots) :
    Recedes p ext w (w.update f) :=
  ⟨fun j ↦ by rw [slotView_update h]; exact .refl, [], rfl, by simp⟩

/-- A mark that is neither of a slot nor the beginning of a teardown. -/
theorem marked {m : Mark} (h : ∀ i sm, m ≠ .slot i sm) (h' : m ≠ .tearingDown) :
    Recedes p ext w (w.marked m) := by
  refine ⟨fun j ↦ by rw [slotView_marked h]; exact .refl, [_], rfl, fun x hx ↦ ?_⟩
  rw [List.mem_singleton.1 hx]
  cases m with
  | tearingDown => exact absurd rfl h'
  | _ => rfl

end Recedes

/-- From `w` to `w'` no slot was taken into use, and the queues were left alone. -/
structure Subsides (p : Params) (ext : Bool) (w w' : TunnelWorld) : Prop
    extends QueueFrame w w', Recedes p ext w w'

namespace Subsides

theorem refl (w : TunnelWorld) : Subsides p ext w w := ⟨QueueFrame.refl w, Recedes.refl w⟩

theorem trans (h : Subsides p ext w w') (h' : Subsides p ext w' w'') : Subsides p ext w w'' :=
  ⟨h.toQueueFrame.trans h'.toQueueFrame, h.toRecedes.trans h'.toRecedes⟩

/-- A call of the tunnel. -/
theorem after {c : SysCall} {r : c.Reply} {t : ℕ} (ht : w.clock ≤ t) :
    Subsides p ext w (w.after (.sys c) r t) :=
  ⟨⟨rfl, rfl, rfl, id⟩, Recedes.after ht⟩

end Subsides

theorem isTearingDown_of_isCalm {x : Item SSHTunnel Call Call.Reply Mark} (h : isCalm x) :
    isTearingDown x = false := by
  cases x with
  | call id t s c r => rfl
  | mark t s m =>
    cases m with
    | note n => rfl
    | _ => exact h.elim

theorem isTearingDown_of_slotItem? {x : Item SSHTunnel Call Call.Reply Mark}
    (h : (slotItem? i x).isSome = true) : isTearingDown x = false := by
  cases x with
  | call id t s c r => rfl
  | mark t s m =>
    cases m with
    | slot j sm => rfl
    | _ => cases h

theorem Calms.subsides (h : Calms w w') : Subsides p ext w w' := by
  obtain ⟨items, ht, hi⟩ := h.trace
  refine ⟨h.queueFrame, fun j ↦ ?_, items, ht, fun x hx ↦ isTearingDown_of_isCalm (hi x hx)⟩
  rw [h.view_eq j]
  exact retires_wait h.clock_le

theorem SlotMove.subsides (h : SlotMove i w w') (hr : Retires p ext (slotView i w) (slotView i w')) :
    Subsides p ext w w' := by
  obtain ⟨items, ht, hi⟩ := h.trace
  refine ⟨h.queueFrame, fun j ↦ ?_, items, ht, fun x hx ↦ isTearingDown_of_slotItem? (hi x hx)⟩
  by_cases hj : j = i
  · rw [hj]
    exact hr
  · rw [h.view_eq j hj]
    exact retires_wait h.clock_le

/-- Work on a slot in range. -/
theorem wp_onSlot_works {α : Type} {m : SlotM α} {P : α → View → Prop} (hw : At p ext g w)
    (hdown : g.down = false) (hi : i < p.maxSlots)
    (hm : wp m (fun a l ↦ Works p ext (slotView i w) (view (slotLog i w.trace) l) ∧
      P a (view (slotLog i w.trace) l)) (slotWorld i w)) :
    wp (onSlot i m) (fun a w' ↦ At p ext g w' ∧ Subsides p ext w w' ∧ SlotMove i w w' ∧
      Works p ext (slotView i w) (slotView i w') ∧ P a (slotView i w')) w := by
  refine wp_mono (wp_onSlot_view (P := fun a v ↦ Works p ext (slotView i w) v ∧ P a v) hm) ?_
  rintro a w' ⟨hmove, hcount, hworks, hP⟩
  exact ⟨hw.step (.work hi hdown hmove hworks hcount), hmove.subsides hworks.retires, hmove,
    hworks, hP⟩

/-- The count of active slots is changed. -/
theorem wp_modifyCount (i : ℕ) (f : Int → Int) :
    wp (modifyChannels fun c ↦ { c with activeCount := f c.activeCount }) (fun _ w' ↦
      SlotMove i w w' ∧ slotView i w' = slotView i w ∧
      w'.st.channels.activeCount = f w.st.channels.activeCount ∧ Archives {} w w') w :=
  wp_modify ⟨⟨⟨Nat.le_refl _, fun _ _ ↦ rfl⟩, Nat.le_refl _, ⟨[], rfl, by simp⟩, rfl, rfl, rfl,
    rfl, rfl, rfl⟩, rfl, rfl, rfl, rfl, rfl⟩

/-- The totals of a slot are counted as it stands. -/
theorem wp_archiveSlotStats (i : ℕ) :
    wp (archiveSlotStats i) (fun _ w' ↦ SlotMove i w w' ∧ slotView i w' = slotView i w ∧
      w'.st.channels.activeCount = w.st.channels.activeCount ∧
      Archives (w.st.channels.slots i) w w') w := by
  rw [archiveSlotStats, modifyChannels]
  exact wp_modify ⟨⟨⟨Nat.le_refl _, fun _ _ ↦ rfl⟩, Nat.le_refl _, ⟨[], rfl, by simp⟩, rfl, rfl,
    rfl, rfl, rfl, rfl⟩, rfl, rfl, rfl, rfl, rfl⟩

theorem Archives.trans {ch ch' : ChannelSlot} (h : SameCounters w w') (h' : Archives ch w' w'')
    (hr : ch.totalBytesReceived = ch'.totalBytesReceived)
    (hs : ch.totalBytesSent = ch'.totalBytesSent)
    (hd : ch.totalBytesDropped = ch'.totalBytesDropped) : Archives ch' w w'' :=
  ⟨by rw [h'.received, h.received, hr], by rw [h'.sent, h.sent, hs],
    by rw [h'.dropped, h.dropped, hd]⟩

/-- Nothing more was counted. -/
theorem Archives.then {ch : ChannelSlot} (h : Archives ch w w') (h' : Archives {} w' w'') :
    Archives ch w w'' :=
  ⟨h'.received.trans h.received, h'.sent.trans h.sent, h'.dropped.trans h.dropped⟩

theorem SameCounters.archives (h : SameCounters w w') : Archives {} w w' :=
  ⟨h.received, h.sent, h.dropped⟩

theorem toNat_lt_of_inRange {slotIndex : Int}
    (h : ¬(decide (slotIndex < 0) || decide (slotIndex ≥ p.maxSlots)) = true) :
    slotIndex.toNat < p.maxSlots := by
  simp only [Bool.or_eq_true, decide_eq_true_eq, not_or, Int.not_lt] at h
  omega

/-! ### Allocation -/

theorem findFreeSlot_lt {slots : ℕ → ChannelSlot} {n : ℕ} {now : UInt32}
    (h : findFreeSlot slots n now = some i) : i < n ∧ (slots i).active = false := by
  have hmem := List.mem_of_find?_eq_some h
  have hsome := List.find?_some h
  simp only [Bool.and_eq_true, Bool.not_eq_true'] at hsome
  exact ⟨List.mem_range.1 hmem, hsome.1⟩

theorem wp_allocateSlot (hw : At p ext g w) (hdown : g.down = false) :
    wp (allocateSlot p) (fun res w' ↦ At p ext g w' ∧ Subsides p ext w w' ∧
      ∀ i, res = some i → i < p.maxSlots ∧ Calms w w') w := by
  rw [allocateSlot, millis, wp_bind_assoc]
  refine wp_tick_bind fun t ht ↦ ?_
  have hcalm : Calms w (w.wait t) := Calms.wait ht
  have hw' := hw.calm hcalm
  rw [wp_pure_bind, wp_get_bind]
  split
  · next i hfree =>
    refine wp_pure ⟨hw', hcalm.subsides, fun j hj ↦ ?_⟩
    obtain rfl : i = j := Option.some.inj hj
    exact ⟨(findFreeSlot_lt hfree).1, hcalm⟩
  · dsimp only
    split
    · next i hstale =>
      have hi := List.mem_range.1 (List.mem_of_find?_eq_some hstale)
      have hcond := List.find?_some hstale
      simp only [expired, Bool.and_eq_true, decide_eq_true_eq] at hcond
      refine wp_bind (wp_mono (wp_onSlot_works (P := fun _ _ ↦ True) hw' hdown hi ?_) ?_)
      · refine wp_mono (wp_beginClose p ext (slotLog i w.trace) fun _ _ ↦ ?_) fun _ _ hl ↦
          ⟨hl.works, trivial⟩
        exact .idle (hw'.sound i).settled hcond.2.1.1 hcond.2.2
      · rintro _ w' ⟨hat, hsub, -⟩
        exact wp_pure ⟨hat, hcalm.subsides.trans hsub, fun j hj ↦ by cases hj⟩
    · exact wp_pure ⟨hw', hcalm.subsides, fun j hj ↦ by cases hj⟩

/-! ### Binding -/

/-- The mapping is the one that was let through last, and the breaker has recorded nothing since. -/
def Admitted (ext : Bool) (mapping : TunnelConfig) (w : TunnelWorld) : Prop :=
  ext = true ∨ ∃ t₀ s, lastAdmitted w.trace = some (t₀, s, mapping) ∧
    s.channels.breaker = w.st.channels.breaker

theorem lastAdmitted_append {items past : Trace SSHTunnel Call Call.Reply Mark}
    (h : ∀ x ∈ items, isCalm x) : lastAdmitted (items ++ past) = lastAdmitted past := by
  induction items with
  | nil => rfl
  | cons x items ih =>
    have hx := h x (List.mem_cons_self ..)
    have ih := ih fun y hy ↦ h y (List.mem_cons_of_mem _ hy)
    cases x with
    | call id t s c r => exact ih
    | mark t s m =>
      cases m with
      | note n => exact ih
      | _ => exact hx.elim

theorem Admitted.calm {mapping : TunnelConfig} (h : Admitted ext mapping w) (hc : Calms w w') :
    Admitted ext mapping w' := by
  rcases h with hext | ⟨t₀, s, hlast, hb⟩
  · exact .inl hext
  · obtain ⟨items, ht, hi⟩ := hc.trace
    refine .inr ⟨t₀, s, ?_, by rw [hc.channels]; exact hb⟩
    rw [ht, lastAdmitted_append hi]
    exact hlast

/-- After the socket is created, connecting is calm. -/
theorem wp_connectToLocalEndpoint {mapping : TunnelConfig} :
    wp (connectToLocalEndpoint mapping) (fun _ w' ↦ ∃ r t, w.clock ≤ t ∧
      Calms (w.after (.sys (.localSocket mapping)) r t) w') w := by
  have hgiveUp : ∀ fd : Int, Calm (do
      let _ ← sys (.localClose fd)
      pure (-1 : Int)) := fun fd ↦ (calm_sys fun _ ↦ by trivial).bind fun _ ↦ calm_pure _
  rw [connectToLocalEndpoint]
  refine wp_callId_bind fun created t ht ↦ ?_
  suffices hcalm : Calm (if (!created) = true then pure (-1 : Int) else _) from
    wp_mono (hcalm _) fun _ w' hw' ↦ ⟨created, t, ht, hw'⟩
  refine calm_ite (calm_pure _) ?_
  refine (calm_sys fun _ ↦ by trivial).bind fun _ ↦ calm_ite (hgiveUp _) ?_
  refine (calm_sys fun _ ↦ by trivial).bind fun _ ↦ calm_ite (hgiveUp _) ?_
  refine (calm_sys fun _ ↦ by trivial).bind fun _ ↦ calm_ite (hgiveUp _) ?_
  refine (calm_sys fun _ ↦ by trivial).bind fun _ ↦ ?_
  split
  · exact calm_pure _
  · exact hgiveUp _
  · refine (calm_sys fun _ ↦ by trivial).bind fun _ ↦ calm_ite (hgiveUp _) ?_
    exact (calm_sys fun _ ↦ by trivial).bind fun _ ↦ calm_ite (hgiveUp _) (calm_pure _)

@[simp] theorem wp_getSlot_bind {α : Type} {f : ChannelSlot → TunnelM α}
    {Q : α → Assertion SSHTunnel Call Call.Reply Mark} :
    wp (getSlot i >>= f) Q w ↔ wp (f (w.st.channels.slots i)) Q w := by
  simp [getSlot]

/-- The end of `bindChannel`: the slot is filled and counted. -/
theorem wp_fillSlot {h : Handle} {hand : List Handle} {fd : Int} {okLocal okRemote : Bool}
    (hw : At p ext g w) (hdown : g.down = false) (hhand : g.hand = h :: hand)
    (hi : i < p.maxSlots) (hact : (w.st.channels.slots i).active = false) (hfd : 0 ≤ fd)
    (hok : (∀ x ∈ w.trace, ringFailed x = false) → okLocal = true ∧ okRemote = true) :
    wp (do
        onSlot i (bindSlot h fd (.create p.ringBufferSize p.prependCap okLocal)
          (.create p.ringBufferSize p.prependCap okRemote))
        modifyChannels fun c ↦ { c with activeCount := c.activeCount + 1 }
        pure true)
      (fun bound w' ↦ QueueFrame w w' ∧ At p ext (if bound then { g with hand } else g) w') w := by
  refine wp_bind (wp_mono (wp_onSlot_view (P := fun _ v ↦ ∃ id t t', w.clock ≤ t ∧ t ≤ t' ∧
    v = (slotView i w).bound p h fd okLocal okRemote id t t')
    (wp_bindSlot (l := slotWorld i w) (slotLog i w.trace))) ?_)
  rintro _ w₁ ⟨hm₁, hc₁, id, t, t', ht, ht', hv₁⟩
  refine wp_bind (wp_mono (wp_modifyCount i (· + 1)) ?_)
  rintro _ w₂ ⟨hm₂, hv₂, hcount, harch⟩
  have hm := hm₁.trans hm₂
  rw [hc₁.activeCount] at hcount
  exact wp_pure ⟨hm.queueFrame, hw.step (.bind hi hdown hhand hm hact hfd ht ht' (hv₂.trans hv₁)
    hok hcount (hc₁.archives.then harch))⟩

theorem wp_bindChannel {slotIndex : Int} {h : Handle} {hand : List Handle} {mapping : TunnelConfig}
    (hw : At p ext g w) (hdown : g.down = false) (hhand : g.hand = h :: hand)
    (hadm : Admitted ext mapping w) :
    wp (bindChannel p slotIndex h mapping) (fun bound w' ↦ QueueFrame w w' ∧
      At p ext (if bound then { g with hand } else g) w') w := by
  have hfail : ∀ {u}, At p ext g u → QueueFrame w u →
      wp (pure false : TunnelM Bool) (fun bound w' ↦ QueueFrame w w' ∧
        At p ext (if bound then { g with hand } else g) w') u := fun hu hq ↦ wp_pure ⟨hq, hu⟩
  -- the ways out, with and without a socket to close
  have hclose : ∀ {u} (fd : Int), At p ext g u → QueueFrame w u →
      wp (do
        let _ ← sys (.localClose fd)
        pure false) (fun bound w' ↦ QueueFrame w w' ∧
        At p ext (if bound then { g with hand } else g) w') u := fun fd hu hq ↦
    wp_bind (wp_mono (wp_calm (calm_sys fun _ ↦ by trivial) hu) fun _ _ hc ↦
      hfail hc.1 (hq.trans hc.2.queueFrame))
  rw [bindChannel]
  refine wp_ite (fun _ ↦ hfail hw (QueueFrame.refl w)) fun hrange ↦ ?_
  have hi := toNat_lt_of_inRange hrange
  rw [wp_getSlot_bind]
  refine wp_ite (fun _ ↦ hfail hw (QueueFrame.refl w)) fun hact ↦ ?_
  rw [Bool.not_eq_true] at hact
  refine wp_bind (wp_mono wp_connectToLocalEndpoint ?_)
  rintro fd w₁ ⟨r, t, ht, hc₁⟩
  have hw₁ : At p ext g w₁ := (hw.step (.connect ht hadm)).calm hc₁
  have hq₁ : QueueFrame w w₁ := ⟨hc₁.state, hc₁.pending, hc₁.deferredClose,
    fun hd ↦ hc₁.sessionDegraded.trans hd⟩
  refine wp_ite (fun _ ↦ ?_) fun hfd ↦ ?_
  · refine wp_bind (wp_mono (wp_calm calm_millis hw₁) fun now w₂ hc₂ ↦ ?_)
    rw [modifyChannels, wp_modify_bind]
    have hq₂ := hq₁.trans hc₂.2.queueFrame
    exact hfail (hc₂.1.step (.breaker rfl rfl)) ⟨hq₂.1, hq₂.2, hq₂.3, hq₂.4⟩
  rw [modifyChannels, wp_modify_bind]
  refine wp_bind (wp_mono (wp_calm (calm_sys fun _ ↦ by trivial) (hw₁.step (.breaker rfl rfl)))
    fun heap w₃ hc₃ ↦ ?_)
  have hq₃ : QueueFrame w w₃ := ⟨hc₃.2.state.trans hq₁.1, hc₃.2.pending.trans hq₁.2,
    hc₃.2.deferredClose.trans hq₁.3, fun hd ↦ hc₃.2.sessionDegraded.trans (hq₁.4 hd)⟩
  refine wp_ite (fun _ ↦ hclose fd hc₃.1 hq₃) fun _ ↦ ?_
  refine wp_call_bind fun okLocal t₄ ht₄ ↦ wp_call_bind fun okRemote t₅ ht₅ ↦ ?_
  have hc₄ : Calms w₃ (w₃.after (.sys (.allocRing p.ringBufferSize)) okLocal t₄) :=
    Calms.call trivial ht₄
  have hc₅ := hc₄.trans (Calms.call (c := .allocRing p.ringBufferSize) (r := okRemote) trivial ht₅)
  have hq₅ := hq₃.trans hc₅.queueFrame
  dsimp only
  refine wp_ite (fun _ ↦ hclose fd (hc₃.1.calm hc₅) hq₅) fun _ ↦ ?_
  have hact₃ : (w₃.st.channels.slots slotIndex.toNat).active = false := by
    rw [hc₃.2.channels, World.update_st]
    show (w₁.st.channels.slots slotIndex.toNat).active = false
    rw [hc₁.channels]
    exact hact
  refine wp_mono (wp_fillSlot (hc₃.1.calm hc₅) hdown hhand hi hact₃ (by omega) fun hok ↦ ?_)
    fun _ w' h ↦ ?_
  · simpa [ringFailed, and_comm] using And.intro (hok _ (List.mem_cons_self ..))
      (hok _ (List.mem_cons_of_mem _ (List.mem_cons_self ..)))
  exact ⟨hq₅.trans h.1, h.2⟩

/-! ### Releasing -/

/-- What releasing a slot leaves alone. -/
structure Releases (p : Params) (ext : Bool) (i : ℕ) (w w' : TunnelWorld) : Prop
    extends Subsides p ext w w' where
  /-- The other slots. -/
  spares : Spares i w w'
  /-- The session. -/
  session : w'.st.session = w.st.session

theorem Releases.refl (w : TunnelWorld) : Releases p ext i w w :=
  ⟨Subsides.refl w, Spares.refl i w, rfl⟩

theorem SlotMove.releases (h : SlotMove i w w') (hr : Retires p ext (slotView i w) (slotView i w')) :
    Releases p ext i w w' :=
  ⟨h.subsides hr, h.toSpares, h.session⟩

theorem wp_finalizeClose {slotIndex : Int} (hw : At p ext g w) (hdown : g.down = false) :
    wp (finalizeClose p slotIndex) (fun done w' ↦ At p ext g w' ∧
      Releases p ext slotIndex.toNat w w' ∧
      (done = true → 0 ≤ slotIndex → slotIndex < p.maxSlots →
        (w'.st.channels.slots slotIndex.toNat).active = false)) w := by
  rw [finalizeClose]
  refine wp_ite (fun hout ↦ ?_) fun hrange ↦ ?_
  · refine wp_pure ⟨hw, Releases.refl w, fun _ h0 hlt ↦ ?_⟩
    simp only [Bool.or_eq_true, decide_eq_true_eq] at hout
    omega
  have hi := toNat_lt_of_inRange hrange
  generalize slotIndex.toNat = i at hi ⊢
  rw [wp_getSlot_bind]
  refine wp_ite (fun hno ↦ ?_) fun hact ↦ ?_
  · exact wp_pure ⟨hw, Releases.refl w, fun _ _ _ ↦ by simpa using hno⟩
  have hact : (w.st.channels.slots i).active = true := by simpa using hact
  obtain ⟨h, hh⟩ := Option.isSome_iff_exists.1 ((hw.sound i).alive hact).sshChannel
  -- libssh2 first: unless it lets go of the channel nothing else happens
  refine wp_bind (wp_mono (wp_onSlot_view
    (wp_releaseChannel p ext (slotLog i w.trace) (l := slotWorld i w) hact hh)) ?_)
  rintro freed w₁ ⟨hm₁, hc₁, hfreed⟩
  generalize hv₁ : slotView i w₁ = v' at hfreed
  cases hfreed with
  | again hworks =>
    rw [← hv₁] at hworks
    exact wp_pure ⟨hw.step (.work hi hdown hm₁ hworks hc₁), hm₁.releases hworks.retires,
      fun hno ↦ by cases hno⟩
  | @done v id t rc progress hworks hdone ht hclosed =>
    refine wp_ite (fun hno ↦ by cases hno) fun _ ↦ ?_
    have hact₁ : v.ch.active = true := hworks.retains.active.trans hact
    have hh₁ : v.ch.sshChannel = some h := hworks.retains.sshChannel.trans hh
    have hfd : 0 ≤ v.ch.localSocket :=
      hworks.retains.localSocket ▸ ((hw.sound i).alive hact).localSocket
    have hnone : (w₁.st.channels.slots i).sshChannel = none := congrArg (·.ch.sshChannel) hv₁
    have hfd₁ : 0 ≤ (w₁.st.channels.slots i).localSocket := by
      rw [show (w₁.st.channels.slots i).localSocket = v.ch.localSocket from
        congrArg (·.ch.localSocket) hv₁]
      exact hfd
    refine wp_bind (wp_mono (wp_onSlot_view (P := fun _ u ↦ ∃ id' t', w₁.clock ≤ t' ∧
      u = (slotView i w₁).discarded id' t')
      (wp_discardLocal (slotLog i w₁.trace) (l := slotWorld i w₁) hnone hfd₁)) ?_)
    rintro _ w₂ ⟨hm₂, hc₂, id', t', ht', hv₂⟩
    refine wp_bind (wp_mono (wp_archiveSlotStats i) ?_)
    rintro _ w₃ ⟨hm₃, hv₃, hcount₃, harch₃⟩
    refine wp_bind (wp_mono (wp_onSlot_view (P := fun _ u ↦ ∃ t'', w₃.clock ≤ t'' ∧
      u = (slotView i w₃).shut t'')
      (wp_closeSlot (slotLog i w₃.trace) (l := slotWorld i w₃))) ?_)
    rintro _ w₄ ⟨hm₄, hc₄, t'', ht'', hv₄⟩
    refine wp_bind (wp_mono (wp_modifyCount i (· - 1)) ?_)
    rintro _ w₅ ⟨hm₅, hv₅, hcount₅, harch₅⟩
    -- the five moves are one `release`; what is left is to compose their views and clocks
    have hm := (hm₁.trans hm₂).trans (hm₃.trans (hm₄.trans hm₅))
    rw [hv₁] at hv₂
    rw [hv₃, hv₂] at hv₄
    rw [hv₄] at hv₅
    have hclock₁ : t ≤ t' := by
      rw [show w₁.clock = t from congrArg (·.clock) hv₁] at ht'
      exact ht'
    have hclock₂ : t' ≤ t'' := by
      have h3 : w₃.clock = t' := by
        have := congrArg (·.clock) (hv₃.trans hv₂)
        rw [View.discarded, View.socketClosed_of_le (v := v.freed h rc progress id t) hfd] at this
        exact this
      omega
    have hch₂ : w₂.st.channels.slots i = (v.freed h rc progress id t).ch.emptied :=
      congrArg (·.ch) hv₂
    have hcount : w₅.st.channels.activeCount = w.st.channels.activeCount - 1 := by
      rw [hcount₅, hc₄.activeCount, hcount₃, hc₂.activeCount, hc₁.activeCount]
    rw [hch₂] at harch₃
    have harch : Archives v.ch.accountResidual w w₅ :=
      Archives.trans (hc₁.trans hc₂) ((harch₃.then hc₄.archives).then harch₅) rfl rfl rfl
    have hrelease : SlotStep p ext v (slotView i w₅) :=
      hv₅ ▸ .release hact₁ hh₁ hdone ht hclock₁ hclock₂ hclosed
    have hstep := hw.step
      (.release hi hdown hm hworks hact₁ hh₁ hdone ht hclock₁ hclock₂ hv₅ hcount harch hclosed)
    have hdead : (w₅.st.channels.slots i).active = false := congrArg (·.ch.active) hv₅
    refine wp_pure ⟨hstep, hm.releases (hworks.retires.tail ⟨hrelease, fun hno ↦ ?_⟩),
      fun _ _ _ ↦ hdead⟩
    rw [slotView_ch, hdead] at hno
    cases hno

/-- After a slot was given up: whether the session is doomed for it is left open. -/
def AtLeast (p : Params) (ext : Bool) (g : Ledger) (w : TunnelWorld) : Prop :=
  ∃ doomed, (doomed = true → g.doomed = true ∨ g.down = false) ∧ At p ext { g with doomed } w

theorem At.atLeast (h : At p ext g w) : AtLeast p ext g w := ⟨g.doomed, .inl, h⟩

theorem wp_abandonSlot {slotIndex : Int} {reason : ChannelCloseReason} (hw : At p ext g w) :
    wp (abandonSlot p slotIndex reason) (fun _ w' ↦ AtLeast p ext g w' ∧
      Releases p ext slotIndex.toNat w w' ∧
      (0 ≤ slotIndex → slotIndex < p.maxSlots →
        (w'.st.channels.slots slotIndex.toNat).active = false)) w := by
  rw [abandonSlot]
  refine wp_ite (fun hout ↦ ?_) fun hrange ↦ ?_
  · refine wp_pure ⟨hw.atLeast, Releases.refl w, fun h0 hlt ↦ ?_⟩
    simp only [Bool.or_eq_true, decide_eq_true_eq] at hout
    omega
  have hi := toNat_lt_of_inRange hrange
  generalize slotIndex.toNat = i at hi ⊢
  rw [wp_getSlot_bind]
  refine wp_ite (fun hno ↦ ?_) fun hact ↦ ?_
  · exact wp_pure ⟨hw.atLeast, Releases.refl w, fun _ _ ↦ by simpa using hno⟩
  have hact : (w.st.channels.slots i).active = true := by simpa using hact
  have hfd := ((hw.sound i).alive hact).localSocket
  refine wp_bind (wp_mono (wp_onSlot_view (P := fun _ u ↦ ∃ id t, w.clock ≤ t ∧
    u = (slotView i w).dropped id t) (wp_dropLocal (slotLog i w.trace) (l := slotWorld i w) hfd)) ?_)
  rintro _ w₁ ⟨hm₁, hc₁, id, t, ht, hv₁⟩
  refine wp_bind (wp_mono (wp_archiveSlotStats i) ?_)
  rintro _ w₂ ⟨hm₂, hv₂, hcount₂, harch₂⟩
  refine wp_bind (wp_mono (wp_modifyCount i fun n ↦ if n > 0 then n - 1 else n) ?_)
  rintro _ w₃ ⟨hm₃, hv₃, hcount₃, harch₃⟩
  refine wp_mono (wp_onSlot_view (P := fun _ u ↦ u = (slotView i w₃).set
    (w₃.st.channels.slots i).reset) (wp_modify rfl)) ?_
  rintro _ w₄ ⟨hm₄, hc₄, hv₄⟩
  have hm := (hm₁.trans hm₂).trans (hm₃.trans hm₄)
  have hch₁ : w₁.st.channels.slots i = (w.st.channels.slots i).emptied := congrArg (·.ch) hv₁
  have hch₃ : w₃.st.channels.slots i = (w.st.channels.slots i).emptied :=
    congrArg (·.ch) (hv₃.trans (hv₂.trans hv₁))
  have hv : slotView i w₄ = ((slotView i w).dropped id t).set (w.st.channels.slots i).reset := by
    rw [hv₄, hch₃, hv₃, hv₂, hv₁]
    rfl
  rw [hcount₂, hc₁.activeCount] at hcount₃
  rw [hch₁] at harch₂
  have harch : Archives (w.st.channels.slots i).accountResidual w w₄ :=
    Archives.trans hc₁ ((harch₂.then harch₃).then hc₄.archives) rfl rfl rfl
  have hstep := hw.step (.abandon hi hm hact ht hv (hc₄.activeCount.trans hcount₃) harch)
  refine ⟨⟨_, fun hd ↦ ?_, hstep⟩, hm.releases (.single ⟨hv ▸ .abandon hact ht, fun _ ↦ hact⟩),
    fun _ _ ↦ congrArg (·.ch.active) hv⟩
  simpa using hd

end ReverseTunnel
