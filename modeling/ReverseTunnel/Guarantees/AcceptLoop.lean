import ReverseTunnel.Lib.While
import ReverseTunnel.System.Channels
import ReverseTunnel.Tunnel.Keeps

/-!
# The accept loop ends

`loop` accepts channels with `while (handleNewConnection())`. The loop has no counter, and the remote
side may send channels faster than they are accepted. What ends it is that `handleNewConnection` goes
on in one case only: it has just bound a channel to a free slot, and no slot was given up meanwhile.
So the number of slots that are not in use is a **measure** of the loop.

Nothing is asked of the state the loop starts in, and nothing of the environment.
-/

namespace ReverseTunnel

open Traced TunnelM

variable {p : Params} {w₀ w : TunnelWorld} {on : ℕ → Bool}

/-- The number of slots that are not in use. -/
def SSHTunnel.inactiveSlots (p : Params) (s : SSHTunnel) : ℕ :=
  (List.range p.maxSlots).countP fun i ↦ !(s.channels.slots i).active

/-- The slots in use are those in `on`, and since `w₀`, whatever was done, no slot that was in use had
been given up when it was done. -/
structure InUse (w₀ : TunnelWorld) (on : ℕ → Bool) (w : TunnelWorld) : Prop where
  /-- The slots in use. -/
  active : ∀ j, (w.st.channels.slots j).active = on j
  /-- What was done. -/
  trace : ∃ items, w.trace = items ++ w₀.trace ∧
    ∀ x ∈ items, ∀ j, (w₀.st.channels.slots j).active = true →
      (x.pre.channels.slots j).active = true

theorem InUse.refl (w : TunnelWorld) : InUse w (fun j ↦ (w.st.channels.slots j).active) w :=
  ⟨fun _ ↦ rfl, [], rfl, by simp⟩

/-! ### What leaves the slots in use alone -/

section Keeps

variable (hon : ∀ j, (w₀.st.channels.slots j).active = true → on j = true)

include hon

theorem InUse.add {x : Item SSHTunnel Call Call.Reply Mark} {w' : TunnelWorld} (h : InUse w₀ on w)
    (hst : w'.st = w.st) (hx : x.pre = w.st) (htr : w'.trace = x :: w.trace) : InUse w₀ on w' := by
  obtain ⟨items, ht, hi⟩ := h.trace
  refine ⟨fun j ↦ by rw [hst]; exact h.active j, x :: items, by rw [htr, ht]; rfl, ?_⟩
  intro y hy j hj
  rcases List.mem_cons.1 hy with rfl | hy
  · rw [hx, h.active j]
    exact hon j hj
  · exact hi y hy j hj

theorem inUse_sysId (c : SysCall) : Preserves (InUse w₀ on) (sysId c) :=
  fun _ h ↦ wp_callId fun _ _ _ ↦ h.add hon rfl rfl rfl

theorem inUse_sys (c : SysCall) : Preserves (InUse w₀ on) (sys c) :=
  (inUse_sysId hon c).bind fun _ ↦ Preserves.ret

theorem inUse_mark (m : Mark) : Preserves (InUse w₀ on) (Prog.mark m) :=
  fun _ h ↦ wp_mark (h.add hon rfl rfl rfl)

omit hon in
theorem inUse_modify {f : SSHTunnel → SSHTunnel}
    (hf : ∀ s, (f s).channels.slots = s.channels.slots) :
    Preserves (InUse w₀ on) (Prog.modify f) := by
  intro w h
  refine wp_modify ⟨fun j ↦ ?_, h.trace⟩
  rw [World.update_st, hf]
  exact h.active j

omit hon in
theorem inUse_modifyChannels {f : ChannelManager → ChannelManager}
    (hf : ∀ c, (f c).slots = c.slots) : Preserves (InUse w₀ on) (modifyChannels f) :=
  inUse_modify fun s ↦ hf s.channels

omit hon in
theorem inUse_millis : Preserves (InUse w₀ on) millis :=
  fun _ h ↦ wp_tick_bind fun _ _ ↦ wp_pure ⟨h.active, h.trace⟩

theorem inUse_session : SessionKeeps (InUse w₀ on) where
  sysId c _ := inUse_sysId hon c
  modifySession _ := inUse_modify fun _ ↦ rfl

end Keeps

/-! ### Going on means that a slot was taken -/

/-- The slots in use, and `i`. -/
def SSHTunnel.plus (i : ℕ) (s : SSHTunnel) : ℕ → Bool :=
  Function.update (fun j ↦ (s.channels.slots j).active) i true

theorem SSHTunnel.plus_of_active (i : ℕ) {s : SSHTunnel} {j : ℕ}
    (h : (s.channels.slots j).active = true) : s.plus i j = true := by
  rw [SSHTunnel.plus, Function.update_apply]
  split
  · rfl
  · exact h

/-- From `w` to `w'` one free slot was taken into use, and no slot was ever given up. -/
def TookSlot (p : Params) (w w' : TunnelWorld) : Prop :=
  ∃ i < p.maxSlots, (w.st.channels.slots i).active = false ∧ InUse w (w.st.plus i) w'

/-- Returning `false` promises nothing. -/
theorem wp_endsFalse {α : Type} {m : TunnelM α} {P : Assertion SSHTunnel Call Call.Reply Mark} :
    wp (do
      let _ ← m
      pure false) (fun again w' ↦ again = true → P w') w :=
  wp_bind fun _ ↦ wp_pure fun h ↦ nomatch h

/-- Filling slot `i` takes it into use. -/
theorem wp_inUse_bindSlot {i : ℕ} {h : Handle} {fd : Int} {toLocal toRemote : DataRingBuffer}
    (hw : InUse w₀ (fun j ↦ (w₀.st.channels.slots j).active) w) :
    wp (onSlot i (bindSlot h fd toLocal toRemote)) (fun _ w' ↦ InUse w₀ (w₀.st.plus i) w') w := by
  obtain ⟨items, ht, hi⟩ := hw.trace
  have hactive : ∀ (c : Ctx), c.ch.active = true → ∀ j,
      ((w.st.setCtx i c).channels.slots j).active = w₀.st.plus i j := by
    intro c hc j
    rw [SSHTunnel.plus, Function.update_apply]
    split
    · next hj => rw [hj, setCtx_slots_same, hc]
    · next hj => rw [setCtx_slots_ne _ _ hj, hw.active]
  refine wp_onSlot ?_
  rw [bindSlot, wp_modifySlot_bind]
  refine wp_millis_bind fun t _ ↦ ?_
  rw [wp_modifySlot_bind, wp_mark_bind]
  refine wp_call_bind fun _ t' _ ↦ wp_pure ⟨fun j ↦ hactive _ rfl j, _ :: _ :: items,
    congrArg (_ :: _ :: ·) ht, ?_⟩
  -- the mark of the new lifetime and the call that makes the channel non-blocking
  intro x hx j hj
  rcases List.mem_cons.1 hx with rfl | hx
  · exact (hactive _ rfl j).trans (SSHTunnel.plus_of_active i hj)
  rcases List.mem_cons.1 hx with rfl | hx
  · exact (hactive _ rfl j).trans (SSHTunnel.plus_of_active i hj)
  · exact hi x hx j hj

theorem wp_took_bindChannel (slotIndex : Int) (h : Handle) (mapping : TunnelConfig)
    (hw : InUse w₀ (fun j ↦ (w₀.st.channels.slots j).active) w) :
    wp (bindChannel p slotIndex h mapping) (fun bound w' ↦ bound = true → TookSlot p w₀ w') w := by
  have hsame : ∀ j, (w₀.st.channels.slots j).active = true →
      (w₀.st.channels.slots j).active = true := fun _ ↦ id
  rw [bindChannel]
  refine wp_ite (fun _ ↦ wp_pure fun hb ↦ (by cases hb)) fun hrange ↦ ?_
  have hi := toNat_lt_of_inRange hrange
  rw [wp_getSlot_bind]
  refine wp_ite (fun _ ↦ wp_pure fun hb ↦ (by cases hb)) fun hact ↦ ?_
  rw [hw.active, Bool.not_eq_true] at hact
  refine wp_bind (wp_mono (preserves_connectToLocalEndpoint (inUse_sysId hsame) mapping w hw) ?_)
  intro fd w₁ hw₁
  refine wp_ite (fun _ ↦ wp_bind fun _ ↦ wp_endsFalse) fun _ ↦ ?_
  refine wp_bind (wp_mono (inUse_modifyChannels (fun _ ↦ by rfl) w₁ hw₁) fun _ w₂ hw₂ ↦ ?_)
  refine wp_bind (wp_mono (inUse_sys hsame _ w₂ hw₂) fun heap w₃ hw₃ ↦ ?_)
  refine wp_ite (fun _ ↦ wp_endsFalse) fun _ ↦ ?_
  refine wp_bind (wp_mono (inUse_sys hsame _ w₃ hw₃) fun okLocal w₄ hw₄ ↦ ?_)
  refine wp_bind (wp_mono (inUse_sys hsame _ w₄ hw₄) fun okRemote w₅ hw₅ ↦ ?_)
  refine wp_ite (fun _ ↦ wp_endsFalse) fun _ ↦ ?_
  refine wp_bind (wp_mono (wp_inUse_bindSlot hw₅) fun _ w₆ hw₆ ↦ ?_)
  refine wp_bind (wp_mono (inUse_modifyChannels (fun _ ↦ by rfl) w₆ hw₆) fun _ w₇ hw₇ ↦ ?_)
  exact wp_pure fun _ ↦ ⟨_, hi, hact, hw₇⟩

/-- Calls and marks after a slot was taken. -/
theorem TookSlot.keep {α : Type} {m : TunnelM α} (h : TookSlot p w₀ w)
    (hm : ∀ on, (∀ j, (w₀.st.channels.slots j).active = true → on j = true) →
      Preserves (InUse w₀ on) m) : wp m (fun _ w' ↦ TookSlot p w₀ w') w := by
  obtain ⟨i, hi, hact, hin⟩ := h
  exact wp_mono (hm _ (fun _ ↦ SSHTunnel.plus_of_active i) w hin) fun _ _ h ↦ ⟨i, hi, hact, h⟩

theorem wp_took_bindAccepted (i : ℕ) (h : Handle) (mapping : TunnelConfig)
    (hw : InUse w₀ (fun j ↦ (w₀.st.channels.slots j).active) w) :
    wp (bindAccepted p i h mapping) (fun again w' ↦ again = true → TookSlot p w₀ w') w := by
  have hsame : ∀ j, (w₀.st.channels.slots j).active = true →
      (w₀.st.channels.slots j).active = true := fun _ ↦ id
  have hbound : wp (bindAcceptedChannel p i h mapping 200)
      (fun res w' ↦ res = .bound → TookSlot p w₀ w') w := by
    refine wp_bind (wp_mono (inUse_sys hsame _ w hw) fun locked w₁ hw₁ ↦ ?_)
    refine wp_ite (fun _ ↦ wp_pure fun hb ↦ nomatch hb) fun _ ↦ ?_
    refine wp_bind (wp_mono (wp_took_bindChannel i h mapping hw₁) fun bound w₂ hw₂ ↦ ?_)
    rcases bound with - | -
    · exact wp_bind fun _ ↦ wp_pure fun hb ↦ nomatch hb
    · refine wp_bind (wp_mono ((hw₂ rfl).keep fun on hon ↦ inUse_sys hon .unlock) ?_)
      exact fun _ w₃ hw₃ ↦ wp_pure fun _ ↦ hw₃
  refine wp_bind (wp_mono hbound fun res w₁ hw₁ ↦ ?_)
  cases res with
  | bound =>
    refine wp_bind (wp_mono ((hw₁ rfl).keep fun on hon ↦ inUse_sys hon (.emit _)) ?_)
    exact fun _ w₂ hw₂ ↦ wp_pure fun _ ↦ hw₂
  | lockUnavailable =>
    rw [wp_get_bind]
    exact wp_ite (fun _ ↦ wp_endsFalse) fun _ ↦ wp_endsFalse
  | failed => exact wp_endsFalse

/-- When `allocateSlot` has found a slot, it has done nothing else. -/
theorem wp_inUse_allocateSlot (hw : InUse w₀ on w) :
    wp (allocateSlot p) (fun slot w' ↦ ∀ i, slot = some i → InUse w₀ on w') w := by
  rw [allocateSlot]
  refine wp_bind (wp_mono (inUse_millis w hw) fun now w₁ hw₁ ↦ ?_)
  rw [wp_get_bind]
  split
  · exact wp_pure fun _ _ ↦ hw₁
  · dsimp only
    split
    · exact wp_bind fun _ ↦ wp_pure fun _ hi ↦ (by cases hi)
    · exact wp_pure fun _ hi ↦ (by cases hi)

/-- **Going on means that a slot was taken**: `handleNewConnection` returns `true` only when it has
taken one free slot into use, and it has given up none before. -/
theorem wp_handleNewConnection (p : Params) (w : TunnelWorld) :
    wp (handleNewConnection p) (fun again w' ↦ again = true → TookSlot p w w') w := by
  have hsame : ∀ j, (w.st.channels.slots j).active = true →
      (w.st.channels.slots j).active = true := fun _ ↦ id
  rw [handleNewConnection, returning]
  refine wp_bind (wp_mono (Q := fun again w' ↦ again = true → TookSlot p w w') ?_
    fun again w₁ hw₁ ↦ ?_)
  · have haccept := (inUse_session hsame).acceptChannel (inUse_sysId hsame <| .forwardAccept ·)
    refine wp_bind (wp_mono (haccept w (.refl w)) fun accepted w₁ hw₁ ↦ ?_)
    rcases accepted with - | ⟨h, mapping⟩
    · show wp (Prog.get >>= _) _ w₁
      rw [wp_get_bind]
      exact wp_endsFalse
    · refine wp_bind (wp_mono (inUse_millis w₁ hw₁) fun now w₂ hw₂ ↦ ?_)
      rw [wp_get_bind]
      refine wp_ite (fun _ ↦ wp_endsFalse) fun _ ↦ ?_
      refine wp_bind (wp_mono (inUse_mark hsame _ w₂ hw₂) fun _ w₃ hw₃ ↦ ?_)
      refine wp_bind (wp_mono (wp_inUse_allocateSlot hw₃) fun slot w₄ hw₄ ↦ ?_)
      rcases slot with - | i
      · show wp (Prog.get >>= _) _ w₄
        rw [wp_get_bind]
        exact wp_ite (fun _ ↦ wp_endsFalse) fun _ ↦ wp_endsFalse
      · exact wp_took_bindAccepted i h mapping (hw₄ i rfl)
  · rcases again with - | -
    · exact wp_bind fun _ ↦ wp_pure fun hb ↦ (by cases hb)
    · refine wp_bind (wp_mono ((hw₁ rfl).keep fun on hon ↦ inUse_mark hon .returned) ?_)
      exact fun _ w₂ hw₂ ↦ wp_pure fun _ ↦ hw₂

/-! ### The loop -/

/-- A slot that was taken is no longer free, and the others are as they were. -/
theorem TookSlot.inactiveSlots {w' : TunnelWorld} (h : TookSlot p w w') :
    w'.st.inactiveSlots p + 1 = w.st.inactiveSlots p := by
  obtain ⟨i, hi, hact, hin⟩ := h
  have hcount := countP_range_update (fun j ↦ !(w.st.channels.slots j).active)
    (fun j ↦ !(w'.st.channels.slots j).active) hi fun j hj ↦ by
      rw [hin.active, SSHTunnel.plus, Function.update_of_ne hj]
  have hnow : (w'.st.channels.slots i).active = true := by
    rw [hin.active, SSHTunnel.plus, Function.update_self]
  rw [hact, hnow] at hcount
  exact hcount

/-- **The accept loop ends**, in every state of the tunnel and whatever the environment does: with
round `k`, where `k` is at most the number of free slots it began with, and then `loop` is where it
should be. Every round that went on had taken one free slot into use and given up none. -/
theorem accept_loop_ends (p : Params) (e : Env Call Call.Reply) (w : TunnelWorld) :
    ∃ k ≤ w.st.inactiveSlots p, (handleNewConnection p).EndsWith e w k ∧
      (∀ j < k, TookSlot p ((handleNewConnection p).roundStart e w j)
        ((handleNewConnection p).roundStart e w (j + 1))) ∧
      (Prog.attempts (p.maxSlots + 1) (handleNewConnection p)).exec e w =
        (handleNewConnection p).roundStart e w (k + 1) := by
  have hdown : ∀ u, wp (handleNewConnection p)
      (fun again u' ↦ again = true → u'.st.inactiveSlots p < u.st.inactiveSlots p) u := by
    intro u
    refine wp_mono (wp_handleNewConnection p u) fun again u' h hagain ↦ ?_
    have := (h hagain).inactiveSlots
    omega
  obtain ⟨k, hk, hend⟩ := Prog.exists_endsWith (μ := fun u ↦ u.st.inactiveSlots p) hdown e w
  have hall : w.st.inactiveSlots p ≤ p.maxSlots := by
    have := List.countP_le_length (p := fun i ↦ !(w.st.channels.slots i).active)
      (l := List.range p.maxSlots)
    rwa [List.length_range] at this
  refine ⟨k, hk, hend, fun j hj ↦ ?_, hend.exec_attempts (by omega)⟩
  exact wp_handleNewConnection p _ e (hend.before j hj)

end ReverseTunnel
