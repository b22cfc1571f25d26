import ReverseTunnel.Lifetime.Walk

/-!
# Binding and releasing a slot

The remaining programs for one slot: filling it, asking libssh2 to let go of its channel, and
emptying it. Asking may end in a retry; only the last answer takes the channel out of the slot.
-/

namespace ReverseTunnel

open Traced Clock32 SlotM

variable {p : Params} {ext : Bool} {base : SlotLog} {l : SlotWorld} {v v' : View}

/-! ### Steps that bind nothing -/

/-- Any number of steps, none of which takes the slot into use. -/
def Retires (p : Params) (ext : Bool) : View → View → Prop :=
  Relation.ReflTransGen fun v v' ↦ SlotStep p ext v v' ∧ (v'.ch.active = true → v.ch.active = true)

theorem Retires.active (h : Retires p ext v v') (hact : v'.ch.active = true) :
    v.ch.active = true := by
  induction h with
  | refl => exact hact
  | tail _ hs ih => exact ih (hs.2 hact)

theorem Works.retires (h : Works p ext v v') : Retires p ext v v' := by
  induction h with
  | refl => exact .refl
  | tail _ hs ih => exact ih.tail ⟨.work hs, fun hact ↦ hs.retains.active ▸ hact⟩

theorem retires_wait {t : ℕ} (h : v.clock ≤ t) : Retires p ext v (v.wait t) :=
  Works.retires (.single (.pump (.wait h)))

/-! ### Binding -/

variable (base) in
theorem wp_bindSlot {h : Handle} {fd : Int} {okLocal okRemote : Bool} :
    wp (bindSlot h fd (.create p.ringBufferSize p.prependCap okLocal)
        (.create p.ringBufferSize p.prependCap okRemote))
      (fun _ l' ↦ ∃ id t t', l.clock ≤ t ∧ t ≤ t' ∧
        view base l' = (view base l).bound p h fd okLocal okRemote id t t') l := by
  rw [bindSlot, wp_modifySlot_bind]
  refine wp_millis_bind fun t ht ↦ ?_
  rw [wp_modifySlot_bind]
  rw [wp_mark_bind]
  exact wp_call_bind fun r t' ht' ↦ wp_pure ⟨_, t, t', ht, ht', rfl⟩

/-! ### libssh2 lets go -/

variable (p ext base) in
/-- Asking libssh2 to close the channel keeps the slot in use. -/
theorem wp_closeStage {h : Handle} (hact : l.st.ch.active = true)
    (hh : l.st.ch.sshChannel = some h) :
    wp (closeStage h) (fun closed l' ↦ Works p ext (view base l) (view base l') ∧
      (closed = true → l'.st.ch.sshCloseProgress.closeComplete = true)) l := by
  rw [closeStage, wp_slot_bind]
  refine wp_ite (fun hdone ↦ wp_pure ⟨.refl, fun _ ↦ hdone⟩) fun hnot ↦ ?_
  refine wp_call_bind fun rc t ht ↦ ?_
  rw [wp_modifySlot_bind]
  rw [Bool.not_eq_true] at hnot
  refine wp_pure ⟨.single (.closeChannel hact hh ht hnot), fun hclosed ↦ ?_⟩
  simp only [Progress.recordCloseResult] at hclosed ⊢
  split at hclosed
  · cases hclosed
  · next hne => simp [hne]

/-- What asking libssh2 to let go of the channel leads to. -/
inductive Freed (p : Params) (ext : Bool) (h : Handle) (v : View) : Bool → View → Prop where
  /-- It is to be asked again. -/
  | again {v' : View} (hw : Works p ext v v') : Freed p ext h v false v'
  /-- It has let go. -/
  | done {v₁ : View} {id t : ℕ} {rc : Int} {progress : Progress} (hw : Works p ext v v₁)
      (hdone : rc ≠ errorEagain) (ht : v₁.clock ≤ t)
      (hclosed : v₁.ch.sshCloseProgress.closeComplete = true) :
      Freed p ext h v true (v₁.freed h rc progress id t)

variable (p ext base) in
theorem wp_releaseChannel {h : Handle} (hact : l.st.ch.active = true)
    (hh : l.st.ch.sshChannel = some h) :
    wp releaseChannel (fun freed l' ↦ Freed p ext h (view base l) freed (view base l')) l := by
  rw [releaseChannel, wp_slot_bind]
  split
  · next hnone => rw [hnone] at hh; cases hh
  · next h' hh' =>
    obtain rfl : h' = h := Option.some.inj (hh'.symm.trans hh)
    refine wp_bind (wp_mono (wp_closeStage p ext base hact hh) fun closed l' hl' ↦ ?_)
    refine wp_ite (fun _ ↦ wp_pure (.again hl'.1)) fun hclosed ↦ ?_
    have hcomplete := hl'.2 (by simpa using hclosed)
    have hk := hl'.1.retains
    have hact' : l'.st.ch.active = true := hk.active.trans hact
    have hh'' : l'.st.ch.sshChannel = some h' := hk.sshChannel.trans hh
    rw [freeStage, wp_bind_assoc, wp_slot_bind]
    have hready : l'.st.ch.sshCloseProgress.readyForFree = true := hcomplete
    rw [if_pos hready, wp_bind_assoc]
    refine wp_call_bind fun rc t ht ↦ ?_
    simp only [wp_bind_assoc, wp_modifySlot_bind, wp_pure_bind]
    by_cases hagain : rc = errorEagain
    · -- libssh2 is to be asked again, and nothing has changed
      have hsame : (l'.st.ch.sshCloseProgress.recordFreeResult rc errorEagain) =
          (false, l'.st.ch.sshCloseProgress) := by simp [Progress.recordFreeResult, hagain]
      rw [hsame]
      exact wp_pure (.again (hl'.1.tail (.freeAgain hact' hh'' hagain ht hcomplete)))
    · have hfree : (l'.st.ch.sshCloseProgress.recordFreeResult rc errorEagain) =
          (true, { l'.st.ch.sshCloseProgress with freeComplete := true }) := by
        simp [Progress.recordFreeResult, hagain]
      rw [hfree]
      refine wp_ite (fun hno ↦ by cases hno) fun _ ↦ ?_
      rw [wp_slot_bind]
      refine wp_ite (fun hno ↦ ?_) fun _ ↦ ?_
      · simp [Progress.readyForFinalize, hcomplete] at hno
      · rw [wp_modifySlot_bind]
        exact wp_pure (.done hl'.1 hagain ht hcomplete)

/-! ### Emptying -/

theorem View.socketClosed_of_le {v : View} {id t : ℕ} (h : 0 ≤ v.ch.localSocket) :
    v.socketClosed id t = v.call id t (.closeSocket v.ch.localSocket) () := if_pos h

variable (base) in
theorem wp_closeLocalSocket (hfd : 0 ≤ l.st.ch.localSocket) :
    wp closeLocalSocket (fun _ l' ↦ ∃ t, l.clock ≤ t ∧
      view base l' = ((view base l).call l.serial t (.closeSocket l.st.ch.localSocket) ()).set
        { l.st.ch with localSocket := -1 }) l := by
  rw [closeLocalSocket, wp_slot_bind]
  refine wp_ite (fun _ ↦ ?_) fun hneg ↦ absurd hfd hneg
  exact wp_call_bind fun r t ht ↦ wp_modify ⟨t, ht, rfl⟩

variable (base) in
theorem wp_discardLocal (hh : l.st.ch.sshChannel = none) (hfd : 0 ≤ l.st.ch.localSocket) :
    wp discardLocal (fun _ l' ↦ ∃ id t, l.clock ≤ t ∧
      view base l' = (view base l).discarded id t) l := by
  refine wp_bind (wp_mono (wp_closeLocalSocket base hfd) fun _ l' ⟨t, ht, hl'⟩ ↦ ?_)
  have hch : l'.st.ch = { l.st.ch with localSocket := -1 } := congrArg View.ch hl'
  rw [wp_modifySlot_bind, wp_modifySlot_bind]
  refine wp_mark ⟨l.serial, t, ht, ?_⟩
  rw [View.discarded, View.socketClosed_of_le hfd]
  simp only [view_marked, view_update, World.update_st, hl', hch, ChannelSlot.accountResidual,
    ChannelSlot.emptied, ← hh]
  rfl

variable (base) in
theorem wp_closeSlot :
    wp closeSlot (fun _ l' ↦ ∃ t, l.clock ≤ t ∧ view base l' = (view base l).shut t) l := by
  rw [closeSlot, wp_modifySlot_bind]
  refine wp_millis_bind fun t ht ↦ wp_modify ⟨t, ht, ?_⟩
  rfl

variable (base) in
theorem wp_dropLocal (hfd : 0 ≤ l.st.ch.localSocket) :
    wp dropLocal (fun _ l' ↦ ∃ id t, l.clock ≤ t ∧
      view base l' = (view base l).dropped id t) l := by
  rw [dropLocal, wp_modifySlot_bind]
  refine wp_bind (wp_mono (wp_closeLocalSocket base hfd) fun _ l' ⟨t, ht, hl'⟩ ↦ ?_)
  have hch : l'.st.ch = { l.st.ch.accountResidual with localSocket := -1 } :=
    congrArg View.ch hl'
  rw [wp_modifySlot_bind, wp_modifySlot_bind]
  refine wp_mark ⟨l.serial, t, ht, ?_⟩
  rw [View.dropped, View.socketClosed_of_le hfd]
  simp only [view_marked, view_update, World.update_st, hl', hch, ChannelSlot.emptied]
  rfl

end ReverseTunnel
