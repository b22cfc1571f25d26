import ReverseTunnel.Tunnel.Keeps
import ReverseTunnel.System.Trace

/-!
# Draining is bounded

A draining slot may be left where it is for many cycles: libssh2 asks to be called again, the lock is
not got, an EOF is waited for, the lists of step 2 are full. What bounds all this is that step 2 of
`checkCloses` asks for the hard deadline **first**, of every slot, and then gives the slot up without
asking libssh2. Nothing that follows in the cycle touches `closeStartMs`.

A slot that is given up leaves its channel to libssh2, so the session has to go too: the flag raised
for it makes `loop` tear everything down in the same iteration.

All of this holds from **any** state of the tunnel, and so in every state that a run leads to.
-/

namespace ReverseTunnel

open Traced TunnelM

variable {p : Params} {w w₀ : TunnelWorld} {i : ℕ}

/-! ### The deadline -/

/-- The slot has been draining for longer than `HARD_ABANDON_TIMEOUT_MS`, at the reading `now`. -/
def Overdue (now : UInt32) (ch : ChannelSlot) : Prop :=
  ch.active = true ∧ ch.state = .draining ∧ hardAbandonTimeoutMs < now - ch.closeStartMs

theorem not_overdue_of_inactive {now : UInt32} {ch : ChannelSlot} (h : ch.active = false) :
    ¬Overdue now ch := by
  rintro ⟨hact, -, -⟩
  rw [h] at hact
  cases hact

/-- In a slot that is being worked on. -/
def Timely (now : UInt32) : Assertion Ctx IoCall IoCall.Reply SlotMark :=
  fun l ↦ ¬Overdue now l.st.ch

section Timely

variable {now : UInt32}

theorem timely_io (c : IoCall) : Preserves (Timely now) (SlotM.io c) :=
  fun _ hl ↦ wp_call fun _ _ _ ↦ hl

theorem timely_millis : Preserves (Timely now) SlotM.millis :=
  fun _ hl ↦ wp_tick_bind fun _ _ ↦ wp_pure hl

theorem timely_mark (m : SlotMark) : Preserves (Timely now) (Prog.mark m) :=
  fun _ hl ↦ wp_mark hl

theorem timely_slot : Preserves (Timely now) SlotM.slot :=
  Preserves.get_bind fun _ ↦ Preserves.ret

theorem timely_modifySlot {f : ChannelSlot → ChannelSlot}
    (hf : ∀ ch, Overdue now (f ch) = Overdue now ch) :
    Preserves (Timely now) (SlotM.modifySlot f) :=
  fun l hl ↦ wp_modify fun hno ↦ hl ((hf l.st.ch).mp hno)

/-- Sending an EOF and flushing leaves the deadline alone. -/
theorem timely_sendEofSlot : Preserves (Timely now) sendEofSlot := by
  refine timely_slot.bind fun ch ↦ ?_
  split
  · exact Preserves.ret
  · refine (timely_io _).bind fun rc ↦ Preserves.ite (timely_mark _) (Preserves.bind ?_ fun _ ↦ ?_)
    · refine Preserves.attempts ((timely_io _).bind fun r ↦ ?_)
      split
      · exact (timely_modifySlot fun _ ↦ by rfl).bind fun _ ↦ Preserves.ret
      · exact Preserves.ret
    · exact timely_millis.bind fun _ ↦ (timely_modifySlot fun _ ↦ by rfl).bind fun _ ↦
        (timely_mark _).bind fun _ ↦ timely_mark _

/-- So does asking libssh2 to close and free the channel, whatever it says. -/
theorem timely_releaseChannel : Preserves (Timely now) releaseChannel := by
  refine timely_slot.bind fun ch ↦ ?_
  split
  · exact Preserves.ret
  · refine Preserves.bind ?_ fun closed ↦ Preserves.ite Preserves.ret (Preserves.bind ?_ fun freed ↦
      Preserves.ite Preserves.ret ?_)
    · exact timely_slot.bind fun _ ↦ Preserves.ite Preserves.ret
        ((timely_io _).bind fun _ ↦ (timely_modifySlot fun _ ↦ by rfl).bind fun _ ↦ Preserves.ret)
    · exact timely_slot.bind fun _ ↦ Preserves.ite
        ((timely_io _).bind fun _ ↦ (timely_modifySlot fun _ ↦ by rfl).bind fun _ ↦ Preserves.ret)
        Preserves.ret
    · exact timely_slot.bind fun _ ↦ Preserves.ite Preserves.ret
        ((timely_modifySlot fun _ ↦ by rfl).bind fun _ ↦ Preserves.ret)

theorem timely_discardLocal : Preserves (Timely now) discardLocal := by
  refine Preserves.bind ?_ fun _ ↦ (timely_modifySlot fun _ ↦ by rfl).bind fun _ ↦
    (timely_modifySlot fun _ ↦ by rfl).bind fun _ ↦ timely_mark _
  exact timely_slot.bind fun _ ↦ Preserves.ite
    ((timely_io _).bind fun _ ↦ timely_modifySlot fun _ ↦ by rfl) Preserves.ret

theorem timely_closeSlot : Preserves (Timely now) closeSlot := by
  refine Preserves.bind (fun l _ ↦ wp_modify ?_) fun _ ↦ timely_millis.bind fun _ ↦
    timely_modifySlot fun _ ↦ by rfl
  exact not_overdue_of_inactive rfl

end Timely

/-! ### All slots but some -/

/-- Every slot has the property, apart from those in `rest`. -/
def AllBut (p : Params) (P : ChannelSlot → Prop) (rest : List ℕ) :
    Assertion SSHTunnel Call Call.Reply Mark :=
  fun w ↦ ∀ i < p.maxSlots, i ∉ rest → P (w.st.channels.slots i)

section AllBut

variable {P : ChannelSlot → Prop} {rest : List ℕ}

theorem allBut_onSlot {α : Type} {m : SlotM α} (hm : Preserves (fun l ↦ P l.st.ch) m) :
    Preserves (AllBut p P rest) (onSlot i m) := by
  intro w h
  by_cases hi : i < p.maxSlots ∧ i ∉ rest
  · refine wp_onSlot (wp_mono (hm _ (h i hi.1 hi.2)) fun _ l hl j hj hjr ↦ ?_)
    show P ((w.st.setCtx i l.st).channels.slots j)
    by_cases hji : j = i
    · subst hji
      rw [setCtx_slots_same]
      exact hl
    · rw [setCtx_slots_ne _ _ hji]
      exact h j hj hjr
  · refine wp_onSlot fun _ j hj hjr ↦ ?_
    show P ((w.st.setCtx i _).channels.slots j)
    rw [setCtx_slots_ne _ _ fun hji : j = i ↦ hi (hji ▸ ⟨hj, hjr⟩)]
    exact h j hj hjr

theorem allBut_modify {f : SSHTunnel → SSHTunnel}
    (hf : ∀ s, (f s).channels.slots = s.channels.slots) :
    Preserves (AllBut p P rest) (Prog.modify f) := by
  refine fun w h ↦ wp_modify fun i hi hir ↦ ?_
  show P ((f w.st).channels.slots i)
  rw [hf]
  exact h i hi hir

theorem allBut_modifyChannels {f : ChannelManager → ChannelManager}
    (hf : ∀ c, (f c).slots = c.slots) : Preserves (AllBut p P rest) (modifyChannels f) :=
  allBut_modify fun s ↦ hf s.channels

theorem allBut_modifyTransport (f : TransportPump → TransportPump) :
    Preserves (AllBut p P rest) (modifyTransport f) :=
  allBut_modify fun _ ↦ rfl

theorem allBut_sys (c : SysCall) : Preserves (AllBut p P rest) (sys c) :=
  fun _ h ↦ wp_call fun _ _ _ ↦ h

theorem allBut_pushCloseEvent (i : ℕ) (reason : ChannelCloseReason) :
    Preserves (AllBut p P rest) (pushCloseEvent i reason) :=
  allBut_modifyTransport _

/-- A property of all free slots can be claimed of a slot that is given up. -/
theorem allBut_abandonSlot (hP : ∀ ch : ChannelSlot, ch.active = false → P ch)
    (reason : ChannelCloseReason) :
    Triple (AllBut p P (i :: rest)) (abandonSlot p i reason) fun _ ↦ AllBut p P rest := by
  -- the other slots are as they were, so this one is all that has to be looked at
  have hothers : ∀ {u : TunnelWorld}, AllBut p P (i :: rest) u →
      (i < p.maxSlots → P (u.st.channels.slots i)) → AllBut p P rest u := by
    intro u hu hi j hj hjr
    by_cases hji : j = i
    · subst hji
      exact hi hj
    · exact hu j hj (by simp [hji, hjr])
  have hspare : ∀ (m : SlotM Unit) u, AllBut p P (i :: rest) u →
      wp (onSlot i m) (fun _ ↦ AllBut p P (i :: rest)) u := by
    refine fun m u hu ↦ wp_onSlot fun _ j hj hjr ↦ ?_
    show P ((u.st.setCtx i _).channels.slots j)
    rw [setCtx_slots_ne _ _ fun hji : j = i ↦ hjr (hji ▸ List.mem_cons_self ..)]
    exact hu j hj hjr
  intro w h
  rw [abandonSlot]
  refine wp_ite (fun hrange ↦ wp_pure (hothers h fun hi ↦ ?_)) fun _ ↦ ?_
  · simp at hrange
    omega
  rw [Int.toNat_natCast, wp_getSlot_bind]
  refine wp_ite (fun hfree ↦ wp_pure (hothers h fun _ ↦ hP _ (by simpa using hfree))) fun _ ↦ ?_
  refine wp_bind (wp_mono (hspare _ _ h) fun _ u hu ↦ ?_)
  rw [archiveSlotStats, modifyChannels, modifyChannels, wp_modify_bind, wp_modify_bind]
  have hreset : ∀ u : TunnelWorld, wp (onSlot i (SlotM.modifySlot (·.reset)))
      (fun _ u' ↦ (u'.st.channels.slots i).active = false) u := by
    refine fun u ↦ wp_onSlot (wp_modify ?_)
    show ((SSHTunnel.setCtx i _ _).channels.slots i).active = false
    rw [setCtx_slots_same]
    rfl
  exact wp_mono (wp_and (hspare _ _ hu) (hreset _)) fun _ u' h' ↦ hothers h'.1 fun _ ↦ hP _ h'.2

end AllBut

/-! ### Step 2 -/

variable {now : UInt32} {rest : List ℕ}

/-- Looking at a slot, its deadline comes first. -/
theorem triple_scanSlot_deadline (picks : Picks) :
    Triple (AllBut p (¬Overdue now ·) (i :: rest)) (scanSlot p now picks i) fun _ ↦
      AllBut p (¬Overdue now ·) rest := by
  intro w h
  have hkeep : ¬Overdue now (w.st.channels.slots i) → AllBut p (¬Overdue now ·) rest w := by
    intro hi j hj hjr
    by_cases hji : j = i
    · subst hji
      exact hi
    · exact h j hj (by simp [hji, hjr])
  rw [scanSlot, wp_getSlot_bind]
  refine wp_ite (fun hcond ↦ wp_pure (hkeep fun hno ↦ ?_)) fun _ ↦ ?_
  · simp [hno.1, hno.2.1] at hcond
  have hverdict : verdict (w.st.channels.slots i) now ≠ .abandon →
      ¬Overdue now (w.st.channels.slots i) := by
    intro hne hno
    rw [verdict, if_pos hno.2.2] at hne
    exact hne rfl
  split
  · rw [wp_mark_bind]
    refine wp_bind (wp_mono (allBut_abandonSlot (fun _ ↦ not_overdue_of_inactive) _ _ h) fun _ u hu ↦ ?_)
    refine wp_bind (wp_mono (allBut_modifyTransport _ u hu) fun _ u' hu' ↦ ?_)
    exact wp_bind (wp_mono (allBut_pushCloseEvent _ _ u' hu') fun _ _ h' ↦ wp_pure h')
  · next hv => exact wp_pure (hkeep (hverdict (by rw [hv]; decide)))
  · next hv => exact wp_pure (hkeep (hverdict (by rw [hv]; decide)))
  · next hv => exact wp_pure (hkeep (hverdict (by rw [hv]; decide)))

theorem allBut_overdue {α : Type} {m : SlotM α} (hm : Preserves (Timely now) m) :
    Preserves (AllBut p (¬Overdue now ·) rest) (onSlot i m) :=
  allBut_onSlot hm

theorem allBut_finalizeClose (i : ℕ) :
    Preserves (AllBut p (¬Overdue now ·) rest) (finalizeClose p i) := by
  have hget : Preserves (AllBut p (¬Overdue now ·) rest) (getSlot (i : Int).toNat) :=
    Preserves.get_bind fun _ ↦ Preserves.ret
  refine Preserves.ite Preserves.ret (hget.bind fun _ ↦ Preserves.ite Preserves.ret ?_)
  refine (allBut_overdue timely_releaseChannel).bind fun _ ↦ Preserves.ite Preserves.ret ?_
  refine (allBut_overdue timely_discardLocal).bind fun _ ↦ ?_
  refine (allBut_modifyChannels fun _ ↦ by rfl).bind fun _ ↦
    (allBut_overdue timely_closeSlot).bind fun _ ↦ ?_
  exact (allBut_modifyChannels fun _ ↦ by rfl).bind fun _ ↦ Preserves.ret

theorem allBut_sendEofs (toSendEof : List ℕ) :
    Preserves (AllBut p (¬Overdue now ·) rest) (sendEofs toSendEof) := by
  refine Preserves.ite ((allBut_sys _).bind fun _ ↦ Preserves.ite ?_ Preserves.ret) Preserves.ret
  exact (Preserves.each fun i _ ↦ allBut_overdue timely_sendEofSlot).bind fun _ ↦ allBut_sys _

theorem allBut_finalizePicks (now' : UInt32) (toClose : List ℕ) :
    Preserves (AllBut p (¬Overdue now ·) rest) (finalizePicks p now' toClose) := by
  refine Preserves.ite ((allBut_sys _).bind fun _ ↦ Preserves.ite ?_ Preserves.ret) Preserves.ret
  refine Preserves.bind (Preserves.each fun i _ ↦ ?_) fun _ ↦ allBut_sys _
  have hget : Preserves (AllBut p (¬Overdue now ·) rest) (getSlot i) :=
    Preserves.get_bind fun _ ↦ Preserves.ret
  exact hget.bind fun _ ↦ (allBut_overdue (timely_mark _)).bind fun _ ↦
    (allBut_finalizeClose i).bind fun _ ↦ Preserves.when (allBut_pushCloseEvent _ _)

/-- `checkCloses` up to the reading of the clock that its step 2 works with. -/
def closeReading (p : Params) : TunnelM UInt32 := do
  let now ← millis
  Prog.each (List.range p.maxSlots) fun i ↦ onSlot i (checkSlot p now)
  millis

/-- The rest of `checkCloses`. -/
def actOnCloses (p : Params) (now : UInt32) : TunnelM Unit := do
  let picks ← Prog.fold (List.range p.maxSlots) {} (scanSlot p now)
  sendEofs picks.toSendEof
  finalizePicks p now picks.toClose

theorem exec_checkCloses (p : Params) (e : Env Call Call.Reply) (w : TunnelWorld) :
    (checkCloses p).exec e w =
      (actOnCloses p ((closeReading p).run e w).1).exec e ((closeReading p).run e w).2 := by
  simp only [Prog.exec, checkCloses, closeReading, actOnCloses, Prog.run_bind]

/-- After step 2 no slot is overdue at the reading it has worked with. -/
theorem wp_actOnCloses (p : Params) (now : UInt32) (w : TunnelWorld) :
    wp (actOnCloses p now) (fun _ ↦ AllBut p (¬Overdue now ·) []) w := by
  have hstart : AllBut p (¬Overdue now ·) (List.range p.maxSlots) w :=
    fun i hi hno ↦ absurd (List.mem_range.2 hi) hno
  have hscan := Triple.fold (l := List.range p.maxSlots) (a := {}) (f := scanSlot p now)
    (I := fun l _ ↦ AllBut p (¬Overdue now ·) l) fun i l' picks _ ↦ triple_scanSlot_deadline picks
  refine wp_bind (wp_mono (hscan w hstart) fun picks w₁ h₁ ↦ ?_)
  refine wp_bind (wp_mono (allBut_sendEofs _ w₁ h₁) fun _ w₂ h₂ ↦ ?_)
  exact allBut_finalizePicks now _ w₂ h₂

/-! ### The report -/

/-- A slot is given up. -/
def isAbandoning : Item SSHTunnel Call Call.Reply Mark → Bool
  | .mark _ _ (.note (.abandoning _)) => true
  | _ => false

/-- `sessionDegraded_` is raised. -/
def raises (x : Item SSHTunnel Call Call.Reply Mark) : Bool := x.pre.transport.sessionDegraded

/-- Nothing has been given up since `w₀`. -/
def Spared (w₀ w : TunnelWorld) : Prop :=
  ∃ items, w.trace = items ++ w₀.trace ∧ ∀ x ∈ items, isAbandoning x = false

/-- The session is reported, and so is the slot it is reported for. -/
def Raised (w : TunnelWorld) : Prop :=
  w.st.transport.sessionDegraded = true ∧ w.st.transport.pendingCloseEvents ≠ []

/-- What has been given up since `w₀` is reported. -/
def Telling (w₀ w : TunnelWorld) : Prop :=
  ∃ items, w.trace = items ++ w₀.trace ∧ ((∃ x ∈ items, isAbandoning x = true) → Raised w)

theorem Spared.refl (w : TunnelWorld) : Spared w w := ⟨[], rfl, by simp⟩

theorem Spared.trans {w₁ w₂ : TunnelWorld} (h : Spared w₀ w₁) (h' : Spared w₁ w₂) :
    Spared w₀ w₂ := by
  obtain ⟨items, ht, hi⟩ := h
  obtain ⟨items', ht', hi'⟩ := h'
  refine ⟨items' ++ items, by rw [ht', ht, List.append_assoc], fun x hx ↦ ?_⟩
  rcases List.mem_append.1 hx with hx | hx
  · exact hi' x hx
  · exact hi x hx

/-- Items of a slot. -/
theorem spared_lift {l : SlotWorld} (h : Spared w₀ w) : Spared w₀ (lift i w l) := by
  refine h.trans ⟨_, rfl, fun x hx ↦ ?_⟩
  obtain ⟨y, -, rfl⟩ := List.mem_map.1 hx
  cases y with
  | call id t s c r => rfl
  | mark t s m => rfl

theorem tunnelKeeps_spared (w₀ : TunnelWorld) : TunnelKeeps (Spared w₀) where
  sysId c w h := wp_callId fun r t _ ↦ h.trans ⟨[_], rfl, by simp [isAbandoning]⟩
  millis w h := wp_tick_bind fun _ _ ↦ wp_pure h
  mark m hm w h := by
    refine wp_mark (h.trans ⟨[_], rfl, fun x hx ↦ ?_⟩)
    rw [List.mem_singleton.1 hx]
    cases m with
    | note n => cases n <;> first | rfl | cases hm
    | _ => rfl
  onSlot i m w h := wp_onSlot fun _ ↦ spared_lift h
  modify f hf w h := wp_modify h

/-- A note of something else. -/
theorem spared_note {n : Note} (hn : ∀ i, n ≠ .abandoning i) :
    Preserves (Spared w₀) (Prog.mark (.note n)) := by
  refine fun w h ↦ wp_mark (h.trans ⟨[_], rfl, fun x hx ↦ ?_⟩)
  rw [List.mem_singleton.1 hx]
  cases n with
  | abandoning i => exact absurd rfl (hn i)
  | _ => rfl

theorem spared_modify (f : SSHTunnel → SSHTunnel) : Preserves (Spared w₀) (Prog.modify f) :=
  fun _ h ↦ wp_modify h

theorem spared_modifyTransport (f : TransportPump → TransportPump) :
    Preserves (Spared w₀) (modifyTransport f) :=
  spared_modify _

theorem Spared.telling (h : Spared w₀ w) : Telling w₀ w := by
  obtain ⟨items, ht, hi⟩ := h
  refine ⟨items, ht, fun ⟨x, hx, hx'⟩ ↦ ?_⟩
  rw [hi x hx] at hx'
  cases hx'

/-- What a passive change of state and harmless items do to a report. -/
theorem Telling.keep {w' : TunnelWorld} (h : Telling w₀ w) (hs : Spared w w')
    (hd : w'.st.transport.sessionDegraded = w.st.transport.sessionDegraded)
    (he : w.st.transport.pendingCloseEvents <+: w'.st.transport.pendingCloseEvents) :
    Telling w₀ w' := by
  obtain ⟨items, ht, hi⟩ := h
  obtain ⟨items', ht', hi'⟩ := hs
  refine ⟨items' ++ items, by rw [ht', ht, List.append_assoc], fun ⟨x, hx, hx'⟩ ↦ ?_⟩
  rcases List.mem_append.1 hx with hx | hx
  · rw [hi' x hx] at hx'
    cases hx'
  · obtain ⟨h1, h2⟩ := hi ⟨x, hx, hx'⟩
    refine ⟨hd.trans h1, fun hno ↦ h2 ?_⟩
    rw [hno] at he
    exact List.prefix_nil.1 he

theorem tunnelKeeps_telling (w₀ : TunnelWorld) : TunnelKeeps (Telling w₀) where
  sysId c w h := wp_callId fun r t _ ↦
    h.keep ⟨[_], rfl, by simp [isAbandoning]⟩ rfl (List.prefix_refl _)
  millis w h := wp_tick_bind fun _ _ ↦ wp_pure h
  mark m hm w h := by
    refine wp_mono (wp_and ((tunnelKeeps_spared w).mark m hm w (Spared.refl w))
      (wp_mark (Q := fun _ w' ↦ w'.st = w.st) rfl)) fun _ w' ⟨hs, hst⟩ ↦ ?_
    exact h.keep hs (by rw [hst]) (hst ▸ List.prefix_refl _)
  onSlot i m w h := wp_onSlot fun _ ↦
    h.keep (spared_lift (Spared.refl w)) rfl (List.prefix_refl _)
  modify f hf w h := wp_modify (h.keep ⟨[], rfl, by simp⟩ (hf.sessionDegraded _) (hf.events _))

/-- There is a close event to be consumed afterwards, even if the array was full. -/
theorem wp_pushCloseEvent_ne_nil (reason : ChannelCloseReason) :
    wp (pushCloseEvent i reason) (fun _ w' ↦ w'.trace = w.trace ∧
      w'.st.transport.sessionDegraded = w.st.transport.sessionDegraded ∧
      w'.st.transport.pendingCloseEvents ≠ []) w := by
  rw [pushCloseEvent, modifyTransport]
  refine wp_modify ⟨rfl, ?_⟩
  rw [World.update_st]
  dsimp only
  split
  · exact ⟨rfl, by simp⟩
  · next hfull =>
    refine ⟨rfl, fun hno ↦ ?_⟩
    rw [hno] at hfull
    exact hfull (by decide)

/-- A slot that is given up is reported. -/
theorem telling_scanSlot (picks : Picks) (i : ℕ) :
    Preserves (Telling w₀) (scanSlot p now picks i) := by
  refine ((tunnelKeeps_telling w₀).getSlot i).bind fun ch ↦ Preserves.ite Preserves.ret ?_
  split
  · intro w h
    have hgrown : Grown w₀ (w.marked (.note (.abandoning i))) :=
      h.imp' (_ :: ·) fun _ h ↦ congrArg (_ :: ·) h.1
    rw [wp_mark_bind]
    refine wp_bind (wp_mono ((tunnelKeeps_grown w₀).abandonSlot _ _ _ hgrown) fun _ u hu ↦ ?_)
    rw [modifyTransport, wp_modify_bind]
    refine wp_bind (wp_mono (wp_pushCloseEvent_ne_nil _) fun _ u' hu' ↦ wp_pure ?_)
    obtain ⟨ht, hd, he⟩ := hu'
    exact hu.imp fun items hitems ↦ ⟨ht.trans hitems, fun _ ↦ ⟨hd, he⟩⟩
  · exact Preserves.ret
  · exact Preserves.ret
  · exact Preserves.ret

theorem telling_pumpAll : Preserves (Telling w₀) (pumpAll p) :=
  (tunnelKeeps_telling w₀).pumpAll fun _ picks i ↦ telling_scanSlot picks i

/-! ### The end of the iteration -/

theorem spared_enterErrorState : Preserves (Spared w₀) (enterErrorState p) :=
  (tunnelKeeps_spared w₀).enterErrorState <| (spared_modify _).bind fun _ ↦
    (tunnelKeeps_spared w₀).millis.bind fun _ ↦ (spared_modify _).bind fun _ ↦
    (spared_note (by simp)).bind fun _ ↦ ((tunnelKeeps_spared w₀).emit _).bind fun _ ↦
    (tunnelKeeps_spared w₀).mark _ rfl

theorem spared_connectSSH : Preserves (Spared w₀) (connectSSH p) := by
  have hI := tunnelKeeps_spared w₀
  refine Preserves.get_bind fun _ ↦ Preserves.ite Preserves.ret ?_
  refine (spared_modify _).bind fun _ ↦ hI.millis.bind fun _ ↦ (spared_modify _).bind fun _ ↦
    (spared_note (by simp)).bind fun _ ↦ hI.session.sessionConnect.bind fun _ ↦ Preserves.ite ?_ ?_
  · exact (spared_modify _).bind fun _ ↦ (hI.emit _).bind fun _ ↦ Preserves.ret
  · exact (spared_modify _).bind fun _ ↦ (spared_note (by simp)).bind fun _ ↦
      hI.millis.bind fun _ ↦ (spared_modify _).bind fun _ ↦ (hI.emit _).bind fun _ ↦ Preserves.ret

theorem spared_handleReconnection : Preserves (Spared w₀) (handleReconnection p) := by
  have hI := tunnelKeeps_spared w₀
  have hallowed : Preserves (Spared w₀) (reconnectAllowed p) :=
    Preserves.get_bind fun _ ↦ Preserves.ite (hI.millis.bind fun _ ↦ Preserves.ite Preserves.ret
      ((spared_modify _).bind fun _ ↦ Preserves.ret)) Preserves.ret
  refine hI.returning (hallowed.bind fun _ ↦ Preserves.ite Preserves.ret ?_)
  refine hI.millis.bind fun _ ↦ Preserves.get_bind fun _ ↦ Preserves.ite Preserves.ret ?_
  exact (hI.clearQueue _).bind fun _ ↦ (hI.clearQueue _).bind fun _ ↦ (hI.dropEverything _).bind
    fun _ ↦ (spared_modify _).bind fun _ ↦ (spared_note (by simp)).bind fun _ ↦
    spared_connectSSH.bind fun _ ↦ Preserves.when (spared_modify _)

theorem spared_checkHealth : Preserves (Spared w₀) (checkHealth p) := by
  have hI := tunnelKeeps_spared w₀
  refine hI.session.checkConnection.bind fun _ ↦ Preserves.get_bind fun _ ↦ Preserves.ite ?_ ?_
  · exact (spared_modify _).bind fun _ ↦ spared_enterErrorState.bind fun _ ↦ Preserves.ret
  · refine (spared_modify _).bind fun _ ↦ hI.millis.bind fun _ ↦ Preserves.get_bind fun _ ↦
      Preserves.ite (hI.session.sendKeepalive.bind fun _ ↦ Preserves.ite ?_ ?_) Preserves.ret
    · exact spared_enterErrorState.bind fun _ ↦ Preserves.ret
    · exact (spared_modify _).bind fun _ ↦ Preserves.ret

/-! ### The error state -/

theorem tunnelKeeps_degraded (b : Bool) :
    TunnelKeeps fun w ↦ w.st.transport.sessionDegraded = b where
  sysId _ _ h := wp_callId fun _ _ _ ↦ h
  millis _ h := wp_tick_bind fun _ _ ↦ wp_pure h
  mark _ _ _ h := wp_mark h
  onSlot _ _ _ h := wp_onSlot fun _ ↦ h
  modify _ hf w h := wp_modify ((hf.sessionDegraded w.st).trans h)

theorem allBut_modifyQueue {P : ChannelSlot → Prop} (q : QueueName)
    (f : ChannelQueue → ChannelQueue) : Preserves (AllBut p P rest) (modifyQueue q f) := by
  rw [modifyQueue_eq]
  exact allBut_modify fun s ↦ by cases q <;> rfl

/-- Every slot is given up in the end, also when nothing is known of it. -/
theorem wp_dropEverything_vacates (reason : ChannelCloseReason) (w : TunnelWorld) :
    wp (dropEverything p reason) (fun _ ↦ AllBut p (·.active = false) []) w := by
  refine wp_bind fun e ↦ ?_
  have hdrop := Triple.each (l := List.range p.maxSlots) (f := fun i ↦ abandonSlot p i reason)
    (I := AllBut p (·.active = false)) fun i l' _ ↦ allBut_abandonSlot (fun _ h ↦ h) reason
  refine wp_bind (wp_mono (hdrop _ fun i hi hno ↦ absurd (List.mem_range.2 hi) hno) fun _ w₁ h₁ ↦ ?_)
  exact wp_bind (wp_mono (allBut_modifyQueue _ _ w₁ h₁) fun _ w₂ h₂ ↦ allBut_modifyQueue _ _ w₂ h₂)

/-- The end of `enterErrorState` after everything has been dropped. -/
theorem wp_enterErrorState_vacates (w : TunnelWorld) :
    wp (enterErrorState p) (fun _ w' ↦ w'.st.state = .error ∧
      AllBut p (·.active = false) [] w') w := by
  refine wp_bind fun e₁ ↦ wp_bind fun e₂ ↦ wp_bind fun e₃ ↦ wp_bind fun e₄ ↦ wp_bind fun e₅ ↦
    wp_bind fun e₆ ↦ ?_
  refine wp_bind (wp_mono (wp_dropEverything_vacates _ _) fun _ w₁ h₁ ↦ ?_)
  have hstats : Preserves (AllBut p (·.active = false) []) (updateStats p) :=
    (allBut_sys _).bind fun _ ↦ Preserves.ite ((allBut_modify fun _ ↦ by rfl).bind fun _ ↦
      (allBut_sys _).bind fun _ ↦ Preserves.ret) Preserves.ret
  refine wp_bind (wp_mono (hstats w₁ h₁) fun _ w₂ h₂ ↦ ?_)
  rw [wp_modify_bind]
  refine wp_millis_tunnel fun t _ ↦ ?_
  rw [wp_modify_bind, wp_mark_bind]
  exact wp_call_bind fun _ _ _ ↦ wp_mark ⟨rfl, h₂⟩

/-- The iteration has ended in the error state, and the session was reported before. -/
structure EndsInError (p : Params) (items : Trace SSHTunnel Call Call.Reply Mark) (w : TunnelWorld) :
    Prop where
  /-- After the last slot was given up, the flag was seen raised. -/
  raised : ∃ newer older, items = newer ++ older ∧ (∀ x ∈ newer, isAbandoning x = false) ∧
    ∃ x ∈ newer, raises x = true
  /-- The tunnel is in the error state. -/
  state : w.st.state = .error
  /-- No slot is active. -/
  slots : ∀ i < p.maxSlots, (w.st.channels.slots i).active = false
  /-- The flag is lowered. -/
  lowered : w.st.transport.sessionDegraded = false

/-- An iteration that began in `w₀` has been concluded as it has to be. -/
def Concluded (p : Params) (w₀ w : TunnelWorld) : Prop :=
  ∃ items, w.trace = items ++ w₀.trace ∧
    ((∃ x ∈ items, isAbandoning x = true) → EndsInError p items w)

theorem Spared.concluded (h : Spared w₀ w) : Concluded p w₀ w := by
  obtain ⟨items, ht, hi⟩ := h
  refine ⟨items, ht, fun ⟨x, hx, hx'⟩ ↦ ?_⟩
  rw [hi x hx] at hx'
  cases hx'

/-- Handlers of close events are run with the flag still raised. -/
theorem wp_emitClosed {events : List (ℕ × ChannelCloseReason)} (hne : events ≠ [])
    (hd : w.st.transport.sessionDegraded = true) :
    wp (Prog.each events fun e ↦ emit (.channelClosed e.1 e.2)) (fun _ w' ↦
      w'.st = w.st ∧ ∃ newer, w'.trace = newer ++ w.trace ∧
        (∀ x ∈ newer, isAbandoning x = false) ∧ ∃ x ∈ newer, raises x = true) w := by
  rcases events with - | ⟨e, events⟩
  · exact absurd rfl hne
  refine wp_call_bind fun r t _ ↦ ?_
  have hrest : Preserves (fun u ↦ u.st = w.st ∧ Spared (w.after _ r t) u)
      (Prog.each events fun e ↦ emit (.channelClosed e.1 e.2)) :=
    Preserves.each fun _ _ u hu ↦ wp_call fun _ _ _ ↦
      ⟨hu.1, hu.2.trans ⟨[_], rfl, by simp [isAbandoning]⟩⟩
  refine wp_mono (hrest _ ⟨rfl, Spared.refl _⟩) fun _ w' ⟨hst, items, ht, hi⟩ ↦ ⟨hst, ?_⟩
  rw [World.after_trace] at ht
  -- the first handler is run with the flag as it is now
  refine ⟨items ++ [_], ht.trans (List.append_cons ..), fun x hx ↦ ?_, _,
    List.mem_append_right _ (List.mem_singleton.2 rfl), hd⟩
  rcases List.mem_append.1 hx with hx | hx
  · exact hi x hx
  · rw [List.mem_singleton.1 hx]
    rfl

theorem spared_loopTail : Preserves (Spared w₀) (loopTail p) := by
  have hI := tunnelKeeps_spared w₀
  refine Preserves.bind ?_ fun events ↦ (Preserves.each fun _ _ ↦ hI.emit _).bind fun _ ↦ ?_
  · exact Preserves.get_bind fun _ ↦ (spared_modifyTransport _).bind fun _ ↦ Preserves.ret
  · refine Preserves.get_bind fun _ ↦ Preserves.ite ?_ ?_
    · exact (spared_modifyTransport _).bind fun _ ↦ spared_enterErrorState
    · exact hI.drainPendingIfAny.bind fun _ ↦ hI.drainDeferredIfAny.bind fun _ ↦ hI.updateStats

/-- What `loop` does about a report. -/
theorem wp_loopTail_concluded (h : Telling w₀ w) :
    wp (loopTail p) (fun _ w' ↦ Concluded p w₀ w') w := by
  obtain ⟨items, ht, hi⟩ := h
  by_cases hgave : ∃ x ∈ items, isAbandoning x = true
  · obtain ⟨hd, he⟩ := hi hgave
    rw [loopTail, consumeCloseEvents, wp_bind_assoc, wp_get_bind, modifyTransport, wp_bind_assoc,
      wp_modify_bind, wp_pure_bind]
    have hne : w.st.transport.pendingCloseEvents.take maxCloseEvents ≠ [] := by
      rw [ne_eq, List.take_eq_nil_iff]
      exact fun hno ↦ hno.elim (by decide) he
    refine wp_bind (wp_mono (wp_emitClosed hne hd) fun _ w₁ h₁ ↦ ?_)
    obtain ⟨hst, newer, ht₁, hn, hraised⟩ := h₁
    rw [wp_get_bind]
    refine wp_ite (fun _ ↦ ?_) fun hno ↦ ?_
    · rw [modifyTransport, wp_modify_bind]
      have hlow := (tunnelKeeps_degraded false).enterErrorState (p := p)
        (Q := fun _ w' ↦ w'.st.transport.sessionDegraded = false) (by
          intro u hu
          rw [wp_modify_bind]
          refine wp_millis_tunnel fun t _ ↦ ?_
          rw [wp_modify_bind, wp_mark_bind]
          exact wp_call_bind fun _ _ _ ↦ wp_mark hu)
      refine wp_mono (wp_and (wp_and (spared_enterErrorState _ (Spared.refl _))
        (wp_enterErrorState_vacates _)) (hlow _ rfl)) fun _ w' h' ↦ ?_
      obtain ⟨⟨hs, hstate, hslots⟩, hlow⟩ := h'
      obtain ⟨late, ht', hlate⟩ := hs
      refine ⟨late ++ newer ++ items, ?_, fun _ ↦ ⟨⟨late ++ newer, items, rfl, fun x hx ↦ ?_, ?_⟩,
        hstate, fun i hi ↦ hslots i hi (by simp), hlow⟩⟩
      · rw [ht', World.update_trace, ht₁, World.update_trace, ht, List.append_assoc,
          List.append_assoc]
      · rcases List.mem_append.1 hx with hx | hx
        · exact hlate x hx
        · exact hn x hx
      · exact hraised.imp fun x hx ↦ ⟨List.mem_append_right _ hx.1, hx.2⟩
    · rw [hst] at hno
      exact absurd hd hno
  · have hs : Spared w₀ w :=
      ⟨items, ht, fun x hx ↦ Bool.eq_false_iff.2 fun hx' ↦ hgave ⟨x, hx, hx'⟩⟩
    exact wp_mono (spared_loopTail w hs) fun _ _ h' ↦ h'.concluded

theorem wp_loop_concluded (w : TunnelWorld) :
    wp (loop p) (fun _ w' ↦ Concluded p w w') w := by
  have hI := tunnelKeeps_spared w
  have hspared : ∀ {m : TunnelM Unit}, Preserves (Spared w) m →
      ∀ u, Spared w u → wp m (fun _ w' ↦ Concluded p w w') u := fun hm u hu ↦
    wp_mono (hm u hu) fun _ _ h' ↦ h'.concluded
  have hw := Spared.refl w
  rw [loop, wp_get_bind]
  refine wp_ite (fun _ ↦ hspared spared_handleReconnection w hw) fun _ ↦
    wp_ite (fun _ ↦ wp_pure hw.concluded) fun _ ↦
    wp_ite (fun _ ↦ hspared spared_enterErrorState w hw) fun _ ↦ ?_
  refine wp_bind (wp_mono (spared_checkHealth w hw) fun alive w₁ h₁ ↦ ?_)
  refine wp_when (fun _ ↦ ?_) fun _ ↦ h₁.concluded
  refine wp_bind (wp_mono (hI.drainDeferredIfAny w₁ h₁) fun _ w₂ h₂ ↦ ?_)
  have haccept := Preserves.attempts (n := p.maxSlots + 1)
    (hI.handleNewConnection (p := p) spared_enterErrorState)
  refine wp_bind (wp_mono (haccept w₂ h₂) fun _ w₃ h₃ ↦ ?_)
  exact wp_bind (wp_mono (telling_pumpAll w₃ h₃.telling) fun _ w₄ h₄ ↦ wp_loopTail_concluded h₄)

/-! ### The guarantee -/

/-- **Draining is bounded**, wherever the tunnel is and whatever the world answers: `checkCloses`
leaves no slot overdue at the reading its step 2 works with; a pump cycle that has given up a slot
leaves the session reported; and an iteration of `loop` that has given up a slot ends in the error
state, without slots and with the report dealt with. -/
theorem draining_bounded (p : Params) (w : TunnelWorld) (e : Env Call Call.Reply) :
    (∀ i < p.maxSlots,
      ¬Overdue ((closeReading p).run e w).1 (((checkCloses p).exec e w).st.channels.slots i)) ∧
    (∀ items, ((pumpAll p).exec e w).trace = items ++ w.trace →
      (∃ x ∈ items, isAbandoning x = true) →
        ((pumpAll p).exec e w).st.transport.sessionDegraded = true) ∧
    ∀ items, ((loop p).exec e w).trace = items ++ w.trace →
      (∃ x ∈ items, isAbandoning x = true) → EndsInError p items ((loop p).exec e w) := by
  refine ⟨fun i hi ↦ ?_, fun items ht hgave ↦ ?_, fun items ht hgave ↦ ?_⟩
  · rw [exec_checkCloses]
    exact wp_actOnCloses p _ _ e i hi (by simp)
  · obtain ⟨items', ht', htold⟩ := telling_pumpAll w (Spared.refl w).telling e
    obtain rfl : items' = items := List.append_cancel_right (ht'.symm.trans ht)
    exact (htold hgave).1
  · obtain ⟨items', ht', hends⟩ := wp_loop_concluded (p := p) w e
    obtain rfl : items' = items := List.append_cancel_right (ht'.symm.trans ht)
    exact hends hgave

/-! ### A slot that is given up -/

/-- The local side is done, and every operation takes 31 seconds. -/
def stalledWorld : Env Call Call.Reply := worldWith 31000 fun _ c ↦
  match c with
  | .io _ (.recv _ _) => some .eof
  | _ => none

/-- The tunnel is connected and has accepted a channel. -/
def servingTunnel : TunnelWorld := afterTunnelOps (smallTunnel 1)
  [(.connectSSH, worldWith 1 fun _ _ ↦ none), (.loop, acceptingWorld 60)]

/-- What the next iteration does in the stalled world. -/
def stalledItems : Trace SSHTunnel Call Call.Reply Mark :=
  ((loop (smallTunnel 1)).act stalledWorld servingTunnel.toMachine).out

theorem draining_bounded_stalledWorld :
    TunnelRun (smallTunnel 1) servingTunnel ∧ stalledItems.any isAbandoning = true ∧
      EndsInError (smallTunnel 1) stalledItems
        ((loop (smallTunnel 1)).exec stalledWorld servingTunnel) := by
  have hgave : stalledItems.any isAbandoning = true := by decide +kernel
  exact ⟨tunnelRun_after _, hgave, (draining_bounded (smallTunnel 1) servingTunnel stalledWorld).2.2
    stalledItems (Prog.trace_exec ..) (List.any_eq_true.1 hgave)⟩

end ReverseTunnel
