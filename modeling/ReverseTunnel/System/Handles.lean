import ReverseTunnel.System.Trace

/-!
# Channel handles in the trace

A handle is **usable** from the moment libssh2 has accepted the channel until it has freed it or the
session has gone down. This is read off the trace alone. The trace of work on a slot is as good as
its log: what the log says of frees and of the handles passed to libssh2 holds of the trace.
-/

namespace ReverseTunnel

open Traced TunnelM

/-- The channels that are in no slot. -/
def Ledger.all (g : Ledger) : List Handle := g.pending ++ g.deferred ++ g.hand

/-- The channel a call has accepted, if any. -/
def accepts : Item SSHTunnel Call Call.Reply Mark → Option Handle
  | .call id _ _ (.sys (.forwardAccept _)) true => some id
  | _ => none

/-- The channel libssh2 has freed for good, if any. -/
def frees : Item SSHTunnel Call Call.Reply Mark → Option Handle
  | .call _ _ _ (.sys (.channelFree h)) rc => if rc = errorEagain then none else some h
  | .call _ _ _ (.io _ (.channelFree h)) rc => if rc = errorEagain then none else some h
  | _ => none

/-- The session goes down. -/
def goesDown : Item SSHTunnel Call Call.Reply Mark → Bool
  | .mark _ _ .sessionDown => true
  | _ => false

/-- The channel an entry passes to libssh2, if any. -/
def passes : Item SSHTunnel Call Call.Reply Mark → Option Handle
  | .call _ _ _ c _ => c.handle
  | .mark _ _ _ => none

/-- Accepted, not freed since, in a session that has not gone down since. -/
def usable (h : Handle) : Trace SSHTunnel Call Call.Reply Mark → Bool
  | [] => false
  | x :: past =>
    if accepts x = some h then true
    else if goesDown x = true ∨ frees x = some h then false
    else usable h past

/-- Only a usable channel is passed to libssh2. -/
def PassesUsable (x : Item SSHTunnel Call Call.Reply Mark)
    (past : Trace SSHTunnel Call Call.Reply Mark) : Prop :=
  ∀ h, passes x = some h → usable h past = true

variable {p : Params} {ext : Bool} {g : Ledger} {w w' : TunnelWorld} {i : ℕ} {h : Handle}
  {x : Item SSHTunnel Call Call.Reply Mark} {items tr : Trace SSHTunnel Call Call.Reply Mark}

theorem Tracks.live {s : SSHTunnel} (ht : Tracks s g) :
    s.pending.live ++ s.deferredClose.live = (g.pending ++ g.deferred).map some := by
  rw [List.map_append]
  exact congrArg₂ _ (ht .pending) (ht .deferredClose)

/-- A slot that is not in use has no channel. -/
theorem At.sshChannel_eq_none (hat : At p ext g w)
    (hact : (w.st.channels.slots i).active = false) :
    (w.st.channels.slots i).sshChannel = none :=
  ((hat.sound i).dead hact).sshChannel

theorem usable_cons_of_neutral (ha : accepts x ≠ some h) (hd : goesDown x = false)
    (hf : frees x ≠ some h) : usable h (x :: tr) = usable h tr := by
  rw [usable, if_neg ha, if_neg]
  rintro (hno | hno)
  · rw [hd] at hno
    cases hno
  · exact hf hno

theorem usable_append (hitems : ∀ x ∈ items, accepts x ≠ some h ∧ goesDown x = false ∧
    frees x ≠ some h) : usable h (items ++ tr) = usable h tr := by
  induction items with
  | nil => rfl
  | cons x items ih =>
    obtain ⟨ha, hd, hf⟩ := hitems x (List.mem_cons_self ..)
    rw [List.cons_append, usable_cons_of_neutral ha hd hf]
    exact ih fun y hy ↦ hitems y (List.mem_cons_of_mem _ hy)

/-! ### Calm entries -/

theorem neutral_of_isCalm (hx : isCalm x) :
    accepts x = none ∧ goesDown x = false ∧ frees x = none ∧ passes x = none := by
  cases x with
  | mark t s m =>
    cases m with
    | note n => exact ⟨rfl, rfl, rfl, rfl⟩
    | _ => exact hx.elim
  | call id t s c r =>
    cases c with
    | io j c => exact hx.elim
    | sys c =>
      cases c with
      | channelClose h => exact hx.elim
      | channelFree h => exact hx.elim
      | forwardAccept l =>
        obtain rfl : r = false := hx
        exact ⟨rfl, rfl, rfl, rfl⟩
      | _ => exact ⟨rfl, rfl, rfl, rfl⟩

theorem Calms.usable (hc : Calms w w') (h : Handle) : usable h w'.trace = usable h w.trace := by
  obtain ⟨items, ht, hi⟩ := hc.trace
  rw [ht]
  refine usable_append fun x hx ↦ ?_
  obtain ⟨ha, hd, hf, -⟩ := neutral_of_isCalm (hi x hx)
  exact ⟨by simp [ha], hd, by simp [hf]⟩

theorem Calms.passesUsable (hc : Calms w w') (hw : History.Always PassesUsable w.trace) :
    History.Always PassesUsable w'.trace := by
  obtain ⟨items, ht, hi⟩ := hc.trace
  rw [ht]
  refine hw.append fun x hx rest h hp ↦ ?_
  rw [(neutral_of_isCalm (hi x hx)).2.2.2] at hp
  cases hp

/-! ### Entries of a slot -/

/-- The channel libssh2 has freed for good, if any. -/
def slotFrees : SlotItem → Option Handle
  | .call _ _ _ (.channelFree h) rc => if rc = errorEagain then none else some h
  | _ => none

/-- The channel an entry passes to libssh2, if any. -/
def slotPasses : SlotItem → Option Handle
  | .call _ _ _ c _ => c.handle
  | .mark _ _ _ => none

theorem frees_of_slotItem? {y : SlotItem} (hx : slotItem? i x = some y) :
    accepts x = none ∧ goesDown x = false ∧ frees x = slotFrees y ∧ passes x = slotPasses y := by
  rcases slotItem?_eq_some.1 hx with ⟨id, t, s, c, r, rfl, rfl⟩ | ⟨t, s, m, rfl, rfl⟩
  · cases c <;> exact ⟨rfl, rfl, rfl, rfl⟩
  · exact ⟨rfl, rfl, rfl, rfl⟩

/-- The trace of work on a slot, entry by entry. -/
theorem SlotMove.trace_eq (hm : SlotMove i w w') (ys : SlotLog)
    (hlog : (slotView i w').log = ys ++ (slotView i w).log) :
    ∃ items, w'.trace = items ++ w.trace ∧ items.map (slotItem? i) = ys.map some := by
  obtain ⟨items, ht, hi⟩ := hm.trace
  refine ⟨items, ht, ?_⟩
  have hys : items.filterMap (slotItem? i) = ys := by
    have hsplit : slotLog i w'.trace = items.filterMap (slotItem? i) ++ slotLog i w.trace := by
      rw [slotLog, ht, List.filterMap_append]
      rfl
    exact List.append_cancel_right (hsplit.symm.trans hlog)
  rw [← hys]
  clear hys ht hlog
  induction items with
  | nil => rfl
  | cons x items ih =>
    obtain ⟨y, hy⟩ := Option.isSome_iff_exists.1 (hi x (List.mem_cons_self ..))
    rw [List.map_cons, List.filterMap_cons, hy, List.map_cons,
      ih fun z hz ↦ hi z (List.mem_cons_of_mem _ hz)]

theorem usable_slot {ys : SlotLog} (hmap : items.map (slotItem? i) = ys.map some)
    (hys : ∀ y ∈ ys, slotFrees y ≠ some h) : usable h (items ++ tr) = usable h tr := by
  induction items generalizing ys with
  | nil => rfl
  | cons x items ih =>
    rcases ys with - | ⟨y, ys⟩
    · cases hmap
    · obtain ⟨hxy, hrest⟩ := List.cons.inj hmap
      obtain ⟨ha, hd, hf, -⟩ := frees_of_slotItem? hxy
      rw [List.cons_append, usable_cons_of_neutral (by simp [ha]) hd
        (hf ▸ hys y (List.mem_cons_self ..))]
      exact ih hrest fun z hz ↦ hys z (List.mem_cons_of_mem _ hz)

/-- What is freed is not usable any more: work on a slot accepts nothing. -/
theorem usable_slot_freed {ys : SlotLog} (hmap : items.map (slotItem? i) = ys.map some)
    (hys : ∃ y ∈ ys, slotFrees y = some h) : usable h (items ++ tr) = false := by
  induction items generalizing ys with
  | nil =>
    rcases ys with - | ⟨y, ys⟩
    · obtain ⟨y, hy, -⟩ := hys
      cases hy
    · cases hmap
  | cons x items ih =>
    rcases ys with - | ⟨y, ys⟩
    · cases hmap
    · obtain ⟨hxy, hrest⟩ := List.cons.inj hmap
      obtain ⟨ha, hd, hf, -⟩ := frees_of_slotItem? hxy
      rw [List.cons_append, usable, if_neg (by simp [ha])]
      by_cases hy : slotFrees y = some h
      · rw [if_pos (.inr (hf.trans hy))]
      · obtain ⟨z, hz, hfz⟩ := hys
        have hz' : z ∈ ys := by
          rcases List.mem_cons.1 hz with rfl | hz
          · exact absurd hfz hy
          · exact hz
        have hfx : frees x ≠ some h := hf ▸ hy
        rw [if_neg (by simp [hd, hfx])]
        exact ih hrest ⟨z, hz', hfz⟩

/-- Work on a slot passes only the slot's channel, and that only before it is freed. -/
theorem passesUsable_slot {ys : SlotLog} (hmap : items.map (slotItem? i) = ys.map some)
    (hys : History.Always (fun y past ↦ ∀ h, slotPasses y = some h →
      usable h tr = true ∧ ∀ z ∈ past, slotFrees z ≠ some h) ys)
    (htr : History.Always PassesUsable tr) : History.Always PassesUsable (items ++ tr) := by
  induction items generalizing ys with
  | nil => exact htr
  | cons x items ih =>
    rcases ys with - | ⟨y, ys⟩
    · cases hmap
    · obtain ⟨hxy, hrest⟩ := List.cons.inj hmap
      obtain ⟨-, -, -, hp⟩ := frees_of_slotItem? hxy
      refine ⟨fun h hpass ↦ ?_, ih hrest hys.2⟩
      obtain ⟨hu, hno⟩ := hys.1 h (hp ▸ hpass)
      exact (usable_slot hrest hno).trans hu

/-! ### Work on a slot that stays in use -/

theorem slotFrees_of_ownItem {ch : ChannelSlot} {y : SlotItem} (hy : OwnItem ch y) :
    slotFrees y = none := by
  cases y with
  | mark t s m => rfl
  | call id t s c r =>
    cases c with
    | channelFree h' => rw [slotFrees, if_pos hy.2]
    | _ => rfl

theorem slotPasses_of_ownItem {ch : ChannelSlot} {y : SlotItem} (hy : OwnItem ch y)
    (hp : slotPasses y = some h) : ch.sshChannel = some h := by
  cases y with
  | mark t s m => cases hp
  | call id t s c r =>
    cases c with
    | channelFree h' =>
      obtain rfl : h' = h := Option.some.inj hp
      exact hy.1
    | closeSocket fd => exact hy.elim
    | channelSetBlocking h' => exact hy.elim
    | _ => exact hy.1 h hp

theorem always_ownItem {ch : ChannelSlot} {ys : SlotLog} (hys : ∀ y ∈ ys, OwnItem ch y)
    (hu : ∀ h, ch.sshChannel = some h → usable h tr = true) :
    History.Always (fun y past ↦ ∀ h, slotPasses y = some h →
      usable h tr = true ∧ ∀ z ∈ past, slotFrees z ≠ some h) ys := by
  induction ys with
  | nil => trivial
  | cons y ys ih =>
    refine ⟨fun h hp ↦ ⟨hu h (slotPasses_of_ownItem (hys y (List.mem_cons_self ..)) hp), ?_⟩,
      ih fun z hz ↦ hys z (List.mem_cons_of_mem _ hz)⟩
    intro z hz
    rw [slotFrees_of_ownItem (hys z (List.mem_cons_of_mem _ hz))]
    simp

/-- Work frees nothing and passes the slot's own channel. -/
theorem SlotMove.handles_work (hm : SlotMove i w w') (ho : OwnLog (slotView i w) (slotView i w')) :
    (∀ h, usable h w'.trace = usable h w.trace) ∧
      ((∀ h, (w.st.channels.slots i).sshChannel = some h → usable h w.trace = true) →
        History.Always PassesUsable w.trace → History.Always PassesUsable w'.trace) := by
  obtain ⟨ys, hlog, hown⟩ := ho
  obtain ⟨items, ht, hmap⟩ := hm.trace_eq _ hlog
  rw [ht]
  refine ⟨fun h ↦ usable_slot hmap fun y hy ↦ ?_, fun hu ↦
    passesUsable_slot hmap (always_ownItem hown hu)⟩
  rw [slotFrees_of_ownItem (hown y hy)]
  simp

/-! ### Taking a slot into use and out of it -/

/-- A slot that is bound passes its new channel. -/
theorem SlotMove.handles_bind {fd : Int} {okLocal okRemote : Bool} {id t t' : ℕ}
    (hm : SlotMove i w w')
    (hv : slotView i w' = (slotView i w).bound p h fd okLocal okRemote id t t') :
    (∀ h', usable h' w'.trace = usable h' w.trace) ∧
      (usable h w.trace = true → History.Always PassesUsable w.trace →
        History.Always PassesUsable w'.trace) := by
  have hlog := congrArg View.log hv
  obtain ⟨items, ht, hmap⟩ := hm.trace_eq [_, _] hlog
  rw [ht]
  refine ⟨fun h' ↦ usable_slot hmap (by simp [slotFrees]), fun hu ↦ passesUsable_slot hmap ?_⟩
  simpa [slotPasses, slotFrees, IoCall.handle] using hu

theorem slotPasses_drop (v : View) (id t : ℕ) :
    ∃ ys, (v.dropped id t).log = ys ++ v.log ∧
      ∀ y ∈ ys, slotFrees y = none ∧ slotPasses y = none := by
  rw [View.dropped, View.socketClosed]
  split
  · exact ⟨[_, _], rfl, by simp [slotFrees, slotPasses, IoCall.handle]⟩
  · exact ⟨[_], rfl, by simp [slotFrees, slotPasses]⟩

theorem always_silent {ys : SlotLog} (hys : ∀ y ∈ ys, slotFrees y = none ∧ slotPasses y = none)
    {zs : SlotLog} (hzs : History.Always (fun y past ↦ ∀ h, slotPasses y = some h →
      usable h tr = true ∧ ∀ z ∈ past, slotFrees z ≠ some h) zs) :
    History.Always (fun y past ↦ ∀ h, slotPasses y = some h →
      usable h tr = true ∧ ∀ z ∈ past, slotFrees z ≠ some h) (ys ++ zs) := by
  refine hzs.append fun y hy rest h hp ↦ ?_
  rw [(hys y hy).2] at hp
  cases hp

/-- A slot that is given up leaves libssh2 alone. -/
theorem SlotMove.handles_abandon {id t : ℕ} {ch : ChannelSlot} (hm : SlotMove i w w')
    (hv : slotView i w' = ((slotView i w).dropped id t).set ch) :
    (∀ h, usable h w'.trace = usable h w.trace) ∧
      (History.Always PassesUsable w.trace → History.Always PassesUsable w'.trace) := by
  obtain ⟨ys, hlog, hys⟩ := slotPasses_drop (slotView i w) id t
  obtain ⟨items, ht, hmap⟩ := hm.trace_eq _ ((congrArg View.log hv).trans hlog)
  rw [ht]
  refine ⟨fun h ↦ usable_slot hmap fun y hy ↦ by simp [hys y hy], passesUsable_slot hmap ?_⟩
  rw [← List.append_nil ys]
  exact always_silent hys trivial

theorem slotPasses_release (v : View) (h : Handle) {rc : Int} (progress : Progress)
    (id id' t t' t'' : ℕ) (hdone : rc ≠ errorEagain) :
    ∃ ys y, (((v.freed h rc progress id t).discarded id' t').shut t'').log = ys ++ y :: v.log ∧
      (∀ y ∈ ys, slotFrees y = none ∧ slotPasses y = none) ∧ slotFrees y = some h ∧
        slotPasses y = some h := by
  have hcall : slotFrees (.call id t v.ch (.channelFree h) rc) = some h := if_neg hdone
  rw [View.shut, View.discarded, View.socketClosed]
  split
  · exact ⟨[_, _], _, rfl, by simp [slotFrees, slotPasses, IoCall.handle], hcall, rfl⟩
  · exact ⟨[_], _, rfl, by simp [slotFrees, slotPasses], hcall, rfl⟩

/-- A slot that is released has had its channel freed. -/
theorem SlotMove.handles_release {v : View} {rc : Int} {progress : Progress}
    {id id' t t' t'' : ℕ} (hm : SlotMove i w w') (hw : Works p ext (slotView i w) v)
    (hh : v.ch.sshChannel = some h) (hdone : rc ≠ errorEagain)
    (hv : slotView i w' = ((v.freed h rc progress id t).discarded id' t').shut t'') :
    (∀ h', h' ≠ h → usable h' w'.trace = usable h' w.trace) ∧ usable h w'.trace = false ∧
      (usable h w.trace = true → History.Always PassesUsable w.trace →
        History.Always PassesUsable w'.trace) := by
  obtain ⟨zs, hlog₁, hown⟩ := hw.ownLog
  obtain ⟨ys, y, hlog₂, hys, hfree, hpass⟩ :=
    slotPasses_release v h progress id id' t t' t'' hdone
  have hlog : (slotView i w').log = (ys ++ y :: zs) ++ (slotView i w).log := by
    rw [hv, hlog₂, hlog₁, List.append_assoc]
    rfl
  have hch : (w.st.channels.slots i).sshChannel = some h := hw.retains.sshChannel.symm.trans hh
  obtain ⟨items, ht, hmap⟩ := hm.trace_eq _ hlog
  have hnone : ∀ z ∈ zs, slotFrees z = none := fun z hz ↦ slotFrees_of_ownItem (hown z hz)
  rw [ht]
  refine ⟨fun h' hne ↦ usable_slot hmap fun z hz ↦ ?_, usable_slot_freed hmap ⟨y, by simp, hfree⟩,
    fun hu ↦ passesUsable_slot hmap (always_silent hys ⟨fun h' hp ↦ ?_, ?_⟩)⟩
  · rcases List.mem_append.1 hz with hz | hz
    · simp [hys z hz]
    rcases List.mem_cons.1 hz with rfl | hz
    · rw [hfree]
      simpa using fun heq ↦ hne heq.symm
    · simp [hnone z hz]
  · obtain rfl : h = h' := Option.some.inj (hpass.symm.trans hp)
    exact ⟨hu, fun z hz ↦ by simp [hnone z hz]⟩
  · refine always_ownItem hown fun h' hh' ↦ ?_
    obtain rfl : h = h' := Option.some.inj (hch.symm.trans hh')
    exact hu

end ReverseTunnel
