import ReverseTunnel.System.Handles

/-!
# No accepted channel is forgotten

A channel should leave the tables of the program only when libssh2 has freed it. For a bound slot
that is so: `finalizeClose` comes back as long as libssh2 is not ready. The paths that reject a
channel, expire it or close it later go through `closeAcceptedChannel`, which does not look at what
`libssh2_channel_free` returns, and the last of them, the deferred-close queue, may be full. A channel
is forgotten in these two cases and in no other.
-/

namespace ReverseTunnel

open Traced TunnelM

variable {p : Params} {g : Ledger} {w w' : TunnelWorld} {i : ℕ} {h : Handle}

/-- The channel is in a slot or in a queue. -/
def InTables (p : Params) (s : SSHTunnel) (h : Handle) : Prop :=
  (∃ i < p.maxSlots, (s.channels.slots i).sshChannel = some h) ∨
    some h ∈ s.pending.live ++ s.deferredClose.live

instance (s : SSHTunnel) (h : Handle) : Decidable (InTables p s h) :=
  inferInstanceAs (Decidable (_ ∨ _))

/-- Every usable channel is in the tables. -/
def NoneForgotten (p : Params) (w : TunnelWorld) : Prop :=
  ∀ h, usable h w.trace = true → InTables p w.st h

/-- libssh2 is not ready to free a channel that is in no slot. -/
def freesLater : Item SSHTunnel Call Call.Reply Mark → Bool
  | .call _ _ _ (.sys (.channelFree _)) rc => rc = errorEagain
  | _ => false

/-- `enqueueDeferredClose` has not got the lock, and its queue is full. -/
def overflows : Item SSHTunnel Call Call.Reply Mark → Bool
  | .mark _ s (.deferring _) => maxDeferredClose ≤ s.deferredClose.count
  | _ => false

/-- What has happened in the current session. -/
def thisSession (tr : Trace SSHTunnel Call Call.Reply Mark) : Trace SSHTunnel Call Call.Reply Mark :=
  tr.takeWhile fun x ↦ !goesDown x

/-- Outside slots libssh2 has freed every channel at once, and there was always room for those that
had to wait. -/
def NeverPutOff (tr : Trace SSHTunnel Call Call.Reply Mark) : Prop :=
  (∀ x ∈ thisSession tr, freesLater x = false) ∧ ∀ x ∈ tr, overflows x = false

instance (tr : Trace SSHTunnel Call Call.Reply Mark) : Decidable (NeverPutOff tr) :=
  inferInstanceAs (Decidable (_ ∧ _))

theorem NeverPutOff.append {tr : Trace SSHTunnel Call Call.Reply Mark}
    (items : Trace SSHTunnel Call Call.Reply Mark) (h : NeverPutOff (items ++ tr))
    (hitems : ∀ x ∈ items, goesDown x = false) : NeverPutOff tr := by
  refine ⟨fun x hx ↦ h.1 x ?_, fun x hx ↦ h.2 x (List.mem_append_right _ hx)⟩
  rw [thisSession, List.takeWhile_append_of_pos fun y hy ↦ by simp [hitems y hy]]
  exact List.mem_append_right _ hx

/-! ### Nothing gets lost on the way -/

/-- The channel is in a slot or in the ledger. -/
def Located (s : SSHTunnel) (g : Ledger) (h : Handle) : Prop :=
  (∃ i, (s.channels.slots i).sshChannel = some h) ∨ h ∈ g.all

/-- The invariant. -/
structure Remembered (w : TunnelWorld) (g : Ledger) : Prop where
  /-- While the session is up, every usable channel is somewhere, unless the session is doomed. -/
  up : g.down = false → g.doomed = false → NeverPutOff w.trace →
    ∀ h, usable h w.trace = true → Located w.st g h
  /-- While it is down, no channel is usable. -/
  down : g.down = true → ∀ h, usable h w.trace = false

/-- Entries that neither accept nor free nor take the session down, and a state in which every
channel is still somewhere. -/
theorem Remembered.same {g' : Ledger} (hr : Remembered w g) (items : Trace SSHTunnel Call Call.Reply Mark)
    (ht : w'.trace = items ++ w.trace) (hd : ∀ x ∈ items, goesDown x = false)
    (hu : ∀ h, usable h w'.trace = true → usable h w.trace = true)
    (hdown : g'.down = g.down) (hdoom : g'.doomed = false → g.doomed = false)
    (hl : ∀ h, usable h w'.trace = true → Located w.st g h → Located w'.st g' h) :
    Remembered w' g' := by
  refine ⟨fun h1 h2 h3 h h4 ↦ hl h h4 ?_, fun h1 h ↦ ?_⟩
  · exact hr.up (hdown ▸ h1) (hdoom h2) (NeverPutOff.append items (ht ▸ h3) hd) h (hu h h4)
  · by_contra hno
    have := hr.down (hdown ▸ h1) h
    rw [hu h (by simpa using hno)] at this
    cases this

theorem SlotMove.goesDown (hm : SlotMove i w w') :
    ∃ items, w'.trace = items ++ w.trace ∧ ∀ x ∈ items, goesDown x = false := by
  obtain ⟨items, ht, hi⟩ := hm.trace
  refine ⟨items, ht, fun x hx ↦ ?_⟩
  obtain ⟨y, hy⟩ := Option.isSome_iff_exists.1 (hi x hx)
  exact (frees_of_slotItem? hy).2.1

/-- Other slots keep their channels. -/
theorem SlotMove.located {g' : Ledger} (hm : SlotMove i w w')
    (hi : ∀ h, (w.st.channels.slots i).sshChannel = some h → usable h w'.trace = true →
      (w'.st.channels.slots i).sshChannel = some h)
    (hg : ∀ h ∈ g.all,
      h ∈ g'.all ∨ (w'.st.channels.slots i).sshChannel = some h)
    (hu : usable h w'.trace = true) (hl : Located w.st g h) : Located w'.st g' h := by
  rcases hl with ⟨j, hj⟩ | hmem
  · refine .inl ⟨j, ?_⟩
    by_cases hji : j = i
    · rw [hji] at hj ⊢
      exact hi h hj hu
    · exact (congrArg (·.ch.sshChannel) (hm.view_eq j hji)).trans hj
  · rcases hg h hmem with hmem | hslot
    · exact .inr hmem
    · exact .inl ⟨i, hslot⟩

/-- One entry that neither accepts nor frees. -/
theorem Remembered.cons {x : Item SSHTunnel Call Call.Reply Mark} (hr : Remembered w g)
    (ht : w'.trace = x :: w.trace) (hst : w'.st.channels = w.st.channels)
    (ha : accepts x = none) (hd : goesDown x = false) (hf : frees x = none) : Remembered w' g := by
  refine hr.same [x] ht (List.forall_mem_singleton.2 hd) (fun h hu ↦ ?_) rfl id fun h _ hl ↦ ?_
  · rw [ht, usable_cons_of_neutral (by simp [ha]) hd (by simp [hf])] at hu
    exact hu
  · rw [Located, hst]
    exact hl

/-- A change of the state alone. -/
theorem Remembered.update {f : SSHTunnel → SSHTunnel} (hr : Remembered w g)
    (hc : (f w.st).channels.slots = w.st.channels.slots) : Remembered (w.update f) g := by
  refine hr.same [] rfl (by simp) (fun _ hu ↦ hu) rfl id fun h _ hl ↦ ?_
  rw [Located, World.update_st, hc]
  exact hl

theorem Remembered.step {g' : Ledger} (hat : At p false g w) (hr : Remembered w g)
    (hs : TunnelStep p false (w, g) (w', g')) : Remembered w' g' := by
  cases hs with
  | calm hc =>
    obtain ⟨items, ht, hi⟩ := hc.trace
    refine hr.same items ht (fun x hx ↦ (neutral_of_isCalm (hi x hx)).2.1)
      (fun h hu ↦ (hc.usable h).symm.trans hu) rfl id fun h _ hl ↦ ?_
    rw [Located, hc.channels]
    exact hl
  | update hc hs => exact hr.update (congrArg _ hc)
  | breaker hc hs => exact hr.update (congrArg (·.slots) hc)
  | state hc hv => exact hr.update (congrArg _ hc)
  | mark hm => rcases hm with ⟨_, _, rfl, -⟩ | ⟨_, rfl⟩ | rfl <;> exact hr.cons rfl rfl rfl rfl rfl
  | returned ht hdown => exact hr.cons rfl rfl rfl rfl rfl
  | tornDown ht hmid hd => exact hr.cons rfl rfl rfl rfl rfl
  | close ht hdown hh => exact hr.cons rfl rfl rfl rfl rfl
  | connect ht hadm => exact hr.cons rfl rfl rfl rfl rfl
  | grab h hext => cases hext
  | @accept _ _ l t ht hdown hst =>
    refine ⟨fun _ hdoom hnever h hu ↦ ?_, fun hno ↦ ?_⟩
    · by_cases hh : w.serial = h
      · subst hh
        exact .inr (List.mem_append_right _ (List.mem_cons_self ..))
      · rw [World.after_trace, usable_cons_of_neutral (by simpa [accepts] using hh) rfl
          (by simp [frees])] at hu
        have hnever' : NeverPutOff w.trace :=
          NeverPutOff.append [_] hnever (List.forall_mem_singleton.2 rfl)
        refine (hr.up hdown hdoom hnever' h hu).imp_right fun hmem ↦ ?_
        rcases List.mem_append.1 hmem with hmem | hmem
        · exact List.mem_append_left _ hmem
        · exact List.mem_append_right _ (List.mem_cons_of_mem _ hmem)
    · rw [show g.down = false from hdown] at hno
      cases hno
  | shuffle hp =>
    refine hr.same [] rfl (by simp) (fun _ hu ↦ hu) rfl id fun h _ hl ↦ hl.imp_right fun hmem ↦ ?_
    exact hp.mem_iff.2 hmem
  | @free _ _ h hand rc t ht hdown hh =>
    refine ⟨fun _ hdoom hnever h' hu ↦ ?_, fun hno ↦ ?_⟩
    · -- a free that was not put off has made the channel unusable
      have hrc : rc ≠ errorEagain := by
        have := hnever.1 (.call w.serial t w.st (.sys (.channelFree h)) rc) (by
          rw [thisSession, World.after_trace, List.takeWhile_cons_of_pos rfl]
          exact List.mem_cons_self ..)
        simpa [freesLater] using this
      have hne : h ≠ h' := by
        rintro rfl
        rw [World.after_trace, usable, if_neg (fun hno ↦ (by cases hno)), if_pos (.inr (if_neg hrc))] at hu
        cases hu
      rw [World.after_trace, usable_cons_of_neutral (by simp [accepts]) rfl
        (by simpa [frees, hrc] using hne)] at hu
      have hnever' : NeverPutOff w.trace :=
        NeverPutOff.append [_] hnever (List.forall_mem_singleton.2 rfl)
      refine (hr.up hdown hdoom hnever' h' hu).imp_right fun hmem ↦ ?_
      rw [Ledger.all, hh, List.mem_append, List.mem_cons] at hmem
      rcases hmem with hmem | rfl | hmem
      · exact List.mem_append_left _ hmem
      · exact absurd rfl hne
      · exact List.mem_append_right _ hmem
    · rw [show g.down = false from hdown] at hno
      cases hno
  | lose hh hfull =>
    refine ⟨fun hdown hdoom hnever ↦ ?_, hr.down⟩
    obtain ⟨t, s, hmem, hcount⟩ := hfull.resolve_left (by simp)
    have := hnever.2 _ hmem
    simp [overflows, hcount] at this
  | @work _ _ _ i hi hdown hm hw hc =>
    obtain ⟨items, ht, hd⟩ := hm.goesDown
    obtain ⟨hu, -⟩ := hm.handles_work hw.ownLog
    exact hr.same items ht hd (fun h hu' ↦ (hu h).symm.trans hu') rfl id fun h hu' hl ↦
      hm.located (fun h' hh' _ ↦ hw.retains.sshChannel.trans hh') (fun h' hh' ↦ .inl hh') hu' hl
  | @bind _ _ _ i h hand fd okLocal okRemote n t t' hi hdown hh hm hact hfd ht ht' hv hok hcount
      harch =>
    obtain ⟨items, htr, hd⟩ := hm.goesDown
    obtain ⟨hu, -⟩ := hm.handles_bind hv
    have hslot : (w'.st.channels.slots i).sshChannel = some h := congrArg (·.ch.sshChannel) hv
    refine hr.same items htr hd (fun h hu' ↦ (hu h).symm.trans hu') rfl id fun h' hu' hl ↦
      hm.located (fun h'' hh'' _ ↦ ?_) (fun h'' hh'' ↦ ?_) hu' hl
    · rw [hat.sshChannel_eq_none hact] at hh''
      cases hh''
    · rw [Ledger.all, hh, List.mem_append, List.mem_cons] at hh''
      rcases hh'' with hmem | rfl | hmem
      · exact .inl (List.mem_append_left _ hmem)
      · exact .inr hslot
      · exact .inl (List.mem_append_right _ hmem)
  | @release _ _ _ i v h n n' t t' t'' rc progress hi hdown hm hw hact hh hdone ht ht' ht'' hv
      hcount harch =>
    obtain ⟨items, htr, hd⟩ := hm.goesDown
    obtain ⟨hu, hfreed, -⟩ := hm.handles_release hw hh hdone hv
    have hch : (w.st.channels.slots i).sshChannel = some h := hw.retains.sshChannel.symm.trans hh
    have hne : ∀ h', usable h' w'.trace = true → h' ≠ h := by
      rintro h' hu' rfl
      rw [hfreed] at hu'
      cases hu'
    refine hr.same items htr hd (fun h' hu' ↦ (hu h' (hne h' hu')).symm.trans hu') rfl id
      fun h' hu' hl ↦ hm.located (fun h'' hh'' hu'' ↦ ?_) (fun h'' hh'' ↦ .inl hh'') hu' hl
    exact absurd (Option.some.inj (hh''.symm.trans hch)) (hne h'' hu'')
  | @abandon _ _ _ i n t hi hm hact ht hv hcount harch =>
    -- a channel given up while the session is up has doomed it
    obtain ⟨hu, -⟩ := hm.handles_abandon hv
    refine ⟨fun hdown hdoom ↦ ?_, fun hdown h ↦ (hu h).trans (hr.down hdown h)⟩
    rw [show g.down = false from hdown] at hdoom
    simp at hdoom
  | goDown =>
    refine ⟨fun hno ↦ (by cases hno), fun _ h ↦ ?_⟩
    rw [World.marked_trace, usable, if_neg (fun hno ↦ (by cases hno)), if_pos (.inl rfl)]
  | forget hdown =>
    refine ⟨fun hno ↦ ?_, hr.down⟩
    rw [show g.down = true from hdown] at hno
    cases hno
  | comeUp hdown hv =>
    refine ⟨fun _ _ _ h hu ↦ ?_, fun hno ↦ (by cases hno)⟩
    rw [hr.down hdown h] at hu
    cases hu

theorem At.remembered (h : At p false g w) : Remembered w g := by
  suffices h : At p false g w ∧ Remembered w g from h.2
  refine h.invariant (I := fun x ↦ At p false x.2 x.1 ∧ Remembered x.1 x.2) (fun clock ↦ ?_) ?_
  · exact ⟨at_initial clock, fun _ _ _ h hu ↦ (by cases hu), nofun⟩
  · rintro ⟨w, g⟩ ⟨w', g'⟩ ⟨hat, hr⟩ hs
    exact ⟨hat.step hs, hr.step hat hs⟩

/-! ### The guarantee -/

/-- **No channel is forgotten** in a run in which no free and no deferred close was put off. -/
theorem none_forgotten (hw : TunnelRun p w) (hnever : NeverPutOff w.trace) : NoneForgotten p w := by
  obtain ⟨doomed, ⟨g, hat, ht, hhand, hdown, hdoom⟩, hext⟩ := hw.resting false
  intro h hu
  have hdoom' : g.doomed = false := hdoom.trans (hext rfl).1
  rcases hat.remembered.up hdown hdoom' hnever h hu with ⟨i, hi⟩ | hmem
  · refine .inl ⟨i, ?_, hi⟩
    by_contra hle
    rw [hat.sshChannel_eq_none (hat.inactive_of_le (Nat.le_of_not_lt hle))] at hi
    cases hi
  · refine .inr ?_
    rw [Ledger.all, hhand, List.append_nil] at hmem
    rw [ht.live]
    exact List.mem_map_of_mem hmem

/-! ### A channel that is forgotten -/

/-- One channel comes in, its local endpoint cannot be reached, and libssh2 is not ready to free the
channel as long as `busy` says so. -/
def refusingWorld (busy : Bool) : Env Call Call.Reply := worldWith 1 fun n c ↦
  match c with
  | .sys (.forwardAccept _) => some (decide (n < 40))
  | .sys (.localSocket _) => some false
  | .sys (.channelFree _) => if busy then some errorEagain else none
  | _ => none

/-- The tunnel connects and looks for channels once. -/
def refusingRun (busy : Bool) : TunnelWorld := afterTunnelOps (smallTunnel 1)
  [(.connectSSH, refusingWorld busy), (.loop, refusingWorld busy)]

theorem run_refusingRun (busy : Bool) : TunnelRun (smallTunnel 1) (refusingRun busy) :=
  tunnelRun_after _

theorem none_forgotten_refusingRun :
    NoneForgotten (smallTunnel 1) (refusingRun false) ∧
      (refusingRun false).trace.any (fun x ↦ frees x = some 26) = true :=
  ⟨none_forgotten (run_refusingRun false) (by decide +kernel), by decide +kernel⟩

/-- A channel that libssh2 was not ready to free is in no table, though nothing else has freed it. -/
theorem channel_forgotten : ¬∀ w, TunnelRun (smallTunnel 1) w → NoneForgotten (smallTunnel 1) w := by
  intro hall
  have hlost := hall _ (run_refusingRun true) 26 (by decide +kernel)
  exact absurd hlost (by decide +kernel)

end ReverseTunnel
