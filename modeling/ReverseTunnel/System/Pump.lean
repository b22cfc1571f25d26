import ReverseTunnel.System.Channels

/-!
# The pump takes steps

The phases of `pumpAll` over all slots. Each visit of a slot is work on that slot, which the others
see as time passing; phase 4 first picks slots by what it sees and then acts on them, so what it saw
has to be carried past the visits in between (`Picked`).
-/

namespace ReverseTunnel

open Traced Clock32 TunnelM

variable {p : Params} {ext : Bool} {g g' : Ledger} {w w₀ w' : TunnelWorld} {i : ℕ}

/-- From `w₀` to `w` only what a pump cycle may do has happened. A slot it gave up has left the
degradation flag set. -/
def Pumped (p : Params) (ext : Bool) (g : Ledger) (w₀ w : TunnelWorld) : Prop :=
  ∃ doomed, (doomed = true → g.doomed = true ∨ w.st.transport.sessionDegraded = true) ∧
    At p ext { g with doomed } w ∧ Subsides p ext w₀ w

theorem At.pumped (h : At p ext g w) : Pumped p ext g w w :=
  ⟨g.doomed, .inl, h, Subsides.refl w⟩

/-- A piece of pump work that gives up nothing. -/
theorem Pumped.wp {α : Type} {m : TunnelM α} {P : α → TunnelWorld → Prop}
    (h : Pumped p ext g w₀ w) (hdown : g.down = false)
    (hm : ∀ g', g'.down = false → At p ext g' w →
      wp m (fun a w' ↦ (At p ext g' w' ∧ Subsides p ext w w') ∧ P a w') w) :
    wp m (fun a w' ↦ Pumped p ext g w₀ w' ∧ P a w') w := by
  obtain ⟨doomed, hdoom, hat, hsub⟩ := h
  refine wp_mono (hm { g with doomed } hdown hat) fun a w' ⟨⟨hat', hsub'⟩, hP⟩ ↦ ?_
  refine ⟨⟨doomed, fun hd ↦ ?_, hat', hsub.trans hsub'⟩, hP⟩
  exact (hdoom hd).imp_right hsub'.sessionDegraded

theorem Pumped.wp_calm {α : Type} {m : TunnelM α} (h : Pumped p ext g w₀ w)
    (hdown : g.down = false) (hm : Calm m) :
    Traced.wp m (fun _ w' ↦ Pumped p ext g w₀ w' ∧ Calms w w') w :=
  h.wp hdown fun _ _ hat ↦ wp_mono (ReverseTunnel.wp_calm hm hat) fun _ _ hc ↦
    ⟨⟨hc.1, hc.2.subsides⟩, hc.2⟩

/-- A note that is true. -/
theorem Pumped.note {n : Note} (h : Pumped p ext g w₀ w) (hn : n.says w.st) :
    Pumped p ext g w₀ (w.marked (.note n)) := by
  obtain ⟨doomed, hdoom, hat, hsub⟩ := h
  have hc : Calms w (w.marked (.note n)) := .note hn
  exact ⟨doomed, hdoom, hat.calm hc, hsub.trans hc.subsides⟩

theorem Pumped.sound (h : Pumped p ext g w₀ w) (i : ℕ) : Sound p (slotView i w) := by
  obtain ⟨doomed, -, hat, -⟩ := h
  exact hat.sound i

/-- Pump work on one slot. -/
theorem Pumped.wp_onSlot {α : Type} {m : SlotM α} (h : Pumped p ext g w₀ w)
    (hdown : g.down = false) (hi : i < p.maxSlots)
    (hm : Traced.wp m (fun _ l ↦ Pumps p ext (view (slotLog i w.trace) (slotWorld i w))
      (view (slotLog i w.trace) l)) (slotWorld i w)) :
    Traced.wp (onSlot i m) (fun _ w' ↦ Pumped p ext g w₀ w' ∧ Spares i w w' ∧
      Keeps (w.st.channels.slots i) (w'.st.channels.slots i)) w := by
  refine h.wp hdown fun g' hdown' hat ↦ ?_
  refine wp_mono (wp_onSlot_works (P := fun _ v ↦ Keeps (slotView i w).ch v.ch) hat hdown' hi
    (wp_mono hm fun _ _ hl ↦ ⟨hl.works, hl.keeps⟩)) ?_
  rintro a w' ⟨hat', hsub, hmove, -, hkeeps⟩
  exact ⟨⟨hat', hsub⟩, hmove.toSpares, hkeeps⟩

theorem lt_of_mem_roundRobin {offset : UInt32} (h : i ∈ roundRobin p offset) : i < p.maxSlots := by
  obtain ⟨n, hn, rfl⟩ := List.mem_map.1 h
  have := List.mem_range.1 hn
  exact Nat.mod_lt _ (by omega)

/-! ### Phase 1 -/

theorem wp_pumpFallback (h : Pumped p ext g w₀ w) (hdown : g.down = false) :
    wp (pumpFallback p) (fun _ w' ↦ Pumped p ext g w₀ w') w := by
  rw [pumpFallback, wp_get_bind]
  dsimp only
  split
  · exact wp_pure h
  · next i hfound =>
    have hi := List.mem_range.1 (List.mem_of_find?_eq_some hfound)
    have hcond := List.find?_some hfound
    simp only [Bool.and_eq_true] at hcond
    split
    · exact wp_pure h
    · next hd hh =>
      exact wp_mono (h.wp_onSlot hdown hi (wp_pumpRead p ext (slotLog i w.trace) hcond.1.1 hh
        hcond.2)) fun _ _ h' ↦ h'.1

/-- Phase 1 on one slot leaves the valve towards the local side in order. -/
theorem Pumped.wp_pumpSlot_flows (h : Pumped p ext g w₀ w)
    (hserved : ((w.st.channels.slots i).active && (w.st.channels.slots i).sshChannel.isSome &&
      !(w.st.channels.slots i).remoteEof) = true) :
    Traced.wp (onSlot i (pumpSlot p))
      (fun _ w' ↦ (w'.st.channels.slots i).inlet.Flows False) w := by
  rw [Bool.and_eq_true, Bool.and_eq_true, Bool.not_eq_true'] at hserved
  obtain ⟨⟨hact, hh⟩, heof⟩ := hserved
  obtain ⟨d, hd⟩ := Option.isSome_iff_exists.1 hh
  have hsound := h.sound i
  obtain ⟨b, hb⟩ := Option.isSome_iff_exists.1 (hsound.alive hact).toLocal
  have hcap : 8192 ≤ b.capacity := by
    rw [(hsound.shapedLocal b hb).capacity]
    exact p.ringBufferSize_ge
  exact wp_onSlot_ch (P := fun _ ch ↦ ch.inlet.Flows False)
    (ReverseTunnel.wp_pumpSlot_flows hact hd heof hb hcap)

theorem wp_pumpSshSlot (h : Pumped p ext g w₀ w) (hdown : g.down = false) (hi : i < p.maxSlots) :
    wp (pumpSshSlot p i) (fun _ w' ↦ Pumped p ext g w₀ w') w := by
  rw [pumpSshSlot, wp_getSlot_bind]
  have hpump := h.wp_onSlot hdown hi (m := pumpSlot p) wp_pumpSlot
  rcases hserved : ((w.st.channels.slots i).active && (w.st.channels.slots i).sshChannel.isSome &&
    !(w.st.channels.slots i).remoteEof) with - | -
  · exact wp_bind (wp_mono hpump fun _ w₁ h₁ ↦ wp_bind (wp_pure (wp_pure h₁.1)))
  · refine wp_bind (wp_mono (wp_and hpump (h.wp_pumpSlot_flows hserved)) ?_)
    rintro _ w₁ ⟨⟨h₁, -, -⟩, hflows⟩
    exact wp_bind (wp_mark (wp_pure (h₁.note hflows)))

theorem wp_pumpSshTransport (h : Pumped p ext g w₀ w) (hdown : g.down = false) :
    wp (pumpSshTransport p) (fun _ w' ↦ Pumped p ext g w₀ w') w := by
  refine wp_bind (wp_mono (h.wp_calm hdown (calm_lock 50)) fun locked w₁ h₁ ↦ ?_)
  refine wp_ite (fun _ ↦ wp_pure h₁.1) fun _ ↦ ?_
  rw [wp_get_bind]
  have hround := Preserves.fold (I := Pumped p ext g w₀)
    (l := roundRobin p w₁.st.transport.roundRobinOffset) (a := false)
    (f := fun any i ↦ do
      let readDone ← pumpSshSlot p i
      pure (any || readDone)) fun any i hi u hu ↦
    wp_bind (wp_mono (wp_pumpSshSlot hu hdown (lt_of_mem_roundRobin hi)) fun _ _ h' ↦ wp_pure h')
  refine wp_bind (wp_mono (hround w₁ h₁.1) fun any w₂ h₂ ↦ ?_)
  refine wp_bind (wp_mono (wp_when (fun _ ↦ wp_pumpFallback h₂ hdown) fun _ ↦ h₂) fun _ w₃ h₃ ↦ ?_)
  exact wp_mono (h₃.wp_calm hdown calm_unlock) fun _ _ h' ↦ h'.1

/-! ### Phases 2 and 3 -/

theorem wp_drainSshToLocal (h : Pumped p ext g w₀ w) (hdown : g.down = false) :
    wp (drainSshToLocal p) (fun _ w' ↦ Pumped p ext g w₀ w') w := by
  rw [drainSshToLocal, wp_get_bind]
  exact Preserves.each (fun i hi u hu ↦ wp_mono (hu.wp_onSlot hdown (lt_of_mem_roundRobin hi)
    (wp_drainSlot (hu.sound i))) fun _ _ h' ↦ h'.1) w h

/-- Draining one slot to SSH does not stop the slot from being received for. -/
theorem wp_drainToRemote (h : Pumped p ext g w₀ w) (hdown : g.down = false) (hi : i < p.maxSlots)
    (hact : (w.st.channels.slots i).active = true) (heof : (w.st.channels.slots i).eofSentMs = 0) :
    wp (drainToRemote p i) (fun _ w' ↦ Pumped p ext g w₀ w' ∧
      Keeps (w.st.channels.slots i) (w'.st.channels.slots i)) w := by
  rw [drainToRemote]
  refine wp_bind (wp_mono (h.wp_calm hdown (calm_lock 20)) fun locked w₁ ⟨h₁, hc₁⟩ ↦ ?_)
  have hsame₁ : w₁.st.channels = w.st.channels := hc₁.channels
  refine wp_ite (fun _ ↦ ?_) fun _ ↦ wp_pure ⟨h₁, hsame₁ ▸ Keeps.refl _⟩
  rw [← hsame₁] at hact heof ⊢
  refine wp_bind (wp_mono (h₁.wp_onSlot hdown hi (wp_writeChunks (h₁.sound i) hact heof))
    fun _ w₂ ⟨h₂, _, hk₂⟩ ↦ ?_)
  refine wp_bind (wp_mono (h₂.wp_calm hdown calm_unlock) fun _ w₃ ⟨h₃, hc₃⟩ ↦ ?_)
  have hact₃ : (w₃.st.channels.slots i).active = true := by
    rw [hc₃.channels]
    exact hk₂.active.trans hact
  refine wp_mono (h₃.wp_onSlot hdown hi (wp_checkWriteStall (h₃.sound i) hact₃)) ?_
  rintro _ w₄ ⟨h₄, -, hk₄⟩
  rw [hc₃.channels] at hk₄
  exact ⟨h₄, hk₂.trans hk₄⟩

/-- Receiving for one slot leaves the valve towards the remote side in order. -/
theorem Pumped.wp_recvChunks_flows {b : DataRingBuffer} (h : Pumped p ext g w₀ w)
    (hact : (w.st.channels.slots i).active = true)
    (hb : (w.st.channels.slots i).toRemote = some b)
    (heof : (w.st.channels.slots i).eofSentMs = 0)
    (hladen : (w.st.channels.slots i).localReadPaused = true → b.Laden) :
    Traced.wp (onSlot i (recvChunks p)) (fun _ w' ↦
      (w'.st.channels.slots i).outlet.Flows ((w'.st.channels.slots i).localEof = true)) w := by
  have hsound := h.sound i
  have hcap : 8192 ≤ b.capacity := by
    rw [(hsound.shapedRemote b hb).capacity]
    exact p.ringBufferSize_ge
  exact wp_onSlot_ch (P := fun _ ch ↦ ch.outlet.Flows (ch.localEof = true))
    (ReverseTunnel.wp_recvChunks_flows hb hcap (hsound.alive hact).localSocket heof hladen)

theorem wp_drainLocalSlot (h : Pumped p ext g w₀ w) (hdown : g.down = false)
    (hi : i < p.maxSlots) : wp (drainLocalSlot p i) (fun _ w' ↦ Pumped p ext g w₀ w') w := by
  rw [drainLocalSlot, wp_getSlot_bind]
  refine wp_ite (fun _ ↦ wp_pure h) fun hcond ↦ wp_ite (fun _ ↦ wp_pure h) fun hsent ↦ ?_
  have hact : (w.st.channels.slots i).active = true := by
    by_contra hne
    simp [hne] at hcond
  have heof : (w.st.channels.slots i).eofSentMs = 0 := by
    rw [← UInt32.toNat_inj]
    rw [gt_iff_lt, UInt32.lt_iff_toNat_lt] at hsent
    simpa using hsent
  refine wp_bind (wp_mono (wp_when (Q := fun _ w' ↦ Pumped p ext g w₀ w' ∧
    Keeps (w.st.channels.slots i) (w'.st.channels.slots i))
    (fun _ ↦ wp_drainToRemote h hdown hi hact heof) fun _ ↦ ⟨h, Keeps.refl _⟩) ?_)
  rintro _ w₁ ⟨h₁, hk₁⟩
  have hact₁ := hk₁.active.trans hact
  obtain ⟨b, hb⟩ := Option.isSome_iff_exists.1 ((h₁.sound i).alive hact₁).toRemote
  -- the flag is brought in line with the load before anything comes in
  refine wp_bind (wp_mono (wp_and (h₁.wp_onSlot hdown hi (wp_localBackpressure hact₁))
    (wp_onSlot_ch (P := fun _ ch ↦
      ch = { w₁.st.channels.slots i with localReadPaused := ch.localReadPaused } ∧
        (ch.localReadPaused = true → b.Laden)) (wp_localBackpressure_laden hb))) ?_)
  rintro _ w₂ ⟨⟨h₂, -, hk₂⟩, hch, hladen⟩
  have hk := hk₁.trans hk₂
  have hact₂ := hk.active.trans hact
  have hb₂ : (w₂.st.channels.slots i).toRemote = some b := by
    rw [hch]
    exact hb
  have hflows := h₂.wp_recvChunks_flows hact₂ hb₂ (hk.eofSentMs.trans heof) hladen
  refine wp_bind (wp_mono (wp_and (h₂.wp_onSlot hdown hi (wp_recvChunks (h₂.sound i) hact₂))
    hflows) ?_)
  rintro _ w₃ ⟨⟨h₃, -, -⟩, hnote⟩
  exact wp_mark (h₃.note hnote)

theorem wp_drainLocalToSsh (h : Pumped p ext g w₀ w) (hdown : g.down = false) :
    wp (drainLocalToSsh p) (fun _ w' ↦ Pumped p ext g w₀ w') w := by
  rw [drainLocalToSsh]
  refine wp_ite (fun _ ↦ wp_pure h) fun _ ↦ ?_
  rw [wp_get_bind]
  have hround := Preserves.each (I := Pumped p ext g w₀)
    (l := roundRobin p w.st.transport.roundRobinOffset) (f := drainLocalSlot p) fun i hi u hu ↦
    wp_drainLocalSlot hu hdown (lt_of_mem_roundRobin hi)
  refine wp_bind (wp_mono (hround w h) fun _ w₁ h₁ ↦ ?_)
  exact wp_mono (h₁.wp_calm hdown (calm_modifyTransport fun _ ↦ rfl)) fun _ _ h' ↦ h'.1

/-! ### Phase 4 -/

theorem View.Settled.wait {v : View} {τ t : ℕ} (h : v.Settled τ) (ht : v.clock ≤ t) :
    (v.wait t).Settled τ :=
  ⟨Nat.le_trans h.le_clock ht, h.boundary_le⟩

/-- The slot may be sent an EOF. -/
structure EofReady (ch : ChannelSlot) : Prop where
  /-- It is in use. -/
  active : ch.active = true
  /-- It is draining. -/
  state : ch.state = .draining
  /-- It has not been sent an EOF. -/
  eofSentMs : ch.eofSentMs = 0
  /-- Nothing is left for the local side. -/
  toLocal : held ch.toLocal = []
  /-- Nothing is left for the remote side. -/
  toRemote : held ch.toRemote = []

/-- The slot is to be finalized, by a reading at time `τ`. -/
structure CloseReady (τ : ℕ) (v : View) : Prop where
  /-- It is in use. -/
  active : v.ch.active = true
  /-- It is draining. -/
  state : v.ch.state = .draining
  /-- Nothing has been done since. -/
  settled : v.Settled τ
  /-- The decision. -/
  verdict : verdict v.ch (stamp τ) = .close

/-- What `checkCloses` knows after it has looked at some slots: about those it has picked, and that
the ones still to be looked at have been left alone since its reading at time `τ`. -/
structure Picked (p : Params) (τ : ℕ) (picks : Picks) (rest : List ℕ) (w : TunnelWorld) : Prop where
  /-- No slot is there twice. -/
  nodup : (picks.toSendEof ++ picks.toClose ++ rest).Nodup
  /-- All are in range. -/
  lt : ∀ j ∈ picks.toSendEof ++ picks.toClose ++ rest, j < p.maxSlots
  /-- Those that get an EOF. -/
  sendEof : ∀ j ∈ picks.toSendEof, EofReady (w.st.channels.slots j)
  /-- Those that are finalized. -/
  close : ∀ j ∈ picks.toClose, CloseReady τ (slotView j w)
  /-- Those still to come. -/
  rest : ∀ j ∈ rest, (slotView j w).Settled τ

namespace Picked

variable {τ : ℕ} {picks : Picks} {rest : List ℕ}

/-- Work on a slot that is not among them. -/
theorem spare (h : Picked p τ picks rest w) (hs : Spares i w w')
    (hi : i ∉ picks.toSendEof ++ picks.toClose ++ rest) : Picked p τ picks rest w' := by
  have hview : ∀ j ∈ picks.toSendEof ++ picks.toClose ++ rest,
      slotView j w' = (slotView j w).wait w'.clock := fun j hj ↦
    hs.view_eq j fun hji ↦ hi (hji ▸ hj)
  refine ⟨h.nodup, h.lt, fun j hj ↦ ?_, fun j hj ↦ ?_, fun j hj ↦ ?_⟩
  · have hch : w'.st.channels.slots j = w.st.channels.slots j :=
      congrArg (·.ch) (hview j (by simp [hj]))
    rw [hch]
    exact h.sendEof j hj
  · rw [hview j (by simp [hj])]
    obtain ⟨h1, h2, h3, h4⟩ := h.close j hj
    exact ⟨h1, h2, h3.wait hs.clock_le, h4⟩
  · rw [hview j (by simp [hj])]
    exact (h.rest j hj).wait hs.clock_le

/-- A change that no slot sees. -/
theorem calm (h : Picked p τ picks rest w) (hc : Calms w w') : Picked p τ picks rest w' := by
  refine ⟨h.nodup, h.lt, fun j hj ↦ ?_, fun j hj ↦ ?_, fun j hj ↦ ?_⟩
  · rw [hc.channels]
    exact h.sendEof j hj
  · rw [hc.view_eq j]
    obtain ⟨h1, h2, h3, h4⟩ := h.close j hj
    exact ⟨h1, h2, h3.wait hc.clock_le, h4⟩
  · rw [hc.view_eq j]
    exact (h.rest j hj).wait hc.clock_le

/-- Fewer of them. -/
theorem sub {picks' : Picks} {rest' : List ℕ} (h : Picked p τ picks rest w)
    (h1 : picks'.toSendEof.Sublist picks.toSendEof) (h2 : picks'.toClose.Sublist picks.toClose)
    (h3 : rest'.Sublist rest) : Picked p τ picks' rest' w :=
  have hsub := (h1.append h2).append h3
  ⟨h.nodup.sublist hsub, fun j hj ↦ h.lt j (hsub.subset hj),
    fun j hj ↦ h.sendEof j (h1.subset hj), fun j hj ↦ h.close j (h2.subset hj),
    fun j hj ↦ h.rest j (h3.subset hj)⟩

/-- The first of those still to come is not among the others. -/
theorem not_mem (h : Picked p τ picks (i :: rest) w) :
    i ∉ picks.toSendEof ++ picks.toClose ++ rest := by
  have hperm : (picks.toSendEof ++ picks.toClose ++ i :: rest).Perm
      (i :: (picks.toSendEof ++ picks.toClose ++ rest)) := List.perm_middle
  exact (List.nodup_cons.1 (hperm.nodup_iff.1 h.nodup)).1

/-- The first of those still to come is picked for an EOF. -/
theorem pickEof (h : Picked p τ picks (i :: rest) w) (hi : EofReady (w.st.channels.slots i)) :
    Picked p τ { picks with toSendEof := picks.toSendEof ++ [i] } rest w := by
  have hperm : (picks.toSendEof ++ [i] ++ picks.toClose ++ rest).Perm
      (picks.toSendEof ++ picks.toClose ++ i :: rest) := by
    simp only [List.append_assoc, List.singleton_append]
    exact List.Perm.append_left _ List.perm_middle.symm
  refine ⟨hperm.nodup_iff.2 h.nodup, fun j hj ↦ h.lt j (hperm.subset hj), fun j hj ↦ ?_, h.close,
    fun j hj ↦ h.rest j (List.mem_cons_of_mem _ hj)⟩
  rcases List.mem_append.1 hj with hj | hj
  · exact h.sendEof j hj
  · rw [List.mem_singleton.1 hj]
    exact hi

/-- The first of those still to come is picked for finalizing. -/
theorem pickClose (h : Picked p τ picks (i :: rest) w) (hi : CloseReady τ (slotView i w)) :
    Picked p τ { picks with toClose := picks.toClose ++ [i] } rest w := by
  have hperm : (picks.toSendEof ++ (picks.toClose ++ [i]) ++ rest).Perm
      (picks.toSendEof ++ picks.toClose ++ i :: rest) := by
    simp only [List.append_assoc, List.singleton_append]
    exact List.Perm.refl _
  refine ⟨hperm.nodup_iff.2 h.nodup, fun j hj ↦ h.lt j (hperm.subset hj), h.sendEof, fun j hj ↦ ?_,
    fun j hj ↦ h.rest j (List.mem_cons_of_mem _ hj)⟩
  rcases List.mem_append.1 hj with hj | hj
  · exact h.close j hj
  · rw [List.mem_singleton.1 hj]
    exact hi

theorem tail (h : Picked p τ picks (i :: rest) w) : Picked p τ picks rest w :=
  h.sub (List.Sublist.refl _) (List.Sublist.refl _) (List.sublist_cons_self i rest)

end Picked

/-- A fresh reading of the clock. -/
theorem Pumped.picked (h : Pumped p ext g w₀ w) :
    Picked p w.clock {} (List.range p.maxSlots) w :=
  ⟨List.nodup_range, fun _ hj ↦ List.mem_range.1 hj, fun _ hj ↦ (by cases hj),
    fun _ hj ↦ (by cases hj), fun j _ ↦ (h.sound j).settled⟩

/-- The loop invariant of phase 4. -/
def Checking (p : Params) (ext : Bool) (g : Ledger) (w₀ : TunnelWorld) (τ : ℕ) (picks : Picks)
    (rest : List ℕ) (w : TunnelWorld) : Prop :=
  Pumped p ext g w₀ w ∧ Picked p τ picks rest w

variable {τ : ℕ} {picks : Picks} {rest : List ℕ}

theorem Pumped.checking (h : Pumped p ext g w₀ w) :
    Checking p ext g w₀ w.clock {} (List.range p.maxSlots) w := ⟨h, h.picked⟩

theorem triple_checkSlot (hdown : g.down = false) :
    Triple (Checking p ext g w₀ τ picks (i :: rest)) (onSlot i (checkSlot p (stamp τ)))
      fun _ ↦ Checking p ext g w₀ τ picks rest := by
  rintro w ⟨h, hp⟩
  refine wp_mono (h.wp_onSlot hdown (hp.lt i (by simp)) (wp_checkSlot (hp.rest i (by simp)))) ?_
  rintro _ w' ⟨h', hs, -⟩
  exact ⟨h', hp.tail.spare hs hp.not_mem⟩

/-- What the verdicts rest on. -/
theorem eofReady_of_verdict {ch : ChannelSlot} {now : UInt32} (hact : ch.active = true)
    (hst : ch.state = .draining) (h : verdict ch now = .sendEof) : EofReady ch := by
  rw [verdict] at h
  split at h
  · cases h
  split at h
  · cases h
  split at h
  · cases h
  split at h
  · next hempty =>
    rw [Bool.and_eq_true, ringEmpty_iff, ringEmpty_iff] at hempty
    split at h
    · next heof => exact ⟨hact, hst, heof, hempty.1, hempty.2⟩
    · split at h <;> cases h
  · cases h

theorem calm_pushCloseEvent (i : ℕ) (reason : ChannelCloseReason) :
    Calm (pushCloseEvent i reason) :=
  calm_modifyTransport fun t ↦ by split <;> rfl

/-- A slot past the hard deadline is given up, and the session is reported for it. -/
theorem wp_giveUp {reason : ChannelCloseReason} (h : Pumped p ext g w₀ w) :
    wp (do
        Prog.mark (.note (.abandoning i))
        abandonSlot p i reason
        modifyTransport fun t ↦ { t with sessionDegraded := true }
        pushCloseEvent i reason
        pure picks) (fun picks' w' ↦ picks' = picks ∧ Pumped p ext g w₀ w' ∧ Spares i w w') w := by
  obtain ⟨doomed, -, hat, hsub⟩ := h
  refine wp_bind (wp_mono (ReverseTunnel.wp_calm (calm_note fun _ ↦ trivial) hat)
    fun _ w₀' ⟨hat', hc₀⟩ ↦ ?_)
  refine wp_bind (wp_mono (wp_abandonSlot hat') ?_)
  rintro _ w₁ ⟨⟨doomed₁, -, hat₁⟩, hrel₁, -⟩
  rw [modifyTransport, wp_modify_bind]
  have hstep := hat₁.step (.update (f := fun s ↦
    { s with transport := { s.transport with sessionDegraded := true } }) rfl rfl)
  refine wp_bind (wp_mono (ReverseTunnel.wp_calm (calm_pushCloseEvent i reason) hstep)
    fun _ w₂ hc ↦ wp_pure ?_)
  have hdeg : w₂.st.transport.sessionDegraded = true := hc.2.sessionDegraded
  have hsub₂ : Subsides p ext w₁ w₂ := by
    have hsub' : Subsides p ext _ w₂ := hc.2.subsides
    exact ⟨⟨hsub'.state, hsub'.pending, hsub'.deferredClose, fun _ ↦ hdeg⟩, hsub'.views,
      hsub'.trace⟩
  have hspares : Spares i w w₀' := ⟨hc₀.clock_le, fun j _ ↦ hc₀.view_eq j⟩
  exact ⟨rfl, ⟨doomed₁, fun _ ↦ .inr hdeg, hc.1,
      ((hsub.trans hc₀.subsides).trans hrel₁.toSubsides).trans hsub₂⟩,
    (hspares.trans hrel₁.spares).trans ⟨hc.2.clock_le, fun j _ ↦ hc.2.view_eq j⟩⟩

theorem triple_scanSlot :
    Triple (Checking p ext g w₀ τ picks (i :: rest)) (scanSlot p (stamp τ) picks i)
      fun picks' ↦ Checking p ext g w₀ τ picks' rest := by
  rintro w ⟨h, hp⟩
  rw [scanSlot, wp_getSlot_bind]
  refine wp_ite (fun _ ↦ wp_pure ⟨h, hp.tail⟩) fun hcond ↦ ?_
  simp only [Bool.or_eq_true, not_or, decide_eq_true_eq, Bool.not_eq_true', Bool.not_eq_false,
    ne_eq, not_not] at hcond
  obtain ⟨hact, hst⟩ := hcond
  rcases hv : verdict (w.st.channels.slots i) (stamp τ) with - | - | - | -
  · refine wp_mono (wp_giveUp h) ?_
    rintro _ w' ⟨rfl, h', hs⟩
    exact ⟨h', hp.tail.spare hs hp.not_mem⟩
  · refine wp_pure ⟨h, ?_⟩
    rw [pushPick]
    split
    · exact hp.pickClose ⟨hact, hst, hp.rest i (by simp), hv⟩
    · exact hp.tail
  · refine wp_pure ⟨h, ?_⟩
    rw [pushPick]
    split
    · exact hp.pickEof (eofReady_of_verdict hact hst hv)
    · exact hp.tail
  · exact wp_pure ⟨h, hp.tail⟩

theorem triple_sendEofSlot {toClose : List ℕ} (hdown : g.down = false) :
    Triple (Checking p ext g w₀ τ ⟨i :: rest, toClose⟩ []) (onSlot i sendEofSlot)
      fun _ ↦ Checking p ext g w₀ τ ⟨rest, toClose⟩ [] := by
  rintro w ⟨h, hp⟩
  obtain ⟨hact, hst, heof, hl, hr⟩ := hp.sendEof i (by simp)
  have hsound := h.sound i
  have hi : i < p.maxSlots := hp.lt i (by simp)
  have hwork := h.wp (m := onSlot i sendEofSlot) (P := fun _ w' ↦ Spares i w w') hdown
    fun g' hdown' hat ↦ wp_mono (wp_onSlot_works (P := fun _ _ ↦ True) hat hdown' hi
      (wp_mono (wp_sendEofSlot (slotLog i w.trace) (l := slotWorld i w) hsound hact hst heof hl hr)
        fun _ _ hl ↦ ⟨hl, trivial⟩)) fun _ _ h' ↦ ⟨⟨h'.1, h'.2.1⟩, h'.2.2.1.toSpares⟩
  refine wp_mono hwork fun _ w' ⟨h', hs⟩ ↦ ⟨h', ?_⟩
  have hsub : Picked p τ ⟨rest, toClose⟩ [] w :=
    hp.sub (List.sublist_cons_self i rest) (List.Sublist.refl _) (List.Sublist.refl _)
  refine hsub.spare hs ?_
  have hnodup := hp.nodup
  simp only [List.append_nil, List.cons_append, List.nodup_cons] at hnodup ⊢
  exact hnodup.1

theorem wp_sendEofs {toClose : List ℕ} (h : Checking p ext g w₀ τ ⟨rest, toClose⟩ [] w)
    (hdown : g.down = false) :
    wp (sendEofs rest) (fun _ w' ↦ Checking p ext g w₀ τ ⟨[], toClose⟩ [] w') w := by
  have hskip : ∀ {u}, Checking p ext g w₀ τ ⟨rest, toClose⟩ [] u →
      Checking p ext g w₀ τ ⟨[], toClose⟩ [] u := fun hu ↦
    ⟨hu.1, hu.2.sub (List.nil_sublist _) (List.Sublist.refl _) (List.Sublist.refl _)⟩
  rw [sendEofs]
  refine wp_ite (fun _ ↦ ?_) fun _ ↦ wp_pure (hskip h)
  refine wp_bind (wp_mono (h.1.wp_calm hdown (calm_lock 100)) fun locked w₁ ⟨h₁, hc₁⟩ ↦ ?_)
  have hcheck₁ : Checking p ext g w₀ τ ⟨rest, toClose⟩ [] w₁ := ⟨h₁, h.2.calm hc₁⟩
  refine wp_ite (fun _ ↦ ?_) fun _ ↦ wp_pure (hskip hcheck₁)
  have hround := Triple.each (l := rest) (f := fun i ↦ onSlot i sendEofSlot)
    (I := fun l ↦ Checking p ext g w₀ τ ⟨l, toClose⟩ []) fun i l' _ ↦ triple_sendEofSlot hdown
  refine wp_bind (wp_mono (hround w₁ hcheck₁) fun _ w₂ h₂ ↦ ?_)
  exact wp_mono (h₂.1.wp_calm hdown calm_unlock) fun _ w₃ h' ↦ ⟨h'.1, h₂.2.calm h'.2⟩

theorem triple_finalizePick (hdown : g.down = false) :
    Triple (Checking p ext g w₀ τ ⟨[], i :: rest⟩ []) (finalizePick p (stamp τ) i)
      fun _ ↦ Checking p ext g w₀ τ ⟨[], rest⟩ [] := by
  rintro w ⟨h, hp⟩
  obtain ⟨hact, hst, hτ, hv⟩ := hp.close i (by simp)
  have hi : i < p.maxSlots := hp.lt i (by simp)
  have hpicked : ∀ {u}, Spares i w u → Picked p τ ⟨[], rest⟩ [] u := by
    intro u hs
    have hsub : Picked p τ ⟨[], rest⟩ [] w :=
      hp.sub (List.Sublist.refl _) (List.sublist_cons_self i rest) (List.Sublist.refl _)
    refine hsub.spare hs ?_
    have hnodup := hp.nodup
    simp only [List.append_nil, List.nil_append, List.nodup_cons] at hnodup ⊢
    exact hnodup.1
  rw [finalizePick, wp_getSlot_bind]
  have hmark := h.wp (m := onSlot i (Prog.mark (.finalizing (stamp τ))))
    (P := fun _ w' ↦ Spares i w w') hdown fun g' hdown' hat ↦
      wp_mono (wp_onSlot_works (P := fun _ _ ↦ True) hat hdown' hi
        (wp_mark ⟨.single (.finalizing hact hst hτ hv), trivial⟩)) fun _ _ h' ↦
          ⟨⟨h'.1, h'.2.1⟩, h'.2.2.1.toSpares⟩
  refine wp_bind (wp_mono hmark fun _ w₁ ⟨h₁, hs₁⟩ ↦ ?_)
  have hfin := h₁.wp (m := finalizeClose p i) (P := fun _ w' ↦ Spares i w₁ w') hdown
    fun g' hdown' hat ↦ wp_mono (wp_finalizeClose hat hdown') fun _ _ h' ↦
      ⟨⟨h'.1, h'.2.1.toSubsides⟩, h'.2.1.spares⟩
  refine wp_bind (wp_mono hfin fun done w₂ ⟨h₂, hs₂⟩ ↦ ?_)
  have hs := hs₁.trans hs₂
  refine wp_when (fun _ ↦ ?_) fun _ ↦ ⟨h₂, hpicked hs⟩
  exact wp_mono (h₂.wp_calm hdown (calm_pushCloseEvent _ _)) fun _ w₃ h' ↦
    ⟨h'.1, (hpicked hs).calm h'.2⟩

theorem wp_finalizePicks (h : Checking p ext g w₀ τ ⟨[], rest⟩ [] w) (hdown : g.down = false) :
    wp (finalizePicks p (stamp τ) rest) (fun _ w' ↦ Pumped p ext g w₀ w') w := by
  rw [finalizePicks]
  refine wp_ite (fun _ ↦ ?_) fun _ ↦ wp_pure h.1
  refine wp_bind (wp_mono (h.1.wp_calm hdown (calm_lock 200)) fun locked w₁ ⟨h₁, hc₁⟩ ↦ ?_)
  refine wp_ite (fun _ ↦ ?_) fun _ ↦ wp_pure h₁
  have hround := Triple.each (l := rest) (f := finalizePick p (stamp τ))
    (I := fun l ↦ Checking p ext g w₀ τ ⟨[], l⟩ []) fun i l' _ ↦ triple_finalizePick hdown
  refine wp_bind (wp_mono (hround w₁ ⟨h₁, h.2.calm hc₁⟩) fun _ w₂ h₂ ↦ ?_)
  exact wp_mono (h₂.1.wp_calm hdown calm_unlock) fun _ _ h' ↦ h'.1

theorem wp_millis_tunnel {α : Type} {f : UInt32 → TunnelM α}
    {Q : α → Assertion SSHTunnel Call Call.Reply Mark}
    (h : ∀ t, w.clock ≤ t → wp (f (stamp t)) Q (w.wait t)) : wp (millis >>= f) Q w := by
  rw [millis, wp_bind_assoc]
  refine wp_tick_bind fun t ht ↦ ?_
  rw [wp_pure_bind]
  exact h t ht

theorem Pumped.wait (h : Pumped p ext g w₀ w) {t : ℕ} (ht : w.clock ≤ t) :
    Pumped p ext g w₀ (w.wait t) := by
  obtain ⟨doomed, hdoom, hat, hsub⟩ := h
  exact ⟨doomed, hdoom, hat.calm (Calms.wait ht), hsub.trans (Calms.wait ht).subsides⟩

theorem wp_checkCloses (h : Pumped p ext g w₀ w) (hdown : g.down = false) :
    wp (checkCloses p) (fun _ w' ↦ Pumped p ext g w₀ w') w := by
  rw [checkCloses]
  refine wp_millis_tunnel fun τ₁ hτ₁ ↦ ?_
  have hcheck := Triple.each (l := List.range p.maxSlots)
    (f := fun i ↦ onSlot i (checkSlot p (stamp τ₁)))
    (I := Checking p ext g w₀ τ₁ {}) fun i l' _ ↦ triple_checkSlot hdown
  refine wp_bind (wp_mono (hcheck _ (h.wait hτ₁).checking) fun _ w₁ h₁ ↦ ?_)
  refine wp_millis_tunnel fun τ hτ ↦ ?_
  have hscan := Triple.fold (l := List.range p.maxSlots) (a := {}) (f := scanSlot p (stamp τ))
    (I := fun l picks ↦ Checking p ext g w₀ τ picks l) fun i l' picks _ ↦ triple_scanSlot
  refine wp_bind (wp_mono (hscan _ (h₁.1.wait hτ).checking) fun picks w₂ h₂ ↦ ?_)
  refine wp_bind (wp_mono (wp_sendEofs h₂ hdown) fun _ w₃ h₃ ↦ ?_)
  exact wp_finalizePicks h₃ hdown

/-- A pump cycle. -/
theorem wp_pumpAll (h : At p ext g w) (hdown : g.down = false) :
    wp (pumpAll p) (fun _ w' ↦ Pumped p ext g w w') w := by
  rw [pumpAll]
  refine wp_bind (wp_mono (h.pumped.wp_calm hdown (calm_modifyTransport fun _ ↦ rfl)) fun _ w₁ h₁ ↦ ?_)
  refine wp_bind (wp_mono (wp_pumpSshTransport h₁.1 hdown) fun _ w₂ h₂ ↦ ?_)
  refine wp_bind (wp_mono (wp_drainSshToLocal h₂ hdown) fun _ w₃ h₃ ↦ ?_)
  refine wp_bind (wp_mono (wp_drainLocalToSsh h₃ hdown) fun _ w₄ h₄ ↦ ?_)
  refine wp_bind (wp_mono (wp_checkCloses h₄ hdown) fun _ w₅ h₅ ↦ ?_)
  rw [wp_get_bind]
  exact wp_pure h₅

end ReverseTunnel
