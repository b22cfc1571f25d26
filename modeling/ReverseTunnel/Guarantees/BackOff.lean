import ReverseTunnel.System.Trace

/-!
# No connection to a backend in back-off

While the circuit breaker of a mapping is open, `connectToLocalEndpoint` should not be called for it.
`handleNewConnection` asks the breaker before it lets a channel through, which is **proved** here as
an invariant of the runs; `drainPendingQueue` does not, so channels that wait for a slot reach a
backend whose breaker has tripped since. What both paths keep is that the breaker does not change
between letting a channel through and connecting. Hence the law holds in every run that binds no
waiting channel of a mapping in back-off, as far as the clock goes: half a turn of it after a deadline
the breaker closes again by itself.
-/

namespace ReverseTunnel

open Traced TunnelM Clock32

variable {p : Params} {g : Ledger} {w w' : TunnelWorld} {i : ℕ}

/-- The mapping whose local endpoint is connected to, if any. -/
def connectsTo : Item SSHTunnel Call Call.Reply Mark → Option TunnelConfig
  | .call _ _ _ (.sys (.localSocket mapping)) _ => some mapping
  | _ => none

/-- A connection is made while the mapping is not backed off. -/
def respectsBackOff (x : Item SSHTunnel Call Call.Reply Mark) : Bool :=
  match connectsTo x with
  | some mapping => !x.pre.channels.breaker.isBackedOff mapping.remoteBindPort (stamp x.time)
  | none => true

/-- Between time `t₀` and time `t` the clock passes the point half a turn after the deadline of the
port, from where on the sign of the difference is the wrong one. -/
def CircuitBreaker.turnsBack (b : CircuitBreaker) (port : Int) (t₀ t : ℕ) : Bool :=
  match b.find port with
  | none => false
  | some h => h.backoffUntilMs != 0 && decide ((stamp t₀ - h.backoffUntilMs).toNat < 2 ^ 31 ∧
      2 ^ 31 ≤ (stamp t₀ - h.backoffUntilMs).toNat + (t - t₀))

/-- A channel that waited was let through while its mapping was backed off. -/
def drainsBackedOff : Item SSHTunnel Call Call.Reply Mark → Bool
  | .mark t s (.admitted queued mapping) =>
    queued && s.channels.breaker.isBackedOff mapping.remoteBindPort (stamp t)
  | _ => false

/-- No channel was taken from the pending queue to be bound while its mapping was backed off. -/
def DrainsClear (tr : Trace SSHTunnel Call Call.Reply Mark) : Prop :=
  ∀ x ∈ tr, drainsBackedOff x = false

instance (tr : Trace SSHTunnel Call Call.Reply Mark) : Decidable (DrainsClear tr) :=
  inferInstanceAs (Decidable (∀ x ∈ tr, drainsBackedOff x = false))

/-- A connection is made, and since the channel was let through the clock has passed the point half
a turn after the deadline. -/
def connectsTooLate (x : Item SSHTunnel Call Call.Reply Mark)
    (past : Trace SSHTunnel Call Call.Reply Mark) : Bool :=
  match connectsTo x, lastAdmitted past with
  | some _, some (t₀, s₀, mapping) => s₀.channels.breaker.turnsBack mapping.remoteBindPort t₀ x.time
  | _, _ => false

/-- No channel was kept waiting for its connection until half a turn after the deadline. -/
def ConnectsInTime (tr : Trace SSHTunnel Call Call.Reply Mark) : Prop :=
  History.Always (fun x past ↦ connectsTooLate x past = false) tr

instance (tr : Trace SSHTunnel Call Call.Reply Mark) : Decidable (ConnectsInTime tr) :=
  inferInstanceAs (Decidable (History.Always _ tr))

/-- No connection has been made during back-off. -/
def RespectsBackOff (tr : Trace SSHTunnel Call Call.Reply Mark) : Prop :=
  ∀ x ∈ tr, respectsBackOff x = true

instance (tr : Trace SSHTunnel Call Call.Reply Mark) : Decidable (RespectsBackOff tr) :=
  inferInstanceAs (Decidable (∀ x ∈ tr, respectsBackOff x = true))

/-! ### The breaker after the deadline -/

/-- A mapping that is not backed off stays so, unless the clock passes that point. -/
theorem CircuitBreaker.isBackedOff_of_turnsBack {b : CircuitBreaker} {port : Int} {t₀ t : ℕ}
    (hle : t₀ ≤ t) (hclear : b.isBackedOff port (stamp t₀) = false)
    (hno : b.turnsBack port t₀ t = false) : b.isBackedOff port (stamp t) = false := by
  rw [isBackedOff] at hclear ⊢
  rw [turnsBack] at hno
  split
  · rfl
  · next h hfind =>
    simp only [hfind, Bool.and_eq_false_iff, bne_eq_false_iff_eq, decide_eq_false_iff_not]
      at hclear hno ⊢
    rcases hno with hzero | hno
    · exact .inl hzero
    refine hclear.imp_right fun hpositive ↦ ?_
    have hhalf : (0x80000000 : UInt32).toNat = 2 ^ 31 := by decide
    have hpast : (stamp t₀ - h.backoffUntilMs).toNat < 2 ^ 31 := by
      rw [negative, decide_eq_false_iff_not, ge_iff_le, UInt32.le_iff_toNat_le, hhalf] at hpositive
      exact Nat.lt_of_not_le hpositive
    have hshort : (stamp t₀ - h.backoffUntilMs).toNat + (t - t₀) < 2 ^ 31 :=
      Nat.lt_of_not_le fun hlate ↦ hno ⟨hpast, hlate⟩
    have hsub := toNat_stamp_sub (u := h.backoffUntilMs) hle (by omega)
    rw [negative, decide_eq_false_iff_not, ge_iff_le, UInt32.le_iff_toNat_le, hsub, hhalf]
    exact Nat.not_le_of_lt hshort

/-! ### From letting through to connecting -/

/-- A connection is made for the channel let through last, and the breaker has not changed since. -/
def ConnectsAdmitted (x : Item SSHTunnel Call Call.Reply Mark)
    (past : Trace SSHTunnel Call Call.Reply Mark) : Prop :=
  ∀ mapping, connectsTo x = some mapping → ∃ t₀ s₀, lastAdmitted past = some (t₀, s₀, mapping) ∧
    s₀.channels.breaker = x.pre.channels.breaker ∧ t₀ ≤ x.time

theorem connectsTo_of_isCalm {x : Item SSHTunnel Call Call.Reply Mark} (hx : isCalm x) :
    connectsTo x = none := by
  cases x with
  | mark t s m => rfl
  | call id t s c r =>
    cases c with
    | io j c => exact hx.elim
    | sys c =>
      cases c with
      | localSocket mapping => exact hx.elim
      | _ => rfl

theorem connectsTo_of_slotItem {x : Item SSHTunnel Call Call.Reply Mark}
    (hx : (slotItem? i x).isSome = true) : connectsTo x = none := by
  obtain ⟨y, hy⟩ := Option.isSome_iff_exists.1 hx
  rcases slotItem?_eq_some.1 hy with ⟨id, t, s, c, r, rfl, rfl⟩ | ⟨t, s, m, rfl, rfl⟩ <;> rfl

theorem lastAdmitted_append_slot {items past : Trace SSHTunnel Call Call.Reply Mark}
    (h : ∀ x ∈ items, (slotItem? i x).isSome = true) :
    lastAdmitted (items ++ past) = lastAdmitted past := by
  induction items with
  | nil => rfl
  | cons x items ih =>
    have ih := ih fun y hy ↦ h y (List.mem_cons_of_mem _ hy)
    obtain ⟨y, hy⟩ := Option.isSome_iff_exists.1 (h x (List.mem_cons_self ..))
    rcases slotItem?_eq_some.1 hy with ⟨id, t, s, c, r, rfl, rfl⟩ | ⟨t, s, m, rfl, rfl⟩ <;> exact ih

/-- The mapping of a channel that has just come in and is let through, if any. -/
def letsThrough : Item SSHTunnel Call Call.Reply Mark → Option TunnelConfig
  | .mark _ _ (.admitted false mapping) => some mapping
  | _ => none

/-- A channel that has just come in is let through while its mapping is not backed off. -/
def AdmitsClear (x : Item SSHTunnel Call Call.Reply Mark) : Prop :=
  ∀ mapping, letsThrough x = some mapping →
    x.pre.channels.breaker.isBackedOff mapping.remoteBindPort (stamp x.time) = false

theorem admitsClear_of_none {x : Item SSHTunnel Call Call.Reply Mark} (h : letsThrough x = none) :
    AdmitsClear x := by
  intro mapping hno
  rw [h] at hno
  cases hno

theorem letsThrough_of_isCalm {x : Item SSHTunnel Call Call.Reply Mark} (hx : isCalm x) :
    letsThrough x = none := by
  cases x with
  | call id t s c r => rfl
  | mark t s m => cases m <;> first | rfl | exact hx.elim

theorem letsThrough_of_slotItem {x : Item SSHTunnel Call Call.Reply Mark}
    (hx : (slotItem? i x).isSome = true) : letsThrough x = none := by
  obtain ⟨y, hy⟩ := Option.isSome_iff_exists.1 hx
  rcases slotItem?_eq_some.1 hy with ⟨id, t, s, c, r, rfl, rfl⟩ | ⟨t, s, m, rfl, rfl⟩ <;> rfl

/-- The channel let through last is the one that the latest such mark tells of. -/
theorem mem_of_lastAdmitted {tr : Trace SSHTunnel Call Call.Reply Mark} {t₀ : ℕ} {s₀ : SSHTunnel}
    {mapping : TunnelConfig} (h : lastAdmitted tr = some (t₀, s₀, mapping)) :
    ∃ queued, .mark t₀ s₀ (.admitted queued mapping) ∈ tr := by
  induction tr with
  | nil => cases h
  | cons x past ih =>
    have hpast : lastAdmitted past = some (t₀, s₀, mapping) →
        ∃ queued, .mark t₀ s₀ (.admitted queued mapping) ∈ x :: past := fun h ↦ by
      obtain ⟨queued, hmem⟩ := ih h
      exact ⟨queued, List.mem_cons_of_mem _ hmem⟩
    cases x with
    | call id t s c r => exact hpast h
    | mark t s m =>
      cases m with
      | admitted queued mapping' =>
        obtain ⟨rfl, rfl, rfl⟩ : t = t₀ ∧ s = s₀ ∧ mapping' = mapping := by
          simpa [lastAdmitted] using h
        exact ⟨queued, List.mem_cons_self ..⟩
      | _ => exact hpast h

/-- The invariant: connections so far, the channels let through so far, and the time of the last of
these. -/
structure Connects (w : TunnelWorld) : Prop where
  /-- Connections so far. -/
  past : History.Always ConnectsAdmitted w.trace
  /-- Channels that have just come in were asked about. -/
  asked : ∀ x ∈ w.trace, AdmitsClear x
  /-- The channel let through last is not from the future. -/
  time_le : ∀ t₀ s₀ mapping, lastAdmitted w.trace = some (t₀, s₀, mapping) → t₀ ≤ w.clock

/-- Entries that connect nothing and do not change which channel was let through last. -/
theorem Connects.append (hc : Connects w) (items : Trace SSHTunnel Call Call.Reply Mark)
    (ht : w'.trace = items ++ w.trace) (hi : ∀ x ∈ items, connectsTo x = none ∧ letsThrough x = none)
    (hl : lastAdmitted (items ++ w.trace) = lastAdmitted w.trace) (hclock : w.clock ≤ w'.clock) :
    Connects w' := by
  refine ⟨?_, ?_, fun t₀ s₀ mapping hlast ↦ ?_⟩
  · rw [ht]
    refine hc.past.append fun x hx rest mapping hno ↦ ?_
    rw [(hi x hx).1] at hno
    cases hno
  · rw [ht]
    exact List.forall_mem_append.2 ⟨fun x hx ↦ admitsClear_of_none (hi x hx).2, hc.asked⟩
  · rw [ht, hl] at hlast
    exact Nat.le_trans (hc.time_le t₀ s₀ mapping hlast) hclock

theorem Connects.step {g' : Ledger} (hc : Connects w)
    (hs : TunnelStep p false (w, g) (w', g')) : Connects w' := by
  have moved : ∀ {i}, SlotMove i w w' → Connects w' := by
    intro i hm
    obtain ⟨items, ht, hi⟩ := hm.trace
    exact hc.append items ht
      (fun x hx ↦ ⟨connectsTo_of_slotItem (hi x hx), letsThrough_of_slotItem (hi x hx)⟩)
      (lastAdmitted_append_slot hi) hm.clock_le
  have one : ∀ x, w'.trace = [x] ++ w.trace → connectsTo x = none → letsThrough x = none →
      lastAdmitted ([x] ++ w.trace) = lastAdmitted w.trace → w.clock ≤ w'.clock → Connects w' :=
    fun x ht hto hx ↦ hc.append [x] ht (List.forall_mem_singleton.2 ⟨hto, hx⟩)
  cases hs with
  | calm h =>
    obtain ⟨items, ht, hi⟩ := h.trace
    exact hc.append items ht
      (fun x hx ↦ ⟨connectsTo_of_isCalm (hi x hx), letsThrough_of_isCalm (hi x hx)⟩)
      (lastAdmitted_append hi) h.clock_le
  | work hi hdown hm hw hcs => exact moved hm
  | bind hi hdown hh hm hact hfd ht ht' hv hok hcount harch => exact moved hm
  | release hi hdown hm hw hact hh hdone ht ht' ht'' hv hcount harch => exact moved hm
  | abandon hi hm hact ht hv hcount harch => exact moved hm
  | mark hm =>
    rcases hm with ⟨queued, mapping, rfl, hasked⟩ | ⟨h, rfl⟩ | rfl
    · refine ⟨⟨nofun, hc.past⟩, ?_, fun t₀ s₀ m hlast ↦ ?_⟩
      · -- the breaker is the one `handleNewConnection` has just asked
        refine List.forall_mem_cons.2 ⟨?_, hc.asked⟩
        cases queued with
        | false =>
          intro mapping' heq
          obtain rfl := Option.some.inj heq
          exact hasked rfl
        | true => exact admitsClear_of_none rfl
      · obtain ⟨rfl, -⟩ : w.clock = t₀ ∧ _ := by simpa [lastAdmitted] using hlast
        exact Nat.le_refl _
    · exact one _ rfl rfl rfl rfl (Nat.le_refl _)
    · exact one _ rfl rfl rfl rfl (Nat.le_refl _)
  | returned ht hdown => exact one _ rfl rfl rfl rfl (Nat.le_refl _)
  | tornDown ht hmid hd => exact one _ rfl rfl rfl rfl (Nat.le_refl _)
  | goDown => exact one _ rfl rfl rfl rfl (Nat.le_refl _)
  | accept ht hdown hst => exact one _ rfl rfl rfl rfl ht
  | close ht hdown hh => exact one _ rfl rfl rfl rfl ht
  | free ht hdown hh => exact one _ rfl rfl rfl rfl ht
  | connect ht hadm =>
    obtain ⟨t₀, s₀, hlast, hb⟩ := hadm.resolve_left (by simp)
    refine ⟨⟨fun mapping' heq ↦ ?_, hc.past⟩, List.forall_mem_cons.2 ⟨admitsClear_of_none rfl, hc.asked⟩,
      fun t₁ s₁ mapping' hlast' ↦ ?_⟩
    · obtain rfl := Option.some.inj heq
      exact ⟨t₀, s₀, hlast, hb, Nat.le_trans (hc.time_le _ _ _ hlast) ht⟩
    · exact Nat.le_trans (hc.time_le _ _ _ hlast') ht
  | update hcs hst => exact ⟨hc.past, hc.asked, hc.time_le⟩
  | breaker hcs hst => exact ⟨hc.past, hc.asked, hc.time_le⟩
  | state hcs hv => exact ⟨hc.past, hc.asked, hc.time_le⟩
  | grab h hext => exact hc
  | shuffle hp => exact hc
  | lose hh hfull => exact hc
  | forget hdown => exact hc
  | comeUp hdown hv => exact hc

theorem connects_initial (clock : ℕ) : Connects (initial clock) :=
  ⟨trivial, fun _ hx ↦ (by cases hx), fun _ _ _ hlast ↦ (by cases hlast)⟩

theorem At.connects (h : At p false g w) : Connects w :=
  h.invariant (I := fun x ↦ Connects x.1) connects_initial fun _ _ hc hs ↦ hc.step hs

/-! ### The guarantee -/

/-- The channel let through last was let through while its mapping was not backed off: by the check
of `handleNewConnection` if it has just come in, by assumption if it has waited. -/
theorem Connects.clear (hc : Connects w) (hdrains : DrainsClear w.trace)
    {past : Trace SSHTunnel Call Call.Reply Mark} (hsub : past ⊆ w.trace) {t₀ : ℕ} {s₀ : SSHTunnel}
    {mapping : TunnelConfig} (hlast : lastAdmitted past = some (t₀, s₀, mapping)) :
    s₀.channels.breaker.isBackedOff mapping.remoteBindPort (stamp t₀) = false := by
  obtain ⟨queued, hmem⟩ := mem_of_lastAdmitted hlast
  cases queued with
  | false => exact hc.asked _ (hsub hmem) mapping rfl
  | true => exact hdrains _ (hsub hmem)

/-- **No connection during back-off**, in every run in which `drainPendingQueue` takes no channel to
bind it while its mapping is backed off, and in which no channel waits for its connection until half
a turn of the clock after a deadline. -/
theorem no_connect_during_backOff (hw : TunnelRun p w) (hdrains : DrainsClear w.trace)
    (htime : ConnectsInTime w.trace) : RespectsBackOff w.trace := by
  obtain ⟨_, ⟨g, hat, -⟩, -⟩ := hw.resting false
  have hc := hat.connects
  have hpast := hc.past
  intro x hx
  obtain ⟨newer, past, htr⟩ := List.append_of_mem hx
  rw [ConnectsInTime, History.always_iff] at htime
  rw [History.always_iff] at hpast
  rw [respectsBackOff]
  split
  · next mapping hto =>
    obtain ⟨t₀, s₀, hlast, hb, hle⟩ := hpast newer x past htr mapping hto
    have hintime := htime newer x past htr
    simp only [connectsTooLate, hto, hlast] at hintime
    have hsub : past ⊆ w.trace := fun y hy ↦
      htr ▸ List.mem_append_right _ (List.mem_cons_of_mem _ hy)
    rw [← hb, CircuitBreaker.isBackedOff_of_turnsBack hle (hc.clear hdrains hsub hlast) hintime]
    rfl
  · rfl

/-! ### A queue of channels for a dead backend -/

/-- A channel comes in, and binding it has to wait for the lock. -/
def queueingWorld : Env Call Call.Reply := worldWith 1 fun n c ↦
  match c with
  | .sys (.forwardAccept _) => some (decide (n < 160))
  | .sys (.lock ms) => if ms = 200 then some false else none
  | _ => none

/-- The lock is free again, and the local endpoint refuses. -/
def deadBackend : Env Call Call.Reply := worldWith 1 fun _ c ↦
  match c with
  | .sys (.localSocket _) => some false
  | _ => none

/-- Channels pile up in the pending queue, `n` rounds of them, which is then drained. -/
def pileUpOps (n : ℕ) : List (TunnelOp × Env Call Call.Reply) :=
  (.connectSSH, queueingWorld) :: List.replicate n (.loop, queueingWorld) ++ [(.loop, deadBackend)]

/-- The run of them. -/
def pileUpRun (n : ℕ) : TunnelWorld := afterTunnelOps (smallTunnel 1) (pileUpOps n)

theorem run_pileUpRun (n : ℕ) : TunnelRun (smallTunnel 1) (pileUpRun n) :=
  tunnelRun_after (pileUpOps n)

/-- Three channels that waited are connected before the breaker trips. -/
theorem no_connect_during_backOff_pileUpRun :
    ((pileUpRun 3).trace.filterMap connectsTo).length = 3 ∧ DrainsClear (pileUpRun 3).trace ∧
      ConnectsInTime (pileUpRun 3).trace ∧ RespectsBackOff (pileUpRun 3).trace := by
  have hdrains : DrainsClear (pileUpRun 3).trace := by decide +kernel
  have htime : ConnectsInTime (pileUpRun 3).trace := by decide +kernel
  exact ⟨by decide +kernel, hdrains, htime,
    no_connect_during_backOff (run_pileUpRun 3) hdrains htime⟩

/-- The fourth is connected while its mapping is backed off. -/
theorem connect_during_backOff :
    ¬∀ w, TunnelRun (smallTunnel 1) w → RespectsBackOff w.trace := by
  intro hall
  have hresp := hall _ (run_pileUpRun 4)
  have hfails : ¬RespectsBackOff (pileUpRun 4).trace := by decide +kernel
  exact hfails hresp

end ReverseTunnel
