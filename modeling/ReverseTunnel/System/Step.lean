import ReverseTunnel.System.Session

/-!
# What can happen to the tunnel

The tunnel as a transition system over its slots and the channels that are in no slot. A `Ledger`
says where those channels are: in one of the queues, or **in hand**, between two places. It is kept
apart from the arrays of the queues, which hold stale copies while they are being compacted; `Tracks`
says that arrays and ledger agree, as they do whenever a function that works on the queues returns.

Two flags of the ledger carry what the teardown paths rely on. After `SSHSession::disconnect` the
ledger is **down** until everything has been dropped, and while it is down no channel is passed to
libssh2. A channel given up before that has **doomed** the session: it will go down.

`TunnelStep` lists the steps; `At` holds of a world that steps have led to. As before, `ext` allows
callers of the channel manager that are not the tunnel.
-/

namespace ReverseTunnel

open Traced TunnelM Clock32

/-- Where the channels are that are in no slot. -/
structure Ledger where
  /-- In `pendingQueue_`. -/
  pending : List Handle := []
  /-- In `deferredCloseQueue_`. -/
  deferred : List Handle := []
  /-- Between two places. -/
  hand : List Handle := []
  /-- A channel was given up; the session is going to go down for it. -/
  doomed : Bool := false
  /-- The session is down and what is left of it is being dropped. -/
  down : Bool := false

/-- The channels in a queue. -/
def Ledger.queue (g : Ledger) : QueueName → List Handle
  | .pending => g.pending
  | .deferredClose => g.deferred

/-- Put other channels into a queue. -/
def Ledger.setQueue (g : Ledger) (q : QueueName) (l : List Handle) : Ledger :=
  match q with
  | .pending => { g with pending := l }
  | .deferredClose => { g with deferred := l }

/-- The channels of the entries of a queue that are in use. -/
def ChannelQueue.live (q : ChannelQueue) : List (Option Handle) :=
  (List.range q.count).map fun i ↦ (q.entries i).channel

/-- The arrays hold what the ledger says. -/
def Tracks (s : SSHTunnel) (g : Ledger) : Prop := ∀ q, (s.queue q).live = (g.queue q).map some

/-- Nothing is left in slots and queues. -/
structure Vacant (s : SSHTunnel) (g : Ledger) : Prop where
  /-- No slot is active. -/
  slots : ∀ i, (s.channels.slots i).active = false
  /-- Nothing is pending. -/
  pending : g.pending = []
  /-- Nothing is to be closed later. -/
  deferred : g.deferred = []
  /-- Nothing is in hand. -/
  hand : g.hand = []

/-- The latest channel let through to `bindAcceptedChannel`. -/
def lastAdmitted : Trace SSHTunnel Call Call.Reply Mark → Option (ℕ × SSHTunnel × TunnelConfig)
  | [] => none
  | .mark t s (.admitted _ mapping) :: _ => some (t, s, mapping)
  | _ :: past => lastAdmitted past

/-- The local socket of slot `i` is closed. -/
def closesSocket (i : ℕ) (fd : Int) : Item SSHTunnel Call Call.Reply Mark → Bool
  | .call _ _ _ (.io j (.closeSocket fd')) _ => j = i && fd' = fd
  | _ => false

/-- A ring could not be allocated. -/
def ringFailed : Item SSHTunnel Call Call.Reply Mark → Bool
  | .call _ _ _ (.sys (.allocRing _)) ok => !ok
  | _ => false

/-- The beginning of a teardown. -/
def isTearingDown : Item SSHTunnel Call Call.Reply Mark → Bool
  | .mark _ _ .tearingDown => true
  | _ => false

/-- A teardown that began in state `s₀` and did `mid` has left nothing. -/
structure TornDown (s₀ s : SSHTunnel) (mid : Trace SSHTunnel Call Call.Reply Mark) : Prop where
  /-- Every slot is empty. -/
  slots : ∀ i, (s.channels.slots i).active = false ∧ Dead (s.channels.slots i)
  /-- None is counted. -/
  activeCount : s.channels.activeCount = 0
  /-- Nothing is pending. -/
  pending : s.pending.count = 0
  /-- Nothing is to be closed later. -/
  deferred : s.deferredClose.count = 0
  /-- The session is gone. -/
  session : s.session.isConnected = false
  /-- Every socket has been closed once. -/
  sockets : ∀ i, (s₀.channels.slots i).active = true →
    mid.countP (closesSocket i (s₀.channels.slots i).localSocket) = 1

/-- A step of the tunnel, together with what it means for the ledger. -/
inductive TunnelStep (p : Params) (ext : Bool) : TunnelWorld × Ledger → TunnelWorld × Ledger → Prop
  /-- Nothing of interest. -/
  | calm {w w' : TunnelWorld} {g : Ledger} (h : Calms w w') : TunnelStep p ext (w, g) (w', g)
  /-- The arrays of the queues or the degradation flag change. -/
  | update {w : TunnelWorld} {g : Ledger} {f : SSHTunnel → SSHTunnel}
      (hc : (f w.st).channels = w.st.channels) (hs : (f w.st).state = w.st.state) :
      TunnelStep p ext (w, g) (w.update f, g)
  /-- The circuit breaker records a result. -/
  | breaker {w : TunnelWorld} {g : Ledger} {f : SSHTunnel → SSHTunnel} {b : CircuitBreaker}
      (hc : (f w.st).channels = { w.st.channels with breaker := b })
      (hs : (f w.st).state = w.st.state) : TunnelStep p ext (w, g) (w.update f, g)
  /-- The tunnel enters a state; any but the connected one is entered with empty hands. -/
  | state {w : TunnelWorld} {g : Ledger} {f : SSHTunnel → SSHTunnel}
      (hc : (f w.st).channels = w.st.channels)
      (hv : ext = true ∨ ((f w.st).state = .connected ∨ Vacant w.st g)) :
      TunnelStep p ext (w, g) (w.update f, g)
  /-- A mark that changes nothing. -/
  | mark {w : TunnelWorld} {g : Ledger} {m : Mark}
      (hm : (∃ queued mapping, m = .admitted queued mapping ∧ (queued = false →
          w.st.channels.breaker.isBackedOff mapping.remoteBindPort (stamp w.clock) = false)) ∨
        (∃ h, m = .deferring h) ∨ m = .tearingDown) :
      TunnelStep p ext (w, g) (w.marked m, g)
  /-- A function that works on the queues returns. -/
  | returned {w : TunnelWorld} {g : Ledger} (ht : Tracks w.st g) (hdown : g.down = false) :
      TunnelStep p ext (w, g) (w.marked .returned, g)
  /-- A teardown ends. -/
  | tornDown {w : TunnelWorld} {g : Ledger} {mid past : Trace SSHTunnel Call Call.Reply Mark}
      {t₀ : ℕ} {s₀ : SSHTunnel} (ht : w.trace = mid ++ .mark t₀ s₀ .tearingDown :: past)
      (hmid : ∀ x ∈ mid, isTearingDown x = false) (hd : TornDown s₀ w.st mid) :
      TunnelStep p ext (w, g) (w.marked .tornDown, g)
  /-- A channel is accepted. -/
  | accept {w : TunnelWorld} {g : Ledger} {l t : ℕ} (ht : w.clock ≤ t) (hdown : g.down = false)
      (hst : ext = true ∨ w.st.state = .connected) :
      TunnelStep p ext (w, g)
        (w.after (.sys (.forwardAccept l)) true t, { g with hand := w.serial :: g.hand })
  /-- A caller of the channel manager comes with a channel. -/
  | grab {w : TunnelWorld} {g : Ledger} (h : Handle) (hext : ext = true) :
      TunnelStep p ext (w, g) (w, { g with hand := h :: g.hand })
  /-- Channels change places. -/
  | shuffle {w : TunnelWorld} {g : Ledger} {pending deferred hand : List Handle}
      (hp : (pending ++ deferred ++ hand).Perm (g.pending ++ g.deferred ++ g.hand)) :
      TunnelStep p ext (w, g) (w, { g with pending, deferred, hand })
  /-- A channel in hand is closed. -/
  | close {w : TunnelWorld} {g : Ledger} {h : Handle} {rc : Int} {t : ℕ} (ht : w.clock ≤ t)
      (hdown : g.down = false) (hh : h ∈ g.hand) :
      TunnelStep p ext (w, g) (w.after (.sys (.channelClose h)) rc t, g)
  /-- A channel in hand is freed, whatever libssh2 says to it. -/
  | free {w : TunnelWorld} {g : Ledger} {h : Handle} {hand : List Handle} {rc : Int} {t : ℕ}
      (ht : w.clock ≤ t) (hdown : g.down = false) (hh : g.hand = h :: hand) :
      TunnelStep p ext (w, g) (w.after (.sys (.channelFree h)) rc t, { g with hand })
  /-- A channel in hand is lost, since the deferred-close queue was full. -/
  | lose {w : TunnelWorld} {g : Ledger} {h : Handle} {hand : List Handle} (hh : g.hand = h :: hand)
      (hfull : ext = true ∨
        ∃ t s, .mark t s (.deferring h) ∈ w.trace ∧ maxDeferredClose ≤ s.deferredClose.count) :
      TunnelStep p ext (w, g) (w, { g with hand })
  /-- `connectToLocalEndpoint` begins. -/
  | connect {w : TunnelWorld} {g : Ledger} {mapping : TunnelConfig} {r : Bool} {t : ℕ}
      (ht : w.clock ≤ t)
      (hadm : ext = true ∨ ∃ t₀ s, lastAdmitted w.trace = some (t₀, s, mapping) ∧
        s.channels.breaker = w.st.channels.breaker) :
      TunnelStep p ext (w, g) (w.after (.sys (.localSocket mapping)) r t, g)
  /-- Work on a slot that stays in use. -/
  | work {w w' : TunnelWorld} {g : Ledger} {i : ℕ} (hi : i < p.maxSlots) (hdown : g.down = false)
      (hm : SlotMove i w w') (hw : Works p ext (slotView i w) (slotView i w'))
      (hc : SameCounters w w') : TunnelStep p ext (w, g) (w', g)
  /-- A channel in hand goes into a slot. -/
  | bind {w w' : TunnelWorld} {g : Ledger} {i : ℕ} {h : Handle} {hand : List Handle} {fd : Int}
      {okLocal okRemote : Bool} {id t t' : ℕ} (hi : i < p.maxSlots) (hdown : g.down = false)
      (hh : g.hand = h :: hand) (hm : SlotMove i w w')
      (hact : (w.st.channels.slots i).active = false) (hfd : 0 ≤ fd) (ht : w.clock ≤ t)
      (ht' : t ≤ t') (hv : slotView i w' = (slotView i w).bound p h fd okLocal okRemote id t t')
      (hok : (∀ x ∈ w.trace, ringFailed x = false) → okLocal = true ∧ okRemote = true)
      (hcount : w'.st.channels.activeCount = w.st.channels.activeCount + 1)
      (harch : Archives {} w w') : TunnelStep p ext (w, g) (w', { g with hand })
  /-- libssh2 has freed the channel of a slot, and the slot is released. -/
  | release {w w' : TunnelWorld} {g : Ledger} {i : ℕ} {v : View} {h : Handle}
      {id id' t t' t'' : ℕ} {rc : Int} {progress : Progress} (hi : i < p.maxSlots)
      (hdown : g.down = false) (hm : SlotMove i w w') (hw : Works p ext (slotView i w) v)
      (hact : v.ch.active = true) (hh : v.ch.sshChannel = some h) (hdone : rc ≠ errorEagain)
      (ht : v.clock ≤ t) (ht' : t ≤ t') (ht'' : t' ≤ t'')
      (hv : slotView i w' = ((v.freed h rc progress id t).discarded id' t').shut t'')
      (hcount : w'.st.channels.activeCount = w.st.channels.activeCount - 1)
      (harch : Archives v.ch.accountResidual w w')
      (hclosed : v.ch.sshCloseProgress.closeComplete = true) : TunnelStep p ext (w, g) (w', g)
  /-- A slot is released without libssh2. -/
  | abandon {w w' : TunnelWorld} {g : Ledger} {i id t : ℕ} (hi : i < p.maxSlots)
      (hm : SlotMove i w w') (hact : (w.st.channels.slots i).active = true) (ht : w.clock ≤ t)
      (hv : slotView i w' =
        ((slotView i w).dropped id t).set (w.st.channels.slots i).reset)
      (hcount : w'.st.channels.activeCount =
        if w.st.channels.activeCount > 0 then w.st.channels.activeCount - 1
        else w.st.channels.activeCount)
      (harch : Archives (w.st.channels.slots i).accountResidual w w') :
      TunnelStep p ext (w, g) (w', { g with doomed := g.doomed || !g.down })
  /-- The session goes down. -/
  | goDown {w : TunnelWorld} {g : Ledger} :
      TunnelStep p ext (w, g) (w.marked .sessionDown, { g with down := true, doomed := false })
  /-- While the session is down, what is left in the queues is forgotten. -/
  | forget {w : TunnelWorld} {g : Ledger} (hdown : g.down = true) :
      TunnelStep p ext (w, g) (w, { g with pending := [], deferred := [], hand := [] })
  /-- Everything has been dropped. -/
  | comeUp {w : TunnelWorld} {g : Ledger} (hdown : g.down = true) (hv : Vacant w.st g) :
      TunnelStep p ext (w, g) (w, { g with down := false })

/-- Steps have led to this world, with this ledger. -/
def At (p : Params) (ext : Bool) (g : Ledger) (w : TunnelWorld) : Prop :=
  ∃ clock, Relation.ReflTransGen (TunnelStep p ext) (initial clock, {}) (w, g)

variable {p : Params} {ext : Bool} {g g' : Ledger} {w w' : TunnelWorld} {i : ℕ}

theorem at_initial (clock : ℕ) : At p ext {} (initial clock) := ⟨clock, .refl⟩

theorem At.step (h : At p ext g w) (hs : TunnelStep p ext (w, g) (w', g')) : At p ext g' w' := by
  obtain ⟨clock, h⟩ := h
  exact ⟨clock, h.tail hs⟩

theorem At.calm (h : At p ext g w) (hc : Calms w w') : At p ext g w' := h.step (.calm hc)

/-- The invariant rule. -/
theorem At.invariant {I : TunnelWorld × Ledger → Prop} (h : At p ext g w)
    (h0 : ∀ clock, I (initial clock, {}))
    (hstep : ∀ x y, I x → TunnelStep p ext x y → I y) : I (w, g) := by
  obtain ⟨clock, h⟩ := h
  generalize (w, g) = x at h
  induction h with
  | refl => exact h0 clock
  | tail _ hs ih => exact hstep _ _ ih hs

theorem wp_calm {α : Type} {m : TunnelM α} (hm : Calm m) (hw : At p ext g w) :
    wp m (fun _ w' ↦ At p ext g w' ∧ Calms w w') w :=
  wp_mono (hm w) fun _ _ h ↦ ⟨hw.calm h, h⟩

/-! ### What a step means for a slot -/

section Views

variable {j : ℕ}

theorem slotView_marked {m : Mark} (h : ∀ i sm, m ≠ .slot i sm) :
    slotView j (w.marked m) = slotView j w := by
  have hnone : slotItem? j (.mark w.clock w.st m) = none := by
    cases m with
    | slot i sm => exact absurd rfl (h i sm)
    | _ => rfl
  rw [slotView, slotLog, World.marked_trace, List.filterMap_cons, hnone]
  rfl

theorem slotView_update {f : SSHTunnel → SSHTunnel}
    (h : (f w.st).channels.slots = w.st.channels.slots) :
    slotView j (w.update f) = slotView j w := by
  rw [slotView, World.update_st, h]
  rfl

end Views

/-- To one slot, a step of the tunnel is a number of its own steps. -/
theorem TunnelStep.reach {x y : TunnelWorld × Ledger} (h : TunnelStep p ext x y) (j : ℕ) :
    Reach p ext (slotView j x.1) (slotView j y.1) := by
  have spared : ∀ {i w w'}, SlotMove i w w' → Reach p ext (slotView i w) (slotView i w') →
      Reach p ext (slotView j w) (slotView j w') := by
    intro i w w' hm hr
    by_cases hj : j = i
    · rw [hj]
      exact hr
    · rw [hm.view_eq j hj]
      exact reach_wait hm.clock_le
  cases h with
  | calm h => rw [h.view_eq j]; exact reach_wait h.clock_le
  | update hc hs => rw [slotView_update (congrArg _ hc)]; exact .refl
  | breaker hc hs => rw [slotView_update (congrArg (·.slots) hc)]; exact .refl
  | state hc hv => rw [slotView_update (congrArg _ hc)]; exact .refl
  | mark hm =>
    rw [slotView_marked]
    · exact .refl
    · rcases hm with ⟨_, _, rfl, -⟩ | ⟨_, rfl⟩ | rfl <;> simp
  | returned ht hdown => rw [slotView_marked (by simp)]; exact .refl
  | tornDown ht hmid hd => rw [slotView_marked (by simp)]; exact .refl
  | accept ht hdown hst => exact reach_wait ht
  | grab h hext => exact .refl
  | shuffle hp => exact .refl
  | close ht hdown hh => exact reach_wait ht
  | free ht hdown hh => exact reach_wait ht
  | lose hh hfull => exact .refl
  | connect ht hadm => exact reach_wait ht
  | work hi hdown hm hw hc => exact spared hm hw.reach
  | bind hi hdown hh hm hact hfd ht ht' hv hok hcount harch =>
    exact spared hm (hv ▸ .single (.bind hact hfd ht ht'))
  | release hi hdown hm hw hact hh hdone ht ht' ht'' hv hcount harch hclosed =>
    exact spared hm (hw.reach.tail (hv ▸ .release hact hh hdone ht ht' ht'' hclosed))
  | abandon hi hm hact ht hv hcount harch => exact spared hm (hv ▸ .single (.abandon hact ht))
  | goDown => rw [slotView_marked (by simp)]; exact .refl
  | forget hdown => exact .refl
  | comeUp hdown hv => exact .refl

/-- A slot out of range is left alone. -/
theorem TunnelStep.view_eq_of_le {x y : TunnelWorld × Ledger} (h : TunnelStep p ext x y) {j : ℕ}
    (hj : p.maxSlots ≤ j) : (slotView j y.1).ch = (slotView j x.1).ch := by
  have spared : ∀ {i w w'}, i < p.maxSlots → SlotMove i w w' →
      (slotView j w').ch = (slotView j w).ch := by
    intro i w w' hi hm
    rw [hm.view_eq j (by omega)]
    rfl
  cases h with
  | calm h => rw [h.view_eq j]; rfl
  | update hc hs => rw [slotView_update (congrArg _ hc)]
  | breaker hc hs => rw [slotView_update (congrArg (·.slots) hc)]
  | state hc hv => rw [slotView_update (congrArg _ hc)]
  | work hi hdown hm hw hc => exact spared hi hm
  | bind hi hdown hh hm hact hfd ht ht' hv hok hcount harch => exact spared hi hm
  | release hi hdown hm hw hact hh hdone ht ht' ht'' hv hcount harch => exact spared hi hm
  | abandon hi hm hact ht hv hcount harch => exact spared hi hm
  | _ => rfl

theorem At.followed (h : At p ext g w) : Followed p ext w := by
  obtain ⟨clock, h⟩ := h
  refine ⟨clock, fun j ↦ ?_⟩
  change Reach p ext (slotView j (initial clock, ({} : Ledger)).1) (slotView j (w, g).1)
  generalize (w, g) = x at h ⊢
  induction h with
  | refl => exact .refl
  | tail _ hs ih => exact ih.trans (hs.reach j)

theorem At.sound (h : At p ext g w) (i : ℕ) : Sound p (slotView i w) := h.followed.sound i

/-- Slots out of range are never used. -/
theorem At.inactive_of_le (h : At p ext g w) {j : ℕ} (hj : p.maxSlots ≤ j) :
    (w.st.channels.slots j).active = false := by
  refine h.invariant (I := fun x ↦ (slotView j x.1).ch.active = false) (fun _ ↦ rfl) ?_
  intro x y hx hs
  rw [hs.view_eq_of_le hj]
  exact hx

/-! ### Counting the slots in use -/

/-- The number of active slots. -/
def SSHTunnel.activeSlots (p : Params) (s : SSHTunnel) : ℕ :=
  (List.range p.maxSlots).countP fun i ↦ (s.channels.slots i).active

/-- Two predicates that differ at one place only. -/
theorem countP_range_update {n i : ℕ} (f f' : ℕ → Bool) (hi : i < n)
    (h : ∀ j, j ≠ i → f' j = f j) :
    (List.range n).countP f' + (f i).toNat = (List.range n).countP f + (f' i).toNat := by
  induction n with
  | zero => omega
  | succ n ih =>
    simp only [List.range_succ, List.countP_append, List.countP_cons, List.countP_nil]
    by_cases hin : i = n
    · subst hin
      have hbelow : (List.range i).countP f' = (List.range i).countP f :=
        List.countP_congr fun j hj ↦ by rw [h j (by have := List.mem_range.1 hj; omega)]
      rw [hbelow]
      cases f i <;> cases f' i <;> simp
    · rw [h n (fun hn ↦ hin hn.symm)]
      have := ih (by omega)
      omega

theorem SlotMove.activeSlots (hm : SlotMove i w w') (hi : i < p.maxSlots) :
    w'.st.activeSlots p + (w.st.channels.slots i).active.toNat =
      w.st.activeSlots p + (w'.st.channels.slots i).active.toNat :=
  countP_range_update (fun i ↦ (w.st.channels.slots i).active)
    (fun i ↦ (w'.st.channels.slots i).active) hi fun j hj ↦
      congrArg (·.ch.active) (hm.view_eq j hj)

/-- `activeCount_` is the number of active slots. -/
theorem At.activeCount_eq (h : At p ext g w) :
    w.st.channels.activeCount = (w.st.activeSlots p : Int) := by
  refine h.invariant (I := fun x ↦ x.1.st.channels.activeCount = (x.1.st.activeSlots p : Int)) ?_ ?_
  · intro clock
    simp [initial, SSHTunnel.activeSlots]
  intro x y hx hs
  cases hs with
  | calm h => rw [SSHTunnel.activeSlots, h.channels]; exact hx
  | update hc hs => rw [SSHTunnel.activeSlots, World.update_st, hc]; exact hx
  | breaker hc hs => rw [SSHTunnel.activeSlots, World.update_st, hc]; exact hx
  | state hc hv => rw [SSHTunnel.activeSlots, World.update_st, hc]; exact hx
  | @work w w' g i hi hdown hm hw hc =>
    have hcount := hm.activeSlots hi
    dsimp only at hx ⊢
    have hact : (w'.st.channels.slots i).active = (w.st.channels.slots i).active :=
      hw.retains.active
    rw [hact] at hcount
    rw [hc.activeCount, hx]
    omega
  | @bind w w' g i h hand fd okLocal okRemote id t t' hi hdown hh hm hact hfd ht ht' hv hok hcount harch =>
    have hc := hm.activeSlots hi
    dsimp only at hx ⊢
    have hact' : (w'.st.channels.slots i).active = true := congrArg (·.ch.active) hv
    rw [hact, hact', Bool.toNat_false, Bool.toNat_true] at hc
    rw [hcount, hx]
    omega
  | @release w w' g i v h id id' t t' t'' rc progress hi hdown hm hw hact hh hdone ht ht' ht'' hv
      hcount harch =>
    have hc := hm.activeSlots hi
    dsimp only at hx ⊢
    have hact' : (w'.st.channels.slots i).active = false := congrArg (·.ch.active) hv
    have hact₀ : (w.st.channels.slots i).active = true := hw.retains.active.symm.trans hact
    rw [hact₀, hact', Bool.toNat_false, Bool.toNat_true] at hc
    rw [hcount, hx]
    omega
  | @abandon w w' g i id t hi hm hact ht hv hcount harch =>
    have hc := hm.activeSlots hi
    dsimp only at hx ⊢
    have hact' : (w'.st.channels.slots i).active = false := congrArg (·.ch.active) hv
    rw [hact, hact', Bool.toNat_false, Bool.toNat_true] at hc
    -- so the guard of `abandonSlot` is never needed
    have hpos : w.st.channels.activeCount > 0 := by rw [hx]; omega
    rw [hcount, if_pos hpos, hx]
    omega
  | _ => exact hx

/-! ### What holds outside the connected state -/

/-- Without callers from outside, only a connected tunnel has channels. -/
theorem At.vacant (h : At p false g w) (hst : w.st.state ≠ .connected) : Vacant w.st g := by
  have key := h.invariant (I := fun x ↦ x.1.st.state ≠ .connected → Vacant x.1.st x.2)
    (fun _ _ ↦ ⟨fun _ ↦ rfl, rfl, rfl, rfl⟩) ?_
  · exact key hst
  intro x y hx hs hy
  -- work on a slot of an empty tunnel would have found it active
  have moved : ∀ {i w w' g}, SlotMove i w w' → (w'.st.state ≠ .connected) →
      (w.st.state ≠ .connected → Vacant w.st g) →
      ((w.st.channels.slots i).active = false → (w'.st.channels.slots i).active = false) →
      Vacant w'.st g := by
    intro i w w' g hm hy hx hi
    obtain ⟨h1, h2, h3, h4⟩ := hx (hm.state ▸ hy)
    refine ⟨fun j ↦ ?_, h2, h3, h4⟩
    by_cases hj : j = i
    · rw [hj]
      exact hi (h1 i)
    · have := congrArg (·.ch.active) (hm.view_eq j hj)
      exact this.trans (h1 j)
  cases hs with
  | @calm w w' g h =>
    obtain ⟨h1, h2, h3, h4⟩ := hx (h.state ▸ hy)
    exact ⟨fun j ↦ h.channels ▸ h1 j, h2, h3, h4⟩
  | @update w g f hc hs =>
    obtain ⟨h1, h2, h3, h4⟩ := hx (hs ▸ hy)
    exact ⟨fun j ↦ by rw [World.update_st, hc]; exact h1 j, h2, h3, h4⟩
  | @state w g f hc hv =>
    rcases hv with hv | hv | hv
    · cases hv
    · exact absurd hv hy
    · exact ⟨fun j ↦ by rw [World.update_st, hc]; exact hv.1 j, hv.2, hv.3, hv.4⟩
  | @breaker w g f b hc hs =>
    obtain ⟨h1, h2, h3, h4⟩ := hx (hs ▸ hy)
    exact ⟨fun j ↦ by rw [World.update_st, hc]; exact h1 j, h2, h3, h4⟩
  | accept ht hdown hst =>
    rcases hst with hst | hst
    · cases hst
    · exact absurd hst hy
  | grab h hext => cases hext
  | shuffle hp =>
    obtain ⟨h1, h2, h3, h4⟩ := hx hy
    rw [h2, h3, h4] at hp
    have hnil := List.append_eq_nil_iff.1 hp.eq_nil
    exact ⟨h1, (List.append_eq_nil_iff.1 hnil.1).1, (List.append_eq_nil_iff.1 hnil.1).2, hnil.2⟩
  | free ht hdown hh =>
    have := (hx hy).hand
    rw [hh] at this
    cases this
  | lose hh hfull =>
    have := (hx hy).hand
    rw [hh] at this
    cases this
  | @work w w' g i hi hdown hm hw hc =>
    exact moved hm hy hx fun hact ↦ hw.retains.active.trans hact
  | @bind w w' g i h hand fd okLocal okRemote id t t' hi hdown hh hm hact hfd ht ht' hv hok hcount harch =>
    have := (hx (hm.state ▸ hy)).hand
    rw [hh] at this
    cases this
  | release hi hdown hm hw hact hh hdone ht ht' ht'' hv hcount harch =>
    refine moved hm hy hx fun hdead ↦ ?_
    have hdead' := hw.retains.active.trans hdead
    rw [hact] at hdead'
    cases hdead'
  | @abandon w w' g i id t hi hm hact ht hv hcount harch =>
    obtain ⟨h1, h2, h3, h4⟩ := moved hm hy hx fun hdead ↦ by rw [hdead] at hact; cases hact
    exact ⟨h1, h2, h3, h4⟩
  | goDown =>
    obtain ⟨h1, h2, h3, h4⟩ := hx hy
    exact ⟨h1, h2, h3, h4⟩
  | forget hdown => exact ⟨(hx hy).1, rfl, rfl, rfl⟩
  | comeUp hdown hv => exact ⟨hv.1, hv.2, hv.3, hv.4⟩
  | _ => exact hx hy

end ReverseTunnel
