import Mathlib.Algebra.BigOperators.Group.List.Basic
import Mathlib.Algebra.Order.BigOperators.Group.List
import Mathlib.Algebra.Order.Ring.Nat
import ReverseTunnel.System.Trace

/-!
# Cumulative statistics

The byte counters of a connection live in its slot while it lasts, and in the totals of the channel
manager afterwards. They stay behind in the slot as well, until the next `bindChannel` resets it,
and two functions move them, one of which may be called after the other for the same slot. All the
same each lifetime is counted once: what `getTotalBytesReceived`, `getTotalBytesSent` and
`getTotalBytesDropped` return is the sum over **all** lifetimes, so it never decreases unless it
overflows.

The log of a slot shows its lifetimes: the newest entry of each of them carries its counters.
-/

namespace ReverseTunnel

open Traced TunnelM

variable {p : Params} {ext : Bool} {v v' : View} {w w' : TunnelWorld} {i : ℕ}

/-! ### Three counters -/

/-- The cumulative byte counters. -/
inductive Statistic where
  | received
  | sent
  | dropped

namespace Statistic

/-- The counter of a slot. -/
def counter : Statistic → ChannelSlot → ℕ
  | received, ch => ch.totalBytesReceived
  | sent, ch => ch.totalBytesSent
  | dropped, ch => ch.totalBytesDropped

/-- The counter of the lifetimes that have ended. -/
def completed : Statistic → ChannelManager → ℕ
  | received, c => c.completedBytesReceived
  | sent, c => c.completedBytesSent
  | dropped, c => c.completedBytesDropped

/-- What the channel manager reports. -/
def getTotal (p : Params) : Statistic → ChannelManager → UInt32
  | received, c => c.getTotalBytesReceived p
  | sent, c => c.getTotalBytesSent p
  | dropped, c => c.getTotalBytesDropped p

/-- The counters of the slots in use. -/
def running (p : Params) (s : Statistic) (c : ChannelManager) : ℕ :=
  ((List.range p.maxSlots).map fun i ↦
    if (c.slots i).active then s.counter (c.slots i) else 0).sum

theorem getTotal_eq (p : Params) (s : Statistic) (c : ChannelManager) :
    s.getTotal p c = UInt32.ofNat (s.completed c + s.running p c) := by
  cases s <;> rfl

end Statistic

/-! ### Lifetimes in a log -/

/-- The slot as the newest entry of each lifetime shows it, newest lifetime first. -/
def lifetimes : SlotLog → List ChannelSlot
  | [] => []
  | x :: past => x.pre :: if isBound x then lifetimes past else (lifetimes past).tail

/-- A counter, summed over the lifetimes of a slot. -/
def lifetimeSum (s : Statistic) (log : SlotLog) : ℕ := ((lifetimes log).map s.counter).sum

/-- A counter, summed over all lifetimes of all slots. -/
def allLifetimes (p : Params) (s : Statistic) (tr : Trace SSHTunnel Call Call.Reply Mark) : ℕ :=
  ((List.range p.maxSlots).map fun i ↦ lifetimeSum s (slotLog i tr)).sum

/-- More entries of the current lifetime leave the earlier ones alone. -/
theorem tail_lifetimes_append {items log : SlotLog} (h : ∀ x ∈ items, isBound x = false) :
    (lifetimes (items ++ log)).tail = (lifetimes log).tail := by
  induction items with
  | nil => rfl
  | cons x items ih =>
    rw [List.cons_append, lifetimes, h x (List.mem_cons_self ..)]
    exact ih fun y hy ↦ h y (List.mem_cons_of_mem _ hy)

/-- The counters of the lifetimes that have ended. -/
def View.finished (s : Statistic) (v : View) : ℕ :=
  ((if v.ch.active then (lifetimes v.log).tail else lifetimes v.log).map s.counter).sum

/-- Work on a slot ends no lifetime. -/
theorem WorkStep.finished (h : WorkStep p ext v v') (s : Statistic) :
    v'.finished s = v.finished s := by
  rcases h.active_or_wait with hact | ⟨hch, hlog⟩
  · obtain ⟨items, hlog, hbound, -⟩ := h.unbound
    have hact' : v'.ch.active = true := h.retains.active.trans hact
    rw [View.finished, View.finished, if_pos hact, if_pos hact', hlog,
      tail_lifetimes_append hbound]
  · rw [View.finished, hch, hlog]
    rfl

theorem Works.finished (h : Works p ext v v') (s : Statistic) : v'.finished s = v.finished s := by
  induction h with
  | refl => rfl
  | tail _ hs ih => rw [hs.finished, ih]

/-- When a lifetime begins, the one before it has long been counted. -/
theorem View.finished_bound (s : Statistic) {h : Handle} {fd : Int} {okLocal okRemote : Bool}
    {id t t' : ℕ} (hact : v.ch.active = false) :
    (v.bound p h fd okLocal okRemote id t t').finished s = v.finished s := by
  rw [View.finished, View.finished, hact]
  rfl

/-- When a slot in use is released, its counters are counted. -/
theorem View.finished_of_released {ch u : ChannelSlot} {clock t : ℕ} (s : Statistic)
    (items : SlotLog) (hact : v.ch.active = true) (hout : ch.active = false)
    (hbound : ∀ x ∈ items, isBound x = false) :
    View.finished s ⟨ch, .mark t u .released :: items ++ v.log, clock⟩ =
      v.finished s + s.counter u := by
  rw [View.finished, View.finished, hout, hact]
  show s.counter u + ((lifetimes (items ++ v.log)).tail.map s.counter).sum = _
  rw [tail_lifetimes_append hbound, Nat.add_comm]
  rfl

theorem View.finished_release (s : Statistic) {h : Handle} {rc : Int} {progress : Progress}
    {id id' t t' t'' : ℕ} (hact : v.ch.active = true) :
    (((v.freed h rc progress id t).discarded id' t').shut t'').finished s =
      v.finished s + s.counter v.ch.accountResidual := by
  rw [View.shut, View.discarded, View.socketClosed]
  split
  · refine (View.finished_of_released s [_, _] hact rfl (by simp [isBound])).trans ?_
    cases s <;> rfl
  · refine (View.finished_of_released s [_] hact rfl (by simp [isBound])).trans ?_
    cases s <;> rfl

theorem View.finished_abandon (s : Statistic) {id t : ℕ} (hact : v.ch.active = true) :
    ((v.dropped id t).set v.ch.reset).finished s =
      v.finished s + s.counter v.ch.accountResidual := by
  rw [View.dropped, View.socketClosed]
  split
  · refine (View.finished_of_released s [_] hact rfl (by simp [isBound])).trans ?_
    cases s <;> rfl
  · refine (View.finished_of_released s [] hact rfl (by simp)).trans ?_
    cases s <;> rfl

/-! ### The counters of a lifetime -/

/-- The log shows how a counter of the slot has grown. -/
structure Tallied (s : Statistic) (v : View) : Prop where
  /-- The newest entry shows the counter of a slot in use. -/
  newest : v.ch.active = true → ∃ x past, v.log = x :: past ∧ s.counter x.pre = s.counter v.ch
  /-- Within a lifetime it does not decrease. -/
  grows : History.Always (fun x past ↦ isBound x = false →
    ∀ y ∈ past.head?, s.counter y.pre ≤ s.counter x.pre) v.log
  /-- The oldest entry begins a lifetime. -/
  begun : ∀ x ∈ v.log.getLast?, isBound x = true

theorem tallied_fresh (s : Statistic) (clock : ℕ) : Tallied s (.fresh clock) where
  newest hact := by cases hact
  grows := trivial
  begun x hx := by simp [View.fresh] at hx

section Tallied

variable {s : Statistic} {x y : SlotItem}

/-- A slot in use has a log. -/
theorem Tallied.begun_cons (h : Tallied s v) (hact : v.ch.active = true) :
    ∀ z ∈ (x :: v.log).getLast?, isBound z = true := by
  obtain ⟨y, past, hlog, -⟩ := h.newest hact
  have := h.begun
  rw [hlog] at this ⊢
  rwa [List.getLast?_cons_cons]

/-- One more entry, which shows the counter as it is now. -/
theorem Tallied.cons (h : Tallied s v) (hact : v.ch.active = true) (hlog : v'.log = x :: v.log)
    (hle : s.counter v.ch ≤ s.counter x.pre) (heq : s.counter x.pre = s.counter v'.ch) :
    Tallied s v' := by
  obtain ⟨z, past, hz, hcount⟩ := h.newest hact
  refine ⟨fun _ ↦ ⟨x, v.log, hlog, heq⟩, ?_, ?_⟩
  · rw [hlog]
    refine ⟨fun _ y hy ↦ ?_, h.grows⟩
    rw [hz, List.head?_cons, Option.mem_some_iff] at hy
    rw [← hy, hcount]
    exact hle
  · rw [hlog]
    exact h.begun_cons hact

/-- A chunk of work: a call and the mark that ends it. -/
theorem Tallied.chunk (h : Tallied s v) (hact : v.ch.active = true)
    (hlog : v'.log = x :: y :: v.log) (hy : s.counter y.pre = s.counter v.ch)
    (hle : s.counter v.ch ≤ s.counter x.pre) (heq : s.counter x.pre = s.counter v'.ch) :
    Tallied s v' := by
  have hmid : Tallied s ⟨v.ch, y :: v.log, v.clock⟩ := h.cons hact rfl (by rw [hy]) hy
  exact hmid.cons hact hlog hle heq

/-- A change that leaves counter and log alone. -/
theorem Tallied.same (h : Tallied s v) (hact : v'.ch.active = v.ch.active)
    (hlog : v'.log = v.log) (heq : s.counter v'.ch = s.counter v.ch) : Tallied s v' := by
  refine ⟨fun ha ↦ ?_, hlog ▸ h.grows, hlog ▸ h.begun⟩
  rw [hlog, heq]
  exact h.newest (hact ▸ ha)

theorem Tallied.pump (h : Tallied s v) (hp : PumpStep p ext v v') : Tallied s v' := by
  cases hp with
  | wait ht => exact h.same rfl rfl rfl
  | checking hact hopen => exact h.cons hact rfl (Nat.le_refl _) rfl
  | pause ssh loc hact => exact h.cons hact rfl (by cases s <;> exact Nat.le_refl _) rfl
  | rearmSend hset ht hact => exact h.cons hact rfl (by cases s <;> exact Nat.le_refl _) rfl
  | rearmWrite hset ht hact => exact h.cons hact rfl (by cases s <;> exact Nat.le_refl _) rfl
  | forwardEof hact hopen hlocal herr hfwd hlog ht =>
    exact h.cons hact rfl (Nat.le_refl _) (by cases s <;> rfl)
  | _ =>
    refine h.chunk ‹v.ch.active = true› rfl ?_ ?_ rfl
    · cases s <;> rfl
    · cases s <;> simp [Statistic.counter, ChannelSlot.begun]

theorem Tallied.flush {h : Handle} {n : ℕ} (hv : Tallied s v) (hact : v.ch.active = true)
    (hf : Flush h n v v') : Tallied s v' := by
  induction hf with
  | done => exact hv
  | stop ht => exact hv.cons hact rfl (Nat.le_refl _) rfl
  | more ht hb hshape hb' hrest ih =>
    exact ih (hv.cons hact rfl (Nat.le_refl _) (by cases s <;> rfl)) hact

theorem Tallied.work (h : Tallied s v) (hw : WorkStep p ext v v') : Tallied s v' := by
  cases hw with
  | pump hp => exact h.pump hp
  | sendEofAgain hact hst hh heof hl hr hagain ht =>
    exact h.chunk hact rfl rfl (Nat.le_refl _) rfl
  | @sendEof u c id t t' rc hact hst hh heof hl hr hdone ht hflush ht' =>
    have hcall : Tallied s (v.call id t (.channelSendEof c) rc) :=
      h.cons hact rfl (Nat.le_refl _) rfl
    obtain ⟨r, hch, -⟩ := hflush.frame
    have hact' : u.ch.active = true := by
      rw [hch]
      exact hact
    refine (hcall.flush hact hflush).chunk hact' rfl ?_ ?_ rfl
    · cases s <;> rfl
    · cases s <;> exact Nat.le_refl _
  | finalizing hact hst hτ hverdict => exact h.cons hact rfl (Nat.le_refl _) rfl
  | closeChannel hact hh ht hnot =>
    exact h.cons hact rfl (Nat.le_refl _) (by cases s <;> rfl)
  | freeAgain hact hh hagain ht hclosed => exact h.cons hact rfl (Nat.le_refl _) rfl

/-- A slot that goes out of use. -/
theorem Tallied.retire (h : Tallied s v) (hact : v'.ch.active = false) (hlog : v'.log = v.log) :
    Tallied s v' := by
  refine ⟨fun ha ↦ ?_, hlog ▸ h.grows, hlog ▸ h.begun⟩
  rw [hact] at ha
  cases ha

/-- The residue is counted on the way out. -/
theorem counter_le_accountResidual (s : Statistic) (ch : ChannelSlot) :
    s.counter ch ≤ s.counter ch.accountResidual := by
  cases s with
  | dropped => exact Nat.le_add_right _ _
  | _ => exact Nat.le_refl _

/-- A lifetime begins. -/
theorem Tallied.begin (h : Tallied s v) (hlog : v'.log = x :: y :: v.log) (hy : isBound y = true)
    (hyx : s.counter y.pre = s.counter x.pre) (heq : s.counter x.pre = s.counter v'.ch) :
    Tallied s v' := by
  refine ⟨fun _ ↦ ⟨x, _, hlog, heq⟩, ?_, ?_⟩
  · rw [hlog]
    refine ⟨fun _ z hz ↦ ?_, fun hno ↦ ?_, h.grows⟩
    · rw [← Option.mem_some_iff.1 hz, hyx]
    · rw [hy] at hno
      cases hno
  · rw [hlog, List.getLast?_cons_cons]
    rcases hv : v.log with - | ⟨z, past⟩
    · simpa using hy
    · rw [List.getLast?_cons_cons, ← hv]
      exact h.begun

theorem Tallied.step (h : Tallied s v) (hs : SlotStep p ext v v') : Tallied s v' := by
  cases hs with
  | work hw => exact h.work hw
  | bind hact hfd ht ht' => exact h.begin rfl rfl rfl rfl
  | @release c id id' t t' t'' rc progress hact hh hdone ht ht' ht'' hclosed =>
    have hfree : Tallied s (v.freed c rc progress id t) :=
      h.cons hact rfl (Nat.le_refl _) (by cases s <;> rfl)
    have hres := counter_le_accountResidual s v.ch
    rw [View.shut, View.discarded, View.socketClosed]
    split
    · have hmark : Tallied s ((((v.freed c rc progress id t).call id' t'
          (.closeSocket v.ch.localSocket) ()).set (v.freed c rc progress id t).ch.emptied).mark
            .released) :=
        hfree.chunk hact rfl rfl (by cases s <;> exact hres) rfl
      exact hmark.retire rfl rfl
    · have hmark : Tallied s (((v.freed c rc progress id t).set
          (v.freed c rc progress id t).ch.emptied).mark .released) :=
        hfree.cons hact rfl (by cases s <;> exact hres) rfl
      exact hmark.retire rfl rfl
  | @abandon id t hact ht =>
    have hres := counter_le_accountResidual s v.ch
    rw [View.dropped, View.socketClosed]
    split
    · have hsocket : Tallied s ((v.set v.ch.accountResidual).call id t
          (.closeSocket v.ch.localSocket) ()) := h.cons hact rfl hres rfl
      have hmark : Tallied s ((((v.set v.ch.accountResidual).call id t
          (.closeSocket v.ch.localSocket) ()).set v.ch.emptied).mark .released) :=
        hsocket.cons hact rfl (by cases s <;> exact Nat.le_refl _) rfl
      exact hmark.retire rfl rfl
    · have hmark : Tallied s (((v.set v.ch.accountResidual).set v.ch.emptied).mark .released) :=
        h.cons hact rfl (by cases s <;> exact hres) rfl
      exact hmark.retire rfl rfl

end Tallied

theorem Tallied.sum_eq {s : Statistic} (h : Tallied s v) :
    lifetimeSum s v.log = v.finished s + if v.ch.active then s.counter v.ch else 0 := by
  rw [lifetimeSum, View.finished]
  cases hact : v.ch.active with
  | false => simp
  | true =>
    obtain ⟨x, past, hlog, hcount⟩ := h.newest hact
    rw [hlog, lifetimes, List.map_cons, List.sum_cons, hcount, if_pos rfl, if_pos rfl,
      List.tail_cons, Nat.add_comm]

/-- What is counted is never taken back. -/
theorem lifetimeSum_le_append {s : Statistic} {items log : SlotLog}
    (h : History.Always (fun x past ↦ isBound x = false →
      ∀ y ∈ past.head?, s.counter y.pre ≤ s.counter x.pre) (items ++ log)) :
    lifetimeSum s log ≤ lifetimeSum s (items ++ log) := by
  induction items with
  | nil => exact Nat.le_refl _
  | cons x items ih =>
    refine Nat.le_trans (ih h.2) ?_
    have hx : isBound x = false → ∀ y ∈ (items ++ log).head?,
        s.counter y.pre ≤ s.counter x.pre := h.1
    rw [List.cons_append, lifetimeSum, lifetimeSum, lifetimes, List.map_cons, List.sum_cons]
    cases hb : isBound x with
    | true => exact Nat.le_add_left _ _
    | false =>
      rcases hpast : items ++ log with - | ⟨y, past⟩
      · exact Nat.zero_le _
      · -- the entry replaces an older one of its lifetime
        rw [hpast] at hx
        have hle := hx hb y rfl
        rw [lifetimes, List.map_cons, List.sum_cons]
        exact Nat.add_le_add_right hle _

theorem length_lifetimes {log : SlotLog} (h : ∀ x ∈ log.getLast?, isBound x = true) :
    (lifetimes log).length = log.countP isBound := by
  induction log with
  | nil => rfl
  | cons x past ih =>
    rcases past with - | ⟨y, past⟩
    · have hx : isBound x = true := h x rfl
      simp [lifetimes, hx]
    · have ih := ih h
      rw [lifetimes, List.countP_cons, List.length_cons, ← ih]
      cases hb : isBound x with
      | true => rfl
      | false => simp [lifetimes]

/-! ### Over all slots -/

/-- Two sums that differ at one place only. -/
theorem sum_map_range_update {n : ℕ} (f f' : ℕ → ℕ) (hi : i < n) (h : ∀ j, j ≠ i → f' j = f j) :
    ((List.range n).map f').sum + f i = ((List.range n).map f).sum + f' i := by
  induction n with
  | zero => omega
  | succ n ih =>
    simp only [List.range_succ, List.map_append, List.sum_append, List.map_cons, List.map_nil,
      List.sum_cons, List.sum_nil]
    by_cases hin : i = n
    · subst hin
      have hbelow : (List.range i).map f' = (List.range i).map f :=
        List.map_congr_left fun j hj ↦ h j (Nat.ne_of_lt (List.mem_range.1 hj))
      rw [hbelow]
      omega
    · have := ih (by omega)
      rw [h n fun hn ↦ hin hn.symm]
      omega

/-- A counter over the lifetimes that have ended, of all slots. -/
def allFinished (p : Params) (s : Statistic) (w : TunnelWorld) : ℕ :=
  ((List.range p.maxSlots).map fun i ↦ (slotView i w).finished s).sum

theorem SlotMove.allFinished (hm : SlotMove i w w') (hi : i < p.maxSlots) (s : Statistic) :
    allFinished p s w' + (slotView i w).finished s =
      allFinished p s w + (slotView i w').finished s := by
  refine sum_map_range_update (fun i ↦ (slotView i w).finished s)
    (fun i ↦ (slotView i w').finished s) hi fun j hj ↦ ?_
  rw [hm.view_eq j hj]
  rfl

theorem allFinished_congr (s : Statistic)
    (h : ∀ j, ∃ t, slotView j w' = (slotView j w).wait t) :
    allFinished p s w' = allFinished p s w := by
  refine congrArg List.sum (List.map_congr_left fun j _ ↦ ?_)
  obtain ⟨t, ht⟩ := h j
  rw [ht]
  rfl

theorem Archives.completed {ch : ChannelSlot} (h : Archives ch w w') (s : Statistic) :
    s.completed w'.st.channels = s.completed w.st.channels + s.counter ch := by
  cases s with
  | received => exact h.received
  | sent => exact h.sent
  | dropped => exact h.dropped

theorem SameCounters.completed (h : SameCounters w w') (s : Statistic) :
    s.completed w'.st.channels = s.completed w.st.channels :=
  (h.archives.completed s).trans (by cases s <;> rfl)

/-- The channel manager has counted the lifetimes that have ended, each of them once. -/
theorem At.completed_eq {g : Ledger} (h : At p ext g w) (s : Statistic) :
    s.completed w.st.channels = allFinished p s w := by
  refine h.invariant (I := fun x ↦ s.completed x.1.st.channels = allFinished p s x.1) ?_ ?_
  · intro clock
    have h0 : allFinished p s (initial clock) = 0 :=
      List.sum_eq_zero fun n hn ↦ by
        obtain ⟨i, -, rfl⟩ := List.mem_map.1 hn
        rfl
    rw [h0]
    cases s <;> rfl
  intro x y hx hs
  -- only a slot can change the sum, and only by its own lifetime
  have marked : ∀ {w : TunnelWorld} {m : Mark}, (∀ i sm, m ≠ .slot i sm) →
      allFinished p s (w.marked m) = allFinished p s w := fun hm ↦
    congrArg List.sum (List.map_congr_left fun j _ ↦ by rw [slotView_marked hm])
  have updated : ∀ {w : TunnelWorld} {f : SSHTunnel → SSHTunnel},
      (f w.st).channels.slots = w.st.channels.slots →
      allFinished p s (w.update f) = allFinished p s w := fun hf ↦
    congrArg List.sum (List.map_congr_left fun j _ ↦ by rw [slotView_update hf])
  cases hs with
  | calm h =>
    rw [h.channels, allFinished_congr s fun j ↦ ⟨_, h.view_eq j⟩]
    exact hx
  | update hc hs =>
    rw [World.update_st, hc, updated (congrArg _ hc)]
    exact hx
  | breaker hc hs =>
    rw [updated (congrArg (·.slots) hc), World.update_st, hc]
    cases s <;> exact hx
  | state hc hv =>
    rw [World.update_st, hc, updated (congrArg _ hc)]
    exact hx
  | mark hm =>
    rw [marked]
    · exact hx
    · rcases hm with ⟨_, _, rfl, -⟩ | ⟨_, rfl⟩ | rfl <;> simp
  | returned ht hdown => rw [marked (by simp)]; exact hx
  | tornDown ht hmid hd => rw [marked (by simp)]; exact hx
  | goDown => rw [marked (by simp)]; exact hx
  | work hi hdown hm hw hc =>
    have hsum := hm.allFinished hi s
    rw [hw.finished] at hsum
    dsimp only at hx ⊢
    rw [hc.completed, hx]
    omega
  | @bind w w' g i h hand fd okLocal okRemote id t t' hi hdown hh hm hact hfd ht ht' hv hok hcount
      harch =>
    have hsum := hm.allFinished hi s
    rw [hv, View.finished_bound s hact] at hsum
    have hnone : s.counter {} = 0 := by cases s <;> rfl
    dsimp only at hx ⊢
    rw [harch.completed, hx, hnone]
    omega
  | @release w w' g i v h id id' t t' t'' rc progress hi hdown hm hw hact hh hdone ht ht' ht'' hv
      hcount harch hclosed =>
    have hsum := hm.allFinished hi s
    rw [hv, View.finished_release s hact, hw.finished] at hsum
    dsimp only at hx ⊢
    rw [harch.completed, hx]
    omega
  | @abandon w w' g i id t hi hm hact ht hv hcount harch =>
    have hsum := hm.allFinished hi s
    have hv : (slotView i w').finished s =
        (slotView i w).finished s + s.counter (w.st.channels.slots i).accountResidual := by
      rw [hv]
      exact View.finished_abandon s hact
    dsimp only at hx ⊢
    rw [harch.completed, hx]
    omega
  | _ => exact hx

theorem Run.tallied (hw : Run p w) (s : Statistic) (i : ℕ) : Tallied s (slotView i w) :=
  hw.followed.invariant (tallied_fresh s) (fun _ _ _ h hs ↦ h.step hs) i

theorem Run.total_eq (hw : Run p w) (s : Statistic) :
    s.completed w.st.channels + s.running p w.st.channels = allLifetimes p s w.trace := by
  obtain ⟨_, ⟨g, hat, -⟩, -⟩ := hw.resting
  rw [hat.completed_eq s, allFinished, Statistic.running, ← List.sum_map_add]
  refine congrArg List.sum (List.map_congr_left fun i _ ↦ ?_)
  exact (hw.tallied s i).sum_eq.symm

/-- **Cumulative statistics.** In every run each of the three totals is, modulo `2 ^ 32`, the sum of
that counter over all lifetimes of all slots, of which there is one for every `bindChannel`. So no
later total is smaller, as long as the sum does not overflow. -/
theorem statistics_cumulative (hw : Run p w) (s : Statistic) :
    s.getTotal p w.st.channels = UInt32.ofNat (allLifetimes p s w.trace) ∧
    (∀ i, (lifetimes (slotLog i w.trace)).length = (slotLog i w.trace).countP isBound) ∧
    ∀ w', Run p w' → (∃ items, w'.trace = items ++ w.trace) →
      allLifetimes p s w'.trace < 2 ^ 32 →
        s.getTotal p w.st.channels ≤ s.getTotal p w'.st.channels := by
  have htotal : ∀ {u}, Run p u →
      s.getTotal p u.st.channels = UInt32.ofNat (allLifetimes p s u.trace) := fun hu ↦ by
    rw [s.getTotal_eq, hu.total_eq s]
  refine ⟨htotal hw, fun i ↦ length_lifetimes (hw.tallied s i).begun, ?_⟩
  rintro w' hw' ⟨items, htrace⟩ hlt
  have hle : allLifetimes p s w.trace ≤ allLifetimes p s w'.trace := by
    refine List.sum_le_sum fun i _ ↦ ?_
    have hgrows := (hw'.tallied s i).grows
    rw [slotView_log, htrace, slotLog, List.filterMap_append] at hgrows
    rw [htrace, slotLog, slotLog, List.filterMap_append]
    exact lifetimeSum_le_append hgrows
  rw [htotal hw, htotal hw', UInt32.le_iff_toNat_le, UInt32.toNat_ofNat', UInt32.toNat_ofNat',
    Nat.mod_eq_of_lt hlt, Nat.mod_eq_of_lt (Nat.lt_of_le_of_lt hle hlt)]
  exact hle

/-- Four of five operations could read three bytes. -/
def tricklingWorld : Env Call Call.Reply := worldWith 1 fun n c ↦
  match c with
  | .io _ (.channelRead _ k) =>
    if h : 3 ≤ k ∧ n % 5 ≠ 0 then some (threeBytes h.1) else none
  | _ => none

/-- A slot is used for two channels, the first of which is closed. -/
def reusedRun : TunnelWorld := afterManagerOps (smallTunnel 1)
  [(.bindChannel 0 77 {}, tricklingWorld), (.pumpAll, tricklingWorld), (.finalizeClose 0, tricklingWorld),
    (.allocateSlot, worldWith 100 fun _ _ ↦ none), (.bindChannel 0 78 {}, tricklingWorld),
    (.pumpAll, tricklingWorld)]

/-- The second one is given up. -/
def reusedRun' : TunnelWorld :=
  (ManagerOp.prog (smallTunnel 1) (.abandonSlot 0 .manual)).exec tricklingWorld reusedRun

theorem run_reusedRun : Run (smallTunnel 1) reusedRun := run_after _

theorem run_reusedRun' : Run (smallTunnel 1) reusedRun' :=
  .step _ (.inr (Set.mem_range_self _)) _ run_reusedRun

theorem statistics_cumulative_reusedRun :
    Statistic.received.getTotal (smallTunnel 1) reusedRun.st.channels =
      UInt32.ofNat (allLifetimes (smallTunnel 1) .received reusedRun.trace) ∧
    Statistic.received.getTotal (smallTunnel 1) reusedRun.st.channels ≤
      Statistic.received.getTotal (smallTunnel 1) reusedRun'.st.channels ∧
    (lifetimes (slotLog 0 reusedRun.trace)).length = 2 ∧
    0 < allLifetimes (smallTunnel 1) .received reusedRun.trace :=
  ⟨(statistics_cumulative run_reusedRun .received).1,
    (statistics_cumulative run_reusedRun .received).2.2 reusedRun' run_reusedRun' ⟨_, rfl⟩
      (Nat.lt_of_le_of_lt (show _ ≤ 1000 by decide +kernel) (by omega)), by decide +kernel,
    by decide +kernel⟩

end ReverseTunnel
