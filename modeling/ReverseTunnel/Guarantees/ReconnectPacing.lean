import ReverseTunnel.Lib.Backoff
import ReverseTunnel.Tunnel.Keeps
import ReverseTunnel.System.Trace

/-!
# Reconnect pacing

`handleReconnection` decides by the tunnel's own attempt counter and by the 32-bit reading of the
clock stored at the last attempt. Here the pace is stated without either: `failures` counts on the
trace, times are true times, and every attempt has to keep its distance from **all** earlier ones and
from every moment at which the clock was stored.

The counter is reset in three places. The one in the exhausted branch needs care: an attempt normally
follows at once, but if the clock makes nearly a full turn between two readings, none does. Then the
counter is ahead of the trace, and what keeps the distance is that a minute has already passed.

`requestReconnect` counts as a request only where it does something, that is in the disconnected
state; elsewhere it returns at once, and the attempt that is due anyway is not put off by it.
-/

namespace ReverseTunnel

open Traced Clock32 TunnelM

variable {p : Params} {w w₀ w' : TunnelWorld}

/-! ### The delay -/

/-- The loop in 32-bit arithmetic does what it does without bounds. -/
theorem toNat_doubleDelay (n : ℕ) (delay : UInt32) :
    (doubleDelay n delay).toNat = Backoff.doubled 60000 n delay.toNat := by
  induction n generalizing delay with
  | zero => rfl
  | succ n ih =>
    rw [doubleDelay, Backoff.doubled]
    have hiff : delay < 60000 ↔ delay.toNat < 60000 := UInt32.lt_iff_toNat_lt
    by_cases hlt : delay < 60000
    · rw [if_pos hlt, if_pos (hiff.1 hlt), ih, UInt32.toNat_mul]
      congr 1
      have := hiff.1 hlt
      show delay.toNat * 2 % 2 ^ 32 = _
      omega
    · rw [if_neg hlt, if_neg (mt hiff.2 hlt)]

theorem toNat_baseDelay {b : Int} (hb : 1 ≤ b) (hb' : b < 2 ^ 31) :
    (UInt32.ofNat (b % 2 ^ 32).toNat).toNat = b.toNat := by
  rw [UInt32.toNat_ofNat']
  omega

/-- **The delay is exact**: the base delay, doubled for every attempt, up to a minute. -/
theorem toNat_reconnectDelay {b : Int} (hb : 1 ≤ b) (hb' : b < 2 ^ 31) (k : ℕ) :
    (reconnectDelay b k).toNat = min 60000 (b.toNat * 2 ^ k) := by
  rw [← Backoff.min_doubled, ← toNat_baseDelay hb hb', ← toNat_doubleDelay, reconnectDelay]
  have hiff : ∀ d : UInt32, d > 60000 ↔ 60000 < d.toNat := fun d ↦ UInt32.lt_iff_toNat_lt
  split
  · next h =>
    rw [min_eq_left (Nat.le_of_lt ((hiff _).1 h))]
    rfl
  · next h => rw [min_eq_right (Nat.le_of_not_lt (mt (hiff _).2 h))]

/-! ### What the trace says -/

/-- `handleReconnection` makes an attempt. -/
def isReconnecting : Item SSHTunnel Call Call.Reply Mark → Bool
  | .mark _ _ (.note .reconnecting) => true
  | _ => false

/-- `lastConnectionAttempt_` is stored. -/
def isClocked : Item SSHTunnel Call Call.Reply Mark → Bool
  | .mark _ _ (.note .clocked) => true
  | _ => false

/-- Something is noted, about more than a visit of the pump. -/
def isNote : Item SSHTunnel Call Call.Reply Mark → Bool
  | .mark _ _ (.note (.pumped _)) | .mark _ _ (.note (.drained _)) => false
  | .mark _ _ (.note _) => true
  | _ => false

/-- The count of failures after an entry of the trace. -/
def recount (limit : ℕ) (x : Item SSHTunnel Call Call.Reply Mark) (n : ℕ) : ℕ :=
  match x with
  | .mark _ _ (.note .counterReset) => 0
  | .mark _ _ (.note .reconnecting) => if n < limit then n + 1 else 1
  | _ => n

/-- The attempts that have failed since the last success or reset of the counter. The attempt after
`limit` of them begins a new count. -/
def failures (limit : ℕ) : Trace SSHTunnel Call Call.Reply Mark → ℕ
  | [] => 0
  | x :: past => recount limit x (failures limit past)

/-- An attempt at time `t` keeps its distance from what lies before it. -/
structure DueAt (base limit t : ℕ) (past : Trace SSHTunnel Call Call.Reply Mark) : Prop where
  /-- From earlier attempts, by the delay for the failures so far. -/
  attempts : ∀ y ∈ past, isReconnecting y = true →
    y.time + min 60000 (base * 2 ^ failures limit past) ≤ t
  /-- From earlier attempts, by a minute when they are used up. -/
  cooldown : failures limit past = limit → ∀ y ∈ past, isReconnecting y = true →
    y.time + 60000 ≤ t
  /-- From every moment at which the clock was stored, by the base delay. -/
  clocked : ∀ y ∈ past, isClocked y = true → y.time + min 60000 base ≤ t

/-- The rule for every entry of a trace. -/
def Spaced (base limit : ℕ) (x : Item SSHTunnel Call Call.Reply Mark)
    (past : Trace SSHTunnel Call Call.Reply Mark) : Prop :=
  isReconnecting x = true → DueAt base limit x.time past

theorem recount_of_not_note {limit : ℕ} {x : Item SSHTunnel Call Call.Reply Mark} {n : ℕ}
    (h : isNote x = false) : recount limit x n = n := by
  cases x with
  | call id t s c r => rfl
  | mark t s m =>
    cases m with
    | note n => cases n <;> first | rfl | cases h
    | _ => rfl

theorem failures_append {limit : ℕ} {items past : Trace SSHTunnel Call Call.Reply Mark}
    (h : ∀ x ∈ items, isNote x = false) : failures limit (items ++ past) = failures limit past := by
  induction items with
  | nil => rfl
  | cons x items ih =>
    rw [List.cons_append, failures, recount_of_not_note (h x (List.mem_cons_self ..)),
      ih fun y hy ↦ h y (List.mem_cons_of_mem _ hy)]

theorem recount_le {limit n : ℕ} {x : Item SSHTunnel Call Call.Reply Mark} (hlimit : 1 ≤ limit)
    (h : n ≤ limit) : recount limit x n ≤ limit := by
  cases x with
  | call id t s c r => exact h
  | mark t s m =>
    cases m with
    | note n =>
      cases n with
      | reconnecting =>
        rw [recount]
        split <;> omega
      | counterReset => exact Nat.zero_le _
      | _ => exact h
    | _ => exact h

theorem failures_le {limit : ℕ} (hlimit : 1 ≤ limit) (tr : Trace SSHTunnel Call Call.Reply Mark) :
    failures limit tr ≤ limit := by
  induction tr with
  | nil => exact Nat.zero_le _
  | cons x past ih => exact recount_le hlimit ih

theorem not_reconnecting_of_not_note {x : Item SSHTunnel Call Call.Reply Mark}
    (h : isNote x = false) : isReconnecting x = false := by
  cases x with
  | call id t s c r => rfl
  | mark t s m =>
    cases m with
    | note n => cases n <;> first | rfl | cases h
    | _ => rfl

theorem not_clocked_of_not_note {x : Item SSHTunnel Call Call.Reply Mark} (h : isNote x = false) :
    isClocked x = false := by
  cases x with
  | call id t s c r => rfl
  | mark t s m =>
    cases m with
    | note n => cases n <;> first | rfl | cases h
    | _ => rfl

/-! ### What most of the tunnel does to it -/

/-- From `w₀` to `w` nothing was noted, and what the tunnel reconnects by was left alone. -/
structure Unnoticed (w₀ w : TunnelWorld) : Prop where
  /-- The tunnel state is as it was. -/
  state : w.st.state = w₀.st.state
  /-- The stored reading is as it was. -/
  lastConnectionAttempt : w.st.lastConnectionAttempt = w₀.st.lastConnectionAttempt
  /-- The counter is as it was. -/
  reconnectAttempts : w.st.reconnectAttempts = w₀.st.reconnectAttempts
  /-- Time does not go back. -/
  clock_le : w₀.clock ≤ w.clock
  /-- Nothing was noted, and the counter was as it is all the time. -/
  trace : ∃ items, w.trace = items ++ w₀.trace ∧
    ∀ x ∈ items, isNote x = false ∧ x.pre.reconnectAttempts = w₀.st.reconnectAttempts

namespace Unnoticed

theorem refl (w : TunnelWorld) : Unnoticed w w := ⟨rfl, rfl, rfl, Nat.le_refl _, [], rfl, by simp⟩

theorem trans {w₁ w₂ : TunnelWorld} (h : Unnoticed w₀ w₁) (h' : Unnoticed w₁ w₂) :
    Unnoticed w₀ w₂ := by
  obtain ⟨items, ht, hi⟩ := h.trace
  obtain ⟨items', ht', hi'⟩ := h'.trace
  refine ⟨h'.state.trans h.state, h'.lastConnectionAttempt.trans h.lastConnectionAttempt,
    h'.reconnectAttempts.trans h.reconnectAttempts, Nat.le_trans h.clock_le h'.clock_le,
    items' ++ items, by rw [ht', ht, List.append_assoc], fun x hx ↦ ?_⟩
  rcases List.mem_append.1 hx with hx | hx
  · exact ⟨(hi' x hx).1, (hi' x hx).2.trans h.reconnectAttempts⟩
  · exact hi x hx

/-- A change of state that leaves alone what the tunnel reconnects by. -/
theorem update {f : SSHTunnel → SSHTunnel} (hs : (f w.st).state = w.st.state)
    (hl : (f w.st).lastConnectionAttempt = w.st.lastConnectionAttempt)
    (ha : (f w.st).reconnectAttempts = w.st.reconnectAttempts) : Unnoticed w (w.update f) :=
  ⟨hs, hl, ha, Nat.le_refl _, [], rfl, by simp⟩

/-- The clock is read. -/
theorem wait {t : ℕ} (ht : w.clock ≤ t) : Unnoticed w (w.wait t) :=
  ⟨rfl, rfl, rfl, ht, [], rfl, by simp⟩

/-- A call is made. -/
theorem after {c : SysCall} {r : c.Reply} {t : ℕ} (ht : w.clock ≤ t) :
    Unnoticed w (w.after (.sys c) r t) :=
  ⟨rfl, rfl, rfl, ht, [_], rfl, List.forall_mem_singleton.2 ⟨rfl, rfl⟩⟩

end Unnoticed

theorem tunnelKeeps_unnoticed (w₀ : TunnelWorld) : TunnelKeeps (Unnoticed w₀) where
  sysId c w h := wp_callId fun r t ht ↦ h.trans (.after ht)
  millis w h := wp_tick_bind fun _ ht ↦ wp_pure (h.trans (.wait ht))
  mark m hm w h := by
    refine wp_mark (h.trans ⟨rfl, rfl, rfl, Nat.le_refl _, [_], rfl,
      List.forall_mem_singleton.2 ⟨?_, rfl⟩⟩)
    cases m with
    | note n => cases n <;> first | rfl | cases hm
    | _ => rfl
  onSlot i m w h := by
    refine wp_onSlot (wp_mono (wp_forward (Q := fun _ _ ↦ True) fun _ ↦ trivial)
      fun _ l ⟨_, hclock, _⟩ ↦ h.trans ⟨rfl, rfl, rfl, hclock, _, rfl, fun x hx ↦ ?_⟩)
    obtain ⟨y, -, rfl⟩ := List.mem_map.1 hx
    cases y with
    | call id t s c r => exact ⟨rfl, rfl⟩
    | mark t s m => exact ⟨rfl, rfl⟩
  modify f hf w h := wp_modify (h.trans
    (.update (hf.state _) (hf.lastConnectionAttempt _) (hf.reconnectAttempts _)))

/-- What such a change cannot break, most of the tunnel cannot. -/
theorem tunnelKeeps_of_unnoticed {I : TunnelWorld → Prop}
    (hI : ∀ w w', I w → Unnoticed w w' → I w') : TunnelKeeps I where
  sysId c w h := wp_mono ((tunnelKeeps_unnoticed w).sysId c w (.refl w)) fun _ w' hu ↦ hI w w' h hu
  millis w h := wp_mono ((tunnelKeeps_unnoticed w).millis w (.refl w)) fun _ w' hu ↦ hI w w' h hu
  mark m hm w h := wp_mono ((tunnelKeeps_unnoticed w).mark m hm w (.refl w)) fun _ w' hu ↦
    hI w w' h hu
  onSlot i m w h := wp_mono ((tunnelKeeps_unnoticed w).onSlot i m w (.refl w)) fun _ w' hu ↦
    hI w w' h hu
  modify f hf w h := wp_mono ((tunnelKeeps_unnoticed w).modify f hf w (.refl w)) fun _ w' hu ↦
    hI w w' h hu

/-! ### The invariant -/

/-- `reconnectDelayMs`, as a number of milliseconds. -/
abbrev Params.baseDelay (p : Params) : ℕ := p.connection.reconnectDelayMs.toNat

/-- `maxReconnectAttempts`, as a number. -/
abbrev Params.attemptLimit (p : Params) : ℕ := p.connection.maxReconnectAttempts.toNat

/-- What the trace and the counter have to do with each other. -/
structure Recorded (p : Params) (w : TunnelWorld) : Prop where
  /-- Every attempt has kept its distance. -/
  rule : History.Always (Spaced p.baseDelay p.attemptLimit) w.trace
  /-- The counter was never beyond its limit. -/
  bounded : ∀ x ∈ w.trace, x.pre.reconnectAttempts ≤ p.attemptLimit
  /-- The counter counts the failures, unless it has been reset after a minute of waiting and no
  attempt has been made since. -/
  counter : w.st.reconnectAttempts = failures p.attemptLimit w.trace ∨
    failures p.attemptLimit w.trace = p.attemptLimit ∧ w.st.reconnectAttempts = 0 ∧
      ∀ y ∈ w.trace, isReconnecting y = true → y.time + 60000 ≤ w.clock
  /-- Attempts and readings lie in the past. -/
  past : ∀ y ∈ w.trace, isReconnecting y = true ∨ isClocked y = true → y.time ≤ w.clock

/-- The stored reading is not older than any attempt or any other reading. -/
def Dated (w : TunnelWorld) : Prop :=
  ∃ τ ≤ w.clock, w.st.lastConnectionAttempt = stamp τ ∧
    ∀ y ∈ w.trace, isReconnecting y = true ∨ isClocked y = true → y.time ≤ τ

/-- The invariant between operations. The stored reading only matters in the error state. -/
structure Paced (p : Params) (w : TunnelWorld) : Prop extends Recorded p w where
  /-- In the error state. -/
  dated : w.st.state = .error → Dated w

/-- An attempt may be made. -/
structure Due (p : Params) (w : TunnelWorld) : Prop extends Recorded p w where
  /-- The tunnel is in the error state. -/
  state : w.st.state = .error
  /-- There are attempts left. -/
  lt : w.st.reconnectAttempts < p.attemptLimit
  /-- It keeps its distance. -/
  due : DueAt p.baseDelay p.attemptLimit w.clock w.trace

theorem Recorded.le (h : Recorded p w) (hlimit : 1 ≤ p.attemptLimit) :
    w.st.reconnectAttempts ≤ p.attemptLimit := by
  rcases h.counter with hc | ⟨-, hc, -⟩
  · rw [hc]
    exact failures_le hlimit _
  · rw [hc]
    exact Nat.zero_le _

section Later

/-- Attempts and readings are never new where nothing was noted. -/
theorem Unnoticed.mem_of_paced (h : Unnoticed w w') {y : Item SSHTunnel Call Call.Reply Mark}
    (hy : y ∈ w'.trace) (hp : isReconnecting y = true ∨ isClocked y = true) : y ∈ w.trace := by
  obtain ⟨items, ht, hi⟩ := h.trace
  rw [ht] at hy
  rcases List.mem_append.1 hy with hy | hy
  · have hn := (hi y hy).1
    rw [not_reconnecting_of_not_note hn, not_clocked_of_not_note hn] at hp
    simp at hp
  · exact hy

theorem Unnoticed.failures_eq (h : Unnoticed w w') (limit : ℕ) :
    failures limit w'.trace = failures limit w.trace := by
  obtain ⟨items, ht, hi⟩ := h.trace
  rw [ht, failures_append fun x hx ↦ (hi x hx).1]

theorem Recorded.later (h : Recorded p w) (hlimit : 1 ≤ p.attemptLimit) (hu : Unnoticed w w') :
    Recorded p w' := by
  have hmem := fun y hy hp ↦ hu.mem_of_paced (y := y) hy hp
  refine ⟨?_, fun x hx ↦ ?_, ?_, fun y hy hp ↦
    Nat.le_trans (h.past y (hmem y hy hp) hp) hu.clock_le⟩
  · obtain ⟨items, ht, hi⟩ := hu.trace
    rw [ht]
    refine h.rule.append fun x hx rest hrec ↦ ?_
    rw [not_reconnecting_of_not_note (hi x hx).1] at hrec
    cases hrec
  · obtain ⟨items, ht, hi⟩ := hu.trace
    rw [ht] at hx
    rcases List.mem_append.1 hx with hx | hx
    · rw [(hi x hx).2]
      exact h.le hlimit
    · exact h.bounded x hx
  · rw [hu.reconnectAttempts, hu.failures_eq]
    refine h.counter.imp_right fun ⟨hf, ha, hy⟩ ↦ ⟨hf, ha, fun y hmem' hrec ↦ ?_⟩
    exact Nat.le_trans (hy y (hmem y hmem' (.inl hrec)) hrec) hu.clock_le

theorem Dated.later (h : Dated w) (hu : Unnoticed w w') : Dated w' := by
  obtain ⟨τ, hτ, hl, hy⟩ := h
  exact ⟨τ, Nat.le_trans hτ hu.clock_le, hu.lastConnectionAttempt.trans hl,
    fun y hmem hp ↦ hy y (hu.mem_of_paced hmem hp) hp⟩

theorem Paced.later (h : Paced p w) (hlimit : 1 ≤ p.attemptLimit) (hu : Unnoticed w w') :
    Paced p w' :=
  ⟨h.toRecorded.later hlimit hu, fun hst ↦ (h.dated (hu.state.symm.trans hst)).later hu⟩

theorem Due.later (h : Due p w) (hlimit : 1 ≤ p.attemptLimit) (hu : Unnoticed w w') : Due p w' := by
  refine ⟨h.toRecorded.later hlimit hu, hu.state.trans h.state, hu.reconnectAttempts ▸ h.lt, ?_, ?_, ?_⟩
  · rw [hu.failures_eq]
    intro y hy hrec
    exact Nat.le_trans (h.due.attempts y (hu.mem_of_paced hy (.inl hrec)) hrec) hu.clock_le
  · rw [hu.failures_eq]
    intro hf y hy hrec
    exact Nat.le_trans (h.due.cooldown hf y (hu.mem_of_paced hy (.inl hrec)) hrec) hu.clock_le
  · intro y hy hc
    exact Nat.le_trans (h.due.clocked y (hu.mem_of_paced hy (.inr hc)) hc) hu.clock_le

end Later

theorem tunnelKeeps_paced (hlimit : 1 ≤ p.attemptLimit) : TunnelKeeps (Paced p) :=
  tunnelKeeps_of_unnoticed fun _ _ h ↦ h.later hlimit

theorem tunnelKeeps_due (hlimit : 1 ≤ p.attemptLimit) : TunnelKeeps (Due p) :=
  tunnelKeeps_of_unnoticed fun _ _ h ↦ h.later hlimit

/-- A change of state that leaves alone what the tunnel reconnects by. -/
theorem paced_modify (hlimit : 1 ≤ p.attemptLimit) {f : SSHTunnel → SSHTunnel}
    (hs : ∀ s, (f s).state = s.state)
    (hl : ∀ s, (f s).lastConnectionAttempt = s.lastConnectionAttempt)
    (ha : ∀ s, (f s).reconnectAttempts = s.reconnectAttempts) :
    Preserves (Paced p) (Prog.modify f) :=
  fun w h ↦ wp_modify (h.later hlimit (.update (hs w.st) (hl w.st) (ha w.st)))

theorem paced_modifyTransport (hlimit : 1 ≤ p.attemptLimit) (f : TransportPump → TransportPump) :
    Preserves (Paced p) (modifyTransport f) :=
  paced_modify hlimit (fun _ ↦ rfl) (fun _ ↦ rfl) fun _ ↦ rfl

/-! ### Notes -/

/-- The tunnel may be in any other state than the error state. -/
theorem Recorded.paced (h : Recorded p w) (hst : w.st.state ≠ .error) : Paced p w :=
  ⟨h, fun hno ↦ absurd hno hst⟩

/-- What the record says does not depend on the rest of the state. -/
theorem Recorded.update (h : Recorded p w) {f : SSHTunnel → SSHTunnel}
    (ha : (f w.st).reconnectAttempts = w.st.reconnectAttempts) : Recorded p (w.update f) :=
  ⟨h.rule, h.bounded, by rw [World.update_st, ha]; exact h.counter, h.past⟩

/-- A slot past its deadline. -/
theorem Paced.abandoning (h : Paced p w) (hlimit : 1 ≤ p.attemptLimit) (i : ℕ) :
    Paced p (w.marked (.note (.abandoning i))) := by
  have hpaced : ∀ y ∈ (w.marked (.note (.abandoning i))).trace,
      isReconnecting y = true ∨ isClocked y = true → y ∈ w.trace := by
    intro y hy hp
    rcases List.mem_cons.1 hy with rfl | hy
    · simp [isReconnecting, isClocked] at hp
    · exact hy
  refine ⟨⟨⟨fun hno ↦ (by cases hno), h.rule⟩, ?_, ?_, fun y hy hp ↦
    h.past y (hpaced y hy hp) hp⟩, fun hst ↦ ?_⟩
  · exact List.forall_mem_cons.2 ⟨h.toRecorded.le hlimit, h.bounded⟩
  · exact h.counter.imp_right fun ⟨hf, ha, hy⟩ ↦ ⟨hf, ha, fun y hmem hrec ↦
      hy y (hpaced y hmem (.inl hrec)) hrec⟩
  · obtain ⟨τ, hτ, hl, hy⟩ := h.dated hst
    exact ⟨τ, hτ, hl, fun y hmem hp ↦ hy y (hpaced y hmem hp) hp⟩

/-- The clock has just been stored. -/
theorem Recorded.clocked (h : Recorded p w) (hlimit : 1 ≤ p.attemptLimit)
    (hl : w.st.lastConnectionAttempt = stamp w.clock) :
    Recorded p (w.marked (.note .clocked)) ∧ Dated (w.marked (.note .clocked)) := by
  have hle : ∀ y ∈ (w.marked (.note .clocked)).trace,
      isReconnecting y = true ∨ isClocked y = true → y.time ≤ w.clock :=
    List.forall_mem_cons.2 ⟨fun _ ↦ Nat.le_refl _, h.past⟩
  refine ⟨⟨⟨fun hno ↦ (by cases hno), h.rule⟩, ?_, ?_, hle⟩, _, Nat.le_refl _, hl, hle⟩
  · exact List.forall_mem_cons.2 ⟨h.le hlimit, h.bounded⟩
  · refine h.counter.imp_right fun ⟨hf, ha, hy⟩ ↦ ⟨hf, ha, ?_⟩
    exact List.forall_mem_cons.2 ⟨fun hno ↦ (by cases hno), hy⟩

/-- The counter has just been reset. -/
theorem Recorded.counterReset (h : Recorded p w) {f : SSHTunnel → SSHTunnel}
    (ha : (f w.st).reconnectAttempts = 0) :
    Recorded p ((w.update f).marked (.note .counterReset)) := by
  refine ⟨⟨fun hno ↦ (by cases hno), h.rule⟩, ?_, .inl ha, ?_⟩
  · exact List.forall_mem_cons.2 ⟨ha.trans_le (Nat.zero_le _), h.bounded⟩
  · refine List.forall_mem_cons.2 ⟨fun hno ↦ ?_, h.past⟩
    simp [isReconnecting, isClocked] at hno

/-- An attempt is counted and begins. -/
theorem Due.reconnecting (h : Due p w) : Recorded p ((w.update fun s ↦
    { s with reconnectAttempts := s.reconnectAttempts + 1 }).marked (.note .reconnecting)) := by
  refine ⟨⟨fun _ ↦ h.due, h.rule⟩, ?_, .inl ?_, ?_⟩
  · exact List.forall_mem_cons.2 ⟨h.lt, h.bounded⟩
  · show w.st.reconnectAttempts + 1 =
      if failures p.attemptLimit w.trace < p.attemptLimit then failures p.attemptLimit w.trace + 1
      else 1
    have hlt := h.lt
    rcases h.counter with hc | ⟨hf, ha, -⟩
    · rw [if_pos (hc ▸ hlt), hc]
    · rw [if_neg (by omega), ha]
  · exact List.forall_mem_cons.2 ⟨fun _ ↦ Nat.le_refl _, h.past⟩

/-- When an attempt is due: the delay for the counter has passed since the stored reading. -/
theorem Recorded.dueAt (h : Recorded p w) (hlt : w.st.reconnectAttempts < p.attemptLimit) {τ : ℕ}
    (hτ : τ + min 60000 (p.baseDelay * 2 ^ w.st.reconnectAttempts) ≤ w.clock)
    (hy : ∀ y ∈ w.trace, isReconnecting y = true ∨ isClocked y = true → y.time ≤ τ) :
    DueAt p.baseDelay p.attemptLimit w.clock w.trace := by
  have hclocked : ∀ y ∈ w.trace, isClocked y = true → y.time + min 60000 p.baseDelay ≤ w.clock := by
    intro y hmem hc
    have := hy y hmem (.inr hc)
    have := Backoff.min_le_min_mul 60000 w.st.reconnectAttempts p.baseDelay
    omega
  rcases h.counter with hc | ⟨-, -, hminute⟩
  · rw [hc] at hτ hlt
    refine ⟨fun y hmem hrec ↦ ?_, fun hf ↦ absurd hf (Nat.ne_of_lt hlt), hclocked⟩
    have := hy y hmem (.inl hrec)
    omega
  · -- a minute of waiting is enough for any number of failures
    refine ⟨fun y hmem hrec ↦ ?_, fun _ ↦ hminute, hclocked⟩
    have := hminute y hmem hrec
    have : min 60000 (p.baseDelay * 2 ^ failures p.attemptLimit w.trace) ≤ 60000 := min_le_left ..
    omega

/-! ### The functions that decide -/

variable (hb : 1 ≤ p.connection.reconnectDelayMs) (hb' : p.connection.reconnectDelayMs < 2 ^ 31)
  (hlimit : 1 ≤ p.attemptLimit)

include hlimit in
theorem paced_enterErrorState : Triple (Recorded p) (enterErrorState p) fun _ ↦ Paced p := by
  have hI := tunnelKeeps_of_unnoticed (I := Recorded p) fun _ _ h ↦ h.later hlimit
  refine hI.enterErrorState fun w h ↦ ?_
  rw [wp_modify_bind]
  refine wp_millis_tunnel fun t ht ↦ ?_
  rw [wp_modify_bind, wp_mark_bind]
  have h₁ : Recorded p (w.update fun s ↦ { s with state := .error, socketHealthFailures := 0 }) :=
    h.update rfl
  have h₂ := (h₁.later hlimit (.wait ht)).update (f := fun s ↦
    { s with lastConnectionAttempt := stamp t }) rfl
  have hK := tunnelKeeps_paced (p := p) hlimit
  obtain ⟨h₃, hd₃⟩ := h₂.clocked hlimit rfl
  exact ((hK.emit _).bind fun _ ↦ hK.mark _ rfl) _ ⟨h₃, fun _ ↦ hd₃⟩

include hlimit in
theorem paced_disconnect : Triple (Recorded p) (disconnect p) fun _ ↦ Paced p := by
  have hI := tunnelKeeps_of_unnoticed (I := Recorded p) fun _ _ h ↦ h.later hlimit
  refine hI.disconnect fun w h ↦ ?_
  rw [wp_modify_bind]
  have h₁ : Recorded p (w.update fun s ↦
      { s with socketHealthFailures := 0, state := .disconnected }) := h.update rfl
  exact (tunnelKeeps_paced hlimit).mark _ rfl _ (h₁.paced (by simp))

include hlimit in
/-- Connecting stores the clock, and a success resets the counter. -/
theorem wp_connectSSH_paced (h : Recorded p w) :
    wp (connectSSH p) (fun ok w' ↦ Paced p w' ∧
      (ok = true → w.st.state ≠ .connected → w'.st.reconnectAttempts = 0)) w := by
  have hK := tunnelKeeps_paced (p := p) hlimit
  rw [connectSSH, wp_get_bind]
  refine wp_ite (fun hst ↦ wp_pure ⟨h.paced (by rw [hst]; simp), fun _ hno ↦ absurd hst hno⟩)
    fun _ ↦ ?_
  rw [wp_modify_bind]
  refine wp_millis_tunnel fun t ht ↦ ?_
  rw [wp_modify_bind, wp_mark_bind]
  have h₁ : Recorded p (w.update fun s ↦ { s with state := .connecting }) := h.update rfl
  obtain ⟨h₂, hd₂⟩ := ((h₁.later hlimit (.wait ht)).update (f := fun s ↦
    { s with lastConnectionAttempt := stamp t }) rfl).clocked hlimit rfl
  refine wp_bind (wp_mono ((tunnelKeeps_unnoticed _).session.sessionConnect _ (.refl _))
    fun connected u hu ↦ ?_)
  have h₃ := h₂.later hlimit hu
  refine wp_ite (fun _ ↦ ?_) fun _ ↦ ?_
  · rw [wp_modify_bind]
    have hd₃ : Dated u := hd₂.later hu
    have herror : Paced p (u.update fun s ↦ { s with state := .error }) :=
      ⟨h₃.update rfl, fun _ ↦ hd₃⟩
    exact wp_bind (wp_mono (hK.emit _ _ herror) fun _ _ h' ↦ wp_pure ⟨h', fun hno ↦ by cases hno⟩)
  · rw [wp_modify_bind, wp_mark_bind]
    have h₄ := h₃.counterReset (f := fun s ↦
      { s with state := .connected, reconnectAttempts := 0, socketHealthFailures := 0 }) rfl
    refine wp_millis_tunnel fun t' ht' ↦ ?_
    rw [wp_modify_bind]
    refine wp_call_bind fun r t'' ht'' ↦ wp_pure ⟨?_, fun _ _ ↦ rfl⟩
    have hlate := ((Unnoticed.wait ht').trans (.update (f := fun s ↦
      { s with lastKeepAlive := stamp t' }) rfl rfl rfl)).trans
      (Unnoticed.after (c := .emit .sessionConnected) (r := r) ht'')
    exact (h₄.later hlimit hlate).paced (by simp)

/-- All attempts used up, the counter is reset after a minute. -/
theorem wp_reconnectAllowed (hlimit : 1 ≤ p.attemptLimit) (h : Paced p w)
    (hst : w.st.state = .error) :
    wp (reconnectAllowed p) (fun ok w' ↦ Paced p w' ∧ w'.st.state = .error ∧
      (ok = true → w'.st.reconnectAttempts < p.attemptLimit)) w := by
  have hdef : p.attemptLimit = p.connection.maxReconnectAttempts.toNat := rfl
  rw [reconnectAllowed, wp_get_bind]
  refine wp_ite (fun hused ↦ ?_) fun hleft ↦ wp_pure ⟨h, hst, fun _ ↦ by omega⟩
  refine wp_millis_tunnel fun t ht ↦ ?_
  have hwait := h.later hlimit (.wait ht)
  refine wp_ite (fun _ ↦ wp_pure ⟨hwait, hst, fun hno ↦ by cases hno⟩) fun hminute ↦ ?_
  rw [wp_modify_bind]
  obtain ⟨τ, hτ, hl, hy⟩ := h.dated hst
  -- the difference of the readings is a minute, so a minute has really passed
  have hpassed : 60000 ≤ t - τ := by
    rw [hl, UInt32.not_lt] at hminute
    exact le_sub_of_le_stamp_sub (Nat.le_trans hτ ht) hminute
  have hfull : w.st.reconnectAttempts = p.attemptLimit :=
    Nat.le_antisymm (h.toRecorded.le hlimit) (by omega)
  have hcounter : w.st.reconnectAttempts = failures p.attemptLimit w.trace := by
    rcases h.counter with hc | ⟨-, hc, -⟩
    · exact hc
    · omega
  refine wp_pure ⟨⟨⟨h.rule, h.bounded, .inr ⟨hcounter.symm.trans hfull, rfl, ?_⟩, hwait.past⟩,
    fun _ ↦ ⟨τ, Nat.le_trans hτ ht, hl, hy⟩⟩, hst, fun _ ↦ hlimit⟩
  intro y hmem hrec
  have := hy y hmem (.inl hrec)
  show y.time + 60000 ≤ t
  omega

include hb hb' hlimit in
/-- `handleReconnection` makes an attempt only when it is due. -/
theorem wp_handleReconnection_paced (h : Paced p w) (hst : w.st.state = .error) :
    wp (handleReconnection p) (fun _ w' ↦ Paced p w') w := by
  have hreturned := fun u hu ↦ (tunnelKeeps_paced (p := p) hlimit).mark .returned rfl u hu
  refine wp_bind (wp_mono (Q := fun _ ↦ Paced p) ?_ fun _ u hu ↦
    wp_bind (wp_mono (hreturned u hu) fun _ _ h' ↦ wp_pure h'))
  refine wp_bind (wp_mono (wp_reconnectAllowed hlimit h hst) fun ok w₁ ⟨h₁, hst₁, hok⟩ ↦ ?_)
  refine wp_ite (fun _ ↦ wp_pure h₁) fun hallowed ↦ ?_
  have hlt := hok (by simpa using hallowed)
  refine wp_millis_tunnel fun t ht ↦ ?_
  rw [wp_get_bind]
  have h₂ := h₁.later hlimit (.wait ht)
  refine wp_ite (fun _ ↦ wp_pure h₂) fun hdelay ↦ ?_
  obtain ⟨τ, hτ, hl, hy⟩ := h₁.dated hst₁
  have hpassed : min 60000 (p.baseDelay * 2 ^ w₁.st.reconnectAttempts) ≤ t - τ := by
    rw [← toNat_reconnectDelay hb hb']
    rw [World.wait_st, hl, UInt32.not_lt] at hdelay
    exact le_sub_of_le_stamp_sub (Nat.le_trans hτ ht) hdelay
  have hlong : τ + min 60000 (p.baseDelay * 2 ^ (w₁.wait t).st.reconnectAttempts) ≤
      (w₁.wait t).clock := by
    show τ + min 60000 (p.baseDelay * 2 ^ w₁.st.reconnectAttempts) ≤ t
    omega
  have hdue : Due p (w₁.wait t) := ⟨h₂.toRecorded, hst₁, hlt, h₂.toRecorded.dueAt hlt hlong hy⟩
  have hD := tunnelKeeps_due (p := p) hlimit
  refine wp_bind (wp_mono (hD.clearQueue _ _ hdue) fun _ w₃ h₃ ↦ ?_)
  refine wp_bind (wp_mono (hD.clearQueue _ _ h₃) fun _ w₄ h₄ ↦ ?_)
  refine wp_bind (wp_mono (hD.dropEverything _ _ h₄) fun _ w₅ h₅ ↦ ?_)
  rw [wp_modify_bind, wp_mark_bind]
  refine wp_bind (wp_mono (wp_connectSSH_paced hlimit h₅.reconnecting) fun connected w₆ ⟨h₆, hzero⟩ ↦ ?_)
  refine wp_when (fun hconn ↦ ?_) fun _ ↦ h₆
  -- the counter has been reset by `connectSSH` already
  have hzero := hzero hconn (by
    show w₅.st.state ≠ .connected
    rw [h₅.state]
    simp)
  exact wp_modify (h₆.later hlimit (.update rfl rfl hzero.symm))

include hlimit in
theorem paced_requestReconnect : Preserves (Paced p) requestReconnect := by
  intro w h
  rw [requestReconnect, wp_get_bind]
  refine wp_ite (fun _ ↦ wp_pure h) fun _ ↦ ?_
  refine wp_millis_tunnel fun t ht ↦ ?_
  rw [wp_modify_bind, wp_mark_bind]
  have h₁ := (h.toRecorded.later hlimit (.wait ht)).counterReset (f := fun s ↦
    { s with reconnectAttempts := 0, lastConnectionAttempt := stamp t, state := .error }) rfl
  obtain ⟨h₂, hd₂⟩ := h₁.clocked hlimit rfl
  exact wp_mark ⟨h₂, fun _ ↦ hd₂⟩

/-! ### Runs -/

include hlimit in
theorem paced_checkHealth : Preserves (Paced p) (checkHealth p) := by
  have hI := tunnelKeeps_paced (p := p) hlimit
  have herr : Preserves (Paced p) (enterErrorState p) :=
    (paced_enterErrorState hlimit).pre fun _ h ↦ h.toRecorded
  refine hI.session.checkConnection.bind fun _ ↦ Preserves.get_bind fun _ ↦ Preserves.ite ?_ ?_
  · exact (paced_modify hlimit (fun _ ↦ by rfl) (fun _ ↦ by rfl) fun _ ↦ by rfl).bind fun _ ↦
      herr.bind fun _ ↦ Preserves.ret
  · refine (paced_modify hlimit (fun _ ↦ by rfl) (fun _ ↦ by rfl) fun _ ↦ by rfl).bind fun _ ↦
      hI.millis.bind fun _ ↦ Preserves.get_bind fun _ ↦ Preserves.ite
        (hI.session.sendKeepalive.bind fun _ ↦ Preserves.ite ?_ ?_) Preserves.ret
    · exact herr.bind fun _ ↦ Preserves.ret
    · exact (paced_modify hlimit (fun _ ↦ by rfl) (fun _ ↦ by rfl) fun _ ↦ by rfl).bind fun _ ↦
        Preserves.ret

include hlimit in
theorem paced_loopConnected : Preserves (Paced p) (loopConnected p) := by
  have hI := tunnelKeeps_paced (p := p) hlimit
  have herr : Preserves (Paced p) (enterErrorState p) :=
    (paced_enterErrorState hlimit).pre fun _ h ↦ h.toRecorded
  refine hI.drainDeferredIfAny.bind fun _ ↦ (Preserves.attempts (hI.handleNewConnection herr)).bind
    fun _ ↦ Preserves.bind (hI.pumpAll fun now picks i ↦ ?_) fun _ ↦ ?_
  · refine (hI.getSlot i).bind fun ch ↦ Preserves.ite Preserves.ret ?_
    split
    · refine Preserves.bind (fun w h ↦ wp_mark (h.abandoning hlimit i)) fun _ ↦ ?_
      exact (hI.abandonSlot _ _).bind fun _ ↦ (paced_modifyTransport hlimit _).bind fun _ ↦
        (hI.pushCloseEvent _ _).bind fun _ ↦ Preserves.ret
    · exact Preserves.ret
    · exact Preserves.ret
    · exact Preserves.ret
  · refine Preserves.bind ?_ fun events ↦ (Preserves.each fun _ _ ↦ hI.emit _).bind fun _ ↦ ?_
    · exact Preserves.get_bind fun _ ↦ (paced_modifyTransport hlimit _).bind fun _ ↦ Preserves.ret
    · refine Preserves.get_bind fun _ ↦ Preserves.ite ?_ ?_
      · exact (paced_modifyTransport hlimit _).bind fun _ ↦ herr
      · exact hI.drainPendingIfAny.bind fun _ ↦ hI.drainDeferredIfAny.bind fun _ ↦ hI.updateStats

include hb hb' hlimit in
theorem paced_prog (op : TunnelOp) : Preserves (Paced p) (op.prog p) := by
  intro w h
  cases op with
  | connectSSH =>
    exact wp_bind (wp_mono (wp_connectSSH_paced hlimit h.toRecorded) fun _ _ h' ↦ wp_pure h'.1)
  | loop =>
    refine wp_get_bind.2 (wp_ite (fun hst ↦ wp_handleReconnection_paced hb hb' hlimit h hst) fun _ ↦
      wp_ite (fun _ ↦ wp_pure h) fun _ ↦
      wp_ite (fun _ ↦ paced_enterErrorState hlimit w h.toRecorded) fun _ ↦ ?_)
    exact wp_bind (wp_mono (paced_checkHealth hlimit w h) fun _ u hu ↦
      Preserves.when (paced_loopConnected hlimit) u hu)
  | disconnect => exact paced_disconnect hlimit w h.toRecorded
  | requestReconnect => exact paced_requestReconnect hlimit w h

include hb hb' hlimit in
theorem TunnelRun.paced (hw : TunnelRun p w) : Paced p w := by
  refine hw.invariant (fun clock ↦ ⟨⟨trivial, ?_, .inl rfl, ?_⟩, fun hno ↦ by cases hno⟩) ?_
  · exact fun x hx ↦ by cases hx
  · exact fun x hx ↦ by cases hx
  · rintro _ ⟨op, rfl⟩
    exact paced_prog hb hb' hlimit op

/-! ### The guarantee -/

/-- A program stores the clock on the way. -/
def StoresClock (m : TunnelM Unit) (w : TunnelWorld) : Prop :=
  ∀ e : Env Call Call.Reply, ∃ x ∈ (m.act e w.toMachine).out, isClocked x = true

theorem storesClock_of_wp {m : TunnelM Unit}
    (h : wp m (fun _ w' ↦ ∃ newer x older, w'.trace = newer ++ x :: (older ++ w.trace) ∧
      isClocked x = true) w) : StoresClock m w := by
  intro e
  obtain ⟨newer, x, older, ht, hx⟩ := h e
  have hsplit : (m.exec e w).trace = (newer ++ x :: older) ++ w.trace := by
    rw [List.append_assoc, List.cons_append]
    exact ht
  rw [Prog.trace_exec] at hsplit
  rw [List.append_cancel_right hsplit]
  exact ⟨x, by simp, hx⟩

theorem storesClock_enterErrorState (w : TunnelWorld) : StoresClock (enterErrorState p) w := by
  refine storesClock_of_wp ((tunnelKeeps_grown w).enterErrorState (fun u hu ↦ ?_) w ⟨[], rfl⟩)
  obtain ⟨items, hu⟩ := hu
  rw [wp_modify_bind]
  refine wp_millis_tunnel fun t _ ↦ ?_
  rw [wp_modify_bind, wp_mark_bind]
  exact wp_call_bind fun r t' _ ↦ wp_mark ⟨[_, _], _, items, congrArg (_ :: _ :: _ :: ·) hu, rfl⟩

theorem storesClock_requestReconnect (hst : w.st.state = .disconnected) :
    StoresClock requestReconnect w := by
  refine storesClock_of_wp ?_
  rw [requestReconnect, wp_get_bind, if_neg (by rw [hst]; simp)]
  refine wp_millis_tunnel fun t _ ↦ ?_
  rw [wp_modify_bind, wp_mark_bind]
  exact wp_mark ⟨[], _, [_], rfl, rfl⟩

/-- In every other state a request returns at once: it reads no clock and leaves the world as it
is, so an attempt that is due stays due. -/
theorem exec_requestReconnect_of_ne (hst : w.st.state ≠ .disconnected)
    (e : Env Call Call.Reply) : requestReconnect.exec e w = w := by
  have hguard : w.st.state = .connected ∨ w.st.state = .connecting ∨ w.st.state = .error := by
    cases hs : w.st.state with
    | connected => exact .inl rfl
    | connecting => exact .inr (.inl rfl)
    | error => exact .inr (.inr rfl)
    | disconnected => exact absurd hs hst
  have hwp : wp requestReconnect (fun _ w' ↦ w' = w) w := by
    rw [requestReconnect, wp_get_bind, if_pos hguard]
    exact wp_pure rfl
  exact hwp e

/-- **Reconnect pacing.** The delay is computed exactly; in every run the counter stays within its
limit and every attempt keeps its distance; the distance also holds from `enterErrorState` and
from a request in the disconnected state, since both store the clock; and a request in any other
state changes nothing at all. -/
theorem reconnect_pacing (hb : 1 ≤ p.connection.reconnectDelayMs)
    (hb' : p.connection.reconnectDelayMs < 2 ^ 31) (hM : 1 ≤ p.connection.maxReconnectAttempts) :
    (∀ k, (doubleDelay k (UInt32.ofNat (p.connection.reconnectDelayMs % 2 ^ 32).toNat)).toNat =
        Backoff.doubled 60000 k p.baseDelay ∧
      (reconnectDelay p.connection.reconnectDelayMs k).toNat =
        min 60000 (p.baseDelay * 2 ^ k)) ∧
    (∀ w, TunnelRun p w → w.st.reconnectAttempts ≤ p.attemptLimit ∧
      (∀ x ∈ w.trace, x.pre.reconnectAttempts ≤ p.attemptLimit) ∧
      History.Always (Spaced p.baseDelay p.attemptLimit) w.trace) ∧
    (∀ w, StoresClock (enterErrorState p) w) ∧
    (∀ w : TunnelWorld, w.st.state = .disconnected → StoresClock requestReconnect w) ∧
    ∀ (w : TunnelWorld) (e : Env Call Call.Reply), w.st.state ≠ .disconnected →
      requestReconnect.exec e w = w := by
  have hlimit : 1 ≤ p.attemptLimit := by
    show 1 ≤ p.connection.maxReconnectAttempts.toNat
    omega
  refine ⟨fun k ↦ ⟨?_, toNat_reconnectDelay hb hb' k⟩, fun w hw ↦ ?_,
    storesClock_enterErrorState, fun _ ↦ storesClock_requestReconnect,
    fun _ e h ↦ exec_requestReconnect_of_ne h e⟩
  · rw [toNat_doubleDelay, toNat_baseDelay hb hb']
  · have h := hw.paced hb hb' hlimit
    exact ⟨h.toRecorded.le hlimit, h.bounded, h.rule⟩

/-! ### A server that cannot be reached -/

/-- No socket is to be had, and every operation takes `ms` milliseconds. -/
def unreachableWorld (ms : ℕ) : Env Call Call.Reply := worldWith ms fun _ c ↦
  match c with
  | .sys .tcpSocket => some false
  | _ => none

/-- Three attempts, and iterations in between that come too early. -/
def unreachableRun : TunnelWorld := afterTunnelOps (smallTunnel 1) <|
  (TunnelOp.connectSSH, unreachableWorld 1) ::
    [4900, 200, 3000, 8000, 25000].map fun ms ↦ (TunnelOp.loop, unreachableWorld ms)

theorem reconnect_pacing_unreachableRun :
    unreachableRun.trace.countP isReconnecting = 3 ∧
      unreachableRun.st.reconnectAttempts ≤ 5 ∧
      History.Always (Spaced 5000 5) unreachableRun.trace := by
  have h := (reconnect_pacing (p := smallTunnel 1) (by decide) (by decide) (by decide)).2.1
    unreachableRun (tunnelRun_after _)
  exact ⟨by decide +kernel, h.1, h.2.2⟩

/-- The tunnel is in the error state, and an attempt is due in a moment. -/
def nearlyDue : TunnelWorld := afterTunnelOps (smallTunnel 1)
  [(.connectSSH, unreachableWorld 1), (.loop, unreachableWorld 4900)]

/-- A request in the error state does not put the next attempt off. -/
theorem request_keeps_pace :
    ¬∀ (w : TunnelWorld) (e e' : Env Call Call.Reply), TunnelRun (smallTunnel 1) w →
      ∀ x ∈ ((loop (smallTunnel 1)).act e' (requestReconnect.exec e w).toMachine).out,
        isReconnecting x = true → w.clock + min 60000 (smallTunnel 1).baseDelay ≤ x.time := by
  intro h
  have hall := h nearlyDue (unreachableWorld 1) (unreachableWorld 200) (tunnelRun_after _)
  have hany : (((loop (smallTunnel 1)).act (unreachableWorld 200)
      (requestReconnect.exec (unreachableWorld 1) nearlyDue).toMachine).out.any fun x ↦
        isReconnecting x && decide (x.time < nearlyDue.clock + 5000)) = true := by decide +kernel
  obtain ⟨x, hx, hearly⟩ := List.any_eq_true.1 hany
  rw [Bool.and_eq_true, decide_eq_true_eq] at hearly
  exact Nat.not_le_of_lt hearly.2 (hall x hx hearly.1)

end ReverseTunnel
