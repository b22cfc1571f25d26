import ReverseTunnel.System.Pump

/-!
# The queues keep their channels

The functions that work on the two queues. Going through a queue takes each channel **into hand**,
lets the body of the loop do what it wants with it, and puts it back where the compaction has got to
if the body has kept it. `Ready` is what holds between such functions: arrays and ledger agree.
-/

namespace ReverseTunnel

open Traced TunnelM Clock32

variable {p : Params} {ext : Bool} {g g' : Ledger} {w w' : TunnelWorld} {i : ℕ} {h : Handle}
  {hand : List Handle}

/-- Arrays and ledger agree; these channels are in hand. -/
def Ready (p : Params) (ext : Bool) (hand : List Handle) (doomed : Bool) (w : TunnelWorld) : Prop :=
  ∃ g, At p ext g w ∧ Tracks w.st g ∧ g.hand = hand ∧ g.down = false ∧ g.doomed = doomed

/-- From `w` to `w'` the tunnel state stayed as it was. -/
structure StateFrame (w w' : TunnelWorld) : Prop where
  /-- `state_` -/
  state : w'.st.state = w.st.state
  /-- The degradation flag stays set. -/
  sessionDegraded : w.st.transport.sessionDegraded = true →
    w'.st.transport.sessionDegraded = true

theorem StateFrame.refl (w : TunnelWorld) : StateFrame w w := ⟨rfl, id⟩

theorem StateFrame.trans {w'' : TunnelWorld} (h : StateFrame w w') (h' : StateFrame w' w'') :
    StateFrame w w'' :=
  ⟨h'.state.trans h.state, fun hd ↦ h'.sessionDegraded (h.sessionDegraded hd)⟩

theorem QueueFrame.stateFrame (h : QueueFrame w w') : StateFrame w w' :=
  ⟨h.state, h.sessionDegraded⟩

theorem Ready.calm {doomed : Bool} (hr : Ready p ext hand doomed w) (hc : Calms w w') :
    Ready p ext hand doomed w' := by
  obtain ⟨g, hat, ht, hg⟩ := hr
  exact ⟨g, hat.calm hc, hc.queueFrame.tracks ht, hg⟩

theorem Ready.wp_calm {α : Type} {m : TunnelM α} {doomed : Bool} (hr : Ready p ext hand doomed w)
    (hm : Calm m) : wp m (fun _ w' ↦ Ready p ext hand doomed w' ∧ Calms w w') w :=
  wp_mono (hm w) fun _ _ hc ↦ ⟨hr.calm hc, hc⟩

/-- A function that works on the queues returns. -/
theorem wp_returning {α : Type} {m : TunnelM α} {P : α → TunnelWorld → Prop} {doomed : Bool}
    (rest : α → List Handle)
    (hm : wp m (fun a w' ↦ Ready p ext (rest a) doomed w' ∧ P a (w'.marked .returned)) w) :
    wp (returning m) (fun a w' ↦ Ready p ext (rest a) doomed w' ∧ P a w') w := by
  refine wp_bind (wp_mono hm fun a w' ⟨⟨g, hat, ht, hg⟩, hP⟩ ↦ ?_)
  rw [wp_mark_bind]
  exact wp_pure ⟨⟨g, hat.step (.returned ht hg.2.1), ht, hg⟩, hP⟩

/-! ### Changing one queue -/

/-- The state with a queue changed. -/
def SSHTunnel.mapQueue (s : SSHTunnel) (q : QueueName) (f : ChannelQueue → ChannelQueue) :
    SSHTunnel :=
  match q with
  | .pending => { s with pending := f s.pending }
  | .deferredClose => { s with deferredClose := f s.deferredClose }

section MapQueue

variable (s : SSHTunnel) (q : QueueName) (f : ChannelQueue → ChannelQueue)

theorem modifyQueue_eq : modifyQueue q f = Prog.modify fun s ↦ s.mapQueue q f := by
  cases q <;> rfl

@[simp] theorem SSHTunnel.queue_mapQueue_same : (s.mapQueue q f).queue q = f (s.queue q) := by
  cases q <;> rfl

theorem SSHTunnel.queue_mapQueue_ne {q' : QueueName} (h : q' ≠ q) :
    (s.mapQueue q f).queue q' = s.queue q' := by
  cases q <;> cases q' <;> first | rfl | exact absurd rfl h

@[simp] theorem SSHTunnel.channels_mapQueue : (s.mapQueue q f).channels = s.channels := by
  cases q <;> rfl

@[simp] theorem SSHTunnel.state_mapQueue : (s.mapQueue q f).state = s.state := by
  cases q <;> rfl

@[simp] theorem SSHTunnel.transport_mapQueue : (s.mapQueue q f).transport = s.transport := by
  cases q <;> rfl

@[simp] theorem SSHTunnel.session_mapQueue : (s.mapQueue q f).session = s.session := by
  cases q <;> rfl

end MapQueue

/-- The ledger with other channels in a queue and in hand. -/
def Ledger.place (g : Ledger) (q : QueueName) (l hand : List Handle) : Ledger :=
  { g.setQueue q l with hand }

section Place

variable (q : QueueName) (l : List Handle)

@[simp] theorem Ledger.queue_place_same : (g.place q l hand).queue q = l := by
  cases q <;> rfl

theorem Ledger.queue_place_ne {q' : QueueName} (h : q' ≠ q) :
    (g.place q l hand).queue q' = g.queue q' := by
  cases q <;> cases q' <;> first | rfl | exact absurd rfl h

@[simp] theorem Ledger.hand_place : (g.place q l hand).hand = hand := by cases q <;> rfl

@[simp] theorem Ledger.down_place : (g.place q l hand).down = g.down := by cases q <;> rfl

@[simp] theorem Ledger.doomed_place : (g.place q l hand).doomed = g.doomed := by cases q <;> rfl

end Place

/-- Channels go back and forth between a queue and the hand. -/
theorem At.place {q : QueueName} {l : List Handle} (hat : At p ext g w)
    (hp : (l ++ hand).Perm (g.queue q ++ g.hand)) : At p ext (g.place q l hand) w := by
  cases q with
  | pending =>
    refine hat.step (.shuffle ?_)
    have hswap : ∀ a b c : List Handle, (a ++ b ++ c).Perm (b ++ (a ++ c)) := fun a b c ↦ by
      rw [← List.append_assoc]
      exact List.perm_append_comm.append_right c
    exact (hswap l _ hand).trans ((hp.append_left _).trans (hswap _ _ _).symm)
  | deferredClose =>
    refine hat.step (.shuffle ?_)
    simp only [List.append_assoc]
    exact hp.append_left _

theorem Tracks.place {q : QueueName} {l : List Handle} {f : ChannelQueue → ChannelQueue}
    (ht : Tracks w.st g) (hl : (f (w.st.queue q)).live = l.map some) :
    Tracks (w.st.mapQueue q f) (g.place q l hand) := by
  intro q'
  by_cases hq : q' = q
  · subst hq
    rw [SSHTunnel.queue_mapQueue_same, Ledger.queue_place_same]
    exact hl
  · rw [SSHTunnel.queue_mapQueue_ne _ _ _ hq, Ledger.queue_place_ne _ _ hq]
    exact ht q'

theorem At.mapQueue {q : QueueName} {f : ChannelQueue → ChannelQueue} (hat : At p ext g w) :
    At p ext g (w.update fun s ↦ s.mapQueue q f) :=
  hat.step (.update (SSHTunnel.channels_mapQueue ..) (SSHTunnel.state_mapQueue ..))

theorem stateFrame_mapQueue {q : QueueName} {f : ChannelQueue → ChannelQueue} :
    StateFrame w (w.update fun s ↦ s.mapQueue q f) :=
  ⟨SSHTunnel.state_mapQueue .., fun hd ↦ by
    rw [World.update_st, SSHTunnel.transport_mapQueue]; exact hd⟩

/-! ### Closing a channel in hand -/

theorem wp_closeAcceptedChannel {ms : ℕ} (hw : At p ext g w) (hdown : g.down = false)
    (hhand : g.hand = h :: hand) :
    wp (closeAcceptedChannel h ms) (fun closed w' ↦ Subsides p ext w w' ∧
      At p ext (if closed then { g with hand } else g) w') w := by
  rw [closeAcceptedChannel]
  refine wp_bind (wp_mono (wp_calm (calm_lock ms) hw) fun locked w₁ ⟨hw₁, hc₁⟩ ↦ ?_)
  refine wp_ite (fun _ ↦ ?_) fun _ ↦ wp_pure ⟨hc₁.subsides, hw₁⟩
  refine wp_call_bind fun rc t ht ↦ wp_call_bind fun rc' t' ht' ↦ ?_
  have hw₂ : At p ext g (w₁.after (.sys (.channelClose h)) rc t) :=
    hw₁.step (.close ht hdown (by rw [hhand]; exact List.mem_cons_self ..))
  have hw₃ : At p ext { g with hand } (World.after _ (.sys (.channelFree h)) rc' t') :=
    hw₂.step (.free ht' hdown hhand)
  refine wp_bind (wp_mono (wp_calm calm_unlock hw₃) fun _ w₄ ⟨hw₄, hc₄⟩ ↦ wp_pure ⟨?_, hw₄⟩)
  exact hc₁.subsides.trans ((Subsides.after ht).trans ((Subsides.after ht').trans hc₄.subsides))

/-- The deferred-close queue was full when this channel was to be put there. -/
def NoRoom (h : Handle) (w : TunnelWorld) : Prop :=
  ∃ t s, .mark t s (.deferring h) ∈ w.trace ∧ maxDeferredClose ≤ s.deferredClose.count

theorem NoRoom.mono (hn : NoRoom h w) (ht : ∃ items, w'.trace = items ++ w.trace) : NoRoom h w' := by
  obtain ⟨t, s, hmem, hfull⟩ := hn
  obtain ⟨items, ht⟩ := ht
  exact ⟨t, s, by rw [ht]; exact List.mem_append_right _ hmem, hfull⟩

/-- A channel that found no room is lost. -/
theorem Ready.lose {doomed : Bool} (hr : Ready p ext (h :: hand) doomed w) (hn : NoRoom h w) :
    Ready p ext hand doomed w := by
  obtain ⟨g, hat, ht, hhand, hdown, hdoom⟩ := hr
  refine ⟨{ g with hand }, hat.step (.lose hhand (.inr hn)), fun q ↦ ?_, rfl, hdown, hdoom⟩
  have := ht q
  cases q <;> exact this

theorem Ready.wp_closeAcceptedChannel {ms : ℕ} {doomed : Bool}
    (hr : Ready p ext (h :: hand) doomed w) :
    wp (closeAcceptedChannel h ms) (fun closed w' ↦
      Ready p ext (if closed then hand else h :: hand) doomed w' ∧ Subsides p ext w w') w := by
  obtain ⟨g, hat, ht, hhand, hdown, hdoom⟩ := hr
  refine wp_mono (ReverseTunnel.wp_closeAcceptedChannel hat hdown hhand) ?_
  rintro closed w' ⟨hsub, hat'⟩
  have ht' := hsub.tracks ht
  refine ⟨⟨_, hat', ?_⟩, hsub⟩
  cases closed with
  | false => exact ⟨ht', hhand, hdown, hdoom⟩
  | true =>
    refine ⟨fun q ↦ ?_, rfl, hdown, hdoom⟩
    have := ht' q
    cases q <;> exact this

/-! ### Appending -/

theorem ChannelQueue.live_push (x : ChannelQueue) (e : PendingChannel) :
    (x.push e).live = x.live ++ [e.channel] := by
  simp only [live, push, List.range_succ, List.map_append, List.map_cons, List.map_nil,
    Function.update_self]
  congr 1
  refine List.map_congr_left fun j hj ↦ ?_
  rw [Function.update_of_ne (Nat.ne_of_lt (List.mem_range.1 hj))]

@[simp] theorem ChannelQueue.entries_set_same (x : ChannelQueue) (j : ℕ) (e : PendingChannel) :
    (x.set j e).entries j = e := Function.update_self ..

theorem ChannelQueue.entries_set_ne (x : ChannelQueue) {j j' : ℕ} (e : PendingChannel)
    (hj : j' ≠ j) : (x.set j e).entries j' = x.entries j' := Function.update_of_ne hj ..

/-- A channel in hand is appended to a queue. -/
theorem Ready.wp_push {q : QueueName} {e : PendingChannel} {doomed : Bool}
    (hr : Ready p ext (h :: hand) doomed w) (he : e.channel = some h) :
    wp (modifyQueue q (·.push e)) (fun _ w' ↦ Ready p ext hand doomed w' ∧ StateFrame w w') w := by
  obtain ⟨g, hat, ht, hhand, hdown, hdoom⟩ := hr
  rw [modifyQueue_eq]
  have hat' : At p ext (g.place q (g.queue q ++ [h]) hand) w := by
    refine hat.place ?_
    rw [hhand, List.append_assoc]
    exact List.Perm.refl _
  refine wp_modify ⟨⟨_, hat'.mapQueue, ht.place ?_, by simp, by simpa using hdown,
    by simpa using hdoom⟩, stateFrame_mapQueue⟩
  rw [ChannelQueue.live_push, ht q, he]
  simp

theorem Ready.wp_enqueueDeferredClose {mapping : TunnelConfig} {doomed : Bool}
    (hr : Ready p ext (h :: hand) doomed w) :
    wp (enqueueDeferredClose h mapping) (fun ok w' ↦
      Ready p ext (if ok then hand else h :: hand) doomed w' ∧ StateFrame w w' ∧
        (ok = false → NoRoom h w')) w := by
  refine wp_returning (P := fun ok w' ↦ StateFrame w w' ∧ (ok = false → NoRoom h w'))
    (fun ok ↦ if ok then hand else h :: hand) ?_
  refine wp_bind (wp_mono hr.wp_closeAcceptedChannel fun closed w₁ ⟨hr₁, hsub₁⟩ ↦ ?_)
  have hf₁ := hsub₁.toQueueFrame.stateFrame
  cases closed with
  | true =>
    exact wp_pure ⟨hr₁, ⟨hf₁.state, hf₁.sessionDegraded⟩, fun hno ↦ by cases hno⟩
  | false =>
    refine wp_ite (fun hno ↦ by cases hno) fun _ ↦ ?_
    rw [wp_mark_bind, wp_get_bind]
    obtain ⟨g, hat, ht, hg⟩ := hr₁
    have hr₂ : Ready p ext (h :: hand) doomed (w₁.marked (.deferring h)) :=
      ⟨g, hat.step (.mark (.inr (.inl ⟨h, rfl⟩))), ht, hg⟩
    refine wp_ite (fun hfull ↦ wp_pure ⟨hr₂, ⟨hf₁.state, hf₁.sessionDegraded⟩, fun _ ↦ ?_⟩) fun _ ↦ ?_
    · exact ⟨w₁.clock, w₁.st, by simp, hfull⟩
    · refine wp_bind (wp_mono (hr₂.wp_calm calm_millis) fun now w₃ ⟨hr₃, hc₃⟩ ↦ ?_)
      refine wp_bind (wp_mono (hr₃.wp_push rfl) fun _ w₄ ⟨hr₄, hf₄⟩ ↦
        wp_pure ⟨hr₄, ?_, fun hno ↦ by cases hno⟩)
      have hf₃ := hc₃.queueFrame.stateFrame
      exact ⟨hf₄.state.trans (hf₃.state.trans hf₁.state), fun hd ↦
        hf₄.sessionDegraded (hf₃.sessionDegraded (hf₁.sessionDegraded hd))⟩

/-! ### Going through a queue -/

/-- What the body of a compaction may do with the channel it is given: keep it, or be done with
it. -/
def Handles (p : Params) (ext : Bool)
    (body : PendingChannel → Handle → TunnelM (Option PendingChannel)) : Prop :=
  ∀ {w : TunnelWorld} {g : Ledger} {h : Handle} {hand : List Handle} (e : PendingChannel),
    e.channel = some h → At p ext g w → g.down = false → g.hand = h :: hand →
    wp (body e h) (fun kept w' ↦ QueueFrame w w' ∧
      At p ext (if kept.isSome then g else { g with hand }) w' ∧
      ∀ e', kept = some e' → e'.channel = some h) w

/-- The loop invariant of a compaction: `k` entries have been kept, `rest` are still to come. -/
structure Compacting (p : Params) (ext : Bool) (w₀ : TunnelWorld) (doomed : Bool) (q : QueueName)
    (n : ℕ) (rest : List ℕ) (k : ℕ) (w : TunnelWorld) : Prop where
  /-- What is kept and what is to come is what the ledger says. -/
  ledger : ∃ g, At p ext g w ∧ g.hand = [] ∧ g.down = false ∧ g.doomed = doomed ∧
    ((List.range k ++ rest).map fun i ↦ ((w.st.queue q).entries i).channel) =
      (g.queue q).map some ∧
    ∀ q', q' ≠ q → (w.st.queue q').live = (g.queue q').map some
  /-- The count is not touched. -/
  count : (w.st.queue q).count = n
  /-- Nothing that is to come is overwritten. -/
  ge : ∀ j ∈ rest, k ≤ j
  /-- The rest comes in order. -/
  sorted : rest.Pairwise (· < ·)
  /-- The tunnel state stays. -/
  frame : StateFrame w₀ w

variable {q : QueueName} {body : PendingChannel → Handle → TunnelM (Option PendingChannel)}
  {w₀ : TunnelWorld} {doomed : Bool} {n k : ℕ} {rest : List ℕ}

theorem place_hand (l : List Handle) (h : Handle) :
    ({ g.place q l (h :: hand) with hand } : Ledger) = g.place q l hand := by
  cases q <;> rfl

theorem triple_compactEntry (hbody : Handles p ext body) :
    Triple (Compacting p ext w₀ doomed q n (i :: rest) k) (compactEntry q body k i)
      fun k' ↦ Compacting p ext w₀ doomed q n rest k' := by
  intro w hw
  obtain ⟨g, hat, hhand, hdown, hdoom, hmap, hother⟩ := hw.ledger
  rw [List.map_append, List.map_cons, eq_comm, List.map_eq_append_iff] at hmap
  obtain ⟨l₁, l', hl, hl₁, hmap⟩ := hmap
  rw [List.map_eq_cons_iff] at hmap
  obtain ⟨h, l₂, rfl, hh, hl₂⟩ := hmap
  have hki : k ≤ i := hw.ge i (List.mem_cons_self ..)
  have hsorted := List.pairwise_cons.1 hw.sorted
  rw [compactEntry, wp_get_bind]
  simp only [← hh]
  have hat₁ : At p ext (g.place q (l₁ ++ l₂) [h]) w := by
    refine hat.place ?_
    rw [hl, hhand, List.append_nil, List.append_assoc]
    exact List.Perm.append_left _ (List.perm_append_singleton h l₂)
  refine wp_bind (wp_mono (hbody _ hh.symm hat₁ (by simpa using hdown) (Ledger.hand_place ..)) ?_)
  rintro kept w₁ ⟨hq₁, hat₁, hkept⟩
  have hframe : StateFrame w₀ w₁ := hw.frame.trans hq₁.stateFrame
  have hcount : (w₁.st.queue q).count = n := by rw [hq₁.queue]; exact hw.count
  -- what the arrays have to look like at the end of the round
  have hdone : ∀ {u g' k' l}, At p ext g' u → g'.hand = [] → g'.down = false → g'.doomed = doomed →
      g'.queue q = l ++ l₂ → (∀ q', q' ≠ q → g'.queue q' = g.queue q') →
      (∀ q', q' ≠ q → u.st.queue q' = w₁.st.queue q') → (u.st.queue q).count = n →
      ((List.range k').map fun i ↦ ((u.st.queue q).entries i).channel) = l.map some →
      (∀ j ∈ rest, (u.st.queue q).entries j = (w.st.queue q).entries j) →
      (∀ j ∈ rest, k' ≤ j) → StateFrame w₁ u → Compacting p ext w₀ doomed q n rest k' u := by
    intro u g' k' l hat' h1 h2 h3 hl' hledger harr hcnt hkeep hsame hge hf
    refine ⟨⟨g', hat', h1, h2, h3, ?_, fun q' hq' ↦ ?_⟩, hcnt, hge, hsorted.2, hframe.trans hf⟩
    · rw [List.map_append, hkeep, hl', List.map_append, hl₂]
      congr 1
      exact List.map_congr_left fun j hj ↦ by rw [hsame j hj]
    · rw [harr q' hq', hq₁.queue, hother q' hq', hledger q' hq']
  have hne : ∀ j ∈ rest, j ≠ i := fun j hj ↦ Nat.ne_of_gt (hsorted.1 j hj)
  cases kept with
  | none =>
    simp only [Option.isSome_none, Bool.false_eq_true, if_false, place_hand] at hat₁
    rw [modifyQueue_eq, wp_modify_bind]
    refine wp_pure (hdone hat₁.mapQueue (by simp) (by simpa using hdown) (by simpa using hdoom)
      (Ledger.queue_place_same ..) (fun q' hq' ↦ Ledger.queue_place_ne _ _ hq')
      (fun q' hq' ↦ SSHTunnel.queue_mapQueue_ne _ _ _ hq') ?_ ?_ ?_ ?_ stateFrame_mapQueue)
    · rw [World.update_st, SSHTunnel.queue_mapQueue_same]
      exact hcount
    · rw [hl₁]
      refine List.map_congr_left fun j hj ↦ ?_
      have := List.mem_range.1 hj
      rw [World.update_st, SSHTunnel.queue_mapQueue_same,
        ChannelQueue.entries_set_ne _ _ (Nat.ne_of_lt (by omega)), hq₁.queue]
    · intro j hj
      rw [World.update_st, SSHTunnel.queue_mapQueue_same, ChannelQueue.entries_set_ne _ _ (hne j hj),
        hq₁.queue]
    · exact fun j hj ↦ Nat.le_of_lt (Nat.lt_of_le_of_lt hki (hsorted.1 j hj))
  | some e' =>
    simp only [Option.isSome_some, if_true] at hat₁
    have he' : e'.channel = some h := hkept e' rfl
    have hat₂ : At p ext ((g.place q (l₁ ++ l₂) [h]).place q (l₁ ++ [h] ++ l₂) []) w₁ := by
      refine hat₁.place ?_
      rw [Ledger.queue_place_same, Ledger.hand_place, List.append_nil, List.append_assoc,
        List.append_assoc]
      exact List.Perm.append_left _ (List.perm_append_singleton h l₂).symm
    -- entry `k` holds the kept channel, the entries of `rest` are as they were
    have hkeep : ∀ u, At p ext ((g.place q (l₁ ++ l₂) [h]).place q (l₁ ++ [h] ++ l₂) []) u →
        (∀ q', q' ≠ q → u.st.queue q' = w₁.st.queue q') → (u.st.queue q).count = n →
        (u.st.queue q).entries k = e' →
        (∀ j, j ≠ k → j ≠ i → (u.st.queue q).entries j = (w₁.st.queue q).entries j) →
        StateFrame w₁ u → Compacting p ext w₀ doomed q n rest (k + 1) u := by
      intro u hat' harr hcnt hk hj hf
      refine hdone (l := l₁ ++ [h]) hat' (by simp) (by simpa using hdown) (by simpa using hdoom)
        (Ledger.queue_place_same ..) (fun q' hq' ↦ ?_) harr hcnt ?_ (fun j hjr ↦ ?_)
        (fun j hjr ↦ ?_) hf
      · rw [Ledger.queue_place_ne _ _ hq', Ledger.queue_place_ne _ _ hq']
      · rw [List.range_succ, List.map_append, List.map_append, hl₁, List.map_singleton,
          List.map_singleton, hk, he']
        congr 1
        refine List.map_congr_left fun j hjk ↦ ?_
        have := List.mem_range.1 hjk
        rw [hj j (by omega) (by omega), hq₁.queue]
      · have := hsorted.1 j hjr
        rw [hj j (by omega) (by omega), hq₁.queue]
      · have := hsorted.1 j hjr
        omega
    dsimp only
    rw [modifyQueue_eq, wp_modify_bind]
    refine wp_bind (wp_when (Q := fun _ u ↦ wp (pure (k + 1)) (fun k' ↦
      Compacting p ext w₀ doomed q n rest k') u) (fun hki' ↦ ?_) fun hki' ↦ ?_)
    · rw [modifyQueue_eq]
      refine wp_modify (wp_pure (hkeep _ hat₂.mapQueue.mapQueue (fun q' hq' ↦ ?_) ?_ ?_
        (fun j hjk hji ↦ ?_) (stateFrame_mapQueue.trans stateFrame_mapQueue)))
      · rw [World.update_st, SSHTunnel.queue_mapQueue_ne _ _ _ hq', World.update_st,
          SSHTunnel.queue_mapQueue_ne _ _ _ hq']
      · rw [World.update_st, SSHTunnel.queue_mapQueue_same, World.update_st,
          SSHTunnel.queue_mapQueue_same]
        exact hcount
      · rw [World.update_st, SSHTunnel.queue_mapQueue_same, ChannelQueue.entries_set_same]
      · rw [World.update_st, SSHTunnel.queue_mapQueue_same, World.update_st,
          SSHTunnel.queue_mapQueue_same, ChannelQueue.entries_set_ne _ _ hjk,
          ChannelQueue.entries_set_ne _ _ hji]
    · have hki' : k = i := by simpa using hki'
      refine wp_pure (hkeep _ hat₂.mapQueue (fun q' hq' ↦ SSHTunnel.queue_mapQueue_ne _ _ _ hq')
        ?_ ?_ (fun j hjk hji ↦ ?_) stateFrame_mapQueue)
      · rw [World.update_st, SSHTunnel.queue_mapQueue_same]
        exact hcount
      · rw [World.update_st, SSHTunnel.queue_mapQueue_same, hki', ChannelQueue.entries_set_same]
      · rw [World.update_st, SSHTunnel.queue_mapQueue_same, ChannelQueue.entries_set_ne _ _ hji]

/-- Going through a queue keeps arrays and ledger together. -/
theorem wp_compactQueue (hbody : Handles p ext body) (hr : Ready p ext [] doomed w) :
    wp (compactQueue q body) (fun _ w' ↦ Ready p ext [] doomed w' ∧ StateFrame w w') w := by
  refine wp_returning (P := fun _ w' ↦ StateFrame w w') (fun _ ↦ []) ?_
  rw [wp_get_bind]
  obtain ⟨g, hat, ht, hhand, hdown, hdoom⟩ := hr
  have hloop := Triple.fold (l := List.range (w.st.queue q).count) (a := 0)
    (f := compactEntry q body)
    (I := fun l k ↦ Compacting p ext w doomed q (w.st.queue q).count l k) fun i l' k _ ↦
    triple_compactEntry hbody
  have hstart : Compacting p ext w doomed q (w.st.queue q).count
      (List.range (w.st.queue q).count) 0 w :=
    ⟨⟨g, hat, hhand, hdown, hdoom, ht q, fun q' _ ↦ ht q'⟩, rfl, fun _ _ ↦ Nat.zero_le _,
      List.pairwise_lt_range, StateFrame.refl w⟩
  refine wp_bind (wp_mono (hloop w hstart) fun k w₁ h₁ ↦ ?_)
  obtain ⟨g₁, hat₁, hhand₁, hdown₁, hdoom₁, hmap₁, hother₁⟩ := h₁.ledger
  rw [modifyQueue_eq]
  have hf := h₁.frame.trans (stateFrame_mapQueue (q := q) (f := fun x ↦ { x with count := k }))
  refine wp_modify ⟨⟨g₁, hat₁.mapQueue, fun q' ↦ ?_, hhand₁, hdown₁, hdoom₁⟩,
    hf.state, hf.sessionDegraded⟩
  by_cases hq' : q' = q
  · subst hq'
    rw [World.update_st, SSHTunnel.queue_mapQueue_same]
    rw [List.append_nil] at hmap₁
    exact hmap₁
  · rw [World.update_st, SSHTunnel.queue_mapQueue_ne _ _ _ hq']
    exact hother₁ q' hq'

/-! ### The bodies -/

theorem wp_bindAcceptedChannel {slot ms : ℕ} {mapping : TunnelConfig} (hw : At p ext g w)
    (hdown : g.down = false) (hhand : g.hand = h :: hand) (hadm : Admitted ext mapping w) :
    wp (bindAcceptedChannel p slot h mapping ms) (fun res w' ↦ QueueFrame w w' ∧
      At p ext (if res = .bound then { g with hand } else g) w') w := by
  rw [bindAcceptedChannel]
  refine wp_bind (wp_mono (wp_calm (calm_lock ms) hw) fun locked w₁ ⟨hw₁, hc₁⟩ ↦ ?_)
  refine wp_ite (fun _ ↦ wp_pure ⟨hc₁.queueFrame, hw₁⟩) fun _ ↦ ?_
  refine wp_bind (wp_mono (wp_bindChannel hw₁ hdown hhand (hadm.calm hc₁)) ?_)
  rintro bound w₂ ⟨hq₂, hw₂⟩
  refine wp_bind (wp_mono (wp_calm calm_unlock hw₂) fun _ w₃ ⟨hw₃, hc₃⟩ ↦ wp_pure ⟨?_, ?_⟩)
  · exact hc₁.queueFrame.trans (hq₂.trans hc₃.queueFrame)
  · cases bound <;> exact hw₃

/-- Closing the channel of an entry, or keeping it for later. -/
theorem handles_closeEntry (ms : ℕ) : Handles p ext fun e h ↦ closeEntry e h ms := by
  intro w g h hand e he hw hdown hhand
  refine wp_bind (wp_mono (wp_closeAcceptedChannel hw hdown hhand) ?_)
  rintro closed w' ⟨hsub, hw'⟩
  cases closed with
  | true => exact wp_pure ⟨hsub.toQueueFrame, hw', fun e' he' ↦ by cases he'⟩
  | false => exact wp_pure ⟨hsub.toQueueFrame, hw', fun e' he' ↦ by cases he'; exact he⟩

/-- A channel is let through; one that has just come in, only if its mapping is not backed off. -/
theorem At.admit (hw : At p ext g w) (queued : Bool) (mapping : TunnelConfig)
    (hasked : queued = false →
      w.st.channels.breaker.isBackedOff mapping.remoteBindPort (stamp w.clock) = false) :
    At p ext g (w.marked (.admitted queued mapping)) ∧
      Admitted ext mapping (w.marked (.admitted queued mapping)) :=
  ⟨hw.step (.mark (.inl ⟨queued, mapping, rfl, hasked⟩)), .inr ⟨w.clock, w.st, rfl, rfl⟩⟩

theorem handles_drainPendingEntry (now : UInt32) : Handles p ext (drainPendingEntry p now) := by
  intro w g h hand e he hw hdown hhand
  rw [drainPendingEntry]
  refine wp_ite (fun _ ↦ wp_ite (fun _ ↦ handles_closeEntry 100 e he hw hdown hhand) fun _ ↦
    handles_closeEntry 200 e he hw hdown hhand) fun _ ↦ wp_ite (fun _ ↦
    handles_closeEntry 200 e he hw hdown hhand) fun _ ↦ ?_
  refine wp_bind (wp_mono (wp_allocateSlot hw hdown) ?_)
  rintro slot w₁ ⟨hw₁, hsub₁, -⟩
  cases slot with
  | none => exact wp_pure ⟨hsub₁.toQueueFrame, hw₁, fun e' he' ↦ by cases he'; exact he⟩
  | some i =>
    dsimp only
    rw [wp_mark_bind]
    obtain ⟨hw₂, hadm⟩ := hw₁.admit true e.mapping (by simp)
    refine wp_bind (wp_mono (wp_bindAcceptedChannel hw₂ hdown hhand hadm) ?_)
    rintro res w₃ ⟨hq₃, hw₃⟩
    have hq : QueueFrame w w₃ := hsub₁.toQueueFrame.trans ⟨hq₃.1, hq₃.2, hq₃.3, hq₃.4⟩
    cases res with
    | bound =>
      refine wp_bind (wp_mono (wp_calm (calm_emit _) hw₃) fun _ w₄ ⟨hw₄, hc₄⟩ ↦ ?_)
      exact wp_pure ⟨hq.trans hc₄.queueFrame, hw₄, fun e' he' ↦ by cases he'⟩
    | lockUnavailable => exact wp_pure ⟨hq, hw₃, fun e' he' ↦ by cases he'; exact he⟩
    | failed =>
      refine wp_mono (handles_closeEntry 200 e he hw₃ hdown hhand) ?_
      rintro kept w₄ ⟨hq₄, hw₄⟩
      exact ⟨hq.trans hq₄, hw₄⟩

theorem handles_drainDeferredEntry (now : UInt32) : Handles p ext (drainDeferredEntry now) := by
  intro w g h hand e he hw hdown hhand
  refine wp_bind (wp_mono (wp_closeAcceptedChannel hw hdown hhand) ?_)
  rintro closed w' ⟨hsub, hw'⟩
  cases closed with
  | true => exact wp_pure ⟨hsub.toQueueFrame, hw', fun e' he' ↦ by cases he'⟩
  | false => exact wp_pure ⟨hsub.toQueueFrame, hw', fun e' he' ↦ by cases he'; exact he⟩

theorem handles_cleanExpiredEntry (now : UInt32) : Handles p ext (cleanExpiredEntry now) := by
  intro w g h hand e he hw hdown hhand
  refine wp_ite (fun _ ↦ handles_closeEntry 200 e he hw hdown hhand) fun _ ↦ ?_
  exact wp_pure ⟨QueueFrame.refl w, hw, fun e' he' ↦ by cases he'; exact he⟩

/-- Reading the clock and going through a queue. -/
theorem wp_sweep {body : UInt32 → PendingChannel → Handle → TunnelM (Option PendingChannel)}
    (hbody : ∀ now, Handles p ext (body now)) (hr : Ready p ext [] doomed w) :
    wp (do
      let now ← millis
      compactQueue q (body now)) (fun _ w' ↦ Ready p ext [] doomed w' ∧ StateFrame w w') w := by
  refine wp_bind (wp_mono (hr.wp_calm calm_millis) fun now w₁ ⟨hr₁, hc₁⟩ ↦ ?_)
  refine wp_mono (wp_compactQueue (hbody now) hr₁) fun _ w₂ ⟨hr₂, hf₂⟩ ↦ ⟨hr₂, ?_⟩
  exact hc₁.queueFrame.stateFrame.trans hf₂

theorem wp_drainPendingQueue (hr : Ready p ext [] doomed w) :
    wp (drainPendingQueue p) (fun _ w' ↦ Ready p ext [] doomed w' ∧ StateFrame w w') w :=
  wp_sweep handles_drainPendingEntry hr

theorem wp_drainDeferredCloseQueue (hr : Ready p ext [] doomed w) :
    wp drainDeferredCloseQueue (fun _ w' ↦ Ready p ext [] doomed w' ∧ StateFrame w w') w :=
  wp_sweep handles_drainDeferredEntry hr

theorem wp_cleanExpiredPending (hr : Ready p ext [] doomed w) :
    wp cleanExpiredPending (fun _ w' ↦ Ready p ext [] doomed w' ∧ StateFrame w w') w :=
  wp_sweep handles_cleanExpiredEntry hr

/-! ### Clearing a queue -/

/-- The loop invariant of clearing: `rest` are still to be freed. -/
structure Clearing (p : Params) (ext : Bool) (w₀ : TunnelWorld) (doomed : Bool) (q : QueueName)
    (rest : List ℕ) (w : TunnelWorld) : Prop where
  /-- What is to come is what the ledger says. -/
  ledger : ∃ g, At p ext g w ∧ g.hand = [] ∧ g.down = false ∧ g.doomed = doomed ∧
    (rest.map fun i ↦ ((w.st.queue q).entries i).channel) = (g.queue q).map some ∧
    ∀ q', q' ≠ q → (w.st.queue q').live = (g.queue q').map some
  /-- No slot is there twice. -/
  nodup : rest.Nodup
  /-- The tunnel state stays. -/
  frame : StateFrame w₀ w
  /-- The slots only leave. -/
  recedes : Recedes p ext w₀ w

theorem triple_clearEntry :
    Triple (Clearing p ext w₀ doomed q (i :: rest)) (clearEntry q i)
      fun _ ↦ Clearing p ext w₀ doomed q rest := by
  intro w hw
  obtain ⟨g, hat, hhand, hdown, hdoom, hmap, hother⟩ := hw.ledger
  rw [List.map_cons, eq_comm, List.map_eq_cons_iff] at hmap
  obtain ⟨h, l, hl, hh, hmap⟩ := hmap
  have hnodup := List.nodup_cons.1 hw.nodup
  rw [clearEntry, wp_get_bind]
  simp only [← hh]
  have hat₁ : At p ext (g.place q l [h]) w := by
    refine hat.place ?_
    rw [hl, hhand, List.append_nil]
    exact List.perm_append_singleton h l
  refine wp_call_bind fun rc t ht ↦ wp_call_bind fun rc' t' ht' ↦ ?_
  have hat₂ : At p ext (g.place q l [h]) (w.after (.sys (.channelClose h)) rc t) :=
    hat₁.step (.close ht (by simpa using hdown) (by simp))
  have hat₃ : At p ext { g.place q l [h] with hand := [] }
      (World.after _ (.sys (.channelFree h)) rc' t') :=
    hat₂.step (.free ht' (by simpa using hdown) (Ledger.hand_place ..))
  rw [place_hand] at hat₃
  rw [modifyQueue_eq]
  refine wp_modify ⟨⟨_, hat₃.mapQueue, by simp, by simpa using hdown, by simpa using hdoom, ?_,
    fun q' hq' ↦ ?_⟩, hnodup.2, ?_, ?_⟩
  · rw [Ledger.queue_place_same, hmap]
    refine List.map_congr_left fun j hj ↦ ?_
    have hji : j ≠ i := fun hji ↦ hnodup.1 (hji ▸ hj)
    rw [World.update_st, SSHTunnel.queue_mapQueue_same, ChannelQueue.entries_set_ne _ _ hji]
    rfl
  · rw [World.update_st, SSHTunnel.queue_mapQueue_ne _ _ _ hq', Ledger.queue_place_ne _ _ hq']
    exact hother q' hq'
  · have hafter : StateFrame w (World.after (w.after (.sys (.channelClose h)) rc t)
        (.sys (.channelFree h)) rc' t') := ⟨rfl, id⟩
    exact (hw.frame.trans hafter).trans stateFrame_mapQueue
  · exact ((hw.recedes.trans (Recedes.after ht)).trans (Recedes.after ht')).trans
      (Recedes.update (by rw [SSHTunnel.channels_mapQueue]))

theorem wp_clearQueue (hr : Ready p ext [] doomed w) :
    wp (clearQueue q) (fun _ w' ↦ Ready p ext [] doomed w' ∧ StateFrame w w' ∧
      Recedes p ext w w') w := by
  refine wp_returning (P := fun _ w' ↦ StateFrame w w' ∧ Recedes p ext w w') (fun _ ↦ []) ?_
  have hmark : ∀ {u}, StateFrame w u → Recedes p ext w u → StateFrame w (u.marked .returned) ∧
      Recedes p ext w (u.marked .returned) := fun hf hrec ↦
    ⟨⟨hf.state, hf.sessionDegraded⟩, hrec.trans (Recedes.marked (by simp) (by simp))⟩
  rw [wp_get_bind]
  refine wp_ite (fun _ ↦ wp_pure ⟨hr, hmark (StateFrame.refl w) (Recedes.refl w)⟩) fun _ ↦ ?_
  refine wp_bind (wp_mono (hr.wp_calm (calm_lock 500)) fun locked w₁ ⟨hr₁, hc₁⟩ ↦ ?_)
  have hf₁ := hc₁.queueFrame.stateFrame
  refine wp_ite (fun _ ↦ wp_pure ⟨hr₁, hmark hf₁ hc₁.subsides.toRecedes⟩) fun _ ↦ ?_
  obtain ⟨g, hat, ht, hhand, hdown, hdoom⟩ := hr₁
  have hloop := Triple.each (l := List.range (w.st.queue q).count) (f := clearEntry q)
    (I := Clearing p ext w doomed q) fun i l' _ ↦ triple_clearEntry
  have hstart : Clearing p ext w doomed q (List.range (w.st.queue q).count) w₁ := by
    refine ⟨⟨g, hat, hhand, hdown, hdoom, ?_, fun q' _ ↦ ht q'⟩, List.nodup_range, hf₁,
      hc₁.subsides.toRecedes⟩
    rw [← hc₁.queueFrame.queue q]
    exact ht q
  refine wp_bind (wp_mono (hloop w₁ hstart) fun _ w₂ h₂ ↦ ?_)
  obtain ⟨g₂, hat₂, hhand₂, hdown₂, hdoom₂, hmap₂, hother₂⟩ := h₂.ledger
  refine wp_bind (wp_mono (wp_calm calm_unlock hat₂) fun _ w₃ ⟨hat₃, hc₃⟩ ↦ ?_)
  rw [modifyQueue_eq, wp_modify_bind]
  refine wp_pure ⟨⟨g₂, hat₃.mapQueue, fun q' ↦ ?_, hhand₂, hdown₂, hdoom₂⟩, hmark ?_ ?_⟩
  · by_cases hq' : q' = q
    · subst hq'
      rw [World.update_st, SSHTunnel.queue_mapQueue_same]
      exact hmap₂
    · rw [World.update_st, SSHTunnel.queue_mapQueue_ne _ _ _ hq', hc₃.queueFrame.queue]
      exact hother₂ q' hq'
  · exact (h₂.frame.trans hc₃.queueFrame.stateFrame).trans stateFrame_mapQueue
  · exact (h₂.recedes.trans hc₃.subsides.toRecedes).trans
      (Recedes.update (by rw [SSHTunnel.channels_mapQueue]))

end ReverseTunnel
