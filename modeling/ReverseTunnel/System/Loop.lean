import ReverseTunnel.System.Teardown

/-!
# Every operation takes steps

The public operations of the tunnel, the main loop first among them, and those of the channel
manager. `Resting` is what holds between two operations. While the tunnel is left to itself it is
`Serving` where the loop accepts channels, and a slot the pump has given up never outlives the loop:
the degradation flag takes the session down for it.
-/

namespace ReverseTunnel

open Traced TunnelM

variable {p : Params} {ext : Bool} {g : Ledger} {w w₀ w' : TunnelWorld} {i : ℕ} {h : Handle}
  {hand : List Handle} {doomed : Bool}

/-- Between two operations. -/
def Resting (p : Params) (ext : Bool) (w : TunnelWorld) : Prop :=
  ∃ doomed, Ready p ext [] doomed w ∧
    (ext = false → doomed = false ∧ w.st.state ≠ .connecting)

/-- Where the loop accepts channels. -/
def Serving (p : Params) (ext : Bool) (w : TunnelWorld) : Prop :=
  ∃ doomed, Ready p ext [] doomed w ∧ (ext = false → doomed = false ∧ w.st.state = .connected)

/-- A tunnel that serves may be left to itself. -/
theorem Serving.resting (hs : Serving p ext w) : Resting p ext w := by
  obtain ⟨doomed, hr, hext⟩ := hs
  exact ⟨doomed, hr, fun he ↦ ⟨(hext he).1, fun hst ↦ by rw [(hext he).2] at hst; cases hst⟩⟩

/-- A calm program changes nothing of it. -/
theorem Resting.calm (hr : Resting p ext w) (hc : Calms w w') : Resting p ext w' := by
  obtain ⟨doomed, hr, hext⟩ := hr
  exact ⟨doomed, hr.calm hc, fun he ↦ ⟨(hext he).1, hc.state ▸ (hext he).2⟩⟩

/-- Nor does it end the service. -/
theorem Serving.calm (hs : Serving p ext w) (hc : Calms w w') : Serving p ext w' := by
  obtain ⟨doomed, hr, hext⟩ := hs
  exact ⟨doomed, hr.calm hc, fun he ↦ ⟨(hext he).1, hc.state.trans (hext he).2⟩⟩

/-- A tunnel that is not doomed is at rest in every state but `connecting`. -/
theorem Ready.resting (hr : Ready p ext [] false w) (hst : w.st.state ≠ .connecting) :
    Resting p ext w :=
  ⟨false, hr, fun _ ↦ ⟨rfl, hst⟩⟩

/-- Returning from an operation is a step of its own. -/
theorem Ready.returned (hr : Ready p ext hand doomed w) :
    Ready p ext hand doomed (w.marked .returned) := by
  obtain ⟨g, hat, ht, hg⟩ := hr
  exact ⟨g, hat.step (.returned ht hg.2.1), ht, hg⟩

/-! ### Changing the state -/

/-- A tunnel that is not connected may enter any state, and any tunnel may become connected. -/
theorem Ready.enter {f : SSHTunnel → SSHTunnel} (hr : Ready p ext hand doomed w)
    (hst : w.st.state ≠ .connected ∨ (f w.st).state = .connected)
    (hc : (f w.st).channels = w.st.channels) (hq : ∀ q, (f w.st).queue q = w.st.queue q) :
    Ready p ext hand doomed (w.update f) := by
  obtain ⟨g, hat, ht, hg⟩ := hr
  refine ⟨g, hat.step (.state hc ?_), fun q ↦ by rw [World.update_st, hq q]; exact ht q, hg⟩
  cases ext with
  | true => exact .inl rfl
  | false => exact .inr (hst.symm.imp_right hat.vacant)

/-- Other fields of the tunnel. -/
theorem calm_modify {f : SSHTunnel → SSHTunnel} (hf : ∀ s, (f s).channels = s.channels ∧
    (f s).state = s.state ∧ (f s).pending = s.pending ∧ (f s).deferredClose = s.deferredClose ∧
    (f s).transport = s.transport) : Calm (Prog.modify f) := by
  intro w
  obtain ⟨hc, hs, hp, hd, ht⟩ := hf w.st
  exact wp_modify (Calms.update hc hs hp hd (congrArg _ ht))

/-- `connectSSH` leaves `connecting` on every way out. -/
theorem wp_connectSSH (hr : Ready p ext [] doomed w) :
    wp (connectSSH p) (fun _ w' ↦ Ready p ext [] doomed w' ∧ w'.st.state ≠ .connecting) w := by
  rw [connectSSH, wp_get_bind]
  refine wp_ite (fun hst ↦ wp_pure ⟨hr, by rw [hst]; simp⟩) fun hst ↦ ?_
  rw [wp_modify_bind]
  have hr₁ : Ready p ext [] doomed (w.update fun s ↦ { s with state := .connecting }) :=
    hr.enter (.inl hst) rfl fun q ↦ by cases q <;> rfl
  refine wp_bind (wp_mono (hr₁.wp_calm calm_millis) fun now u₁ ⟨hu₁, hd₁⟩ ↦ ?_)
  refine wp_bind (wp_mono (hu₁.wp_calm (calm_modify fun _ ↦ ⟨rfl, rfl, rfl, rfl, rfl⟩))
    fun _ u₂ ⟨hu₂, hd₂⟩ ↦ ?_)
  refine wp_bind (wp_mono (hu₂.wp_calm (calm_note fun _ ↦ trivial)) fun _ u₃ ⟨hu₃, hd₃⟩ ↦ ?_)
  refine wp_bind (wp_mono (hu₃.wp_calm calm_sessionConnect) fun connected w₂ ⟨hr₂, hd₄⟩ ↦ ?_)
  have hc₂ := hd₁.trans (hd₂.trans (hd₃.trans hd₄))
  have hst₂ : w₂.st.state ≠ .connected := by rw [hc₂.state]; simp
  refine wp_ite (fun _ ↦ ?_) fun _ ↦ ?_
  · rw [wp_modify_bind]
    have hr₃ := hr₂.enter (f := fun s ↦ { s with state := .error }) (.inl hst₂) rfl fun q ↦ by
      cases q <;> rfl
    refine wp_bind (wp_mono (hr₃.wp_calm (calm_emit _)) fun _ w₄ ⟨hr₄, hc₄⟩ ↦ wp_pure ⟨hr₄, ?_⟩)
    rw [hc₄.state]
    simp
  · rw [wp_modify_bind]
    have hr₃ := hr₂.enter (f := fun s ↦
      { s with state := .connected, reconnectAttempts := 0, socketHealthFailures := 0 }) (.inr rfl)
      rfl fun q ↦ by cases q <;> rfl
    refine wp_bind (wp_mono (hr₃.wp_calm (calm_note fun _ ↦ trivial)) fun _ w₃ ⟨hr₃', hc₃⟩ ↦ ?_)
    refine wp_bind (wp_mono (hr₃'.wp_calm calm_millis) fun now w₄ ⟨hr₄, hc₄⟩ ↦ ?_)
    refine wp_bind (wp_mono (hr₄.wp_calm (calm_modify fun _ ↦ ⟨rfl, rfl, rfl, rfl, rfl⟩))
      fun _ w₅ ⟨hr₅, hc₅⟩ ↦ ?_)
    refine wp_bind (wp_mono (hr₅.wp_calm (calm_emit _)) fun _ w₆ ⟨hr₆, hc₆⟩ ↦ wp_pure ⟨hr₆, ?_⟩)
    rw [hc₆.state, hc₅.state, hc₄.state, hc₃.state]
    simp

/-- A request takes effect in a tunnel that is not connected, which it leaves in the error state. -/
theorem preserves_requestReconnect : Preserves (Resting p ext) requestReconnect := by
  intro w hw
  rw [requestReconnect, wp_get_bind]
  refine wp_ite (fun _ ↦ wp_pure hw) fun hst ↦ ?_
  refine wp_bind (wp_mono (calm_millis w) fun now w₁ hc₁ ↦ ?_)
  obtain ⟨doomed, hr, hext⟩ := hw.calm hc₁
  have hst₁ : w₁.st.state ≠ .connected := fun hno ↦ hst (.inl (hc₁.state ▸ hno))
  rw [wp_modify_bind]
  have hw₂ : Resting p ext (w₁.update fun s ↦
      { s with reconnectAttempts := 0, lastConnectionAttempt := now, state := .error }) :=
    ⟨doomed, hr.enter (.inl hst₁) rfl fun q ↦ by cases q <;> rfl,
      fun he ↦ ⟨(hext he).1, by simp⟩⟩
  have hnotes : Calm (do Prog.mark (.note .counterReset); Prog.mark (.note .clocked)) :=
    (calm_note (n := .counterReset) fun _ ↦ trivial).bind fun _ ↦
      calm_note (n := .clocked) fun _ ↦ trivial
  exact wp_mono (hnotes _) fun _ _ hc ↦ hw₂.calm hc

/-- The check before an attempt reads the clock and may start the count anew. -/
theorem calm_reconnectAllowed : Calm (reconnectAllowed p) := by
  refine calm_get_bind fun s ↦ calm_ite ?_ (calm_pure _)
  refine calm_millis.bind fun _ ↦ calm_ite (calm_pure _) ?_
  exact Calm.bind (calm_modify fun _ ↦ ⟨rfl, rfl, rfl, rfl, rfl⟩) fun _ ↦ calm_pure _

/-- An attempt drops everything that is left of the last session before it connects. -/
theorem preserves_handleReconnection : Preserves (Resting p ext) (handleReconnection p) := by
  intro w hw
  have hret : ∀ u, Resting p ext u → wp (do
      Prog.mark .returned
      pure ()) (fun _ ↦ Resting p ext) u := fun u ⟨doomed, hr, hext⟩ ↦
    wp_mark_bind.2 (wp_pure ⟨doomed, hr.returned, hext⟩)
  refine wp_bind (wp_mono (Q := fun _ ↦ Resting p ext) ?_ fun _ u hu ↦ hret u hu)
  refine wp_bind (wp_mono (calm_reconnectAllowed w) fun allowed w₁ hc₁ ↦ ?_)
  have hw₁ := hw.calm hc₁
  refine wp_ite (fun _ ↦ wp_pure hw₁) fun _ ↦ ?_
  refine wp_bind (wp_mono (calm_millis w₁) fun now w₂ hc₂ ↦ ?_)
  have hw₂ := hw₁.calm hc₂
  rw [wp_get_bind]
  refine wp_ite (fun _ ↦ wp_pure hw₂) fun _ ↦ ?_
  obtain ⟨doomed, hr, -⟩ := hw₂
  refine hr.ending.wp_clearQueues fun w₃ ⟨_, hr₃, _, hrec₃⟩ ↦ ?_
  refine wp_bind (wp_mono (wp_dropEverything hr₃ hrec₃) fun _ w₄ h₄ ↦ ?_)
  have hattempt : ∀ f : ℕ → ℕ,
      Calm (Prog.modify fun s : SSHTunnel ↦ { s with reconnectAttempts := f s.reconnectAttempts }) :=
    fun f ↦ calm_modify fun _ ↦ ⟨rfl, rfl, rfl, rfl, rfl⟩
  refine wp_bind (wp_mono (h₄.ready.wp_calm (hattempt (· + 1))) fun _ w₅ ⟨hr₅, _⟩ ↦ ?_)
  refine wp_bind (wp_mono (hr₅.wp_calm (calm_note fun _ ↦ trivial)) fun _ w₅' ⟨hr₅', _⟩ ↦ ?_)
  refine wp_bind (wp_mono (wp_connectSSH hr₅') fun connected w₆ ⟨hr₆, hst₆⟩ ↦ ?_)
  have hw₆ := hr₆.resting hst₆
  exact wp_when (fun _ ↦ wp_mono (hattempt (fun _ ↦ 0) w₆) fun _ _ hc ↦ hw₆.calm hc) fun _ ↦ hw₆

/-! ### Accepted channels -/

/-- Closed at once, or later, or given up for want of room. -/
theorem Ready.wp_rejectAccepted {mapping : TunnelConfig} {ms : ℕ} {force : Bool}
    (hr : Ready p ext [h] doomed w) :
    wp (rejectAccepted h mapping ms force) (fun _ w' ↦ Ready p ext [] doomed w' ∧
      StateFrame w w') w := by
  refine wp_bind (wp_mono hr.wp_closeAcceptedChannel fun closed w₁ ⟨hr₁, hsub₁⟩ ↦ ?_)
  have hf₁ := hsub₁.toQueueFrame.stateFrame
  cases closed with
  | true => exact wp_pure ⟨hr₁, hf₁⟩
  | false =>
    refine wp_bind (wp_mono hr₁.wp_enqueueDeferredClose fun deferred w₂ ⟨hr₂, hf₂, hn₂⟩ ↦ ?_)
    have hf := hf₁.trans hf₂
    cases deferred with
    | true => exact wp_pure ⟨hr₂, hf⟩
    | false =>
      have hn := hn₂ rfl
      refine wp_ite (fun _ ↦ wp_pure ⟨hr₂.lose hn, hf⟩) fun _ ↦ ?_
      refine wp_bind (wp_mono hr₂.wp_closeAcceptedChannel fun closed w₃ ⟨hr₃, hsub₃⟩ ↦ wp_pure ?_)
      refine ⟨?_, hf.trans hsub₃.toQueueFrame.stateFrame⟩
      cases closed with
      | true => exact hr₃
      | false =>
        obtain ⟨items, ht, -⟩ := hsub₃.trace
        exact hr₃.lose (hn.mono ⟨items, ht⟩)

/-- Closed at once or later, or given up for want of room. -/
theorem Ready.wp_deferClose {mapping : TunnelConfig} (hr : Ready p ext [h] doomed w) :
    wp (do
      let _ ← enqueueDeferredClose h mapping
      pure false) (fun _ w' ↦ Ready p ext [] doomed w' ∧ StateFrame w w') w := by
  refine wp_bind (wp_mono hr.wp_enqueueDeferredClose fun ok w₁ ⟨hr₁, hf₁, hn₁⟩ ↦ wp_pure ⟨?_, hf₁⟩)
  cases ok with
  | true => exact hr₁
  | false => exact hr₁.lose (hn₁ rfl)

/-- A channel in hand goes to the end of the pending queue. -/
theorem Ready.wp_queueForBinding {mapping : TunnelConfig} (hr : Ready p ext [h] doomed w) :
    wp (do
      queueForBinding h mapping
      pure false) (fun _ w' ↦ Ready p ext [] doomed w' ∧ StateFrame w w') w := by
  rw [queueForBinding, wp_bind_assoc]
  refine wp_bind (wp_mono (hr.wp_calm calm_millis) fun now w₁ ⟨hr₁, hc₁⟩ ↦ ?_)
  refine wp_bind (wp_mono (hr₁.wp_push rfl) fun _ w₂ ⟨hr₂, hf₂⟩ ↦ wp_pure ⟨hr₂, ?_⟩)
  exact hc₁.queueFrame.stateFrame.trans hf₂

/-- A channel in hand is bound, or waits for the lock in a queue, or is left to be closed. -/
theorem Ready.wp_bindAccepted {mapping : TunnelConfig} (hr : Ready p ext [h] doomed w)
    (hadm : Admitted ext mapping w) :
    wp (bindAccepted p i h mapping) (fun _ w' ↦ Ready p ext [] doomed w' ∧ StateFrame w w') w := by
  obtain ⟨g, hat, ht, hhand, hdown, hdoom⟩ := hr
  refine wp_bind (wp_mono (wp_bindAcceptedChannel hat hdown hhand hadm) ?_)
  rintro res w₁ ⟨hq₁, hat₁⟩
  have ht₁ := hq₁.tracks ht
  have hf₁ := hq₁.stateFrame
  have later : ∀ {α : Type} {m : TunnelM α}, wp m (fun _ w' ↦ Ready p ext [] doomed w' ∧
      StateFrame w₁ w') w₁ → wp m (fun _ w' ↦ Ready p ext [] doomed w' ∧ StateFrame w w') w₁ :=
    fun hm ↦ wp_mono hm fun _ _ h' ↦ ⟨h'.1, hf₁.trans h'.2⟩
  cases res with
  | bound =>
    have hr₁ : Ready p ext [] doomed w₁ := by
      refine ⟨_, hat₁, fun q ↦ ?_, rfl, hdown, hdoom⟩
      have := ht₁ q
      cases q <;> exact this
    refine wp_bind (wp_mono (hr₁.wp_calm (calm_emit _)) fun _ w₂ ⟨hr₂, hc₂⟩ ↦ wp_pure ⟨hr₂, ?_⟩)
    exact hf₁.trans hc₂.queueFrame.stateFrame
  | lockUnavailable =>
    have hr₁ : Ready p ext [h] doomed w₁ := ⟨_, hat₁, ht₁, hhand, hdown, hdoom⟩
    dsimp only
    rw [wp_get_bind]
    exact wp_ite (fun _ ↦ later hr₁.wp_queueForBinding) fun _ ↦ later hr₁.wp_deferClose
  | failed =>
    exact later (Ready.wp_deferClose ⟨_, hat₁, ht₁, hhand, hdown, hdoom⟩)

/-- What becomes of a channel that was just accepted. It is out of hand in the end, whatever happens. -/
theorem Ready.wp_handleAccepted {mapping : TunnelConfig} (hr : Ready p ext [h] doomed w) :
    wp (handleAccepted p h mapping) (fun _ w' ↦ Ready p ext [] doomed w' ∧
      StateFrame w w') w := by
  refine wp_millis_tunnel fun now hnow ↦ ?_
  have hc₁ : Calms w (w.wait now) := .wait hnow
  have hr₁ := hr.calm hc₁
  have hf₁ := hc₁.queueFrame.stateFrame
  rw [wp_get_bind]
  refine wp_ite (fun _ ↦ ?_) fun hclear ↦ ?_
  · exact wp_bind (wp_mono hr₁.wp_rejectAccepted fun _ w₂ h₂ ↦ wp_pure ⟨h₂.1, hf₁.trans h₂.2⟩)
  rw [wp_mark_bind]
  obtain ⟨g, hat, ht, hhand, hdown, hdoom⟩ := hr₁
  -- what is let through was asked about at this very reading of the clock
  obtain ⟨hat₂, hadm₂⟩ := hat.admit false mapping fun _ ↦ Bool.eq_false_iff.2 hclear
  refine wp_bind (wp_mono (wp_allocateSlot hat₂ hdown) fun slot w₃ ⟨hat₃, hsub₃, hslot₃⟩ ↦ ?_)
  have hr₃ : Ready p ext [h] doomed w₃ :=
    ⟨g, hat₃, hsub₃.tracks (w := (w.wait now).marked _) ht, hhand, hdown, hdoom⟩
  have hf₃ : StateFrame w w₃ := hf₁.trans
    ⟨hsub₃.state, fun hd ↦ hsub₃.sessionDegraded hd⟩
  cases slot with
  | some i =>
    exact wp_mono (hr₃.wp_bindAccepted (hadm₂.calm (hslot₃ i rfl).2)) fun _ _ h' ↦
      ⟨h'.1, hf₃.trans h'.2⟩
  | none =>
    dsimp only
    rw [wp_get_bind]
    refine wp_ite (fun _ ↦ ?_) fun _ ↦ ?_
    · exact wp_mono hr₃.wp_queueForBinding fun _ _ h' ↦ ⟨h'.1, hf₃.trans h'.2⟩
    · exact wp_bind (wp_mono hr₃.wp_rejectAccepted fun _ w₄ h₄ ↦ wp_pure ⟨h₄.1, hf₃.trans h₄.2⟩)

/-- One round of the accept loop. -/
theorem Serving.wp_handleNewConnection (hs : Serving p ext w) :
    wp (handleNewConnection p) (fun again w' ↦ Resting p ext w' ∧
      (again = true → Serving p ext w')) w := by
  refine wp_bind (wp_mono (Q := fun again w' ↦ Resting p ext w' ∧ (again = true → Serving p ext w'))
    ?_ fun again u hu ↦ ?_)
  · refine wp_bind (wp_mono (wp_acceptChannel w) fun accepted w₁ h₁ ↦ ?_)
    rcases accepted with - | ⟨h, mapping⟩
    · -- no channel, and perhaps the session is beyond repair
      have hs₁ := hs.calm h₁
      dsimp only
      rw [wp_get_bind]
      have hstay : wp (Prog.when w₁.st.session.hasFatalAcceptFailure (enterErrorState p))
          (fun _ ↦ Resting p ext) w₁ := by
        refine wp_when (fun _ ↦ ?_) fun _ ↦ hs₁.resting
        obtain ⟨doomed, hr, -⟩ := hs₁
        exact wp_mono (wp_enterErrorState hr) fun _ w₂ h₂ ↦ h₂.1.resting (by rw [h₂.2.1]; simp)
      exact wp_bind (wp_mono hstay fun _ w₂ h₂ ↦ wp_pure ⟨h₂, fun hno ↦ by cases hno⟩)
    · obtain ⟨u, l, t, hu, rfl, ht, hc⟩ := h₁.split
      obtain ⟨doomed, ⟨g, hat, htr, hhand, hdown, hdoom⟩, hext⟩ := hs.calm hu
      have hst : ext = true ∨ u.st.state = .connected := by
        cases ext with
        | true => exact .inl rfl
        | false => exact .inr (hext rfl).2
      have hr₁ : Ready p ext [u.serial] doomed w₁ := by
        refine Ready.calm ⟨_, hat.step (.accept (l := l) ht hdown hst), fun q ↦ ?_,
          by rw [hhand], hdown, hdoom⟩ hc
        have := htr q
        cases q <;> exact this
      refine wp_mono hr₁.wp_handleAccepted fun again w₂ ⟨hr₂, hf₂⟩ ↦ ?_
      have hs₂ : Serving p ext w₂ :=
        ⟨doomed, hr₂, fun he ↦ ⟨(hext he).1, hf₂.state.trans (hc.state.trans (hext he).2)⟩⟩
      exact ⟨hs₂.resting, fun _ ↦ hs₂⟩
  · rw [wp_mark_bind]
    obtain ⟨⟨d, hr, hext⟩, hserve⟩ := hu
    refine wp_pure ⟨⟨d, hr.returned, hext⟩, fun hagain ↦ ?_⟩
    obtain ⟨d', hr', hext'⟩ := hserve hagain
    exact ⟨d', hr'.returned, hext'⟩

/-! ### The main loop -/

/-- The error state is entered from wherever the tunnel rests. -/
theorem Resting.wp_enterErrorState (hr : Resting p ext w) :
    wp (enterErrorState p) (fun _ ↦ Resting p ext) w := by
  obtain ⟨doomed, hr, -⟩ := hr
  exact wp_mono (ReverseTunnel.wp_enterErrorState hr) fun _ _ h' ↦
    h'.1.resting (by rw [h'.2.1]; simp)

/-- The tunnel goes on serving unless the socket or the keepalives have failed too often. -/
theorem Serving.wp_checkHealth (hs : Serving p ext w) :
    wp (checkHealth p) (fun alive w' ↦ Resting p ext w' ∧ (alive = true → Serving p ext w')) w := by
  have hgiveUp : ∀ u, Serving p ext u → wp (do
      enterErrorState p
      pure false) (fun alive w' ↦ Resting p ext w' ∧ (alive = true → Serving p ext w')) u :=
    fun u hu ↦ wp_bind (wp_mono hu.resting.wp_enterErrorState fun _ _ h' ↦
      wp_pure ⟨h', fun hno ↦ by cases hno⟩)
  have hmodify : ∀ {f : SSHTunnel → SSHTunnel} {u}, Serving p ext u →
      Calms u (u.update f) → Serving p ext (u.update f) := fun hu hc ↦ hu.calm hc
  refine wp_bind (wp_mono (calm_checkConnection w) fun healthy w₁ hc₁ ↦ ?_)
  have hs₁ := hs.calm hc₁
  rw [wp_get_bind]
  refine wp_ite (fun _ ↦ ?_) fun _ ↦ ?_
  · rw [wp_modify_bind]
    exact hgiveUp _ (hmodify hs₁ (Calms.update rfl rfl rfl rfl rfl))
  rw [wp_modify_bind]
  have hs₂ := hmodify (f := fun s ↦
    { s with socketHealthFailures := if healthy then 0 else s.socketHealthFailures + 1 }) hs₁
    (Calms.update rfl rfl rfl rfl rfl)
  refine wp_bind (wp_mono (calm_millis _) fun now w₃ hc₃ ↦ ?_)
  have hs₃ := hs₂.calm hc₃
  dsimp only
  rw [wp_get_bind]
  refine wp_ite (fun _ ↦ ?_) fun _ ↦ wp_pure ⟨hs₃.resting, fun _ ↦ hs₃⟩
  refine wp_bind (wp_mono (calm_sendKeepalive w₃) fun sent w₄ hc₄ ↦ ?_)
  have hs₄ := hs₃.calm hc₄
  refine wp_ite (fun _ ↦ hgiveUp _ hs₄) fun _ ↦ ?_
  rw [wp_modify_bind]
  have hs₅ := hmodify (f := fun s ↦ { s with lastKeepAlive := now }) hs₄
    (Calms.update rfl rfl rfl rfl rfl)
  exact wp_pure ⟨hs₅.resting, fun _ ↦ hs₅⟩

/-- What does the two things a queue function does to the invariant between operations. -/
theorem Resting.wp_queues {m : TunnelM Unit} (hr : Resting p ext w)
    (hm : ∀ doomed, Ready p ext [] doomed w →
      wp m (fun _ w' ↦ Ready p ext [] doomed w' ∧ StateFrame w w') w) :
    wp m (fun _ ↦ Resting p ext) w := by
  obtain ⟨doomed, hr, hext⟩ := hr
  exact wp_mono (hm doomed hr) fun _ w' ⟨hr', hf⟩ ↦
    ⟨doomed, hr', fun he ↦ ⟨(hext he).1, hf.state ▸ (hext he).2⟩⟩

/-- Closing what was put off changes neither the state nor the slots. -/
theorem preserves_drainDeferredIfAny : Preserves (Resting p ext) drainDeferredIfAny := by
  refine Preserves.get_bind fun s ↦ Preserves.ite (fun w hw ↦ ?_) Preserves.ret
  exact hw.wp_queues fun _ hr ↦ wp_drainDeferredCloseQueue hr

/-- Nor does it end the service. -/
theorem Serving.wp_drainDeferredIfAny (hs : Serving p ext w) :
    wp drainDeferredIfAny (fun _ ↦ Serving p ext) w := by
  rw [drainDeferredIfAny, wp_get_bind]
  refine wp_ite (fun _ ↦ ?_) fun _ ↦ wp_pure hs
  obtain ⟨doomed, hr, hext⟩ := hs
  exact wp_mono (wp_drainDeferredCloseQueue hr) fun _ w' ⟨hr', hf⟩ ↦
    ⟨doomed, hr', fun he ↦ ⟨(hext he).1, hf.state.trans (hext he).2⟩⟩

/-- The pending queue is cleaned and drained; what is bound there changes slots only. -/
theorem preserves_drainPendingIfAny : Preserves (Resting p ext) (drainPendingIfAny p) := by
  refine Preserves.get_bind fun s ↦ Preserves.ite (Preserves.bind ?_ fun _ ↦ ?_) Preserves.ret
  · exact fun w hw ↦ hw.wp_queues fun _ hr ↦ wp_cleanExpiredPending hr
  · exact fun w hw ↦ hw.wp_queues fun _ hr ↦ wp_drainPendingQueue hr

/-- The statistics of the system are nobody's state. -/
theorem calm_updateStats : Calm (updateStats p) :=
  (calm_sys fun _ ↦ by trivial).bind fun _ ↦ calm_ite
    (Calm.bind (calm_modify fun _ ↦ ⟨rfl, rfl, rfl, rfl, rfl⟩) fun _ ↦
      (calm_sys fun _ ↦ by trivial).bind fun _ ↦ calm_pure _) (calm_pure _)

/-- Taking the events out of the pump leaves slots and queues alone. -/
theorem calm_consumeCloseEvents : Calm consumeCloseEvents :=
  calm_get_bind fun _ ↦ Calm.bind (calm_modifyTransport fun _ ↦ rfl) fun _ ↦ calm_pure _

/-- After a pump cycle: a session doomed by it is marked degraded. -/
def Degraded (p : Params) (ext : Bool) (w : TunnelWorld) : Prop :=
  ∃ doomed, Ready p ext [] doomed w ∧ (ext = false →
    (doomed = true → w.st.transport.sessionDegraded = true) ∧ w.st.state ≠ .connecting)

/-- A calm program leaves the mark of a degraded session where it is. -/
theorem Degraded.calm (hd : Degraded p ext w) (hc : Calms w w') : Degraded p ext w' := by
  obtain ⟨doomed, hr, hext⟩ := hd
  exact ⟨doomed, hr.calm hc, fun he ↦ ⟨fun hdoom ↦ hc.sessionDegraded.trans ((hext he).1 hdoom),
    hc.state ▸ (hext he).2⟩⟩

/-- A pump cycle may doom the session, but then it marks it. -/
theorem Resting.wp_pumpAll (hr : Resting p ext w) :
    wp (pumpAll p) (fun _ ↦ Degraded p ext) w := by
  obtain ⟨doomed, ⟨g, hat, ht, hhand, hdown, rfl⟩, hext⟩ := hr
  refine wp_mono (ReverseTunnel.wp_pumpAll hat hdown) fun _ w' ⟨doomed, himp, hat', hsub⟩ ↦ ?_
  refine ⟨doomed, ⟨_, hat', fun q ↦ ?_, hhand, hdown, rfl⟩, fun he ↦ ⟨fun hd ↦ ?_, ?_⟩⟩
  · have := hsub.tracks ht q
    cases q <;> exact this
  · rcases himp hd with hno | hdeg
    · rw [(hext he).1] at hno
      cases hno
    · exact hdeg
  · exact hsub.state ▸ (hext he).2

/-- The mark is found after the cycle, and the session taken down for it: the tunnel is at rest again. -/
theorem Degraded.wp_loopTail (hd : Degraded p ext w) :
    wp (loopTail p) (fun _ ↦ Resting p ext) w := by
  refine wp_bind (wp_mono (calm_consumeCloseEvents w) fun events w₁ hc₁ ↦ ?_)
  refine wp_bind (wp_mono (calm_each (fun e ↦ calm_emit _) w₁) fun _ w₂ hc₂ ↦ ?_)
  obtain ⟨doomed, hr, hext⟩ := (hd.calm hc₁).calm hc₂
  rw [wp_get_bind]
  refine wp_ite (fun _ ↦ ?_) fun hflag ↦ ?_
  · obtain ⟨g, hat, ht, hg⟩ := hr
    rw [modifyTransport, wp_modify_bind]
    have hr₃ : Ready p ext [] doomed (w₂.update fun s ↦
        { s with transport := { s.transport with sessionDegraded := false } }) :=
      ⟨g, hat.step (.update rfl rfl), fun q ↦ by have := ht q; cases q <;> exact this, hg⟩
    exact wp_mono (wp_enterErrorState hr₃) fun _ _ h' ↦ h'.1.resting (by rw [h'.2.1]; simp)
  · have hrest : Resting p ext w₂ := by
      refine ⟨doomed, hr, fun he ↦ ⟨?_, (hext he).2⟩⟩
      by_contra hno
      exact hflag ((hext he).1 (by simpa using hno))
    refine wp_bind (wp_mono (preserves_drainPendingIfAny w₂ hrest) fun _ w₃ h₃ ↦ ?_)
    refine wp_bind (wp_mono (preserves_drainDeferredIfAny w₃ h₃) fun _ w₄ h₄ ↦ ?_)
    exact wp_mono (calm_updateStats w₄) fun _ _ hc ↦ h₄.calm hc

/-- An iteration with a session: accept, pump, and what comes after. -/
theorem Serving.wp_loopConnected (hs : Serving p ext w) :
    wp (loopConnected p) (fun _ ↦ Resting p ext) w := by
  refine wp_bind (wp_mono hs.wp_drainDeferredIfAny fun _ w₁ h₁ ↦ ?_)
  refine wp_bind (wp_mono (wp_attempts (I := Serving p ext) (J := Resting p ext)
    (fun _ ↦ Serving.resting) (fun _ h ↦ h.wp_handleNewConnection) h₁) fun _ w₂ h₂ ↦ ?_)
  exact wp_bind (wp_mono h₂.wp_pumpAll fun _ w₃ h₃ ↦ h₃.wp_loopTail)

/-- One iteration of the main loop, in every state of the tunnel. -/
theorem preserves_loop : Preserves (Resting p ext) (loop p) := by
  intro w hw
  rw [loop, wp_get_bind]
  refine wp_ite (fun _ ↦ preserves_handleReconnection w hw) fun herr ↦
    wp_ite (fun _ ↦ wp_pure hw) fun hdis ↦ wp_ite (fun _ ↦ hw.wp_enterErrorState) fun _ ↦ ?_
  have hs : Serving p ext w := by
    obtain ⟨doomed, hr, hext⟩ := hw
    refine ⟨doomed, hr, fun he ↦ ⟨(hext he).1, ?_⟩⟩
    have hcon := (hext he).2
    cases hst : w.st.state with
    | connected => rfl
    | error => exact absurd hst herr
    | disconnected => exact absurd hst hdis
    | connecting => exact absurd hst hcon
  refine wp_bind (wp_mono hs.wp_checkHealth fun alive w₁ h₁ ↦ ?_)
  exact wp_when (fun halive ↦ (h₁.2 halive).wp_loopConnected) fun _ ↦ h₁.1

/-! ### All operations -/

/-- The tunnel is at rest between two of its operations. -/
theorem preserves_tunnelOp (op : TunnelOp) : Preserves (Resting p ext) (op.prog p) := by
  intro w hw
  cases op with
  | connectSSH =>
    obtain ⟨doomed, hr, hext⟩ := hw
    exact wp_bind (wp_mono (wp_connectSSH hr) fun _ w' ⟨hr', hst⟩ ↦
      wp_pure ⟨doomed, hr', fun he ↦ ⟨(hext he).1, hst⟩⟩)
  | loop => exact preserves_loop w hw
  | disconnect =>
    obtain ⟨doomed, hr, -⟩ := hw
    exact wp_mono (wp_disconnect hr) fun _ _ h' ↦ h'.1.resting (by rw [h'.2.1]; simp)
  | requestReconnect => exact preserves_requestReconnect w hw

/-- A slot operation of an outside caller. -/
theorem Ready.restingExt (hr : Ready p true [] doomed w) : Resting p true w :=
  ⟨doomed, hr, fun hno ↦ by cases hno⟩

/-- Somebody else's use of the channel manager fits in between, if slots may be changed from outside. -/
theorem preserves_managerOp (op : ManagerOp) : Preserves (Resting p true) (op.prog p) := by
  intro w hw
  have hpump := hw
  obtain ⟨doomed, ⟨g, hat, ht, hhand, hdown, hdoom⟩, -⟩ := hw
  cases op with
  | allocateSlot =>
    refine wp_bind (wp_mono (wp_allocateSlot hat hdown) fun _ w' ⟨hat', hsub, _⟩ ↦ wp_pure ?_)
    exact Ready.restingExt ⟨g, hat', hsub.tracks ht, hhand, hdown, hdoom⟩
  | bindChannel slotIndex h mapping =>
    have hgrab := hat.step (.grab h rfl)
    refine wp_bind (wp_mono (wp_bindChannel hgrab hdown rfl (.inl rfl)) ?_)
    rintro bound w' ⟨hq, hat'⟩
    have ht' := hq.tracks ht
    refine wp_pure (Ready.restingExt (?_ : Ready p true [] doomed w'))
    cases bound with
    | true =>
      refine ⟨_, hat', fun q ↦ ?_, hhand, hdown, hdoom⟩
      have := ht' q
      cases q <;> exact this
    | false =>
      refine ⟨_, hat'.step (.lose rfl (.inl rfl)), fun q ↦ ?_, hhand, hdown, hdoom⟩
      have := ht' q
      cases q <;> exact this
  | beginClose slotIndex reason =>
    refine wp_ite (fun _ ↦ wp_pure hpump) fun hrange ↦ ?_
    have hi := toNat_lt_of_inRange hrange
    refine wp_mono (wp_onSlot_works (P := fun _ _ ↦ True) hat hdown hi ?_) ?_
    · refine wp_mono (wp_beginClose p true (slotLog slotIndex.toNat w.trace) fun _ _ ↦ ?_)
        fun _ _ hl ↦ ⟨hl.works, trivial⟩
      exact .external rfl
    · rintro _ w' ⟨hat', hsub, -⟩
      exact Ready.restingExt ⟨g, hat', hsub.tracks ht, hhand, hdown, hdoom⟩
  | finalizeClose slotIndex =>
    refine wp_bind (wp_mono (wp_finalizeClose hat hdown) fun _ w' ⟨hat', hrel, _⟩ ↦ wp_pure ?_)
    exact Ready.restingExt ⟨g, hat', hrel.tracks ht, hhand, hdown, hdoom⟩
  | abandonSlot slotIndex reason =>
    change wp (ReverseTunnel.abandonSlot p slotIndex reason) _ w
    refine wp_mono (wp_abandonSlot hat) fun _ w' ⟨⟨doomed', _, hat'⟩, hrel, _⟩ ↦ ?_
    refine ⟨doomed', ⟨_, hat', fun q ↦ ?_, hhand, hdown, rfl⟩, fun hno ↦ by cases hno⟩
    have := hrel.tracks ht q
    cases q <;> exact this
  | pumpAll =>
    refine wp_bind (wp_mono hpump.wp_pumpAll fun _ w' ⟨doomed', hr', _⟩ ↦ wp_pure ?_)
    exact hr'.restingExt

/-- A tunnel that has just been made is at rest. -/
theorem resting_initial (clock : ℕ) : Resting p ext (initial clock) :=
  Ready.resting ⟨{}, at_initial clock, fun q ↦ by cases q <;> rfl, rfl, rfl, rfl⟩ (by simp [initial])

variable (ext) in
/-- Every run of the tunnel takes steps, and ends at rest. -/
theorem TunnelRun.resting (hw : TunnelRun p w) : Resting p ext w := by
  refine Runs.invariant hw resting_initial ?_
  rintro _ ⟨op, rfl⟩
  exact preserves_tunnelOp op

/-- So does every run in which others use the channel manager too. -/
theorem Run.resting (hw : Run p w) : Resting p true w := by
  refine Runs.invariant hw resting_initial ?_
  rintro _ (⟨op, rfl⟩ | ⟨op, rfl⟩)
  · exact preserves_tunnelOp op
  · exact preserves_managerOp op

/-- In every run the log of each slot is one of its steps. -/
theorem Run.followed (hw : Run p w) : Followed p true w := by
  obtain ⟨_, ⟨g, hat, -⟩, -⟩ := hw.resting
  exact hat.followed

/-- While nobody else uses the channel manager, no step comes from outside. -/
theorem TunnelRun.followed (hw : TunnelRun p w) : Followed p false w := by
  obtain ⟨_, ⟨g, hat, -⟩, -⟩ := hw.resting false
  exact hat.followed

end ReverseTunnel
