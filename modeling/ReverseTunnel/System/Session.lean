import ReverseTunnel.Session.Keeps
import ReverseTunnel.System.Frame

/-!
# The session leaves channels alone

Everything `SSHSession` does, accepting a channel apart, is calm: it neither touches a slot or a
queue nor passes a channel handle to libssh2. `sessionDisconnect` is calm behind its mark.
-/

namespace ReverseTunnel

open Traced TunnelM

variable {p : Params}

theorem calm_lock (ms : ℕ) : Calm (lock ms) := calm_sys fun _ ↦ trivial

theorem calm_unlock : Calm unlock := calm_sys fun _ ↦ trivial

theorem calm_emit (e : Event) : Calm (emit e) := calm_sys fun _ ↦ trivial

/-! ### Functions of the session -/

/-- What is calm so far stays calm. -/
theorem sessionKeeps_calms (w : TunnelWorld) : SessionKeeps (Calms w) := by
  refine .of (fun c hc u hu ↦ wp_mono (calm_sysId (fun r ↦ ?_) u) fun _ _ h ↦ hu.trans h)
    fun f u hu ↦ wp_mono (calm_modifySession f u) fun _ _ h ↦ hu.trans h
  cases c with
  | channelClose h => cases hc
  | channelFree h => cases hc
  | forwardAccept l => cases hc
  | localSocket mapping => cases hc
  | _ => trivial

theorem calm_of_keeps {α : Type} {m : TunnelM α} (h : ∀ w, Preserves (Calms w) m) : Calm m :=
  fun w ↦ h w w (Calms.refl w)

theorem calm_cancelAllListeners : Calm cancelAllListeners :=
  calm_of_keeps fun w ↦ (sessionKeeps_calms w).cancelAllListeners

theorem calm_cleanupSession : Calm cleanupSession :=
  calm_of_keeps fun w ↦ (sessionKeeps_calms w).cleanupSession

theorem calm_sessionConnect : Calm (sessionConnect p) :=
  calm_of_keeps fun w ↦ (sessionKeeps_calms w).sessionConnect

theorem calm_sendKeepalive : Calm sendKeepalive :=
  calm_of_keeps fun w ↦ (sessionKeeps_calms w).sendKeepalive

theorem calm_checkConnection : Calm checkConnection :=
  calm_of_keeps fun w ↦ (sessionKeeps_calms w).checkConnection

/-! ### Accepting a channel -/

/-- A channel was accepted between `w` and `w'`, and it is the handle `h`. -/
structure Accepts (w w' : TunnelWorld) (h : Handle) : Prop where
  /-- What happened before the accept. -/
  split : ∃ u l t, Calms w u ∧ u.serial = h ∧ u.clock ≤ t ∧
    Calms (u.after (.sys (.forwardAccept l)) true t) w'

theorem wp_acceptFrom (session : ℕ) (listeners : List ListenerEntry) (w : TunnelWorld) :
    wp (acceptFrom session listeners) (fun res w' ↦
      match res with
      | none => Calms w w'
      | some (h, _) => Accepts w w' h) w := by
  induction listeners generalizing w with
  | nil => exact wp_pure (Calms.refl w)
  | cons entry rest ih =>
    -- what the rest of the listeners do is reached through calm steps
    have hrest : ∀ u, Calms w u → wp (acceptFrom session rest) (fun res w' ↦
        match res with
        | none => Calms w w'
        | some (h, _) => Accepts w w' h) u := by
      intro u hu
      refine wp_mono (ih u) fun res w' hres ↦ ?_
      rcases res with - | ⟨h, mapping⟩
      · exact hu.trans hres
      · obtain ⟨u', l, t, hu', hser, ht, hw'⟩ := hres.split
        exact ⟨u', l, t, hu.trans hu', hser, ht, hw'⟩
    rw [acceptFrom]
    split
    · exact hrest w (Calms.refl w)
    · next l hl =>
      refine wp_bind (wp_mono (calm_lock 50 w) fun locked u hu ↦ wp_ite (fun _ ↦ hrest u hu) fun _ ↦ ?_)
      refine wp_callId_bind fun accepted t ht ↦ wp_ite (fun hacc ↦ ?_) fun hacc ↦ ?_
      · have hacc : accepted = true := hacc
        subst hacc
        refine wp_bind (wp_mono (calm_unlock _) fun _ u₁ hu₁ ↦ ?_)
        refine wp_bind (wp_mono (calm_modifySession _ u₁) fun _ u₂ hu₂ ↦ wp_pure ?_)
        exact ⟨u, l, t, hu, rfl, ht, hu₁.trans hu₂⟩
      · have hcall : Calms u (u.after (.sys (.forwardAccept l)) accepted t) :=
          Calms.call (by simpa [SysCall.calm] using hacc) ht
        refine wp_bind (wp_mono (calm_sys (fun _ ↦ by trivial) _) fun _ u₁ hu₁ ↦ ?_)
        refine wp_bind (wp_mono (calm_unlock _) fun _ u₂ hu₂ ↦ ?_)
        refine wp_bind (wp_mono (calm_modifySession _ u₂) fun _ u₃ hu₃ ↦ hrest u₃ ?_)
        exact hu.trans (hcall.trans (hu₁.trans (hu₂.trans hu₃)))

theorem wp_acceptChannel (w : TunnelWorld) :
    wp acceptChannel (fun res w' ↦
      match res with
      | none => Calms w w'
      | some (h, _) => Accepts w w' h) w := by
  rw [acceptChannel, wp_get_bind]
  split
  · exact wp_pure (Calms.refl w)
  · exact wp_acceptFrom _ _ w

end ReverseTunnel
