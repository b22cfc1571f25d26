import ReverseTunnel.Lib.Triple
import ReverseTunnel.Session.Session

/-!
# What the session cannot break

The functions of `SSHSession` make calls of their own and change the session, nothing else. So an
assertion that survives each such call and each change of the session survives every function, and
that is proved here once for all assertions.
-/

namespace ReverseTunnel

open Traced TunnelM

/-- A call of `SSHSession`, accepting a channel apart. -/
def SysCall.ofSession : SysCall → Bool
  | .lock _ | .unlock | .delay _ | .lastErrno _ | .forwardListen _ _ _ _ | .forwardCancel _
  | .sessionInit | .sessionHandshake _ _ | .sessionSetBlocking _ | .sessionDisconnect _
  | .sessionFree _ | .sessionHostkey _ | .userauthList _ | .userauthPassword _
  | .userauthPublickey _ | .keepaliveConfig _ _ | .keepaliveSend _ | .tcpSocket
  | .getHostByName _ | .tcpConnect _ | .tcpShutdown _ | .tcpClose _ | .soError _
  | .keepaliveSoError _
  | .hostKeyMismatch _ _ _ => true
  | _ => false

/-- A call that asks libssh2 or the socket how the session is doing. -/
def SysCall.probes : SysCall → Bool
  | .soError _ | .keepaliveSend _ | .lastErrno _ | .forwardAccept _ => true
  | _ => false

/-- The failures that the session counts. -/
def SSHSession.failures (s : SSHSession) : ℕ × ℕ :=
  (s.keepAliveFailures, s.consecutiveFatalAcceptErrors)

/-- An assertion that the session cannot break as long as it does not ask how it is doing. -/
structure QuietSession (I : Assertion SSHTunnel Call Call.Reply Mark) : Prop where
  /-- By a call. -/
  quietCall : ∀ c : SysCall, (c.ofSession && !c.probes) = true → Preserves I (sysId c)
  /-- By a change of the session that counts no failure. -/
  calmSession : ∀ f : SSHSession → SSHSession, (∀ s, (f s).failures ≤ s.failures) →
    Preserves I (modifySession f)

/-- An assertion that the session cannot break. -/
structure SessionKeeps (I : Assertion SSHTunnel Call Call.Reply Mark) : Prop
    extends QuietSession I where
  /-- By a call. -/
  sysId : ∀ c : SysCall, c.ofSession = true → Preserves I (sysId c)
  /-- By a change of the session. -/
  modifySession : ∀ f, Preserves I (modifySession f)
  quietCall c hc := sysId c (Bool.and_eq_true_iff.1 hc).1
  calmSession f _ := modifySession f

namespace QuietSession

variable {p : Params} {I : Assertion SSHTunnel Call Call.Reply Mark}

theorem sys (hI : QuietSession I) {c : SysCall} (hc : (c.ofSession && !c.probes) = true) :
    Preserves I (sys c) :=
  (hI.quietCall c hc).bind fun _ ↦ Preserves.ret

theorem lock (hI : QuietSession I) (ms : ℕ) : Preserves I (lock ms) := hI.sys rfl

theorem unlock (hI : QuietSession I) : Preserves I unlock := hI.sys rfl

/-! ### Teardown -/

theorem cancelListener (hI : QuietSession I) (entry : ListenerEntry) :
    Preserves I (cancelListener entry) := by
  rw [ReverseTunnel.cancelListener]
  split
  · exact Preserves.ret
  · exact (hI.lock _).bind fun _ ↦ Preserves.ite ((hI.sys rfl).bind fun _ ↦ hI.unlock) Preserves.ret

theorem cancelAllListeners (hI : QuietSession I) : Preserves I cancelAllListeners :=
  Preserves.get_bind fun _ ↦ (Preserves.each fun _ _ ↦ hI.cancelListener _).bind fun _ ↦
    hI.calmSession _ fun _ ↦ by rfl

theorem closeTransport (hI : QuietSession I) : Preserves I closeTransport :=
  Preserves.get_bind fun _ ↦ Preserves.ite
    ((hI.sys rfl).bind fun _ ↦ (hI.sys rfl).bind fun _ ↦ hI.calmSession _ fun _ ↦ by rfl)
    Preserves.ret

theorem retrySessionFree (hI : QuietSession I) (session n : ℕ) (freeRc : Int) :
    Preserves I (retrySessionFree session n freeRc) := by
  induction n generalizing freeRc with
  | zero => exact Preserves.ret
  | succ n ih =>
    exact Preserves.ite ((hI.sys rfl).bind fun _ ↦ (hI.sys rfl).bind fun rc ↦ ih rc) Preserves.ret

theorem forceSessionFree (hI : QuietSession I) (session : ℕ) (freeRc : Int) :
    Preserves I (forceSessionFree session freeRc) :=
  Preserves.get_bind fun _ ↦ Preserves.ite
    (hI.closeTransport.bind fun _ ↦ hI.retrySessionFree _ _ _) Preserves.ret

theorem freeSession (hI : QuietSession I) : Preserves I freeSession := by
  refine Preserves.get_bind fun s ↦ ?_
  split
  · exact Preserves.ret
  · exact (hI.lock _).bind fun _ ↦ (hI.sys rfl).bind fun _ ↦ (hI.sys rfl).bind fun _ ↦
      (hI.forceSessionFree _ _).bind fun _ ↦
      (Preserves.when (hI.calmSession _ fun _ ↦ by rfl)).bind fun _ ↦ Preserves.when hI.unlock

theorem cleanupSession (hI : QuietSession I) : Preserves I cleanupSession :=
  hI.cancelAllListeners.bind fun _ ↦ hI.freeSession.bind fun _ ↦
    hI.closeTransport.bind fun _ ↦ hI.calmSession _ fun _ ↦ by exact ⟨Nat.zero_le _, Nat.zero_le _⟩

/-! ### Connecting -/

theorem tcpConnect (hI : QuietSession I) : Preserves I (tcpConnect p) := by
  have hgiveUp : ∀ fd : Int, Preserves I (do
      let _ ← TunnelM.sys (.tcpClose fd)
      TunnelM.modifySession fun s ↦ { s with socketfd := -1 }
      pure false) := fun fd ↦
    (hI.sys rfl).bind fun _ ↦ (hI.calmSession _ fun _ ↦ by rfl).bind fun _ ↦ Preserves.ret
  refine (hI.quietCall _ rfl).bind fun res ↦ Preserves.ite
    ((hI.calmSession _ fun _ ↦ by rfl).bind fun _ ↦ Preserves.ret) ?_
  refine (hI.calmSession _ fun _ ↦ by rfl).bind fun _ ↦ (hI.sys rfl).bind fun _ ↦
    Preserves.ite (hgiveUp _) ?_
  exact (hI.sys rfl).bind fun _ ↦ Preserves.ite (hgiveUp _) Preserves.ret

theorem handshake (hI : QuietSession I) : Preserves I handshake := by
  refine (hI.quietCall _ rfl).bind fun res ↦ Preserves.ite
    ((hI.calmSession _ fun _ ↦ by rfl).bind fun _ ↦ Preserves.ret) ?_
  refine (hI.calmSession _ fun _ ↦ by rfl).bind fun _ ↦ (hI.lock _).bind fun _ ↦ Preserves.ite ?_ ?_
  · exact (hI.sys rfl).bind fun _ ↦ (hI.calmSession _ fun _ ↦ by rfl).bind fun _ ↦ Preserves.ret
  · refine Preserves.get_bind fun _ ↦ (hI.sys rfl).bind fun _ ↦ Preserves.ite ?_ ?_
    · exact (hI.sys rfl).bind fun _ ↦ (hI.calmSession _ fun _ ↦ by rfl).bind fun _ ↦
        hI.unlock.bind fun _ ↦ Preserves.ret
    · exact hI.unlock.bind fun _ ↦ Preserves.ret

theorem checkHostKey (hI : QuietSession I) (sshConfig : SSHServerConfig) (hostKeyType : Int)
    (hash : List UInt8) : Preserves I (checkHostKey sshConfig hostKeyType hash) :=
  Preserves.ite Preserves.ret <| Preserves.ite Preserves.ret <|
    Preserves.ite ((hI.sys rfl).bind fun _ ↦ Preserves.ret) Preserves.ret

theorem verifyHostKey (hI : QuietSession I) (session : ℕ) :
    Preserves I (verifyHostKey p session) := by
  refine Preserves.ite Preserves.ret
    ((hI.lock _).bind fun _ ↦ Preserves.ite Preserves.ret ?_)
  refine (hI.sys rfl).bind fun hostKey ↦ hI.unlock.bind fun _ ↦ ?_
  cases hostKey.hash with
  | none => exact Preserves.ret
  | some hash => exact Preserves.ite Preserves.ret (hI.checkHostKey _ _ _)

theorem lockForLog (hI : QuietSession I) (ms : ℕ) : Preserves I (lockForLog ms) :=
  (hI.lock _).bind fun _ ↦ Preserves.when hI.unlock

theorem authenticate (hI : QuietSession I) (session : ℕ) :
    Preserves I (authenticate p session) := by
  have hask : ∀ {c : SysCall} {f : c.Reply → Bool}, (c.ofSession && !c.probes) = true →
      Preserves I (do
      let locked : Bool ← TunnelM.lock 1000
      if !locked then pure false
      else do
        let rc ← TunnelM.sys c
        TunnelM.unlock
        pure (f rc)) := fun hc ↦
    (hI.lock _).bind fun _ ↦ Preserves.ite Preserves.ret
      ((hI.sys hc).bind fun _ ↦ hI.unlock.bind fun _ ↦ Preserves.ret)
  refine (hI.lock _).bind fun _ ↦ Preserves.ite Preserves.ret ?_
  refine (hI.sys rfl).bind fun _ ↦ hI.unlock.bind fun _ ↦
    Preserves.ite ((hI.lockForLog _).bind fun _ ↦ Preserves.ret) ?_
  exact Preserves.ite (hask rfl)
    (Preserves.ite (Preserves.ite Preserves.ret (hask rfl)) Preserves.ret)

theorem configureKeepalive (hI : QuietSession I) (session : ℕ) :
    Preserves I (configureKeepalive p session) :=
  Preserves.ite Preserves.ret ((hI.lock _).bind fun _ ↦ Preserves.ite
    ((hI.sys rfl).bind fun _ ↦ hI.unlock.bind fun _ ↦ Preserves.ret) Preserves.ret)

theorem listenAttempts (hI : QuietSession I) (session : ℕ) (mapping : TunnelConfig) (n : ℕ) :
    Preserves I (listenAttempts p session mapping n) := by
  induction n with
  | zero => exact Preserves.ret
  | succ n ih =>
    refine (hI.lock _).bind fun _ ↦ Preserves.ite ((hI.sys rfl).bind fun _ ↦ ih) ?_
    refine (hI.quietCall _ rfl).bind fun res ↦ hI.unlock.bind fun _ ↦ ?_
    split
    · exact Preserves.ret
    · exact (hI.sys rfl).bind fun _ ↦ ih

theorem createListenerForMapping (hI : QuietSession I) (session : ℕ) (mapping : TunnelConfig) :
    Preserves I (createListenerForMapping p session mapping) := by
  refine (hI.listenAttempts _ _ _).bind fun handle ↦ ?_
  split
  · exact (hI.lockForLog _).bind fun _ ↦ Preserves.ret
  · exact Preserves.ret

theorem addListeners (hI : QuietSession I) (session : ℕ) (mappings : List TunnelConfig) :
    Preserves I (addListeners p session mappings) := by
  induction mappings with
  | nil => exact Preserves.get_bind fun _ ↦ Preserves.ret
  | cons mapping rest ih =>
    refine (hI.createListenerForMapping _ _).bind fun entry ↦ ?_
    split
    · exact hI.cancelAllListeners.bind fun _ ↦ Preserves.ret
    · exact (hI.calmSession _ fun _ ↦ by rfl).bind fun _ ↦ ih

theorem createListeners (hI : QuietSession I) (session : ℕ) :
    Preserves I (createListeners p session) :=
  hI.cancelAllListeners.bind fun _ ↦ (hI.calmSession _ fun _ ↦ by rfl).bind fun _ ↦
    Preserves.ite Preserves.ret (hI.addListeners _ _)

theorem establish (hI : QuietSession I) (session : ℕ) : Preserves I (establish p session) := by
  have hgiveUp : Preserves I (do
      ReverseTunnel.cleanupSession
      pure false) := hI.cleanupSession.bind fun _ ↦ Preserves.ret
  refine (hI.verifyHostKey _).bind fun _ ↦ Preserves.ite hgiveUp ?_
  refine (hI.authenticate _).bind fun _ ↦ Preserves.ite hgiveUp ?_
  refine (hI.configureKeepalive _).bind fun _ ↦ (hI.createListeners _).bind fun _ ↦
    Preserves.ite hgiveUp ?_
  exact (hI.sys rfl).bind fun _ ↦ Preserves.ret

theorem sessionConnect (hI : QuietSession I) : Preserves I (sessionConnect p) := by
  refine (hI.calmSession _ fun _ ↦ by exact ⟨Nat.le_refl _, Nat.zero_le _⟩).bind fun _ ↦
    Preserves.get_bind fun _ ↦ (Preserves.when hI.cleanupSession).bind fun _ ↦
    Preserves.get_bind fun _ ↦ Preserves.ite Preserves.ret ?_
  refine hI.tcpConnect.bind fun _ ↦ Preserves.ite Preserves.ret ?_
  refine hI.handshake.bind fun _ ↦ Preserves.get_bind fun _ ↦ ?_
  split
  · exact hI.establish _
  · exact hI.cleanupSession.bind fun _ ↦ Preserves.ret

end QuietSession

namespace SessionKeeps

variable {p : Params} {I : Assertion SSHTunnel Call Call.Reply Mark}

theorem of (hcall : ∀ c : SysCall, c.ofSession = true → Preserves I (TunnelM.sysId c))
    (hsession : ∀ f, Preserves I (TunnelM.modifySession f)) : SessionKeeps I where
  sysId := hcall
  modifySession := hsession

/-! ### While connected -/

theorem probe (hI : SessionKeeps I) {c : SysCall} (hc : c.ofSession = true) :
    Preserves I (TunnelM.sys c) :=
  (hI.sysId c hc).bind fun _ ↦ Preserves.ret

theorem logSocketError (hI : SessionKeeps I) : Preserves I logSocketError :=
  Preserves.get_bind fun _ ↦ Preserves.ite ((hI.probe rfl).bind fun _ ↦ Preserves.ret) Preserves.ret

theorem keepaliveFailed (hI : SessionKeeps I) (rc : Int) : Preserves I (keepaliveFailed rc) := by
  refine Preserves.ite (Preserves.get_bind fun _ ↦ Preserves.ite ?_ ?_)
    (Preserves.ite ?_ Preserves.ret) <;>
    exact (hI.modifySession _).bind fun _ ↦ Preserves.ret

theorem sendKeepalive (hI : SessionKeeps I) : Preserves I sendKeepalive := by
  refine Preserves.get_bind fun s ↦ ?_
  split
  · exact Preserves.ret
  · refine (hI.lock _).bind fun _ ↦ Preserves.ite Preserves.ret ?_
    refine (hI.probe rfl).bind fun _ ↦ hI.unlock.bind fun _ ↦ Preserves.ite ?_ ?_
    · exact (hI.modifySession _).bind fun _ ↦ Preserves.ret
    · exact hI.logSocketError.bind fun _ ↦ hI.keepaliveFailed _

theorem checkConnection (hI : SessionKeeps I) : Preserves I checkConnection :=
  Preserves.get_bind fun _ ↦ Preserves.ite Preserves.ret ((hI.probe rfl).bind fun _ ↦ Preserves.ret)

/-- Accepting a channel takes one call more. -/
theorem acceptFrom (hI : SessionKeeps I) (session : ℕ) (listeners : List ListenerEntry)
    (haccept : ∀ l, Preserves I (TunnelM.sysId (.forwardAccept l))) :
    Preserves I (acceptFrom session listeners) := by
  induction listeners with
  | nil => exact Preserves.ret
  | cons entry rest ih =>
    rw [ReverseTunnel.acceptFrom]
    split
    · exact ih
    · refine (hI.lock _).bind fun _ ↦ Preserves.ite ih ((haccept _).bind fun res ↦ ?_)
      refine Preserves.ite ?_ ?_
      · exact hI.unlock.bind fun _ ↦ (hI.modifySession _).bind fun _ ↦ Preserves.ret
      · exact (hI.probe rfl).bind fun _ ↦ hI.unlock.bind fun _ ↦
          (hI.modifySession _).bind fun _ ↦ ih

theorem acceptChannel (hI : SessionKeeps I)
    (haccept : ∀ l, Preserves I (TunnelM.sysId (.forwardAccept l))) :
    Preserves I acceptChannel := by
  refine Preserves.get_bind fun s ↦ ?_
  split
  · exact Preserves.ret
  · exact hI.acceptFrom _ _ haccept

end SessionKeeps

end ReverseTunnel
