import ReverseTunnel.Lib.Custody
import ReverseTunnel.Lib.History
import ReverseTunnel.Lib.Triple
import ReverseTunnel.Session.Session

/-!
# The books of the SSH session

What `SSHSession` holds are a transport socket and a libssh2 session, at most one of each. Whether every
socket is closed and every session is freed can be read off the trace, where both are named by the call
that made them. `Accounts` ties the trace to the fields of the session, and each function of the session
is described by how it moves from one `Position` to the next.

libssh2 may refuse to free a session by returning something other than 0. The field keeps the session
then, so it may still hold a session that is already free: `Position` distinguishes the two.
-/

namespace ReverseTunnel

open Traced TunnelM Custody

variable {p : Params} {w : TunnelWorld}

/-! ### Sockets and sessions in a trace -/

/-- The transport socket that is opened. -/
def opensTransport : Item SSHTunnel Call Call.Reply Mark → Option Int
  | .call id _ _ (.sys .tcpSocket) created => if created then some id else none
  | _ => none

/-- The transport socket that is closed. -/
def closesTransport : Item SSHTunnel Call Call.Reply Mark → Option Int
  | .call _ _ _ (.sys (.tcpClose fd)) _ => some fd
  | _ => none

/-- The libssh2 session that is created. -/
def createsSession : Item SSHTunnel Call Call.Reply Mark → Option ℕ
  | .call id _ _ (.sys .sessionInit) created => if created then some id else none
  | _ => none

/-- The libssh2 session that is freed: `libssh2_session_free` returns 0. -/
def freesSession : Item SSHTunnel Call Call.Reply Mark → Option ℕ
  | .call _ _ _ (.sys (.sessionFree session)) rc => if rc = (0 : Int) then some session else none
  | _ => none

/-- The handshake, or the lock attempt for it, was the last call. -/
def handshakeEnded : Trace SSHTunnel Call Call.Reply Mark → Bool
  | .call _ _ _ (.sys (.sessionHandshake _ _)) _ :: _ => true
  | .call _ _ _ (.sys (.lock _)) _ :: _ => true
  | _ => false

/-- A session that is freed right after its handshake is still blocking: it is freed at once. -/
def freesAtOnce (x : Item SSHTunnel Call Call.Reply Mark)
    (past : Trace SSHTunnel Call Call.Reply Mark) : Bool :=
  match x with
  | .call _ _ _ (.sys (.sessionFree _)) rc => !handshakeEnded past || rc = (0 : Int)
  | _ => true

/-- Blocking sessions are freed at once. -/
def BlockingFree (tr : Trace SSHTunnel Call Call.Reply Mark) : Prop :=
  History.Always (fun x past ↦ freesAtOnce x past = true) tr

instance (tr : Trace SSHTunnel Call Call.Reply Mark) : Decidable (BlockingFree tr) :=
  inferInstanceAs (Decidable (History.Always _ tr))

/-- Socket and session are overwritten only where there is none, and a socket is opened only when all
sessions have been freed. -/
def OverwriteRule (x : Item SSHTunnel Call Call.Reply Mark)
    (past : Trace SSHTunnel Call Call.Reply Mark) : Prop :=
  match x with
  | .call _ _ s (.sys .tcpSocket) _ => s.session.socketfd = -1 ∧ s.session.session = none ∧
      (BlockingFree past → ∀ n ∈ past.filterMap createsSession, n ∈ past.filterMap freesSession)
  | .call _ _ s (.sys .sessionInit) _ => s.session.session = none
  | _ => True

/-- Calls that neither open nor close anything of the session. -/
def SysCall.neutral : SysCall → Bool
  | .tcpSocket | .tcpClose _ | .sessionInit | .sessionFree _ => false
  | _ => true

/-! ### Positions -/

/-- Where the session stands. -/
structure Position where
  /-- The session in `session_`. -/
  session : Option ℕ
  /-- The session that libssh2 still has. -/
  held : Option ℕ
  /-- The socket in `socketfd_`. -/
  socket : Option ℕ
  /-- `listeners_` -/
  listeners : List ListenerEntry
  /-- `boundPort_` -/
  boundPort : Int

/-- `socketfd_` -/
def Position.socketfd (q : Position) : Int := (q.socket.map fun n ↦ (n : Int)).getD (-1)

/-- The fields of the session and the trace agree with the position. -/
structure Accounts (q : Position) (w : TunnelWorld) : Prop where
  /-- `session_` -/
  session : w.st.session.session = q.session
  /-- `socketfd_` -/
  socketfd : w.st.session.socketfd = q.socketfd
  /-- `listeners_` -/
  listeners : w.st.session.listeners = q.listeners
  /-- `boundPort_` -/
  boundPort : w.st.session.boundPort = q.boundPort
  /-- All other sockets are closed. -/
  sockets : Holds opensTransport closesTransport w.trace (q.socket.map fun n ↦ (n : Int))
  /-- All other sessions are freed. -/
  sessions : BlockingFree w.trace → Holds createsSession freesSession w.trace q.held
  /-- Nothing was overwritten. -/
  rule : History.Always OverwriteRule w.trace
  /-- Names are not reused. -/
  serial : ∀ id t s c r, .call id t s c r ∈ w.trace → id < w.serial

variable {q : Position}

theorem Accounts.serial_after (h : Accounts q w) {c : Call} (r : c.Reply) (t : ℕ) :
    ∀ id t' s c' r', .call id t' s c' r' ∈ (w.after c r t).trace → id < (w.after c r t).serial := by
  intro id t' s c' r' hmem
  show id < w.serial + 1
  rcases List.mem_cons.1 hmem with heq | hmem
  · cases heq
    exact Nat.lt_succ_self _
  · exact Nat.lt_succ_of_lt (h.serial _ _ _ _ _ hmem)

/-- A socket opened now is a new one. -/
theorem Accounts.fresh_socket (h : Accounts q w) : (w.serial : Int) ∉ w.trace.filterMap opensTransport := by
  intro hmem
  obtain ⟨x, hx, hopen⟩ := List.mem_filterMap.1 hmem
  unfold opensTransport at hopen
  split at hopen
  · next id t s created =>
    have hlt := h.serial _ _ _ _ _ hx
    split at hopen
    · have : (id : Int) = w.serial := Option.some.inj hopen
      omega
    · cases hopen
  · cases hopen

/-- A session created now is a new one. -/
theorem Accounts.fresh_session (h : Accounts q w) : w.serial ∉ w.trace.filterMap createsSession := by
  intro hmem
  obtain ⟨x, hx, hcreate⟩ := List.mem_filterMap.1 hmem
  unfold createsSession at hcreate
  split at hcreate
  · next id t s created =>
    have hlt := h.serial _ _ _ _ _ hx
    split at hcreate
    · have : id = w.serial := Option.some.inj hcreate
      omega
    · cases hcreate
  · cases hcreate

/-! ### Single operations -/

/-- A call that has nothing to do with sockets and sessions. -/
theorem Accounts.skip (h : Accounts q w) {c : SysCall} (hc : c.neutral = true) (r : c.Reply) (t : ℕ) :
    Accounts q (w.after (.sys c) r t) := by
  have hopen : opensTransport (.call w.serial t w.st (.sys c) r) = none := by
    cases c <;> first | rfl | cases hc
  have hclose : closesTransport (.call w.serial t w.st (.sys c) r) = none := by
    cases c <;> first | rfl | cases hc
  have hcreate : createsSession (.call w.serial t w.st (.sys c) r) = none := by
    cases c <;> first | rfl | cases hc
  have hfree : freesSession (.call w.serial t w.st (.sys c) r) = none := by
    cases c <;> first | rfl | cases hc
  have hrule : OverwriteRule (.call w.serial t w.st (.sys c) r) w.trace := by
    cases c <;> trivial
  exact
    { session := h.session
      socketfd := h.socketfd
      listeners := h.listeners
      boundPort := h.boundPort
      sockets := h.sockets.skip hopen hclose
      sessions := fun hb ↦ (h.sessions hb.2).skip hcreate hfree
      rule := ⟨hrule, h.rule⟩
      serial := h.serial_after (c := .sys c) r t }

/-- A change of the fields of the session. -/
theorem Accounts.set (h : Accounts q w) (q' : Position) (f : SSHSession → SSHSession)
    (hsession : (f w.st.session).session = q'.session)
    (hfd : (f w.st.session).socketfd = q'.socketfd)
    (hlist : (f w.st.session).listeners = q'.listeners)
    (hport : (f w.st.session).boundPort = q'.boundPort)
    (hheld : q'.held = q.held) (hsocket : q'.socket = q.socket) :
    Accounts q' (w.update fun s ↦ { s with session := f s.session }) :=
  { session := hsession
    socketfd := hfd
    listeners := hlist
    boundPort := hport
    sockets := hsocket ▸ h.sockets
    sessions := fun hb ↦ hheld ▸ h.sessions hb
    rule := h.rule
    serial := h.serial }

theorem accounts_sys {c : SysCall} (hc : c.neutral = true) : Preserves (Accounts q) (sys c) :=
  fun _ h ↦ wp_call fun r t _ ↦ h.skip hc r t

theorem accounts_sysId {c : SysCall} (hc : c.neutral = true) : Preserves (Accounts q) (sysId c) :=
  fun _ h ↦ wp_callId fun r t _ ↦ h.skip hc r t

theorem accounts_lock (ms : ℕ) : Preserves (Accounts q) (lock ms) := accounts_sys rfl

theorem accounts_unlock : Preserves (Accounts q) unlock := accounts_sys rfl

theorem accounts_lockForLog (ms : ℕ) : Preserves (Accounts q) (lockForLog ms) :=
  (accounts_lock ms).bind fun _ ↦ Preserves.when accounts_unlock

/-! ### Closing and freeing -/

theorem accounts_cancelListener (entry : ListenerEntry) :
    Preserves (Accounts q) (cancelListener entry) := by
  rw [cancelListener]
  split
  · exact Preserves.ret
  · exact (accounts_lock _).bind fun _ ↦ Preserves.ite
      ((accounts_sys (by rfl)).bind fun _ ↦ accounts_unlock) Preserves.ret

theorem accounts_cancelAllListeners :
    Triple (Accounts q) cancelAllListeners fun _ ↦
      Accounts { q with listeners := [], boundPort := -1 } := by
  intro w hw
  rw [cancelAllListeners, wp_get_bind]
  have heach := Preserves.each (l := w.st.session.listeners) (I := Accounts q) fun entry _ ↦
    accounts_cancelListener entry
  refine wp_bind (wp_mono (heach w hw) fun _ u hu ↦ wp_modify ?_)
  exact hu.set { q with listeners := [], boundPort := -1 }
    (fun s ↦ { s with listeners := [], boundPort := -1 }) hu.session hu.socketfd rfl rfl rfl rfl

/-- The socket at hand is closed. -/
theorem Accounts.closed (h : Accounts q w) {n : ℕ} (hn : q.socket = some n) {fd : Int}
    (hfd : fd = n) (r : Unit) (t : ℕ) :
    Accounts { q with socket := none } ((w.after (.sys (.tcpClose fd)) r t).update
      fun s ↦ { s with session := { s.session with socketfd := -1 } }) := by
  have hsockets : Holds opensTransport closesTransport w.trace (some (n : Int)) := by
    have := h.sockets
    rwa [hn] at this
  exact
    { session := h.session
      socketfd := rfl
      listeners := h.listeners
      boundPort := h.boundPort
      sockets := hsockets.give rfl (congrArg some hfd)
      sessions := fun hb ↦ (h.sessions hb.2).skip rfl rfl
      rule := ⟨trivial, h.rule⟩
      serial := h.serial_after (c := .sys (.tcpClose fd)) r t }

theorem accounts_closeTransport :
    Triple (Accounts q) closeTransport fun _ ↦ Accounts { q with socket := none } := by
  intro w hw
  rw [closeTransport, wp_get_bind]
  rcases hs : q.socket with - | n
  · have hfd : w.st.session.socketfd = -1 := by rw [hw.socketfd, Position.socketfd, hs]; rfl
    refine wp_ite (fun hpos ↦ absurd hpos (by omega)) fun _ ↦ wp_pure ?_
    have hq : { q with socket := none } = q := by rw [← hs]
    rw [hq]
    exact hw
  · have hfd : w.st.session.socketfd = n := by rw [hw.socketfd, Position.socketfd, hs]; rfl
    refine wp_ite (fun _ ↦ ?_) fun hneg ↦ absurd (by omega) hneg
    refine wp_bind (wp_mono (accounts_sys (by rfl) w hw) fun _ u hu ↦ ?_)
    exact wp_call_bind fun r t _ ↦ wp_modify (hu.closed hs hfd r t)

/-- What is left when a session was asked to be freed. -/
def leftAfterFree (session : ℕ) (freeRc : Int) : Option ℕ := if freeRc = 0 then none else some session

/-- The session at hand is asked to be freed. -/
theorem Accounts.freed (h : Accounts q w) {session : ℕ} (hs : q.held = some session) (rc : Int)
    (t : ℕ) : Accounts { q with held := leftAfterFree session rc }
      (w.after (.sys (.sessionFree session)) rc t) := by
  have hsessions : BlockingFree (w.after (.sys (.sessionFree session)) rc t).trace →
      Holds createsSession freesSession (w.after (.sys (.sessionFree session)) rc t).trace
        (leftAfterFree session rc) := by
    intro hb
    have hheld := h.sessions hb.2
    rw [hs] at hheld
    rw [leftAfterFree]
    split
    · next hzero => exact hheld.give rfl (if_pos hzero)
    · next hne => exact hheld.skip rfl (if_neg hne)
  exact
    { session := h.session
      socketfd := h.socketfd
      listeners := h.listeners
      boundPort := h.boundPort
      sockets := h.sockets.skip rfl rfl
      sessions := hsessions
      rule := ⟨trivial, h.rule⟩
      serial := h.serial_after (c := .sys (.sessionFree session)) rc t }

/-- The session is freed right after its handshake. -/
theorem Accounts.freed_blocking (h : Accounts q w) {session : ℕ} (hs : q.held = some session)
    (hend : handshakeEnded w.trace = true) (rc : Int) (t : ℕ) :
    Accounts { q with held := none } (w.after (.sys (.sessionFree session)) rc t) := by
  have hfreed := h.freed hs rc t
  refine { hfreed with sessions := fun hb ↦ ?_ }
  have hzero : rc = 0 := by simpa [freesAtOnce, hend] using hb.1
  have hleft := hfreed.sessions hb
  rwa [leftAfterFree, if_pos hzero] at hleft

theorem accounts_retrySessionFree (session n : ℕ) (freeRc : Int) :
    Triple (Accounts { q with held := leftAfterFree session freeRc })
      (retrySessionFree session n freeRc)
      fun rc ↦ Accounts { q with held := leftAfterFree session rc } := by
  induction n generalizing freeRc with
  | zero => exact Triple.ret fun _ hw ↦ hw
  | succ n ih =>
    intro w hw
    rw [retrySessionFree]
    refine wp_ite (fun hagain ↦ ?_) fun _ ↦ wp_pure hw
    refine wp_bind (wp_mono (accounts_sys (by rfl) w hw) fun _ u hu ↦ ?_)
    refine wp_call_bind fun rc t _ ↦ ih rc _ ?_
    have hheld : leftAfterFree session freeRc = some session := by
      rw [leftAfterFree, if_neg (by rw [hagain]; decide)]
    exact hu.freed hheld rc t

theorem accounts_forceSessionFree (session : ℕ) (freeRc : Int) :
    Triple (Accounts { q with held := leftAfterFree session freeRc })
      (forceSessionFree session freeRc)
      fun rc w ↦ ∃ socket, Accounts { q with held := leftAfterFree session rc, socket := socket } w := by
  intro w hw
  rw [forceSessionFree, wp_get_bind]
  refine wp_ite (fun _ ↦ ?_) fun _ ↦ wp_pure ⟨q.socket, hw⟩
  refine wp_bind (wp_mono (accounts_closeTransport w hw) fun _ u hu ↦ ?_)
  exact wp_mono (accounts_retrySessionFree (q := { q with socket := none }) session 8 freeRc u hu)
    fun rc u' hu' ↦ ⟨none, hu'⟩

theorem accounts_freeSession (hq : q.session = q.held) :
    Triple (Accounts q) freeSession fun _ w ↦ ∃ session socket,
      Accounts { q with session := session, held := session, socket := socket } w := by
  intro w hw
  rw [freeSession, wp_get_bind, hw.session]
  rcases hs : q.session with - | session
  · have hheld : q.held = none := hq ▸ hs
    refine wp_pure ⟨none, q.socket, ?_⟩
    exact { hw with
      session := hw.session.trans hs
      sessions := fun hb ↦ hheld ▸ hw.sessions hb }
  · have hheld : q.held = some session := hq ▸ hs
    refine wp_bind (wp_mono (accounts_lock 2000 w hw) fun locked u hu ↦ ?_)
    refine wp_bind (wp_mono (accounts_sys (by rfl) u hu) fun _ u hu ↦ ?_)
    refine wp_call_bind fun rc t _ ↦ ?_
    refine wp_bind (wp_mono (accounts_forceSessionFree session rc _ (hu.freed hheld rc t))
      fun freeRc u hu ↦ ?_)
    obtain ⟨socket, hu⟩ := hu
    refine wp_bind (wp_mono (Q := fun _ v ↦ Accounts
      { q with
        session := leftAfterFree session freeRc
        held := leftAfterFree session freeRc
        socket := socket } v) ?_ fun _ v hv ↦ ?_)
    · refine wp_when (fun hzero ↦ wp_modify ?_) fun hne ↦ ?_
      · have hzero : freeRc = 0 := of_decide_eq_true hzero
        refine hu.set _ (fun s ↦ { s with session := none }) ?_ hu.socketfd hu.listeners hu.boundPort
          rfl rfl
        rw [leftAfterFree, if_pos hzero]
      · have hne : freeRc ≠ 0 := of_decide_eq_false hne
        have hleft : leftAfterFree session freeRc = some session := if_neg hne
        have hsame : q.session = leftAfterFree session freeRc := hs.trans hleft.symm
        rw [← hsame] at hu ⊢
        exact hu
    · exact wp_mono (Preserves.when accounts_unlock v hv) fun _ v' hv' ↦ ⟨_, _, hv'⟩

/-- After a cleanup the session is down; libssh2 may not have let go of it. -/
theorem accounts_cleanupSession (hq : q.session = q.held) :
    Triple (Accounts q) cleanupSession fun _ w ↦ ∃ session,
      Accounts ⟨session, session, none, [], -1⟩ w := by
  intro w hw
  rw [cleanupSession]
  refine wp_bind (wp_mono (accounts_cancelAllListeners w hw) fun _ u hu ↦ ?_)
  refine wp_bind (wp_mono (accounts_freeSession
    (q := { q with listeners := [], boundPort := -1 }) hq u hu) fun _ u hu ↦ ?_)
  obtain ⟨session, socket, hu⟩ := hu
  refine wp_bind (wp_mono (accounts_closeTransport u hu) fun _ u hu ↦ wp_modify ⟨session, ?_⟩)
  exact hu.set _ (fun s ↦ { s with keepAliveFailures := 0 }.resetAcceptState) hu.session hu.socketfd
    hu.listeners hu.boundPort rfl rfl

/-! ### Connecting -/

/-- Nothing is open. -/
def Position.idle : Position := ⟨none, none, none, [], -1⟩

/-- A socket was asked for. -/
theorem Accounts.opened (h : Accounts .idle w) (created : Bool) (t : ℕ) :
    Accounts ⟨none, none, if created then some w.serial else none, [], -1⟩
      ((w.after (.sys .tcpSocket) created t).update fun s ↦
        { s with session :=
          { s.session with socketfd := if created then (w.serial : Int) else -1 } }) := by
  have hrule : OverwriteRule (.call w.serial t w.st (.sys .tcpSocket) created) w.trace :=
    ⟨h.socketfd, h.session, fun hb _ hn ↦ (h.sessions hb).settled hn⟩
  refine
    { session := h.session
      socketfd := ?_
      listeners := h.listeners
      boundPort := h.boundPort
      sockets := ?_
      sessions := fun hb ↦ (h.sessions hb.2).skip rfl rfl
      rule := ⟨hrule, h.rule⟩
      serial := h.serial_after (c := .sys .tcpSocket) created t }
  · cases created <;> rfl
  · cases created with
    | true => exact h.sockets.take rfl rfl h.fresh_socket
    | false => exact h.sockets.skip rfl rfl

theorem accounts_tcpConnect :
    Triple (Accounts .idle) (tcpConnect p) fun connected w ↦
      if connected then ∃ n, Accounts ⟨none, none, some n, [], -1⟩ w else Accounts .idle w := by
  intro w hw
  rw [tcpConnect]
  refine wp_callId_bind fun created t _ ↦ ?_
  cases created with
  | false =>
    refine wp_ite (fun _ ↦ ?_) fun hyes ↦ absurd rfl hyes
    exact wp_bind (wp_modify (wp_pure (hw.opened false t)))
  | true =>
    have hopen := hw.opened true t
    have hgiveUp : ∀ u, Accounts ⟨none, none, some w.serial, [], -1⟩ u →
        wp (do
          let _ ← sys (.tcpClose (w.serial : Int))
          modifySession fun s ↦ { s with socketfd := -1 }
          pure false) (fun connected w ↦ if connected = true then
            ∃ n, Accounts ⟨none, none, some n, [], -1⟩ w else Accounts .idle w) u := fun u hu ↦
      wp_call_bind fun r t _ ↦ wp_bind (wp_modify (wp_pure (hu.closed rfl rfl r t)))
    refine wp_ite (fun hno ↦ by cases hno) fun _ ↦ wp_bind (wp_modify ?_)
    refine wp_bind (wp_mono (accounts_sys (by rfl) _ hopen) fun resolved u hu ↦ ?_)
    refine wp_ite (fun _ ↦ hgiveUp u hu) fun _ ↦ ?_
    refine wp_bind (wp_mono (accounts_sys (by rfl) _ hu) fun rc u hu ↦ ?_)
    exact wp_ite (fun _ ↦ hgiveUp u hu) fun _ ↦ wp_pure ⟨w.serial, hu⟩

/-- A session was asked for. -/
theorem Accounts.created {n : ℕ} (h : Accounts ⟨none, none, some n, [], -1⟩ w) (created : Bool)
    (t : ℕ) :
    Accounts ⟨if created then some w.serial else none, if created then some w.serial else none,
        some n, [], -1⟩
      ((w.after (.sys .sessionInit) created t).update fun s ↦
        { s with session := { s.session with session := if created then some w.serial else none } }) := by
  refine
    { session := rfl
      socketfd := h.socketfd
      listeners := h.listeners
      boundPort := h.boundPort
      sockets := h.sockets.skip rfl rfl
      sessions := fun hb ↦ ?_
      rule := ⟨h.session, h.rule⟩
      serial := h.serial_after (c := .sys .sessionInit) created t }
  cases created with
  | true => exact (h.sessions hb.2).take rfl rfl h.fresh_session
  | false => exact (h.sessions hb.2).skip rfl rfl

theorem accounts_handshake {n : ℕ} :
    Triple (Accounts ⟨none, none, some n, [], -1⟩) handshake fun shaken w ↦
      if shaken then ∃ session, Accounts ⟨some session, some session, some n, [], -1⟩ w
      else Accounts ⟨none, none, some n, [], -1⟩ w := by
  intro w hw
  rw [handshake]
  refine wp_callId_bind fun created t _ ↦ ?_
  cases created with
  | false =>
    refine wp_ite (fun _ ↦ ?_) fun hyes ↦ absurd rfl hyes
    exact wp_bind (wp_modify (wp_pure (hw.created false t)))
  | true =>
    have hnew := hw.created true t
    refine wp_ite (fun hno ↦ by cases hno) fun _ ↦ wp_bind (wp_modify ?_)
    refine wp_call_bind fun locked t₁ _ ↦ ?_
    have hlock := hnew.skip (c := .lock 5000) rfl locked t₁
    refine wp_ite (fun _ ↦ ?_) fun _ ↦ ?_
    · refine wp_call_bind fun rc t₂ _ ↦ wp_bind (wp_modify (wp_pure ?_))
      exact (hlock.freed_blocking rfl rfl rc t₂).set ⟨none, none, some n, [], -1⟩
        (fun s ↦ { s with session := none }) rfl hnew.socketfd hnew.listeners hnew.boundPort rfl rfl
    · rw [wp_get_bind]
      refine wp_call_bind fun rc t₂ _ ↦ ?_
      have hshake := hlock.skip
        (c := .sessionHandshake w.serial w.st.session.socketfd) rfl rc t₂
      refine wp_ite (fun _ ↦ ?_) fun _ ↦ ?_
      · refine wp_call_bind fun rc' t₃ _ ↦ wp_bind (wp_modify ?_)
        have hfreed := (hshake.freed_blocking rfl rfl rc' t₃).set ⟨none, none, some n, [], -1⟩
          (fun s ↦ { s with session := none }) rfl hnew.socketfd hnew.listeners hnew.boundPort rfl rfl
        exact wp_bind (wp_mono (accounts_unlock _ hfreed) fun _ u hu ↦ wp_pure hu)
      · exact wp_bind (wp_mono (accounts_unlock _ hshake) fun _ u hu ↦ wp_pure ⟨w.serial, hu⟩)

theorem accounts_checkHostKey (sshConfig : SSHServerConfig) (hostKeyType : Int)
    (hash : List UInt8) : Preserves (Accounts q) (checkHostKey sshConfig hostKeyType hash) :=
  Preserves.ite Preserves.ret <| Preserves.ite Preserves.ret <|
    Preserves.ite ((accounts_sys (by rfl)).bind fun _ ↦ Preserves.ret) Preserves.ret

theorem accounts_verifyHostKey (session : ℕ) : Preserves (Accounts q) (verifyHostKey p session) := by
  refine Preserves.ite Preserves.ret ((accounts_lock _).bind fun _ ↦ Preserves.ite Preserves.ret ?_)
  refine (accounts_sys (by rfl)).bind fun hostKey ↦ accounts_unlock.bind fun _ ↦ ?_
  cases hostKey.hash with
  | none => exact Preserves.ret
  | some hash => exact Preserves.ite Preserves.ret (accounts_checkHostKey _ _ _)

theorem accounts_authenticate (session : ℕ) : Preserves (Accounts q) (authenticate p session) := by
  refine (accounts_lock _).bind fun _ ↦ Preserves.ite Preserves.ret ?_
  refine (accounts_sys (by rfl)).bind fun _ ↦ accounts_unlock.bind fun _ ↦
    Preserves.ite ((accounts_lockForLog _).bind fun _ ↦ Preserves.ret) ?_
  refine Preserves.ite ?_ (Preserves.ite (Preserves.ite Preserves.ret ?_) Preserves.ret)
  · exact (accounts_lock _).bind fun _ ↦ Preserves.ite Preserves.ret
      ((accounts_sys (by rfl)).bind fun _ ↦ accounts_unlock.bind fun _ ↦ Preserves.ret)
  · exact (accounts_lock _).bind fun _ ↦ Preserves.ite Preserves.ret
      ((accounts_sys (by rfl)).bind fun _ ↦ accounts_unlock.bind fun _ ↦ Preserves.ret)

theorem accounts_configureKeepalive (session : ℕ) :
    Preserves (Accounts q) (configureKeepalive p session) :=
  Preserves.ite Preserves.ret ((accounts_lock _).bind fun _ ↦ Preserves.ite
    ((accounts_sys (by rfl)).bind fun _ ↦ accounts_unlock.bind fun _ ↦ Preserves.ret) Preserves.ret)

theorem accounts_listenAttempts (session : ℕ) (mapping : TunnelConfig) (n : ℕ) :
    Preserves (Accounts q) (listenAttempts p session mapping n) := by
  induction n with
  | zero => exact Preserves.ret
  | succ n ih =>
    refine (accounts_lock _).bind fun _ ↦ Preserves.ite
      ((accounts_sys (by rfl)).bind fun _ ↦ ih) ?_
    refine (accounts_sysId (by rfl)).bind fun res ↦ accounts_unlock.bind fun _ ↦ ?_
    split
    · exact Preserves.ret
    · exact (accounts_sys (by rfl)).bind fun _ ↦ ih

/-- A listener that was created has a handle and belongs to the mapping. -/
theorem accounts_createListenerForMapping (session : ℕ) (mapping : TunnelConfig) :
    Triple (Accounts q) (createListenerForMapping p session mapping) fun entry w ↦
      Accounts q w ∧ ∀ l ∈ entry, l.listener.isSome = true ∧ l.mapping = mapping := by
  intro w hw
  refine wp_bind (wp_mono (accounts_listenAttempts session mapping 50 w hw) fun handle u hu ↦ ?_)
  rcases handle with - | ⟨listener, port⟩
  · exact wp_bind (wp_mono (accounts_lockForLog 100 u hu) fun _ u hu ↦ wp_pure ⟨hu, by simp⟩)
  · refine wp_pure ⟨hu, fun l hl ↦ ?_⟩
    obtain rfl := Option.some.inj hl
    exact ⟨rfl, rfl⟩

/-- The listeners are those of the given mappings, in order, and all of them are there. -/
structure ListensTo (mappings : List TunnelConfig) (listeners : List ListenerEntry) : Prop where
  /-- The mappings. -/
  mappings : listeners.map (·.mapping) = mappings
  /-- The handles. -/
  handles : ∀ l ∈ listeners, l.listener.isSome = true

theorem ListensTo.append {mappings : List TunnelConfig} {listeners : List ListenerEntry}
    {entry : ListenerEntry} (h : ListensTo mappings listeners) (hs : entry.listener.isSome = true) :
    ListensTo (mappings ++ [entry.mapping]) (listeners ++ [entry]) := by
  refine ⟨by simp [h.mappings], fun l hl ↦ ?_⟩
  rcases List.mem_append.1 hl with hl | hl
  · exact h.handles l hl
  · rw [List.mem_singleton.1 hl]
    exact hs

theorem accounts_addListeners (session : ℕ) (done rest : List TunnelConfig)
    (hq : ListensTo done q.listeners) :
    Triple (Accounts q) (addListeners p session rest) fun listening w ↦
      ∃ listeners port, Accounts { q with listeners := listeners, boundPort := port } w ∧
        (listening = true → ListensTo (done ++ rest) listeners) := by
  induction rest generalizing done q with
  | nil =>
    intro w hw
    rw [addListeners, wp_get_bind]
    refine wp_pure ⟨q.listeners, q.boundPort, hw, fun _ ↦ ?_⟩
    rw [List.append_nil]
    exact hq
  | cons mapping rest ih =>
    intro w hw
    refine wp_bind (wp_mono (accounts_createListenerForMapping session mapping w hw)
      fun entry u hu ↦ ?_)
    rcases entry with - | entry
    · exact wp_bind (wp_mono (accounts_cancelAllListeners u hu.1) fun _ u hu ↦
        wp_pure ⟨[], -1, hu, by simp⟩)
    · obtain ⟨hs, rfl⟩ := hu.2 entry rfl
      let q₁ : Position :=
        { q with
          listeners := q.listeners ++ [entry]
          boundPort := if q.boundPort < 0 then entry.boundPort else q.boundPort }
      have hadd := hu.1.set q₁
        (fun s ↦
          { s with
            listeners := s.listeners ++ [entry]
            boundPort := if s.boundPort < 0 then entry.boundPort else s.boundPort })
        hu.1.session hu.1.socketfd (by simp [hu.1.listeners, q₁]) (by simp [hu.1.boundPort, q₁])
        rfl rfl
      have hrest := ih (q := q₁) (done ++ [entry.mapping]) (hq.append hs)
      refine wp_bind (wp_modify (wp_mono (hrest _ hadd) fun listening u hu ↦ ?_))
      obtain ⟨listeners, port, hacc, hlisten⟩ := hu
      refine ⟨listeners, port, hacc, fun hyes ↦ ?_⟩
      have hto := hlisten hyes
      rwa [List.append_assoc] at hto

/-- The mappings that get a listener. -/
def Params.listened (p : Params) : List TunnelConfig :=
  p.mappings.take (min p.connection.maxReverseListeners p.mappings.length).toNat

theorem accounts_createListeners (session : ℕ) :
    Triple (Accounts q) (createListeners p session) fun listening w ↦
      ∃ listeners port, Accounts { q with listeners := listeners, boundPort := port } w ∧
        (listening = true → ListensTo p.listened listeners) := by
  intro w hw
  refine wp_bind (wp_mono (accounts_cancelAllListeners w hw) fun _ u hu ↦ wp_bind (wp_modify ?_))
  have hclear := hu.set { q with listeners := [], boundPort := -1 }
    (fun s ↦ { s with boundPort := -1 }) hu.session hu.socketfd hu.listeners rfl rfl rfl
  refine wp_ite (fun _ ↦ wp_pure ⟨[], -1, hclear, by simp⟩) fun _ ↦ ?_
  exact accounts_addListeners (q := { q with listeners := [], boundPort := -1 }) session []
    p.listened ⟨rfl, by simp⟩ _ hclear

/-- Fields of a session that is connected with all its listeners. -/
structure Connected (p : Params) (session : ℕ) (q : Position) : Prop where
  /-- There is a session. -/
  session_eq : q.session = some session
  /-- libssh2 has it. -/
  held_eq : q.held = some session
  /-- The listeners. -/
  listens : ListensTo p.listened q.listeners

theorem accounts_establish {session n : ℕ} :
    Triple (Accounts ⟨some session, some session, some n, [], -1⟩) (establish p session)
      fun ready w ↦
        if ready then ∃ q, Accounts q w ∧ Connected p session q
        else ∃ s, Accounts ⟨s, s, none, [], -1⟩ w := by
  have hgiveUp : ∀ listeners port,
      Triple (Accounts ⟨some session, some session, some n, listeners, port⟩) (do
        cleanupSession
        pure false) fun ready w ↦
          if ready = true then ∃ q, Accounts q w ∧ Connected p session q
          else ∃ s, Accounts ⟨s, s, none, [], -1⟩ w := fun listeners port w hw ↦
    wp_bind (wp_mono (accounts_cleanupSession rfl w hw) fun _ u hu ↦ wp_pure hu)
  intro w hw
  refine wp_bind (wp_mono (accounts_verifyHostKey session w hw) fun _ w hw ↦ ?_)
  refine wp_ite (fun _ ↦ hgiveUp _ _ w hw) fun _ ↦ ?_
  refine wp_bind (wp_mono (accounts_authenticate session w hw) fun _ w hw ↦ ?_)
  refine wp_ite (fun _ ↦ hgiveUp _ _ w hw) fun _ ↦ ?_
  refine wp_bind (wp_mono (accounts_configureKeepalive session w hw) fun _ w hw ↦ ?_)
  refine wp_bind (wp_mono (accounts_createListeners session w hw) fun listening w hw ↦ ?_)
  obtain ⟨listeners, port, hw, hlisten⟩ := hw
  refine wp_ite (fun _ ↦ hgiveUp _ _ w hw) fun hyes ↦ ?_
  have hyes : listening = true := by simpa using hyes
  refine wp_bind (wp_mono (accounts_sys (by rfl) w hw) fun _ w hw ↦ wp_pure ?_)
  exact ⟨_, hw, rfl, rfl, hlisten hyes⟩

/-- The books between two operations: `session_` holds what libssh2 still has, and without a session
nothing is open. -/
structure AtRest (w : TunnelWorld) (q : Position) : Prop where
  /-- The books. -/
  accounts : Accounts q w
  /-- `session_` is what libssh2 still has. -/
  session_eq : q.session = q.held
  /-- Without a session nothing is open. -/
  idle : q.session = none → q = .idle

/-- After a cleanup. -/
theorem atRest_down {session : Option ℕ} (h : Accounts ⟨session, session, none, [], -1⟩ w) :
    AtRest w ⟨session, session, none, [], -1⟩ := by
  refine ⟨h, rfl, fun hnone ↦ ?_⟩
  obtain rfl : session = none := hnone
  rfl

theorem atRest_sessionDisconnect (h : AtRest w q) :
    wp sessionDisconnect (fun _ w' ↦ ∃ session, AtRest w' ⟨session, session, none, [], -1⟩) w := by
  rw [sessionDisconnect, wp_mark_bind]
  have hmark : Accounts q (w.marked .sessionDown) :=
    { h.accounts with
      sockets := h.accounts.sockets.skip rfl rfl
      sessions := fun hb ↦ (h.accounts.sessions hb.2).skip rfl rfl
      rule := ⟨trivial, h.accounts.rule⟩
      serial := fun id t s c r hmem ↦ h.accounts.serial id t s c r (by simpa using hmem) }
  refine wp_bind (wp_mono (accounts_cancelAllListeners _ hmark) fun _ u hu ↦ ?_)
  exact wp_mono (accounts_cleanupSession
    (q := { q with listeners := [], boundPort := -1 }) h.session_eq u hu) fun _ u hu ↦
      hu.imp fun _ hs ↦ atRest_down hs

/-- What a connection attempt leads to. -/
theorem atRest_sessionConnect (h : AtRest w q) :
    wp (sessionConnect p) (fun ready w' ↦
      if ready then ∃ q' session, AtRest w' q' ∧ Connected p session q'
      else ∃ session, AtRest w' ⟨session, session, none, [], -1⟩) w := by
  rw [sessionConnect]
  have hreset := h.accounts.set q (·.resetAcceptState) h.accounts.session h.accounts.socketfd
    h.accounts.listeners h.accounts.boundPort rfl rfl
  refine wp_bind (wp_modify ?_)
  rw [wp_get_bind]
  -- a leftover session is cleaned up first
  refine wp_bind (wp_mono (Q := fun _ u ↦ ∃ session, AtRest u ⟨session, session, none, [], -1⟩)
    (wp_when (fun _ ↦ ?_) fun hnone ↦ ?_) fun _ u hu ↦ ?_)
  · exact wp_mono (accounts_cleanupSession h.session_eq _ hreset) fun _ u hu ↦
      hu.imp fun _ hs ↦ atRest_down hs
  · have hnone : q.session = none := by
      rw [← hreset.session]
      simpa using hnone
    obtain rfl := h.idle hnone
    exact ⟨none, atRest_down hreset⟩
  obtain ⟨session, hu⟩ := hu
  rw [wp_get_bind]
  refine wp_ite (fun _ ↦ wp_pure ⟨session, hu⟩) fun hnone ↦ ?_
  obtain rfl : session = none := by simpa [hu.accounts.session] using hnone
  refine wp_bind (wp_mono (accounts_tcpConnect u hu.accounts) fun connected u hu ↦ ?_)
  refine wp_ite (fun hno ↦ wp_pure ⟨none, ?_⟩) fun hyes ↦ ?_
  · obtain rfl : connected = false := by simpa using hno
    exact atRest_down hu
  obtain rfl : connected = true := by simpa using hyes
  obtain ⟨n, hu⟩ := hu
  refine wp_bind (wp_mono (accounts_handshake u hu) fun shaken u hu ↦ ?_)
  rw [wp_get_bind]
  cases shaken with
  | false =>
    refine wp_bind (wp_mono (accounts_cleanupSession rfl u hu) fun _ u hu ↦ wp_pure ?_)
    exact hu.imp fun _ hs ↦ atRest_down hs
  | true =>
    obtain ⟨session, hu⟩ := hu
    rw [hu.session]
    refine wp_mono (accounts_establish u hu) fun ready u hu ↦ ?_
    cases ready with
    | false => exact hu.imp fun _ hs ↦ atRest_down hs
    | true =>
      obtain ⟨q', hacc, hconn⟩ := hu
      refine ⟨q', session, ⟨hacc, hconn.session_eq.trans hconn.held_eq.symm, fun hnone ↦ ?_⟩, hconn⟩
      rw [hconn.session_eq] at hnone
      cases hnone

end ReverseTunnel
