import ReverseTunnel.Session.Custody
import ReverseTunnel.System.Trace

/-!
# What the SSH session holds

Connecting and disconnecting in any order, with any results of the calls below them, loses neither a
socket nor a libssh2 session: the fields are overwritten only where they are empty, every socket is closed
exactly once, every session is freed exactly once, and no socket is opened while libssh2 still has a
session. An attempt that fails leaves nothing but possibly the session for a later cleanup; one that
succeeds has all the listeners it should have.
-/

namespace ReverseTunnel

open Traced TunnelM Custody

variable {w : TunnelWorld}

/-- The public operations of the session. -/
inductive SessionOp where
  /-- `connect`, with this configuration -/
  | connect (p : Params)
  /-- `disconnect` -/
  | disconnect

/-- What an operation does. -/
def SessionOp.prog : SessionOp → TunnelM Unit
  | .connect p => do
    let _ ← sessionConnect p
    pure ()
  | .disconnect => sessionDisconnect

/-- Runs of the operations of the session. -/
def SessionRun : TunnelWorld → Prop := Runs (Set.range SessionOp.prog)

/-- A session that is down. libssh2 may still have it. -/
structure SSHSession.Down (s : SSHSession) : Prop where
  /-- Not connected. -/
  isConnected : s.isConnected = false
  /-- No socket. -/
  socketfd : s.socketfd = -1
  /-- No listeners. -/
  listeners : s.listeners = []
  /-- No port. -/
  boundPort : s.boundPort = -1

/-- Nothing is lost, and the operations leave the session as they should. -/
structure SessionResources (w : TunnelWorld) : Prop where
  /-- `socketfd_` is overwritten only when it is -1. -/
  socket_overwritten : ∀ newer id t s r past,
    w.trace = newer ++ .call id t s (.sys .tcpSocket) r :: past → s.session.socketfd = -1
  /-- `session_` is overwritten only when it is null. -/
  session_overwritten : ∀ newer id t s r past,
    w.trace = newer ++ .call id t s (.sys .sessionInit) r :: past → s.session.session = none
  /-- Only sockets that were opened are closed. -/
  closed_opened : ∀ fd ∈ w.trace.filterMap closesTransport, fd ∈ w.trace.filterMap opensTransport
  /-- Every socket is closed exactly once; the current one is not closed yet. -/
  closed_once : ∀ fd ∈ w.trace.filterMap opensTransport,
    (w.trace.filterMap closesTransport).count fd = if w.st.session.socketfd = fd then 0 else 1
  /-- Every session is freed exactly once; the current one is not freed yet. -/
  freed_once : BlockingFree w.trace → ∀ n ∈ w.trace.filterMap createsSession,
    (w.trace.filterMap freesSession).count n = if w.st.session.session = some n then 0 else 1
  /-- No socket is opened while a session remains. -/
  freed_before : BlockingFree w.trace → ∀ newer id t s r past,
    w.trace = newer ++ .call id t s (.sys .tcpSocket) r :: past →
      ∀ n ∈ past.filterMap createsSession, n ∈ past.filterMap freesSession
  /-- A failed attempt to connect leaves the session down. -/
  connect_fails : ∀ p e, ((sessionConnect p).run e w).1 = false →
    ((sessionConnect p).run e w).2.st.session.Down
  /-- A successful attempt leaves all listeners. -/
  connect_succeeds : ∀ p e, ((sessionConnect p).run e w).1 = true →
    ListensTo p.listened ((sessionConnect p).run e w).2.st.session.listeners
  /-- Disconnecting leaves the session down. -/
  disconnect : ∀ e, (sessionDisconnect.exec e w).st.session.Down

/-! ### From the books to the fields -/

theorem down_of_accounts {session : Option ℕ} (h : Accounts ⟨session, session, none, [], -1⟩ w) :
    w.st.session.Down := by
  have hfd : w.st.session.socketfd = -1 := h.socketfd
  refine ⟨?_, hfd, h.listeners, h.boundPort⟩
  rw [SSHSession.isConnected, hfd]
  simp

/-- The socket at hand is the one in `socketfd_`. -/
theorem Accounts.socketfd_eq_iff {q : Position} (h : Accounts q w) {fd : Int}
    (hfd : fd ∈ w.trace.filterMap opensTransport) :
    (q.socket.map fun n ↦ (n : Int)) = some fd ↔ w.st.session.socketfd = fd := by
  rw [h.socketfd, Position.socketfd]
  rcases hs : q.socket with - | n
  · have hne : (-1 : Int) ≠ fd := by
      obtain ⟨x, -, hx⟩ := List.mem_filterMap.1 hfd
      unfold opensTransport at hx
      split at hx
      · next id t s created =>
        split at hx
        · have : (id : Int) = fd := Option.some.inj hx
          omega
        · cases hx
      · cases hx
    simp [hne]
  · simp

/-- The books are kept in every run. -/
theorem SessionRun.atRest (hw : SessionRun w) : ∃ q, AtRest w q := by
  induction hw with
  | init clock =>
    refine ⟨.idle, ⟨rfl, rfl, rfl, rfl, holds_nil, fun _ ↦ holds_nil, trivial, ?_⟩, rfl, fun _ ↦ rfl⟩
    intro id t s c r hmem
    cases hmem
  | step m hm e hw ih =>
    obtain ⟨q, hq⟩ := ih
    obtain ⟨op, rfl⟩ := hm
    cases op with
    | connect p =>
      rw [SessionOp.prog, Prog.exec_bind, Prog.exec_pure]
      have hend := atRest_sessionConnect (p := p) hq e
      beta_reduce at hend
      split at hend
      · obtain ⟨q', session, hq', -⟩ := hend
        exact ⟨q', hq'⟩
      · obtain ⟨session, hq'⟩ := hend
        exact ⟨_, hq'⟩
    | disconnect =>
      obtain ⟨session, hq'⟩ := atRest_sessionDisconnect hq e
      exact ⟨_, hq'⟩

/-- **Resource safety of the session**, in every run of its operations. -/
theorem session_resources (hw : SessionRun w) : SessionResources w := by
  obtain ⟨q, hq⟩ := hw.atRest
  have hacc := hq.accounts
  have hrule := History.always_iff.1 hacc.rule
  refine
    { socket_overwritten := ?_
      session_overwritten := ?_
      closed_opened := hacc.sockets.given
      closed_once := ?_
      freed_once := ?_
      freed_before := ?_
      connect_fails := ?_
      connect_succeeds := ?_
      disconnect := ?_ }
  · intro newer id t s r past htr
    exact (hrule newer _ past htr).1
  · intro newer id t s r past htr
    exact hrule newer _ past htr
  · intro fd hfd
    rw [hacc.sockets.balance fd hfd]
    simp only [hacc.socketfd_eq_iff hfd]
  · intro hb n hn
    rw [(hacc.sessions hb).balance n hn, hacc.session, hq.session_eq]
  · intro hb newer id t s r past htr
    rw [htr] at hb
    exact (hrule newer _ past htr).2.2 (History.Always.of_append hb).2
  · intro p e hno
    have hend := atRest_sessionConnect (p := p) hq e
    rw [hno] at hend
    obtain ⟨session, hdown⟩ := hend
    exact down_of_accounts hdown.accounts
  · intro p e hyes
    have hend := atRest_sessionConnect (p := p) hq e
    rw [hyes] at hend
    obtain ⟨q', session, hrest, hconn⟩ := hend
    rw [hrest.accounts.listeners]
    exact hconn.listens
  · intro e
    obtain ⟨session, hdown⟩ := atRest_sessionDisconnect hq e
    exact down_of_accounts hdown.accounts

/-- A world in which libssh2 does not let go of a session. -/
def clingingWorld : Env Call Call.Reply := worldWith 1 fun _ c ↦
  match c with
  | .sys (.sessionFree _) => some errorEagain
  | _ => none

/-- A connection, an attempt that cannot free the old session, one that can, and the end. -/
def reconnectingRun : TunnelWorld :=
  [(SessionOp.connect (smallTunnel 1), acceptingWorld 0), (.connect (smallTunnel 1), clingingWorld),
    (.connect (smallTunnel 1), acceptingWorld 0), (.disconnect, acceptingWorld 0)].foldl
    (fun w x ↦ x.1.prog.exec x.2 w) (initial 0)

theorem run_reconnectingRun : SessionRun reconnectingRun :=
  runs_foldl (fun op ↦ Set.mem_range_self op) _ (.init 0)

theorem session_resources_reconnectingRun :
    BlockingFree reconnectingRun.trace ∧
      reconnectingRun.trace.filterMap opensTransport = [49, 0] ∧
      SessionResources reconnectingRun :=
  ⟨by decide +kernel, by decide +kernel, session_resources run_reconnectingRun⟩

end ReverseTunnel
