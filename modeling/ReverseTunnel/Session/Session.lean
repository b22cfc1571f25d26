import ReverseTunnel.Session.HostKey
import ReverseTunnel.State

/-!
# The SSH session

`SSHSession` owns the transport socket, the libssh2 session and the reverse listeners: connecting in
stages, accepting forwarded channels, keepalive, and a cleanup that goes on without the lock and
that may have to leave the libssh2 session for a later attempt.

Calls that only feed log lines are left out; the lock attempts around them are not.
-/

namespace ReverseTunnel

open Traced TunnelM

/-! ### Accept errors -/

/-- `forward_accept_error::isBenignNoChannel` -/
def isBenignNoChannel (err : Int) : Bool := err = 0 || err = errorEagain

/-- `isFatalAcceptError`, through `forward_accept_error::isFatal` -/
def isFatalAcceptError (err : Int) : Bool :=
  if isBenignNoChannel err then false
  else
    err = errorChannelUnknown || err = errorChannelClosed || err = errorSocketSend ||
      err = errorSocketDisconnect

namespace SSHSession

variable (s : SSHSession)

/-- `isConnected` -/
def isConnected : Bool := s.session.isSome && s.socketfd ≥ 0

/-- `hasFatalAcceptFailure` -/
def hasFatalAcceptFailure : Bool :=
  s.consecutiveFatalAcceptErrors ≥ 3 && isFatalAcceptError s.lastAcceptError

/-- `resetAcceptState` and `recordAcceptSuccess` -/
def resetAcceptState : SSHSession :=
  { s with lastAcceptError := 0, consecutiveFatalAcceptErrors := 0 }

/-- `recordAcceptNoChannel` -/
def recordAcceptNoChannel (err : Int) : SSHSession :=
  { s with
    lastAcceptError := err
    consecutiveFatalAcceptErrors :=
      if isFatalAcceptError err then s.consecutiveFatalAcceptErrors + 1 else 0 }

end SSHSession

/-! ### Teardown -/

/-- `cancelListener` -/
def cancelListener (entry : ListenerEntry) : TunnelM Unit := do
  match entry.listener with
  | none => pure ()
  | some l => do
    let locked : Bool ← lock 500
    if locked then do
      let _ ← sys (.forwardCancel l)
      unlock
    -- without the lock the listener goes with its session
    else pure ()

/-- `cancelAllListeners` -/
def cancelAllListeners : TunnelM Unit := do
  let s ← Prog.get
  Prog.each s.session.listeners cancelListener
  modifySession fun s ↦ { s with listeners := [], boundPort := -1 }

/-- Close the transport socket. -/
def closeTransport : TunnelM Unit := do
  let s ← Prog.get
  if s.session.socketfd ≥ 0 then do
    let _ ← sys (.tcpShutdown s.session.socketfd)
    let _ ← sys (.tcpClose s.session.socketfd)
    modifySession fun s ↦ { s with socketfd := -1 }
  else pure ()

/-- Retry `libssh2_session_free` while it returns `EAGAIN`. -/
def retrySessionFree (session : ℕ) : (attempts : ℕ) → (freeRc : Int) → TunnelM Int
  | 0, freeRc => pure freeRc
  | n + 1, freeRc => do
    if freeRc = errorEagain then do
      let _ ← sys (.delay 1)
      let freeRc : Int ← sys (.sessionFree session)
      retrySessionFree session n freeRc
    else pure freeRc

/-- When libssh2 does not let go of the session, close the transport under it and try again. -/
def forceSessionFree (session : ℕ) (freeRc : Int) : TunnelM Int := do
  let s ← Prog.get
  if freeRc = errorEagain ∧ s.session.socketfd ≥ 0 then do
    closeTransport
    retrySessionFree session 8 freeRc
  else pure freeRc

/-- The part of `cleanupSession` that frees the libssh2 session. -/
def freeSession : TunnelM Unit := do
  let s ← Prog.get
  match s.session.session with
  | none => pure ()
  | some session => do
    let locked : Bool ← lock 2000
    -- with or without the lock
    let _ ← sys (.sessionDisconnect session)
    let freeRc : Int ← sys (.sessionFree session)
    let freeRc ← forceSessionFree session freeRc
    -- otherwise the pointer is kept for a later attempt
    Prog.when (freeRc = 0) (modifySession fun s ↦ { s with session := none })
    Prog.when locked unlock

/-- `cleanupSession` -/
def cleanupSession : TunnelM Unit := do
  cancelAllListeners
  freeSession
  closeTransport
  modifySession fun s ↦ { s with keepAliveFailures := 0 }.resetAcceptState

/-- `SSHSession::disconnect` -/
def sessionDisconnect : TunnelM Unit := do
  Prog.mark .sessionDown
  cancelAllListeners
  cleanupSession

/-! ### Connecting -/

/-- `tcpConnect` -/
def tcpConnect (p : Params) : TunnelM Bool := do
  let res ← sysId .tcpSocket
  let created : Bool := res.2
  if !created then do
    modifySession fun s ↦ { s with socketfd := -1 }
    pure false
  else do
    let fd : Int := res.1
    modifySession fun s ↦ { s with socketfd := fd }
    let resolved : Bool ← sys (.getHostByName p.server.host)
    if !resolved then do
      let _ ← sys (.tcpClose fd)
      modifySession fun s ↦ { s with socketfd := -1 }
      pure false
    else do
      let rc : Int ← sys (.tcpConnect fd)
      if rc ≠ 0 then do
        let _ ← sys (.tcpClose fd)
        modifySession fun s ↦ { s with socketfd := -1 }
        pure false
      else pure true

/-- `handshake` -/
def handshake : TunnelM Bool := do
  let res ← sysId .sessionInit
  let created : Bool := res.2
  if !created then do
    modifySession fun s ↦ { s with session := none }
    pure false
  else do
    let session : ℕ := res.1
    modifySession fun s ↦ { s with session := some session }
    let locked : Bool ← lock 5000
    if !locked then do
      let _ ← sys (.sessionFree session)
      modifySession fun s ↦ { s with session := none }
      pure false
    else do
      let s ← Prog.get
      let rc : Int ← sys (.sessionHandshake session s.session.socketfd)
      if rc ≠ 0 then do
        let _ ← sys (.sessionFree session)
        modifySession fun s ↦ { s with session := none }
        unlock
        pure false
      else do
        unlock
        pure true

/-- What `verifyHostKey` does once it has the key type and the fingerprint of the server. -/
def checkHostKey (sshConfig : SSHServerConfig) (hostKeyType : Int) (hash : List UInt8) :
    TunnelM Bool := do
  let keyType := keyTypeStr hostKeyType
  if sshConfig.hostKeyType.length > 0 && sshConfig.hostKeyType ≠ keyType then pure false
  else if sshConfig.expectedHostKeyFingerprint.length = 0 then pure true
  else if !fingerprintsMatch sshConfig.expectedHostKeyFingerprint hash then do
    let expectedIsBase64 := (expectedComparable sshConfig.expectedHostKeyFingerprint).1
    let actual :=
      if expectedIsBase64 then ascii "SHA256:" ++ encodeFingerprintBase64 hash
      else encodeFingerprintHex hash
    sys (.hostKeyMismatch (expectedRaw sshConfig.expectedHostKeyFingerprint) actual keyType)
    pure false
  else pure true

/-- `verifyHostKey` -/
def verifyHostKey (p : Params) (session : ℕ) : TunnelM Bool := do
  if !p.server.verifyHostKey then pure true
  else do
    let locked : Bool ← lock 200
    if !locked then pure false
    else do
      let hostKey : HostKey ← sys (.sessionHostkey session)
      unlock
      match hostKey.hash with
      | none => pure false
      | some hash =>
        if hostKey.key.length = 0 then pure false
        else checkHostKey p.server hostKey.type hash

/-- A lock attempt around a query that only feeds a log line. -/
def lockForLog (ms : ℕ) : TunnelM Unit := do
  let locked : Bool ← lock ms
  Prog.when locked unlock

/-- `authenticate` -/
def authenticate (p : Params) (session : ℕ) : TunnelM Bool := do
  let locked : Bool ← lock 500
  if !locked then pure false
  else do
    let listed : Bool ← sys (.userauthList session)
    unlock
    if !listed then do
      lockForLog 200
      pure false
    else if !p.server.useSSHKey then do
      let locked : Bool ← lock 1000
      if !locked then pure false
      else do
        let authRc : Int ← sys (.userauthPassword session)
        unlock
        pure (authRc = 0)
    else if p.server.hasPrivateKey then
      if !p.server.keysValid then pure false
      else do
        let locked : Bool ← lock 1000
        if !locked then pure false
        else do
          let authResult : Int ← sys (.userauthPublickey session)
          unlock
          pure (authResult = 0)
    else pure false

/-- `configureKeepalive` -/
def configureKeepalive (p : Params) (session : ℕ) : TunnelM Bool := do
  if !p.connection.libssh2KeepAliveEnabled then pure true
  else do
    let locked : Bool ← lock 200
    if locked then do
      let _ ← sys (.keepaliveConfig session p.connection.libssh2KeepAliveIntervalSec)
      unlock
      pure true
    else pure false

/-- The attempts of `createListenerForMapping`: the listener and its port. -/
def listenAttempts (p : Params) (session : ℕ) (mapping : TunnelConfig) :
    ℕ → TunnelM (Option (ℕ × Int))
  | 0 => pure none
  | n + 1 => do
    let locked : Bool ← lock 500
    if !locked then do
      let _ ← sys (.delay 10)
      listenAttempts p session mapping n
    else do
      let res ← sysId (.forwardListen session mapping.remoteBindHost mapping.remoteBindPort
        (max 1 p.connection.maxChannels))
      let port : Option Int := res.2
      unlock
      match port with
      | some port => pure (some (res.1, port))
      | none => do
        let _ ← sys (.delay 10)
        listenAttempts p session mapping n

/-- `createListenerForMapping` -/
def createListenerForMapping (p : Params) (session : ℕ) (mapping : TunnelConfig) :
    TunnelM (Option ListenerEntry) := do
  let handle ← listenAttempts p session mapping 50
  match handle with
  | none => do
    lockForLog 100
    pure none
  | some (listener, port) =>
    pure (some { listener := some listener, mapping := mapping, boundPort := port })

/-- The loop of `createListeners`. -/
def addListeners (p : Params) (session : ℕ) : List TunnelConfig → TunnelM Bool
  | [] => do
    let s ← Prog.get
    pure (!s.session.listeners.isEmpty)
  | mapping :: rest => do
    let entry ← createListenerForMapping p session mapping
    match entry with
    | none => do
      cancelAllListeners
      pure false
    | some entry => do
      modifySession fun s ↦
        { s with
          listeners := s.listeners ++ [entry]
          boundPort := if s.boundPort < 0 then entry.boundPort else s.boundPort }
      addListeners p session rest

/-- `createListeners` -/
def createListeners (p : Params) (session : ℕ) : TunnelM Bool := do
  cancelAllListeners
  modifySession fun s ↦ { s with boundPort := -1 }
  let desired := min p.connection.maxReverseListeners p.mappings.length
  if p.mappings.isEmpty || desired ≤ 0 then pure false
  else addListeners p session (p.mappings.take desired.toNat)

/-- The stages of `connect` after the handshake. Every failure cleans up. -/
def establish (p : Params) (session : ℕ) : TunnelM Bool := do
  let verified ← verifyHostKey p session
  if !verified then do
    cleanupSession
    pure false
  else do
    let authenticated ← authenticate p session
    if !authenticated then do
      cleanupSession
      pure false
    else do
      -- a session without keepalives is good enough
      let _ ← configureKeepalive p session
      let listening ← createListeners p session
      if !listening then do
        cleanupSession
        pure false
      else do
        let _ ← sys (.sessionSetBlocking session)
        pure true

/-- `SSHSession::connect` -/
def sessionConnect (p : Params) : TunnelM Bool := do
  modifySession (·.resetAcceptState)
  let s ← Prog.get
  Prog.when s.session.session.isSome cleanupSession
  let s ← Prog.get
  -- a leftover session that cannot be freed stands in the way of a new one
  if s.session.session.isSome then pure false
  else do
    let connected ← tcpConnect p
    if !connected then pure false
    else do
      let shaken ← handshake
      let s ← Prog.get
      match shaken, s.session.session with
      | true, some session => establish p session
      | _, _ => do
        cleanupSession
        pure false

/-! ### While connected -/

/-- The loop of `acceptChannel` over the listeners. -/
def acceptFrom (session : ℕ) : List ListenerEntry → TunnelM (Option (Handle × TunnelConfig))
  | [] => pure none
  | entry :: rest =>
    match entry.listener with
    | none => acceptFrom session rest
    | some l => do
      let locked : Bool ← lock 50
      if !locked then acceptFrom session rest
      else do
        let res ← sysId (.forwardAccept l)
        let accepted : Bool := res.2
        if accepted then do
          unlock
          modifySession (·.resetAcceptState)
          pure (some (res.1, entry.mapping))
        else do
          -- `NULL` alone does not say whether there was an error
          let acceptErr : Int ← sys (.lastErrno session)
          unlock
          modifySession (·.recordAcceptNoChannel acceptErr)
          acceptFrom session rest

/-- `acceptChannel` -/
def acceptChannel : TunnelM (Option (Handle × TunnelConfig)) := do
  let s ← Prog.get
  match s.session.session with
  | none => pure none
  | some session => acceptFrom session s.session.listeners

/-- `sendKeepalive` asks the socket for its error, which goes into the log and nowhere else. -/
def logSocketError : TunnelM Unit := do
  let s ← Prog.get
  if s.session.socketfd ≥ 0 then do
    let _ ← sys (.keepaliveSoError s.session.socketfd)
    pure ()
  else pure ()

/-- The end of `sendKeepalive` when libssh2 has returned `rc`, which is not zero. -/
def keepaliveFailed (rc : Int) : TunnelM Bool := do
  if rc = errorSocketSend then do
    let s ← Prog.get
    if s.session.keepAliveFailures + 1 ≥ 3 then do
      modifySession fun s ↦ { s with keepAliveFailures := 0 }
      pure false
    else do
      modifySession fun s ↦ { s with keepAliveFailures := s.keepAliveFailures + 1 }
      pure true
  else if rc ≠ errorEagain then do
    modifySession fun s ↦ { s with keepAliveFailures := 0 }
    pure true
  else pure true

/-- `sendKeepalive` -/
def sendKeepalive : TunnelM Bool := do
  let s ← Prog.get
  match s.session.session with
  | none => pure false
  | some session => do
    let locked : Bool ← lock 200
    -- a keepalive that is skipped is no failure
    if !locked then pure true
    else do
      let rc : Int ← sys (.keepaliveSend session)
      unlock
      if rc = 0 then do
        modifySession fun s ↦ { s with keepAliveFailures := 0 }
        pure true
      else do
        logSocketError
        keepaliveFailed rc

/-- `checkConnection` -/
def checkConnection : TunnelM Bool := do
  let s ← Prog.get
  if !s.session.isConnected then pure false
  else do
    let res : Int × Int ← sys (.soError s.session.socketfd)
    pure (res.1 = 0 && res.2 = 0)

end ReverseTunnel
