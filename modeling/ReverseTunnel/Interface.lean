import ReverseTunnel.Lib.Traced
import ReverseTunnel.Lib.Clock32
import ReverseTunnel.Arduino.Text

/-!
# What the tunnel calls

The external interface of the tunnel: libssh2, the socket layer, FreeRTOS, the heap and the event
handlers. Each call carries its real arguments, and the type of its reply carries what the callee
promises: a read yields at most the requested count, a write accepts at most the offered bytes.

Calls come in two sorts. An `IoCall` is made **on behalf of one channel slot** and is recorded under
that slot's index; a `SysCall` is made by the tunnel itself. A channel handle, a socket and a
listener are named by the serial number of the call that created them, so two of them never coincide.
-/

namespace ReverseTunnel

/-- A `LIBSSH2_CHANNEL *`. -/
abbrev Handle := ℕ

/-- `LIBSSH2_ERROR_EAGAIN`. -/
def errorEagain : Int := -37

/-- `LIBSSH2_ERROR_SOCKET_SEND`. -/
def errorSocketSend : Int := -7

/-- `LIBSSH2_ERROR_SOCKET_DISCONNECT`. -/
def errorSocketDisconnect : Int := -13

/-- `LIBSSH2_ERROR_CHANNEL_UNKNOWN`. -/
def errorChannelUnknown : Int := -23

/-- `LIBSSH2_ERROR_CHANNEL_CLOSED`. -/
def errorChannelClosed : Int := -26

/-- `EAGAIN`. -/
def eagain : ℕ := 11

/-- `EWOULDBLOCK`, the same number on this platform. -/
def ewouldblock : ℕ := 11

/-! ### Replies -/

/-- What `libssh2_channel_read` of at most `n` bytes returns. -/
inductive ReadReply (n : ℕ) where
  /-- A positive count, with the bytes. -/
  | data (bs : List UInt8) (pos : 0 < bs.length) (le : bs.length ≤ n)
  /-- Zero or an error code. -/
  | code (rc : Int) (nonpos : rc ≤ 0)

/-- What `libssh2_channel_write` of `n` bytes returns. -/
inductive WriteReply (n : ℕ) where
  /-- A positive count. -/
  | accepted (k : ℕ) (pos : 0 < k) (le : k ≤ n)
  /-- Zero or an error code. -/
  | code (rc : Int) (nonpos : rc ≤ 0)

/-- What `send` of `n` bytes returns. -/
inductive SendReply (n : ℕ) where
  /-- A positive count. -/
  | accepted (k : ℕ) (pos : 0 < k) (le : k ≤ n)
  /-- Zero. -/
  | zero
  /-- `-1`, with `errno`. -/
  | fail (errno : ℕ)

/-- What `recv` of at most `n` bytes returns. -/
inductive RecvReply (n : ℕ) where
  /-- A positive count, with the bytes. -/
  | data (bs : List UInt8) (pos : 0 < bs.length) (le : bs.length ≤ n)
  /-- Zero. -/
  | eof
  /-- `-1`, with `errno`. -/
  | fail (errno : ℕ)

/-! ### Calls made for one slot -/

/-- Calls on a channel and on a local socket, made while working on one slot. -/
inductive IoCall where
  /-- `libssh2_channel_read` -/
  | channelRead (h : Handle) (n : ℕ)
  /-- `libssh2_channel_write` -/
  | channelWrite (h : Handle) (bs : List UInt8)
  /-- `libssh2_channel_eof` -/
  | channelEof (h : Handle)
  /-- `libssh2_channel_send_eof` -/
  | channelSendEof (h : Handle)
  /-- `libssh2_channel_set_blocking(_, 0)` -/
  | channelSetBlocking (h : Handle)
  /-- `libssh2_channel_close` -/
  | channelClose (h : Handle)
  /-- `libssh2_channel_free` -/
  | channelFree (h : Handle)
  /-- `send(_, _, _, MSG_DONTWAIT)` on the local socket -/
  | send (fd : Int) (bs : List UInt8)
  /-- `recv(_, _, _, MSG_DONTWAIT)` on the local socket -/
  | recv (fd : Int) (n : ℕ)
  /-- `shutdown(_, SHUT_WR)` on the local socket -/
  | shutdown (fd : Int)
  /-- `close` of the local socket -/
  | closeSocket (fd : Int)

/-- The reply to a call made for a slot. -/
abbrev IoCall.Reply : IoCall → Type
  | channelRead _ n => ReadReply n
  | channelWrite _ bs => WriteReply bs.length
  | channelEof _ => Bool
  | channelSendEof _ => Int
  | channelSetBlocking _ => Unit
  | channelClose _ => Int
  | channelFree _ => Int
  | send _ bs => SendReply bs.length
  | recv _ n => RecvReply n
  | shutdown _ => Unit
  | closeSocket _ => Unit

/-- The channel handle a call is about, if any. -/
def IoCall.handle : IoCall → Option Handle
  | channelRead h _ | channelWrite h _ | channelEof h | channelSendEof h | channelSetBlocking h
  | channelClose h | channelFree h => some h
  | send _ _ | recv _ _ | shutdown _ | closeSocket _ => none

/-! ### Calls made by the tunnel itself -/

/-- `TunnelConfig`: one reverse-tunnel mapping. -/
structure TunnelConfig where
  /-- `remoteBindHost` -/
  remoteBindHost : String := ""
  /-- `remoteBindPort` -/
  remoteBindPort : Int := 0
  /-- `localHost` -/
  localHost : String := ""
  /-- `localPort` -/
  localPort : Int := 0
  deriving DecidableEq

/-- `ChannelCloseReason` -/
inductive ChannelCloseReason where
  | unknown
  | remoteClosed
  | localClosed
  | error
  | timeout
  | manual
  deriving DecidableEq

/-- The handlers of `SSHTunnelEvents`. -/
inductive Event where
  /-- `onSessionConnected` -/
  | sessionConnected
  /-- `onSessionDisconnected` -/
  | sessionDisconnected
  /-- `onChannelOpened` -/
  | channelOpened (slot : ℕ)
  /-- `onChannelClosed` -/
  | channelClosed (slot : ℕ) (reason : ChannelCloseReason)
  /-- `onError` -/
  | error (code : Int) (detail : String)
  deriving DecidableEq

/-- What `libssh2_session_hostkey` and `libssh2_hostkey_hash` report. -/
structure HostKey where
  /-- The key blob; empty when libssh2 has none. -/
  key : List UInt8
  /-- `host_key_type` -/
  type : Int
  /-- The SHA-256 hash, when there is one. -/
  hash : Option (List UInt8)

/-- What the two heap regions report: total free bytes and largest free block, for PSRAM and for
internal memory. -/
structure HeapReport where
  /-- `heap_caps_get_free_size(MALLOC_CAP_SPIRAM)` -/
  totalPsram : ℕ
  /-- `heap_caps_get_largest_free_block(MALLOC_CAP_SPIRAM)` -/
  largestPsram : ℕ
  /-- `heap_caps_get_free_size(MALLOC_CAP_8BIT)` -/
  totalInternal : ℕ
  /-- `heap_caps_get_largest_free_block(MALLOC_CAP_8BIT)` -/
  largestInternal : ℕ

/-- Result of a non-blocking `connect`. -/
inductive ConnectReply where
  /-- `0` -/
  | done
  /-- `-1` with `EINPROGRESS` -/
  | inProgress
  /-- `-1` with another `errno` -/
  | failed

/-- Calls of the tunnel, its session and its channel manager. -/
inductive SysCall where
  /-- `xSemaphoreTake` on the session mutex -/
  | lock (ms : ℕ)
  /-- `xSemaphoreGive` on the session mutex -/
  | unlock
  /-- `xSemaphoreTake` on the statistics mutex -/
  | statsLock (ms : ℕ)
  /-- `xSemaphoreGive` on the statistics mutex -/
  | statsUnlock
  /-- `vTaskDelay` -/
  | delay (ms : ℕ)
  /-- `libssh2_channel_close` on a channel that is in no slot -/
  | channelClose (h : Handle)
  /-- `libssh2_channel_free` on a channel that is in no slot -/
  | channelFree (h : Handle)
  /-- `libssh2_channel_forward_accept`; a channel is named by this call's serial number -/
  | forwardAccept (listener : ℕ)
  /-- `libssh2_session_last_errno` -/
  | lastErrno (session : ℕ)
  /-- `libssh2_channel_forward_listen_ex`; yields the bound port -/
  | forwardListen (session : ℕ) (host : String) (port : Int) (maxlisten : Int)
  /-- `libssh2_channel_forward_cancel` -/
  | forwardCancel (listener : ℕ)
  /-- `libssh2_session_init` -/
  | sessionInit
  /-- `libssh2_session_handshake` -/
  | sessionHandshake (session : ℕ) (fd : Int)
  /-- `libssh2_session_set_blocking(_, 0)` -/
  | sessionSetBlocking (session : ℕ)
  /-- `libssh2_session_disconnect` -/
  | sessionDisconnect (session : ℕ)
  /-- `libssh2_session_free` -/
  | sessionFree (session : ℕ)
  /-- `libssh2_session_hostkey` and `libssh2_hostkey_hash` -/
  | sessionHostkey (session : ℕ)
  /-- `libssh2_userauth_list`: is there a list? -/
  | userauthList (session : ℕ)
  /-- `libssh2_userauth_password` -/
  | userauthPassword (session : ℕ)
  /-- `libssh2_userauth_publickey_frommemory` -/
  | userauthPublickey (session : ℕ)
  /-- `libssh2_keepalive_config` -/
  | keepaliveConfig (session : ℕ) (interval : Int)
  /-- `libssh2_keepalive_send` -/
  | keepaliveSend (session : ℕ)
  /-- `socket`, for the SSH transport: did it succeed? -/
  | tcpSocket
  /-- `gethostbyname` -/
  | getHostByName (host : String)
  /-- `connect` of the SSH transport -/
  | tcpConnect (fd : Int)
  /-- `shutdown(_, SHUT_RDWR)` -/
  | tcpShutdown (fd : Int)
  /-- `close` of the SSH transport -/
  | tcpClose (fd : Int)
  /-- `getsockopt(SO_ERROR)` on the SSH transport, in `checkConnection`: return value and error -/
  | soError (fd : Int)
  /-- The same in `sendKeepalive`, for the log -/
  | keepaliveSoError (fd : Int)
  /-- `socket`, for a local endpoint of the mapping: did it succeed? -/
  | localSocket (mapping : TunnelConfig)
  /-- `inet_pton(localHost) == 1` -/
  | inetPton (host : String)
  /-- `fcntl(F_GETFL) >= 0` -/
  | fcntlGetFlags (fd : Int)
  /-- `fcntl(F_SETFL, O_NONBLOCK) >= 0` -/
  | fcntlSetNonblock (fd : Int)
  /-- `connect` of a local endpoint -/
  | localConnect (fd : Int)
  /-- `select` for writability: its result and `FD_ISSET` -/
  | select (fd : Int)
  /-- `getsockopt(SO_ERROR)` on a local socket: return value and error -/
  | localSoError (fd : Int)
  /-- `close` of a local socket that is in no slot -/
  | localClose (fd : Int)
  /-- `heap_caps_get_*` -/
  | heapReport
  /-- The allocations of one `DataRingBuffer`: did all succeed? -/
  | allocRing (capacity : ℕ)
  /-- An event handler runs. -/
  | emit (event : Event)
  /-- `onHostKeyMismatch` runs. -/
  | hostKeyMismatch (expected actual keyType : Text)

/-- The reply to a call of the tunnel. -/
abbrev SysCall.Reply : SysCall → Type
  | lock _ | statsLock _ => Bool
  | channelClose _ | channelFree _ => Int
  | forwardAccept _ => Bool
  | lastErrno _ => Int
  | forwardListen _ _ _ _ => Option Int
  | sessionInit => Bool
  | sessionHandshake _ _ | sessionDisconnect _ | sessionFree _ => Int
  | sessionHostkey _ => HostKey
  | userauthList _ => Bool
  | userauthPassword _ | userauthPublickey _ | keepaliveSend _ => Int
  | tcpSocket | getHostByName _ => Bool
  | tcpConnect _ => Int
  | soError _ | keepaliveSoError _ | localSoError _ => Int × Int
  | localSocket _ | inetPton _ | fcntlGetFlags _ | fcntlSetNonblock _ => Bool
  | localConnect _ => ConnectReply
  | select _ => Int × Bool
  | heapReport => HeapReport
  | allocRing _ => Bool
  | unlock | statsUnlock | delay _ | forwardCancel _ | sessionSetBlocking _ | keepaliveConfig _ _
  | tcpShutdown _ | tcpClose _ | localClose _ | emit _ | hostKeyMismatch _ _ _ => Unit

/-- The channel handle a call of the tunnel is about, if any. -/
def SysCall.handle : SysCall → Option Handle
  | channelClose h | channelFree h => some h
  | _ => none

/-! ### All calls -/

/-- A call, with the slot it is made for if it is made for one. -/
inductive Call where
  /-- Made while working on slot `i`. -/
  | io (i : ℕ) (c : IoCall)
  /-- Made by the tunnel. -/
  | sys (c : SysCall)

/-- The reply to a call. -/
abbrev Call.Reply : Call → Type
  | io _ c => c.Reply
  | sys c => c.Reply

/-- The channel handle passed to libssh2 by a call, if any. -/
def Call.handle : Call → Option Handle
  | io _ c => c.handle
  | sys c => c.handle

end ReverseTunnel
