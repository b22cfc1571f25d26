import ReverseTunnel.System.Trace

/-!
# A graceful close

EOF goes to the remote side when everything that came from the local side has been written, and
nothing is written or received after it. A slot that `checkCloses` finalizes in time and without
errors has sent EOF a grace period before, its rings are empty, and nothing is dropped for it.

The timestamp of the EOF doubles as a flag, so all this rests on its not being zero.
-/

namespace ReverseTunnel

open Traced TunnelM Clock32

variable {p : Params} {ext : Bool} {v v' : View} {w : TunnelWorld} {items log : SlotLog}

/-! ### Entries of interest -/

/-- `libssh2_channel_send_eof` is called. -/
def sendsEof : SlotItem → Bool
  | .call _ _ _ (.channelSendEof _) _ => true
  | _ => false

/-- `libssh2_channel_send_eof` has gone through. -/
def eofSent : SlotItem → Bool
  | .call _ _ _ (.channelSendEof _) rc => rc != errorEagain
  | _ => false

/-- Something is received for the remote side or sent to it. -/
def feedsRemote : SlotItem → Bool
  | .call _ _ _ (.channelWrite _ _) _ => true
  | .call _ _ _ (.recv _ _) _ => true
  | .call _ _ _ (.channelSendEof _) _ => true
  | _ => false

/-- `checkCloses` finalizes the slot, by a reading of the clock. -/
def finalizes : SlotItem → Option UInt32
  | .mark _ _ (.finalizing now) => some now
  | _ => none

/-- The time of the EOF is noted. -/
def stampsEof : SlotItem → Bool
  | .mark _ _ .eofStamped => true
  | _ => false

/-- The slot as `checkCloses` finalized it, if nothing but closing calls has followed. -/
def finalizedFrom : SlotLog → Option (ChannelSlot × UInt32)
  | .mark _ ch (.finalizing now) :: _ => some (ch, now)
  | .call _ _ _ (.channelClose _) _ :: log => finalizedFrom log
  | .call _ _ _ (.channelFree _) _ :: log => finalizedFrom log
  | .call _ _ _ (.closeSocket _) _ :: log => finalizedFrom log
  | _ => none

/-- Neither past the drain deadline nor broken. -/
def Graceful (ch : ChannelSlot) (now : UInt32) : Prop :=
  ¬now - ch.closeStartMs > drainTimeoutMs ∧ ch.consecutiveErrors ≤ 3

/-- The order an entry keeps with those before it. -/
structure Orderly (x : SlotItem) (past : SlotLog) : Prop where
  /-- EOF is sent when both rings are empty and all that was received has been written. -/
  beforeEof : sendsEof x = true → x.pre.state = .draining ∧ held x.pre.toLocal = [] ∧
    held x.pre.toRemote = [] ∧ bytesOf recvOf (life past) = bytesOf writtenOf (life past)
  /-- After EOF, nothing goes to the remote side any more. -/
  afterEof : isBound x = false → (∃ y ∈ life past, eofSent y = true) →
    feedsRemote x = false ∧ held x.pre.toRemote = []
  /-- A slot is finalized a grace period after EOF. -/
  finalized : ∀ now ∈ finalizes x, Graceful x.pre now →
    (∃ y ∈ life past, eofSent y = true ∧ y.time + eofGraceMs.toNat ≤ x.time) ∧
      held x.pre.toLocal = [] ∧ held x.pre.toRemote = []
  /-- Then nothing is dropped. -/
  released : isReleased x = true → ∀ ch now, finalizedFrom past = some (ch, now) →
    Graceful ch now → x.pre.totalBytesDropped = ch.totalBytesDropped

/-! ### Everything received is written or waiting -/

/-- What came from the local side in this lifetime. -/
def RemoteBalanced (v : View) : Prop := v.ch.active = true →
  bytesOf recvOf (life v.log) = bytesOf writtenOf (life v.log) ++ held v.ch.toRemote

/-- Towards the remote side nothing is lost, whatever libssh2 does. -/
theorem PumpStep.remoteFlow (h : PumpStep p ext v v') : ∃ items, v'.log = items ++ v.log ∧
    held v.ch.toRemote ++ bytesOf recvOf items =
      bytesOf writtenOf items ++ held v'.ch.toRemote := by
  cases h with
  | wait ht => exact ⟨[], rfl, by simp⟩
  | checking hact hopen => exact ⟨[_], rfl, by simp [recvOf, writtenOf]⟩
  | pause ssh loc hact => exact ⟨[_], rfl, by simp [recvOf, writtenOf]⟩
  | rearmSend hset ht => exact ⟨[_], rfl, by simp [recvOf, writtenOf]⟩
  | rearmWrite hset ht => exact ⟨[_], rfl, by simp [recvOf, writtenOf]⟩
  | forwardEof hact hopen hlocal herr hfwd hlog ht => exact ⟨[_], rfl, by simp [recvOf, writtenOf]⟩
  | begin hact hopen hcause ht =>
    exact ⟨[_, _], rfl, by simp [recvOf, writtenOf, ChannelSlot.begun]⟩
  | @writeData h b b' b'' bs k id t t' hpos hle hact hh heof hb hbs hb' hshape ht ht' =>
    exact ⟨[_, _], rfl, by simp [recvOf, writtenOf, hb, hb', take_of_prefix hbs hle]⟩
  | writeBusy hact hh heof hb hb'' hagain ht ht' hfirst =>
    exact ⟨[_, _], rfl, by simp [recvOf, writtenOf, hb, hb''.content]⟩
  | writeError hact hh heof hb hb'' hagain ht =>
    exact ⟨[_, _], rfl, by simp [recvOf, writtenOf, hb, hb''.content]⟩
  | recvData hact hfd heof hb hb' ht ht' =>
    exact ⟨[_, _], rfl, by simp [recvOf, writtenOf, hb, hb'.content]⟩
  | @recvEnd n id t r hact hfd heof hr ht =>
    refine ⟨[_, _], rfl, ?_⟩
    rcases hr with rfl | ⟨errno, -, rfl⟩ <;> simp [recvOf, writtenOf]
  | _ => exact ⟨[_, _], rfl, by simp [recvOf, writtenOf]⟩

theorem WorkStep.remoteFlow (h : WorkStep p ext v v') : ∃ items, v'.log = items ++ v.log ∧
    held v.ch.toRemote ++ bytesOf recvOf items =
      bytesOf writtenOf items ++ held v'.ch.toRemote := by
  cases h with
  | pump h => exact h.remoteFlow
  | sendEofAgain hact hst hh heof hl hr hagain ht =>
    exact ⟨[_, _], rfl, by simp [recvOf, writtenOf]⟩
  | @sendEof u h id t t' rc hact hst hh heof hl hr hdone ht hflush ht' =>
    obtain ⟨items, hlog, hitems⟩ := hflush.reads
    obtain ⟨ring, hch, -⟩ := hflush.frame
    have hrecv : bytesOf recvOf items = [] := bytesOf_eq_nil fun x hx ↦ by
      obtain ⟨id, t, ring, r, rfl, -⟩ := hitems x hx
      rfl
    have hwritten : bytesOf writtenOf items = [] := bytesOf_eq_nil fun x hx ↦ by
      obtain ⟨id, t, ring, r, rfl, -⟩ := hitems x hx
      rfl
    refine ⟨.mark t' { u.ch with eofSentMs := stamp t' } .step ::
      .mark t' { u.ch with eofSentMs := stamp t' } .eofStamped ::
        (items ++ [.call id t v.ch (.channelSendEof h) rc]), by simp [hlog], ?_⟩
    simp only [bytesOf_cons, bytesOf_append, bytesOf_nil, hrecv, hwritten, View.mark_ch,
      View.set_ch, hch]
    simp [recvOf, writtenOf]
  | finalizing hact hst hτ hverdict => exact ⟨[_], rfl, by simp [recvOf, writtenOf]⟩
  | closeChannel hact hh ht => exact ⟨[_], rfl, by simp [recvOf, writtenOf]⟩
  | freeAgain hact hh hagain ht => exact ⟨[_], rfl, by simp [recvOf, writtenOf]⟩

theorem remoteBalanced_of_reach {clock : ℕ} (h : Reach p ext (.fresh clock) v) :
    RemoteBalanced v := by
  induction h with
  | refl => exact fun hno ↦ (by cases hno)
  | tail hr hs ih =>
    cases hs with
    | work hw =>
      intro hact
      obtain ⟨items, hlog, hbound, -⟩ := hw.unbound
      obtain ⟨items', hlog', hflow⟩ := hw.remoteFlow
      obtain rfl : items' = items := List.append_cancel_right (hlog'.symm.trans hlog)
      rw [hlog, life_append hbound, bytesOf_append, bytesOf_append,
        ih (hw.retains.active ▸ hact), List.append_assoc, hflow, List.append_assoc]
    | bind hact hfd ht ht' =>
      intro _
      simp [View.bound, life, recvOf, writtenOf, ChannelSlot.initialised]
    | release hact hh hdone ht ht' ht'' => exact fun hno ↦ (by cases hno)
    | abandon hact ht => exact fun hno ↦ (by cases hno)

/-! ### After EOF -/

/-- Every reading of the clock that was noted for an EOF was other than zero. -/
def Stamped (log : SlotLog) : Prop := ∀ x ∈ log, stampsEof x = true → x.pre.eofSentMs ≠ 0

/-- An entry that does not concern closing: EOF has not been sent, or the remote side is left
alone. -/
structure Plain (ch : ChannelSlot) (x : SlotItem) : Prop where
  /-- No lifetime begins. -/
  bound : isBound x = false
  /-- No EOF is sent. -/
  sendsEof : sendsEof x = false
  /-- The slot is not finalized. -/
  finalizes : finalizes x = none
  /-- The slot is not released. -/
  released : isReleased x = false
  /-- Nothing goes to the remote side after EOF. -/
  remote : ch.active = true ∧ ch.eofSentMs = 0 ∨
    feedsRemote x = false ∧ held x.pre.toRemote = held ch.toRemote

theorem PumpStep.plain (h : PumpStep p ext v v') :
    ∃ items, v'.log = items ++ v.log ∧ ∀ x ∈ items, Plain v.ch x := by
  cases h with
  | wait ht => exact ⟨[], rfl, by simp⟩
  | checking hact hopen =>
    exact ⟨[_], rfl, List.forall_mem_singleton.2 ⟨rfl, rfl, rfl, rfl, .inr ⟨rfl, rfl⟩⟩⟩
  | pause ssh loc hact =>
    exact ⟨[_], rfl, List.forall_mem_singleton.2 ⟨rfl, rfl, rfl, rfl, .inr ⟨rfl, rfl⟩⟩⟩
  | rearmSend hset ht =>
    exact ⟨[_], rfl, List.forall_mem_singleton.2 ⟨rfl, rfl, rfl, rfl, .inr ⟨rfl, rfl⟩⟩⟩
  | rearmWrite hset ht =>
    exact ⟨[_], rfl, List.forall_mem_singleton.2 ⟨rfl, rfl, rfl, rfl, .inr ⟨rfl, rfl⟩⟩⟩
  | forwardEof hact hopen hlocal herr hfwd hlog ht =>
    exact ⟨[_], rfl, List.forall_mem_singleton.2 ⟨rfl, rfl, rfl, rfl, .inr ⟨rfl, rfl⟩⟩⟩
  | writeData hact hh heof hb hbs hb' hshape ht ht' =>
    exact ⟨[_, _], rfl, List.forall_mem_cons.2 ⟨⟨rfl, rfl, rfl, rfl, .inl ⟨hact, heof⟩⟩,
      List.forall_mem_singleton.2 ⟨rfl, rfl, rfl, rfl, .inl ⟨hact, heof⟩⟩⟩⟩
  | writeBusy hact hh heof hb hb'' hagain ht ht' hfirst =>
    exact ⟨[_, _], rfl, List.forall_mem_cons.2 ⟨⟨rfl, rfl, rfl, rfl, .inl ⟨hact, heof⟩⟩,
      List.forall_mem_singleton.2 ⟨rfl, rfl, rfl, rfl, .inl ⟨hact, heof⟩⟩⟩⟩
  | writeError hact hh heof hb hb'' hagain ht =>
    exact ⟨[_, _], rfl, List.forall_mem_cons.2 ⟨⟨rfl, rfl, rfl, rfl, .inl ⟨hact, heof⟩⟩,
      List.forall_mem_singleton.2 ⟨rfl, rfl, rfl, rfl, .inl ⟨hact, heof⟩⟩⟩⟩
  | recvData hact hfd heof hb hb' ht ht' =>
    exact ⟨[_, _], rfl, List.forall_mem_cons.2 ⟨⟨rfl, rfl, rfl, rfl, .inl ⟨hact, heof⟩⟩,
      List.forall_mem_singleton.2 ⟨rfl, rfl, rfl, rfl, .inl ⟨hact, heof⟩⟩⟩⟩
  | recvEnd hact hfd heof hr ht =>
    exact ⟨[_, _], rfl, List.forall_mem_cons.2 ⟨⟨rfl, rfl, rfl, rfl, .inl ⟨hact, heof⟩⟩,
      List.forall_mem_singleton.2 ⟨rfl, rfl, rfl, rfl, .inl ⟨hact, heof⟩⟩⟩⟩
  | recvBusy hact hfd heof hbusy ht =>
    exact ⟨[_, _], rfl, List.forall_mem_cons.2 ⟨⟨rfl, rfl, rfl, rfl, .inl ⟨hact, heof⟩⟩,
      List.forall_mem_singleton.2 ⟨rfl, rfl, rfl, rfl, .inl ⟨hact, heof⟩⟩⟩⟩
  | _ =>
    exact ⟨[_, _], rfl, List.forall_mem_cons.2 ⟨⟨rfl, rfl, rfl, rfl, .inr ⟨rfl, rfl⟩⟩,
      List.forall_mem_singleton.2 ⟨rfl, rfl, rfl, rfl, .inr ⟨rfl, rfl⟩⟩⟩⟩

/-- Whatever the pump does after `checkCloses` has finalized a slot shows in the log. -/
theorem PumpStep.finalizedFrom (h : PumpStep p ext v v') :
    v'.ch = v.ch ∧ v'.log = v.log ∨ finalizedFrom v'.log = none := by
  cases h with
  | wait ht => exact .inl ⟨rfl, rfl⟩
  | _ => exact .inr rfl

/-- What is known of a slot that has sent EOF or is being finalized. -/
structure Closing (v : View) : Prop where
  /-- Once EOF is sent, its time is noted and nothing is left for the remote side. -/
  sent : (∃ x ∈ life v.log, eofSent x = true) →
    (v.ch.active = true → v.ch.eofSentMs ≠ 0) ∧ held v.ch.toRemote = []
  /-- Its time is that of a boundary after it. -/
  stamped : v.ch.active = true → v.ch.eofSentMs ≠ 0 → ∃ x ∈ life v.log, eofSent x = true ∧
    ∃ b ∈ v.log, isBoundary b = true ∧ x.time ≤ b.time ∧ v.ch.eofSentMs = stamp b.time
  /-- A slot that is being finalized is as `checkCloses` found it. -/
  finalized : v.ch.active = true → ∀ ch now, finalizedFrom v.log = some (ch, now) →
    held v.ch.toLocal = held ch.toLocal ∧ held v.ch.toRemote = held ch.toRemote ∧
      v.ch.totalBytesDropped = ch.totalBytesDropped ∧
      (Graceful ch now → held ch.toLocal = [] ∧ held ch.toRemote = [])
  /-- Everything happened in order. -/
  past : History.Always Orderly v.log

/-- Before EOF is sent there is no EOF in the lifetime. -/
theorem Closing.unsent (h : Closing v) (hact : v.ch.active = true) (heof : v.ch.eofSentMs = 0)
    {x : SlotItem} (hx : x ∈ life v.log) : eofSent x = false := by
  by_contra hno
  exact (h.sent ⟨x, hx, by simpa using hno⟩).1 hact heof

theorem eofSent_of_not_sendsEof {x : SlotItem} (h : sendsEof x = false) : eofSent x = false := by
  cases x with
  | mark t s m => rfl
  | call id t s c r =>
    cases c with
    | channelSendEof h' => cases h
    | _ => rfl

/-- Entries that do not concern closing are in order. -/
theorem Closing.orderly (h : Closing v) (items : SlotLog)
    (hitems : ∀ x ∈ items, Plain v.ch x) : History.Always Orderly (items ++ v.log) := by
  induction items with
  | nil => exact h.past
  | cons x items ih =>
    have hrest : ∀ y ∈ items, Plain v.ch y := fun y hy ↦ hitems y (List.mem_cons_of_mem _ hy)
    have hx := hitems x (List.mem_cons_self ..)
    rw [List.cons_append, History.always_cons]
    refine ⟨⟨fun hno ↦ ?_, fun _ hsent ↦ ?_, fun now hno ↦ ?_, fun hno ↦ ?_⟩, ih hrest⟩
    · rw [hx.sendsEof] at hno
      cases hno
    · obtain ⟨y, hy, hsent⟩ := hsent
      rw [life_append fun y hy ↦ (hrest y hy).bound] at hy
      rcases List.mem_append.1 hy with hy | hy
      · rw [eofSent_of_not_sendsEof (hrest y hy).sendsEof] at hsent
        cases hsent
      · obtain ⟨hset, hnil⟩ := h.sent ⟨y, hy, hsent⟩
        obtain ⟨hfeeds, hheld⟩ := hx.remote.resolve_left fun hno ↦ hset hno.1 hno.2
        exact ⟨hfeeds, hheld.trans hnil⟩
    · rw [hx.finalizes] at hno
      cases hno
    · rw [hx.released] at hno
      cases hno

variable (items) in
/-- Work that leaves only such entries, and nothing that undoes a finalization. -/
theorem Closing.plain (h : Closing v) (hlog : v'.log = items ++ v.log)
    (hitems : ∀ x ∈ items, Plain v.ch x) (hk : v'.ch.active = v.ch.active)
    (heof : v'.ch.eofSentMs = v.ch.eofSentMs)
    (hrem : v.ch.active = true ∧ v.ch.eofSentMs = 0 ∨ v'.ch.toRemote = v.ch.toRemote)
    (hfin : v'.ch.active = true → ∀ ch now, finalizedFrom v'.log = some (ch, now) →
      finalizedFrom v.log = some (ch, now) ∧ v'.ch.toLocal = v.ch.toLocal ∧
        v'.ch.toRemote = v.ch.toRemote ∧ v'.ch.totalBytesDropped = v.ch.totalBytesDropped) :
    Closing v' := by
  have hlife : life v'.log = items ++ life v.log := by
    rw [hlog, life_append fun x hx ↦ (hitems x hx).bound]
  refine ⟨?_, ?_, fun hact ch now hf ↦ ?_, hlog ▸ h.orderly items hitems⟩
  · rintro ⟨x, hx, hsent⟩
    rw [hlife] at hx
    rcases List.mem_append.1 hx with hx | hx
    · rw [eofSent_of_not_sendsEof (hitems x hx).sendsEof] at hsent
      cases hsent
    · obtain ⟨hset, hnil⟩ := h.sent ⟨x, hx, hsent⟩
      have hrem := hrem.resolve_left fun hno ↦ hset hno.1 hno.2
      exact ⟨fun hact ↦ heof ▸ hset (hk ▸ hact), hrem ▸ hnil⟩
  · intro hact hset
    obtain ⟨x, hx, hsent, b, hb, hbound, hle, hstamp⟩ := h.stamped (hk ▸ hact) (heof ▸ hset)
    rw [hlife, hlog, heof]
    exact ⟨x, List.mem_append_right _ hx, hsent, b, List.mem_append_right _ hb, hbound, hle, hstamp⟩
  · obtain ⟨hf', hl, hr, hd⟩ := hfin hact ch now hf
    rw [hl, hr, hd]
    exact h.finalized (hk ▸ hact) ch now hf'

theorem Closing.pump (h : Closing v) (hp : PumpStep p ext v v') : Closing v' := by
  obtain ⟨items, hlog, hplain⟩ := hp.plain
  have hk := hp.keeps
  refine h.plain items hlog hplain hk.active hk.eofSentMs ?_ fun hact ch now hf ↦ ?_
  · cases hp with
    | writeData hact hh heof hb hbs hb' hshape ht ht' => exact .inl ⟨hact, heof⟩
    | writeBusy hact hh heof hb hb'' hagain ht ht' hfirst => exact .inl ⟨hact, heof⟩
    | writeError hact hh heof hb hb'' hagain ht => exact .inl ⟨hact, heof⟩
    | recvData hact hfd heof hb hb' ht ht' => exact .inl ⟨hact, heof⟩
    | _ => exact .inr rfl
  · rcases hp.finalizedFrom with ⟨hch, hlog'⟩ | hnone
    · rw [hlog'] at hf
      rw [hch]
      exact ⟨hf, rfl, rfl, rfl⟩
    · rw [hnone] at hf
      cases hf

/-! ### Sending EOF -/

theorem Closing.orderly_sendEof {h' : Handle} {id t : ℕ} {rc : Int} (h : Closing v)
    (hb : RemoteBalanced v) (hact : v.ch.active = true) (hst : v.ch.state = .draining)
    (heof : v.ch.eofSentMs = 0) (hl : held v.ch.toLocal = []) (hr : held v.ch.toRemote = []) :
    Orderly (.call id t v.ch (.channelSendEof h') rc) v.log := by
  refine ⟨fun _ ↦ ⟨hst, hl, hr, ?_⟩, fun _ hsent ↦ ?_, nofun, nofun⟩
  · rw [hb hact, hr, List.append_nil]
  · obtain ⟨y, hy, hsent⟩ := hsent
    rw [h.unsent hact heof hy] at hsent
    cases hsent

/-- An entry that has nothing to do with the remote side, while nothing waits for it. -/
theorem orderly_of_silent {x : SlotItem} {past : SlotLog} (hsend : sendsEof x = false)
    (hfeeds : feedsRemote x = false) (hfin : finalizes x = none) (hrel : isReleased x = false)
    (hheld : held x.pre.toRemote = []) : Orderly x past := by
  refine ⟨fun hno ↦ ?_, fun _ _ ↦ ⟨hfeeds, hheld⟩, fun now hno ↦ ?_, fun hno ↦ ?_⟩
  · rw [hsend] at hno
    cases hno
  · rw [hfin] at hno
    cases hno
  · rw [hrel] at hno
    cases hno

theorem Closing.sendEofAgain {h' : Handle} {id t : ℕ} (h : Closing v)
    (hb : RemoteBalanced v) (hact : v.ch.active = true) (hst : v.ch.state = .draining)
    (heof : v.ch.eofSentMs = 0) (hl : held v.ch.toLocal = []) (hr : held v.ch.toRemote = []) :
    Closing ((v.call id t (.channelSendEof h') errorEagain).mark .step) := by
  refine ⟨?_, fun _ hset ↦ absurd heof hset, fun _ ch now hf ↦ (by cases hf), ?_,
    h.orderly_sendEof hb hact hst heof hl hr, h.past⟩
  · rintro ⟨x, hx, hsent⟩
    rcases List.mem_cons.1 hx with rfl | hx
    · cases hsent
    rcases List.mem_cons.1 hx with rfl | hx
    · simp [eofSent] at hsent
    · rw [h.unsent hact heof hx] at hsent
      cases hsent
  · exact orderly_of_silent rfl rfl rfl rfl hr

theorem Closing.sendEof {u : View} {h' : Handle} {id t t' : ℕ} {rc : Int} (h : Closing v)
    (hb : RemoteBalanced v) (hact : v.ch.active = true) (hst : v.ch.state = .draining)
    (heof : v.ch.eofSentMs = 0) (hl : held v.ch.toLocal = []) (hr : held v.ch.toRemote = [])
    (hdone : rc ≠ errorEagain) (hflush : Flush h' 4 (v.call id t (.channelSendEof h') rc) u)
    (ht' : u.clock ≤ t') (hzero : stamp t' ≠ 0) :
    Closing ((((u.wait t').set { u.ch with eofSentMs := stamp t' }).mark .eofStamped).mark
      .step) := by
  obtain ⟨items, hlog, hitems⟩ := hflush.reads
  obtain ⟨ring, hch, -⟩ := hflush.frame
  have hrem : held u.ch.toRemote = [] := by rw [hch]; exact hr
  refine ⟨fun _ ↦ ⟨fun _ ↦ hzero, hrem⟩, fun _ _ ↦ ?_, fun _ ch now hf ↦ (by cases hf), ?_, ?_, ?_⟩
  · refine ⟨.call id t v.ch (.channelSendEof h') rc, ?_, by simpa [eofSent] using hdone,
      .mark t' { u.ch with eofSentMs := stamp t' } .step, List.mem_cons_self .., rfl, ?_, rfl⟩
    · refine List.mem_cons_of_mem _ (List.mem_cons_of_mem _ ?_)
      rw [View.set_log, View.wait_log, hlog, life_append fun x hx ↦ ?_]
      · exact List.mem_append_right _ (List.mem_cons_self ..)
      · obtain ⟨id', s, ring', r, rfl, -⟩ := hitems x hx
        rfl
    · exact Nat.le_trans hflush.clock_le ht'
  · exact orderly_of_silent rfl rfl rfl rfl hrem
  · exact orderly_of_silent rfl rfl rfl rfl hrem
  · rw [View.set_log, View.wait_log, hlog]
    refine History.Always.append ⟨h.orderly_sendEof hb hact hst heof hl hr, h.past⟩ fun x hx _ ↦ ?_
    obtain ⟨id', s, ring', r, rfl, -⟩ := hitems x hx
    exact orderly_of_silent rfl rfl rfl rfl hr

/-! ### Finalizing -/

/-- A slot that is finalized in time and without errors has sent EOF and is empty. -/
theorem verdict_close {ch : ChannelSlot} {now : UInt32} (h : verdict ch now = .close)
    (hg : Graceful ch now) : held ch.toLocal = [] ∧ held ch.toRemote = [] ∧ ch.eofSentMs ≠ 0 ∧
      eofGraceMs ≤ now - ch.eofSentMs := by
  have herr : ¬ch.consecutiveErrors > 3 := by have := hg.2; omega
  rw [verdict, if_neg hg.1, if_neg herr] at h
  split at h
  · cases h
  split at h
  · next hempty =>
    obtain ⟨hl, hr⟩ := Bool.and_eq_true_iff.1 hempty
    split at h
    · cases h
    · next hset =>
      split at h
      · next hgrace => exact ⟨(ringEmpty_iff _).1 hl, (ringEmpty_iff _).1 hr, hset, hgrace⟩
      · cases h
  · cases h

theorem Closing.finalizing {τ : ℕ} (h : Closing v) (hact : v.ch.active = true) (hτ : v.Settled τ)
    (hverdict : verdict v.ch (stamp τ) = .close) : Closing (v.mark (.finalizing (stamp τ))) := by
  refine ⟨fun ⟨x, hx, hsent⟩ ↦ ?_, fun _ hset ↦ ?_, fun _ ch now hf ↦ ?_,
    ⟨nofun, fun _ hsent ↦ ⟨rfl, (h.sent hsent).2⟩, ?_, nofun⟩, h.past⟩
  · rcases List.mem_cons.1 hx with rfl | hx
    · cases hsent
    · exact h.sent ⟨x, hx, hsent⟩
  · obtain ⟨x, hx, hsent, b, hb, hbound, hle, hstamp⟩ := h.stamped hact hset
    exact ⟨x, List.mem_cons_of_mem _ hx, hsent, b, List.mem_cons_of_mem _ hb, hbound, hle, hstamp⟩
  · obtain ⟨rfl, rfl⟩ : v.ch = ch ∧ stamp τ = now := by simpa [finalizedFrom] using hf
    refine ⟨rfl, rfl, rfl, fun hg ↦ ?_⟩
    obtain ⟨hl, hr, -⟩ := verdict_close hverdict hg
    exact ⟨hl, hr⟩
  · rintro now hnow hg
    obtain rfl : stamp τ = now := by simpa [finalizes] using hnow
    obtain ⟨hl, hr, hset, hgrace⟩ := verdict_close hverdict hg
    obtain ⟨x, hx, hsent, b, hb, hbound, hle, hstamp⟩ := h.stamped hact hset
    have hbτ := hτ.boundary_le b hb hbound
    rw [hstamp] at hgrace
    have hgap := le_sub_of_le_stamp_sub hbτ hgrace
    have hclock := hτ.le_clock
    refine ⟨⟨x, hx, hsent, ?_⟩, hl, hr⟩
    rw [Item.time_mark]
    omega

/-- The end of a lifetime. -/
theorem Closing.release {ch' : ChannelSlot} {t : ℕ} (h : Closing v) (hact : v.ch.active = true)
    (items : SlotLog) (hitems : ∀ x ∈ items, Plain v.ch x)
    (hfin : finalizedFrom (items ++ v.log) = finalizedFrom v.log) (hrem : ch'.toRemote = none)
    (hdrop : ch'.totalBytesDropped = v.ch.emptied.totalBytesDropped) :
    History.Always Orderly (.mark t ch' .released :: (items ++ v.log)) := by
  refine ⟨⟨nofun, fun _ _ ↦ ⟨rfl, ?_⟩, nofun, fun _ ch now hf hg ↦ ?_⟩, h.orderly items hitems⟩
  · rw [Item.pre_mark, hrem]
    rfl
  obtain ⟨hl, hr, hd, hempty⟩ := h.finalized hact ch now (hfin ▸ hf)
  obtain ⟨hl', hr'⟩ := hempty hg
  have hsize : ringSize v.ch.toLocal = 0 ∧ ringSize v.ch.toRemote = 0 := by
    rw [ringSize_eq, ringSize_eq, hl, hr, hl', hr']
    exact ⟨rfl, rfl⟩
  rw [Item.pre_mark, hdrop]
  simp [ChannelSlot.emptied, ChannelSlot.accountResidual, hsize, hd]

/-- A free slot has nothing waiting. -/
theorem closing_of_inactive (hact : v.ch.active = false) (hrem : v.ch.toRemote = none)
    (hpast : History.Always Orderly v.log) : Closing v := by
  refine ⟨fun _ ↦ ⟨fun hno ↦ ?_, by rw [hrem]; rfl⟩, fun hno ↦ ?_, fun hno ↦ ?_, hpast⟩ <;>
  · rw [hact] at hno
    cases hno

/-! ### Every step keeps the order -/

theorem Closing.work (h : Closing v) (hb : RemoteBalanced v) (hw : WorkStep p ext v v')
    (hstamp : Stamped v'.log) : Closing v' := by
  cases hw with
  | pump hp => exact h.pump hp
  | sendEofAgain hact hst hh heof hl hr hagain ht =>
    subst hagain
    exact h.sendEofAgain hb hact hst heof hl hr
  | sendEof hact hst hh heof hl hr hdone ht hflush ht' =>
    have hzero := hstamp _ (List.mem_cons_of_mem _ (List.mem_cons_self ..)) rfl
    exact h.sendEof hb hact hst heof hl hr hdone hflush ht' hzero
  | finalizing hact hst hτ hverdict => exact h.finalizing hact hτ hverdict
  | closeChannel hact hh ht =>
    exact h.plain [_] rfl (List.forall_mem_singleton.2 ⟨rfl, rfl, rfl, rfl, .inr ⟨rfl, rfl⟩⟩) rfl rfl
      (.inr rfl) fun _ _ _ hf ↦ ⟨hf, rfl, rfl, rfl⟩
  | freeAgain hact hh hagain ht =>
    exact h.plain [_] rfl (List.forall_mem_singleton.2 ⟨rfl, rfl, rfl, rfl, .inr ⟨rfl, rfl⟩⟩) rfl rfl
      (.inr rfl) fun _ _ _ hf ↦ ⟨hf, rfl, rfl, rfl⟩

/-- A lifetime begins without EOF. -/
theorem closing_bound {h : Handle} {fd : Int} {okLocal okRemote : Bool} {id t t' : ℕ}
    (hpast : History.Always Orderly v.log) :
    Closing (v.bound p h fd okLocal okRemote id t t') := by
  refine ⟨fun ⟨x, hx, hsent⟩ ↦ ?_, fun _ hset ↦ ?_, fun _ ch now hf ↦ (by cases hf),
    ⟨nofun, fun _ ⟨y, hy, _⟩ ↦ (by cases hy), nofun, nofun⟩,
    ⟨nofun, fun hno ↦ (by cases hno), nofun, nofun⟩, hpast⟩
  · rcases List.mem_cons.1 hx with rfl | hx
    · cases hsent
    · cases hx
  · exact absurd rfl hset

theorem Closing.step (hv : Sound p v) (h : Closing v) (hb : RemoteBalanced v)
    (hs : SlotStep p ext v v') (hstamp : Stamped v'.log) : Closing v' := by
  cases hs with
  | work hw => exact h.work hb hw hstamp
  | bind hact hfd ht ht' => exact closing_bound h.past
  | @release h' id id' t t' t'' rc progress hact hh hdone ht ht' ht'' =>
    have hpos : 0 ≤ (v.freed h' rc progress id t).ch.localSocket := (hv.alive hact).localSocket
    refine closing_of_inactive rfl rfl ?_
    rw [View.shut, View.discarded, View.socketClosed_of_le hpos]
    refine h.release hact [_, _] ?_ ?_ rfl rfl
    · exact List.forall_mem_cons.2 ⟨⟨rfl, rfl, rfl, rfl, .inr ⟨rfl, rfl⟩⟩,
        List.forall_mem_singleton.2 ⟨rfl, rfl, rfl, rfl, .inr ⟨rfl, rfl⟩⟩⟩
    · rfl
  | @abandon id t hact ht =>
    have hpos : 0 ≤ (v.set v.ch.accountResidual).ch.localSocket := (hv.alive hact).localSocket
    refine closing_of_inactive rfl rfl ?_
    rw [View.dropped, View.socketClosed_of_le hpos]
    refine h.release hact [_] ?_ ?_ rfl rfl
    · exact List.forall_mem_singleton.2 ⟨rfl, rfl, rfl, rfl, .inr ⟨rfl, rfl⟩⟩
    · rfl

theorem closing_of_reach {clock : ℕ} (h : Reach p ext (.fresh clock) v) (hstamp : Stamped v.log) :
    Closing v := by
  induction h with
  | refl => exact closing_of_inactive rfl rfl trivial
  | tail hr hs ih =>
    obtain ⟨items, hlog⟩ := hs.log_append
    have hpast := ih fun x hx ↦ hstamp x (hlog ▸ List.mem_append_right _ hx)
    exact hpast.step ((sound_fresh clock).reach hr) (remoteBalanced_of_reach hr) hs hstamp

/-! ### The guarantee -/

/-- The reading of the clock that was noted for an EOF is zero. -/
def stampedZero : Item SSHTunnel Call Call.Reply Mark → Bool
  | .mark _ s (.slot i .eofStamped) => (s.channels.slots i).eofSentMs = 0
  | _ => false

/-- Every reading of the clock that was noted for an EOF was other than zero. -/
def EofStamped (tr : Trace SSHTunnel Call Call.Reply Mark) : Prop :=
  ∀ x ∈ tr, stampedZero x = false

instance (tr : Trace SSHTunnel Call Call.Reply Mark) : Decidable (EofStamped tr) :=
  inferInstanceAs (Decidable (∀ x ∈ tr, stampedZero x = false))

theorem EofStamped.slotLog {tr : Trace SSHTunnel Call Call.Reply Mark} (h : EofStamped tr) (i : ℕ) :
    Stamped (slotLog i tr) := by
  intro y hy hstamps
  obtain ⟨x, hx, hxy⟩ := List.mem_filterMap.1 hy
  rcases slotItem?_eq_some.1 hxy with ⟨id, t, s, c, r, rfl, rfl⟩ | ⟨t, s, m, rfl, rfl⟩
  · cases hstamps
  · cases m with
    | eofStamped => exact of_decide_eq_false (h _ hx)
    | _ => cases hstamps

/-- A slot and its log, with all closes in order. -/
structure ClosesGracefully (ch : ChannelSlot) (log : SlotLog) : Prop where
  /-- Every entry of the log. -/
  orderly : History.Always Orderly log
  /-- Once EOF is sent, nothing is left for the remote side. -/
  sent : (∃ x ∈ life log, eofSent x = true) → held ch.toRemote = []

/-- **A close is graceful**, in every slot and at any time. -/
theorem graceful_close (hw : Run p w) (hstamp : EofStamped w.trace) (i : ℕ) :
    ClosesGracefully (w.st.channels.slots i) (slotLog i w.trace) := by
  obtain ⟨clock, hr⟩ := hw.followed
  have hclosing := closing_of_reach (hr i) (hstamp.slotLog i)
  exact ⟨hclosing.past, fun hsent ↦ (hclosing.sent hsent).2⟩

/-! ### A slot that closes in time -/

/-- The local side sends one byte and is done. Every call takes 50 ms. -/
def partingWorld : Env Call Call.Reply := worldWith 50 fun n c ↦
  match c with
  | .io _ (.recv _ k) =>
    if h : 1 ≤ k ∧ n < 20 then some (oneByte h.1) else some .eof
  | _ => none

/-- A channel is bound and pumped until it is closed. -/
def partingRun : TunnelWorld := afterManagerOps (smallTunnel 1) <|
  [ManagerOp.bindChannel 0 77 {}, .pumpAll, .pumpAll, .pumpAll].map (·, partingWorld)

theorem run_partingRun : Run (smallTunnel 1) partingRun := run_after _

theorem graceful_close_partingRun :
    ClosesGracefully (partingRun.st.channels.slots 0) (slotLog 0 partingRun.trace) ∧
      (slotLog 0 partingRun.trace).any eofSent = true ∧
      (slotLog 0 partingRun.trace).any isReleased = true :=
  ⟨graceful_close run_partingRun (by decide +kernel) 0, by decide +kernel, by decide +kernel⟩

end ReverseTunnel
