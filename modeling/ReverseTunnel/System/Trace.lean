import ReverseTunnel.System.Loop
import ReverseTunnel.Lifetime.Evidence

/-!
# From the trace of the tunnel to the logs of its slots

What is assumed of libssh2 and of the heap is assumed of the trace of the whole tunnel. Here it is
carried over to the logs of the slots, where it is used, and what is known of a slot wherever a chunk
of work on it has ended is carried back to the trace.
-/

namespace ReverseTunnel

open Traced TunnelM

variable {p : Params} {ext : Bool} {g : Ledger} {w : TunnelWorld} {i : ℕ}

/-- A trace grows. -/
theorem TunnelStep.trace_append {x y : TunnelWorld × Ledger} (h : TunnelStep p ext x y) :
    ∃ items, y.1.trace = items ++ x.1.trace := by
  cases h with
  | calm h => exact h.trace.imp fun _ h ↦ h.1
  | work hi hdown hm hw hc => exact hm.trace.imp fun _ h ↦ h.1
  | bind hi hdown hh hm hact hfd ht ht' hv hok hcount harch => exact hm.trace.imp fun _ h ↦ h.1
  | release hi hdown hm hw hact hh hdone ht ht' ht'' hv hcount harch =>
    exact hm.trace.imp fun _ h ↦ h.1
  | abandon hi hm hact ht hv hcount harch => exact hm.trace.imp fun _ h ↦ h.1
  | mark hm => exact ⟨[_], rfl⟩
  | returned ht hdown => exact ⟨[_], rfl⟩
  | tornDown ht hmid hd => exact ⟨[_], rfl⟩
  | accept ht hdown hst => exact ⟨[_], rfl⟩
  | close ht hdown hh => exact ⟨[_], rfl⟩
  | free ht hdown hh => exact ⟨[_], rfl⟩
  | connect ht hadm => exact ⟨[_], rfl⟩
  | goDown => exact ⟨[_], rfl⟩
  | _ => exact ⟨[], rfl⟩

/-! ### End of stream -/

/-- The channel data was read from, if any was. -/
def readsFrom : Item SSHTunnel Call Call.Reply Mark → Option Handle
  | .call _ _ _ (.io _ (.channelRead h _)) (.data _ _ _) => some h
  | _ => none

/-- libssh2 has reported the end of the stream of `h`, by reading nothing or by its flag. -/
def reportsEof (h : Handle) : Item SSHTunnel Call Call.Reply Mark → Bool
  | .call _ _ _ (.io _ (.channelRead h' _)) (.code rc _) => h' = h && rc = 0
  | .call _ _ _ (.io _ (.channelEof h')) eof => h' = h && eof
  | _ => false

/-- libssh2 yields no data on a channel after it has reported the end of its stream. -/
def EofIsFinal (tr : Trace SSHTunnel Call Call.Reply Mark) : Prop :=
  History.Always (fun x past ↦ ∀ h ∈ readsFrom x, ∀ y ∈ past, reportsEof h y = false) tr

instance (tr : Trace SSHTunnel Call Call.Reply Mark) : Decidable (EofIsFinal tr) :=
  inferInstanceAs (Decidable (History.Always _ tr))

theorem slotItem?_eq_some {x : Item SSHTunnel Call Call.Reply Mark} {y : SlotItem} :
    slotItem? i x = some y ↔
      (∃ id t s c r, x = .call id t s (.io i c) r ∧ y = .call id t (s.channels.slots i) c r) ∨
        ∃ t s m, x = .mark t s (.slot i m) ∧ y = .mark t (s.channels.slots i) m := by
  constructor
  · intro h
    cases x with
    | call id t s c r =>
      cases c with
      | sys c => cases h
      | io j c =>
        by_cases hj : j = i
        · subst hj
          rw [slotItem?, if_pos rfl] at h
          exact .inl ⟨id, t, s, c, r, rfl, (Option.some.inj h).symm⟩
        · rw [slotItem?, if_neg hj] at h
          cases h
    | mark t s m =>
      cases m with
      | slot j m =>
        by_cases hj : j = i
        · subst hj
          rw [slotItem?, if_pos rfl] at h
          exact .inr ⟨t, s, m, rfl, (Option.some.inj h).symm⟩
        · rw [slotItem?, if_neg hj] at h
          cases h
      | _ => cases h
  · rintro (⟨id, t, s, c, r, rfl, rfl⟩ | ⟨t, s, m, rfl, rfl⟩) <;> simp [slotItem?]

theorem readsFrom_of_slotItem? {x : Item SSHTunnel Call Call.Reply Mark} {y : SlotItem}
    {h : Handle} (hx : slotItem? i x = some y) (hy : readsData h y = true) :
    h ∈ readsFrom x := by
  rcases slotItem?_eq_some.1 hx with ⟨id, t, s, c, r, rfl, rfl⟩ | ⟨t, s, m, rfl, rfl⟩
  · cases c with
    | channelRead h' n =>
      cases r with
      | code rc hrc => cases hy
      | data bs hpos hle =>
        obtain rfl : h' = h := by simpa [readsData] using hy
        rfl
    | _ => cases hy
  · cases hy

theorem reportsEof_of_slotItem? {x : Item SSHTunnel Call Call.Reply Mark} {y : SlotItem}
    {h : Handle} (hx : slotItem? i x = some y) : eofSeen h y = reportsEof h x := by
  rcases slotItem?_eq_some.1 hx with ⟨id, t, s, c, r, rfl, rfl⟩ | ⟨t, s, m, rfl, rfl⟩
  · cases c with
    | channelRead h' n => cases r <;> rfl
    | _ => rfl
  · rfl

theorem EofIsFinal.slotLog {tr : Trace SSHTunnel Call Call.Reply Mark} (h : EofIsFinal tr) (i : ℕ) :
    NoDataAfterEof (slotLog i tr) := by
  refine h.filterMap fun x past y hxy hx h' hread z hz ↦ ?_
  obtain ⟨u, hu, huz⟩ := List.mem_filterMap.1 hz
  rw [reportsEof_of_slotItem? huz]
  exact hx h' (readsFrom_of_slotItem? hxy hread) u hu

/-! ### Rings -/

/-- Every ring could be allocated. -/
def RingsAllocated (tr : Trace SSHTunnel Call Call.Reply Mark) : Prop :=
  ∀ x ∈ tr, ringFailed x = false

instance (tr : Trace SSHTunnel Call Call.Reply Mark) : Decidable (RingsAllocated tr) :=
  inferInstanceAs (Decidable (∀ x ∈ tr, ringFailed x = false))

theorem BoundAllocated.append {log : SlotLog} (h : BoundAllocated log) (items : SlotLog)
    (hi : ∀ x ∈ items, isBound x = false) : BoundAllocated (items ++ log) := by
  intro x hx hb
  rcases List.mem_append.1 hx with hx | hx
  · rw [hi x hx] at hb
    cases hb
  · exact h x hx hb

theorem OwnLog.boundAllocated {v v' : View} (ho : OwnLog v v') (h : BoundAllocated v.log) :
    BoundAllocated v'.log := by
  obtain ⟨items, hlog, hown⟩ := ho
  rw [hlog]
  exact h.append items fun x hx ↦ isBound_of_ownItem (hown x hx)

/-- A released slot has not been bound again. -/
theorem boundAllocated_release {v : View} {h : Handle} {rc : Int} {progress : Progress}
    {id id' t t' t'' : ℕ} (hv : BoundAllocated v.log) :
    BoundAllocated (((v.freed h rc progress id t).discarded id' t').shut t'').log := by
  rw [View.shut, View.discarded, View.socketClosed]
  split
  · exact hv.append [_, _, _] (by simp [isBound])
  · exact hv.append [_, _] (by simp [isBound])

theorem boundAllocated_drop {v : View} {id t : ℕ} (hv : BoundAllocated v.log) :
    BoundAllocated (v.dropped id t).log := by
  rw [View.dropped, View.socketClosed]
  split
  · exact hv.append [_, _] (by simp [isBound])
  · exact hv.append [_] (by simp [isBound])

theorem At.boundAllocated (h : At p ext g w) (hr : RingsAllocated w.trace) (i : ℕ) :
    BoundAllocated (slotLog i w.trace) := by
  refine h.invariant (I := fun x ↦ RingsAllocated x.1.trace → BoundAllocated (slotView i x.1).log)
    (fun _ _ ↦ by simp [BoundAllocated, initial, slotView, slotLog]) ?_ hr
  intro x y hx hs hy
  have hx : BoundAllocated (slotView i x.1).log := by
    obtain ⟨items, ht⟩ := hs.trace_append
    exact hx fun z hz ↦ hy z (ht ▸ List.mem_append_right _ hz)
  -- another slot only sees time pass
  have spared : ∀ {j w w'}, SlotMove j w w' → BoundAllocated (slotView i w).log →
      (BoundAllocated (slotView j w).log → BoundAllocated (slotView j w').log) →
      BoundAllocated (slotView i w').log := by
    intro j w w' hm hw hj
    by_cases hij : i = j
    · subst hij
      exact hj hw
    · rw [hm.view_eq i hij]
      exact hw
  cases hs with
  | calm h => rw [h.view_eq i]; exact hx
  | work hi hdown hm hw hc => exact spared hm hx hw.ownLog.boundAllocated
  | @bind w w' g j h hand fd okLocal okRemote id t t' hi hdown hh hm hact hfd ht ht' hv hok hcount
      harch =>
    refine spared hm hx fun hw ↦ ?_
    rw [hv]
    intro z hz hb
    rcases List.mem_cons.1 hz with rfl | hz
    · cases hb
    rcases List.mem_cons.1 hz with rfl | hz
    · obtain ⟨items, htr, -⟩ := hm.trace
      have hlocal := (hok fun z hz ↦ hy z (htr ▸ List.mem_append_right _ hz)).1
      intro b hb
      obtain rfl := Option.some.inj hb
      rw [DataRingBuffer.handle_isSome_create]
      exact hlocal
    · exact hw z hz hb
  | release hi hdown hm hw hact hh hdone ht ht' ht'' hv hcount harch =>
    refine spared hm hx fun hj ↦ ?_
    rw [hv]
    exact boundAllocated_release (hw.ownLog.boundAllocated hj)
  | abandon hi hm hact ht hv hcount harch =>
    refine spared hm hx fun hj ↦ ?_
    rw [hv]
    exact boundAllocated_drop hj
  | mark hm =>
    rw [slotView_marked]
    · exact hx
    · rcases hm with ⟨_, _, rfl, -⟩ | ⟨_, rfl⟩ | rfl <;> simp
  | returned ht hdown => rw [slotView_marked (by simp)]; exact hx
  | tornDown ht hmid hd => rw [slotView_marked (by simp)]; exact hx
  | goDown => rw [slotView_marked (by simp)]; exact hx
  | _ => exact hx

/-! ### What is known of a slot where its work ends -/

/-- A place in the trace is a place in the log. -/
theorem slotLog_split {newer past : Trace SSHTunnel Call Call.Reply Mark} {t : ℕ} {s : SSHTunnel}
    {m : SlotMark} (h : w.trace = newer ++ .mark t s (.slot i m) :: past) :
    slotLog i w.trace =
      slotLog i newer ++ .mark t (s.channels.slots i) m :: slotLog i past := by
  rw [h, slotLog, List.filterMap_append, List.filterMap_cons]
  simp [slotItem?, slotLog]

/-- Whatever holds of every reachable view holds of a slot between operations and wherever a chunk
of work on it has ended. -/
theorem Followed.everywhere {P : ChannelSlot → SlotLog → Prop} (h : Followed p ext w) (i : ℕ)
    (hP : ∀ clock v, Reach p ext (.fresh clock) v → v.log <:+ slotLog i w.trace → P v.ch v.log)
    (hstep : ∀ t ch log, P ch (.mark t ch .step :: log) → P ch log) :
    P (w.st.channels.slots i) (slotLog i w.trace) ∧
      ∀ newer t s past, w.trace = newer ++ .mark t s (.slot i .step) :: past →
        P (s.channels.slots i) (slotLog i past) := by
  obtain ⟨clock, hr⟩ := h
  refine ⟨hP clock _ (hr i) (List.suffix_refl _), fun newer t s past htr ↦ ?_⟩
  obtain ⟨v, hv, hch, hlog, hsuf⟩ := (hr i).at_step (by simp [View.fresh]) (slotLog_split htr)
  have := hP clock v hv hsuf
  rw [hch, hlog] at this
  exact hstep t _ _ this

/-! ### A world to run in -/

/-- Replies of a world in which everything works and nothing happens: every call succeeds, there is
never anything to read or to receive, and whatever is offered is taken. -/
def quietReply : (c : Call) → c.Reply
  | .io _ (.channelRead _ _) => .code errorEagain (by decide)
  | .io _ (.channelWrite _ bs) =>
    if h : 0 < bs.length then .accepted bs.length h (Nat.le_refl _) else .code 0 (by decide)
  | .io _ (.channelEof _) => false
  | .io _ (.channelSendEof _) => (0 : Int)
  | .io _ (.channelSetBlocking _) => ()
  | .io _ (.channelClose _) => (0 : Int)
  | .io _ (.channelFree _) => (0 : Int)
  | .io _ (.send _ bs) =>
    if h : 0 < bs.length then .accepted bs.length h (Nat.le_refl _) else .zero
  | .io _ (.recv _ _) => .fail eagain
  | .io _ (.shutdown _) => ()
  | .io _ (.closeSocket _) => ()
  | .sys (.lock _) | .sys (.statsLock _) => true
  | .sys (.channelClose _) | .sys (.channelFree _) => (0 : Int)
  | .sys (.forwardAccept _) => false
  | .sys (.lastErrno _) => errorEagain
  | .sys (.forwardListen _ _ port _) => some port
  | .sys .sessionInit => true
  | .sys (.sessionHandshake _ _) | .sys (.sessionDisconnect _) | .sys (.sessionFree _) => (0 : Int)
  | .sys (.sessionHostkey _) => (⟨[], 0, none⟩ : HostKey)
  | .sys (.userauthList _) => true
  | .sys (.userauthPassword _) | .sys (.userauthPublickey _) | .sys (.keepaliveSend _) => (0 : Int)
  | .sys .tcpSocket | .sys (.getHostByName _) => true
  | .sys (.tcpConnect _) => (0 : Int)
  | .sys (.soError _) | .sys (.keepaliveSoError _) | .sys (.localSoError _) =>
    ((0, 0) : Int × Int)
  | .sys (.localSocket _) | .sys (.inetPton _) | .sys (.fcntlGetFlags _)
  | .sys (.fcntlSetNonblock _) => true
  | .sys (.localConnect _) => ConnectReply.done
  | .sys (.select _) => ((1, true) : Int × Bool)
  | .sys .heapReport => (⟨0, 0, 1000000, 1000000⟩ : HeapReport)
  | .sys (.allocRing _) => true
  | .sys .unlock | .sys .statsUnlock | .sys (.delay _) | .sys (.forwardCancel _)
  | .sys (.sessionSetBlocking _) | .sys (.keepaliveConfig _ _) | .sys (.tcpShutdown _)
  | .sys (.tcpClose _) | .sys (.localClose _) | .sys (.emit _)
  | .sys (.hostKeyMismatch _ _ _) => ()

/-- A read that yields three bytes. -/
def threeBytes {n : ℕ} (h : 3 ≤ n) : ReadReply n := .data [1, 2, 3] (by decide) h

/-- A read that yields the end of the stream. -/
def endOfStream {n : ℕ} : ReadReply n := .code 0 (by decide)

/-- A receive that yields one byte. -/
def oneByte {n : ℕ} (h : 1 ≤ n) : RecvReply n := .data [9] (by decide) h

/-- A write that is accepted whole. -/
def acceptedWhole {n : ℕ} (h : 0 < n) : WriteReply n := .accepted n h (Nat.le_refl n)

/-- A world that differs from the quiet one in what `f` says, and in which every operation takes
`ms` milliseconds. -/
def worldWith (ms : ℕ) (f : ℕ → (c : Call) → Option c.Reply) : Env Call Call.Reply :=
  ⟨fun n c ↦ (f n c).getD (quietReply c), fun _ ↦ ms, fun _ ↦ 0⟩

/-- Channels come in while the first `k` calls are made. -/
def acceptingWorld (k : ℕ) : Env Call Call.Reply := worldWith 1 fun n c ↦
  match c with
  | .sys (.forwardAccept _) => some (decide (n < k))
  | _ => none

/-- A tunnel with the given number of slots and one mapping. -/
def smallTunnel (maxSlots : ℕ) : Params where
  connection := {}
  server := {}
  mappings := [{ remoteBindPort := 8022, localPort := 22 }]
  prependCap := 4
  maxSlots := maxSlots
  ringBufferSize := 8192
  bufSize := 4
  channelTimeoutMs := 30000
  bufSize_pos := by decide
  bufSize_le := by decide
  ringBufferSize_ge := by decide

/-- After the given operations of the tunnel, each in an environment of its own. -/
def afterTunnelOps (p : Params) (ops : List (TunnelOp × Env Call Call.Reply)) : TunnelWorld :=
  ops.foldl (fun w x ↦ (x.1.prog p).exec x.2 w) (initial 0)

/-- After the given operations of the channel manager. -/
def afterManagerOps (p : Params) (ops : List (ManagerOp × Env Call Call.Reply)) : TunnelWorld :=
  ops.foldl (fun w x ↦ (x.1.prog p).exec x.2 w) (initial 0)

theorem runs_foldl {α : Type} {progs : Set (TunnelM Unit)} {prog : α → TunnelM Unit}
    (hprog : ∀ a, prog a ∈ progs) (ops : List (α × Env Call Call.Reply)) (hw : Runs progs w) :
    Runs progs (ops.foldl (fun w x ↦ (prog x.1).exec x.2 w) w) := by
  induction ops generalizing w with
  | nil => exact hw
  | cons x ops ih => exact ih (.step _ (hprog x.1) x.2 hw)

theorem tunnelRun_after (ops : List (TunnelOp × Env Call Call.Reply)) :
    TunnelRun p (afterTunnelOps p ops) :=
  runs_foldl (fun op ↦ Set.mem_range_self op) ops (.init 0)

theorem run_after (ops : List (ManagerOp × Env Call Call.Reply)) :
    Run p (afterManagerOps p ops) :=
  runs_foldl (fun op ↦ Or.inr (Set.mem_range_self op)) ops (.init 0)

end ReverseTunnel
