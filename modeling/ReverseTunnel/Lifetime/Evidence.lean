import ReverseTunnel.Lifetime.Streams

/-!
# What the flags and timers of a slot stand for

A slot remembers what it has seen in flags, a counter of errors and three timestamps. Each of them
stands for something in the log of the current lifetime, and this is where it is found: `Evidence`
collects it for a slot in use, `OpenEvidence` what matters only until the slot begins to close.

A timestamp is a 32-bit reading. The evidence gives the true time it was taken at, which is that of
some boundary in the log.
-/

namespace ReverseTunnel

open Traced Clock32

variable {p : Params} {ext : Bool} {v v' : View} {items log : SlotLog}

/-! ### Step boundaries -/

/-- The end of a chunk of work. -/
def isStep : SlotItem → Bool
  | .mark _ _ .step => true
  | _ => false

theorem isStep_of_boundary {x : SlotItem} (h : isBoundary x = false) : isStep x = false := by
  cases x with
  | call id t s c r => rfl
  | mark t s m =>
    cases m with
    | step => cases h
    | _ => rfl

/-- A step ends at most one chunk of work, and does nothing after that. -/
theorem SlotStep.ends (h : SlotStep p ext v v') :
    ∃ items, v'.log = items ++ v.log ∧ (∀ x ∈ items.tail, isStep x = false) ∧
      ∀ t ch rest, items = .mark t ch .step :: rest → v'.ch = ch := by
  cases h with
  | work h =>
    cases h with
    | pump h =>
      cases h with
      | wait ht => exact ⟨[], rfl, by simp, by simp⟩
      | checking hact hopen => exact ⟨[_], rfl, by simp, by simp⟩
      | forwardEof hact hopen hlocal herr hfwd hlog ht => exact ⟨[_], rfl, by simp, by simp⟩
      | pause ssh loc hact | rearmSend hset ht | rearmWrite hset ht =>
        refine ⟨[_], rfl, by simp, ?_⟩
        rintro t ch rest ⟨⟩
        rfl
      | _ =>
        refine ⟨[_, _], rfl, by simp [isStep], ?_⟩
        rintro t ch rest ⟨⟩
        rfl
    | sendEofAgain hact hst hh heof hl hr hagain ht =>
      refine ⟨[_, _], rfl, by simp [isStep], ?_⟩
      rintro t ch rest ⟨⟩
      rfl
    | @sendEof u h id t t' rc hact hst hh heof hl hr hdone ht hflush ht' =>
      obtain ⟨items, hlog, hitems⟩ := hflush.log_append
      refine ⟨.mark t' { u.ch with eofSentMs := stamp t' } .step ::
        .mark t' { u.ch with eofSentMs := stamp t' } .eofStamped ::
          (items ++ [.call id t v.ch (.channelSendEof h) rc]), ?_, fun x hx ↦ ?_, ?_⟩
      · simp [hlog]
      · simp only [List.tail_cons, List.mem_cons, List.mem_append] at hx
        rcases hx with rfl | hx | rfl | hx
        · rfl
        · exact isStep_of_boundary (hitems x hx).2.2
        · rfl
        · cases hx
      · rintro t ch rest ⟨⟩
        rfl
    | finalizing hact hst hτ hverdict => exact ⟨[_], rfl, by simp, by simp⟩
    | closeChannel hact hh ht => exact ⟨[_], rfl, by simp, by simp⟩
    | freeAgain hact hh hagain ht => exact ⟨[_], rfl, by simp, by simp⟩
  | bind hact hfd ht ht' => exact ⟨[_, _], rfl, by simp [isStep], by simp⟩
  | @release h id id' t t' t'' rc progress hact hh hdone ht ht' ht'' =>
    rw [View.shut, View.discarded, View.socketClosed]
    split
    · exact ⟨[_, _, _], rfl, by simp [isStep], by simp⟩
    · exact ⟨[_, _], rfl, by simp [isStep], by simp⟩
  | abandon hact ht =>
    rw [View.dropped, View.socketClosed]
    split
    · exact ⟨[_, _], rfl, by simp [isStep], by simp⟩
    · exact ⟨[_], rfl, by simp, by simp⟩

/-- Where a chunk of work ended, the slot and its log made a reachable view. -/
theorem Reach.at_step {u : View} (h : Reach p ext u v) (hu : ∀ x ∈ u.log, isStep x = false)
    {newer past : SlotLog} {t : ℕ} {ch : ChannelSlot}
    (hlog : v.log = newer ++ .mark t ch .step :: past) :
    ∃ v₁, Reach p ext u v₁ ∧ v₁.ch = ch ∧ v₁.log = .mark t ch .step :: past ∧
      v₁.log <:+ v.log := by
  induction h generalizing newer with
  | refl =>
    have := hu (.mark t ch .step) (by rw [hlog]; simp)
    cases this
  | @tail v₁ v₂ hr hs ih =>
    obtain ⟨items, hitems, htail, hhead⟩ := hs.ends
    rw [hitems, List.append_eq_append_iff] at hlog
    rcases hlog with ⟨rest, -, hrest⟩ | ⟨rest, hrest, hpast⟩
    · obtain ⟨v', hr', hch, hl, hsuf⟩ := ih hrest
      exact ⟨v', hr', hch, hl, hsuf.trans ⟨items, hitems.symm⟩⟩
    · rcases rest with - | ⟨x, rest⟩
      · have hpast' : v₁.log = [] ++ .mark t ch .step :: past := hpast.symm
        obtain ⟨v', hr', hch, hl, hsuf⟩ := ih hpast'
        exact ⟨v', hr', hch, hl, hsuf.trans ⟨items, hitems.symm⟩⟩
      · obtain ⟨rfl, rfl⟩ : .mark t ch .step = x ∧ past = rest ++ v₁.log := by simpa using hpast
        rcases newer with - | ⟨y, newer⟩
        · exact ⟨v₂, hr.tail hs, hhead t ch rest hrest, by rw [hitems, hrest]; rfl,
            List.suffix_refl _⟩
        · have := htail (.mark t ch .step) (by rw [hrest]; simp)
          cases this

/-! ### End of stream -/

/-- libssh2 has reported the end of the stream of channel `h`. -/
def eofSeen (h : Handle) : SlotItem → Bool
  | .call _ _ _ (.channelRead h' _) (.code rc _) => h' = h && rc = 0
  | .call _ _ _ (.channelEof h') eof => h' = h && eof
  | _ => false

/-- The local side has ended, or its socket has failed. -/
def localEndSeen : SlotItem → Bool
  | .call _ _ _ (.recv _ _) .eof => true
  | .call _ _ _ (.recv _ _) (.fail errno) => errno != eagain && errno != ewouldblock
  | .call _ _ _ (.send _ _) (.fail errno) => errno != eagain && errno != ewouldblock
  | _ => false

theorem not_isBusy_iff {errno : ℕ} :
    ¬isBusy errno ↔ (errno != eagain && errno != ewouldblock) = true := by
  simp [isBusy]

/-- Something in the log of a piece of work. -/
def Shows (v v' : View) (P : SlotItem → Bool) : Prop :=
  ∃ items, v'.log = items ++ v.log ∧ ∃ x ∈ items, P x = true

theorem PumpStep.remoteEof (h : PumpStep p ext v v') :
    v'.ch.remoteEof = v.ch.remoteEof ∨ v'.ch.remoteEof = false ∨
      ∃ h', v.ch.sshChannel = some h' ∧ Shows v v' (eofSeen h') := by
  cases h with
  | readEof hact hh hzero ht =>
    exact .inr (.inr ⟨_, hh, [_, _], rfl, _, List.mem_cons_of_mem _ (List.mem_cons_self ..),
      by simp [eofSeen, hzero]⟩)
  | @eofFlag h id t r hact hh heof ht =>
    cases r with
    | false => exact .inr (.inl rfl)
    | true =>
      exact .inr (.inr ⟨_, hh, [_, _], rfl, _, List.mem_cons_of_mem _ (List.mem_cons_self ..),
        by simp [eofSeen]⟩)
  | _ => exact .inl rfl

theorem PumpStep.localEof (h : PumpStep p ext v v') :
    v'.ch.localEof = v.ch.localEof ∨ Shows v v' localEndSeen := by
  cases h with
  | sendFail hact hfd hb hbs hb' hhard ht =>
    exact .inr ⟨[_, _], rfl, _, List.mem_cons_of_mem _ (List.mem_cons_self ..),
      not_isBusy_iff.1 hhard⟩
  | recvEnd hact hfd heof hr ht =>
    refine .inr ⟨[_, _], rfl, _, List.mem_cons_of_mem _ (List.mem_cons_self ..), ?_⟩
    rcases hr with rfl | ⟨errno, hhard, rfl⟩
    · rfl
    · exact not_isBusy_iff.1 hhard
  | _ => exact .inl rfl

theorem WorkStep.remoteEof (h : WorkStep p ext v v') :
    v'.ch.remoteEof = v.ch.remoteEof ∨ v'.ch.remoteEof = false ∨
      ∃ h', v.ch.sshChannel = some h' ∧ Shows v v' (eofSeen h') := by
  cases h with
  | pump h => exact h.remoteEof
  | sendEof hact hst hh heof hl hr hdone ht hflush ht' =>
    obtain ⟨r, hch, -⟩ := hflush.frame
    exact .inl (by rw [View.mark_ch, View.mark_ch, View.set_ch, hch]; rfl)
  | _ => exact .inl rfl

theorem WorkStep.localEof (h : WorkStep p ext v v') :
    v'.ch.localEof = v.ch.localEof ∨ Shows v v' localEndSeen := by
  cases h with
  | pump h => exact h.localEof
  | sendEof hact hst hh heof hl hr hdone ht hflush ht' =>
    obtain ⟨r, hch, -⟩ := hflush.frame
    exact .inl (by rw [View.mark_ch, View.mark_ch, View.set_ch, hch]; rfl)
  | _ => exact .inl rfl

/-- The flags of a slot in use. -/
structure Evidence (v : View) : Prop where
  /-- The end of the remote stream was reported. -/
  remoteEof : v.ch.active = true → v.ch.remoteEof = true →
    ∃ h, v.ch.sshChannel = some h ∧ ∃ x ∈ life v.log, eofSeen h x = true
  /-- The local side has ended. -/
  localEof : v.ch.active = true → v.ch.localEof = true → ∃ x ∈ life v.log, localEndSeen x = true

theorem Shows.mem_life {P : SlotItem → Bool} (h : Shows v v' P) (hw : WorkStep p ext v v') :
    ∃ x ∈ life v'.log, P x = true := by
  obtain ⟨items, hlog, hbound, -⟩ := hw.unbound
  obtain ⟨items', hlog', x, hx, hP⟩ := h
  obtain rfl : items' = items := List.append_cancel_right (hlog'.symm.trans hlog)
  rw [hlog, life_append hbound]
  exact ⟨x, List.mem_append_left _ hx, hP⟩

theorem WorkStep.life_subset (h : WorkStep p ext v v') : life v.log ⊆ life v'.log := by
  obtain ⟨items, hlog, hbound, -⟩ := h.unbound
  rw [hlog, life_append hbound]
  exact List.subset_append_right _ _

theorem Evidence.step (he : Evidence v) (h : SlotStep p ext v v') : Evidence v' := by
  cases h with
  | work h =>
    have hk := h.retains
    refine ⟨fun hact heof ↦ ?_, fun hact heof ↦ ?_⟩
    · rcases h.remoteEof with heq | hno | ⟨h', hh, hshow⟩
      · obtain ⟨h', hh, x, hx, hseen⟩ := he.remoteEof (hk.active ▸ hact) (heq ▸ heof)
        exact ⟨h', hk.sshChannel.trans hh, x, h.life_subset hx, hseen⟩
      · rw [hno] at heof
        cases heof
      · exact ⟨h', hk.sshChannel.trans hh, hshow.mem_life h⟩
    · rcases h.localEof with heq | hshow
      · obtain ⟨x, hx, hseen⟩ := he.localEof (hk.active ▸ hact) (heq ▸ heof)
        exact ⟨x, h.life_subset hx, hseen⟩
      · exact hshow.mem_life h
  | bind hact hfd ht ht' => exact ⟨nofun, nofun⟩
  | release hact hh hdone ht ht' ht'' => exact ⟨nofun, nofun⟩
  | abandon hact ht => exact ⟨nofun, nofun⟩

theorem evidence_of_reach {clock : ℕ} (h : Reach p ext (.fresh clock) v) : Evidence v := by
  induction h with
  | refl => exact ⟨nofun, nofun⟩
  | tail _ hs ih => exact ih.step hs

/-! ### Reads after the end -/

/-- Bytes were read from channel `h`. -/
def readsData (h : Handle) : SlotItem → Bool
  | .call _ _ _ (.channelRead h' _) (.data _ _ _) => h' = h
  | _ => false

/-- libssh2 yields no data on a channel after it has reported the end of its stream. -/
def NoDataAfterEof (log : SlotLog) : Prop :=
  History.Always (fun x past ↦ ∀ h, readsData h x = true → ∀ y ∈ past, eofSeen h y = false) log

theorem NoDataAfterEof.suffix {newer : SlotLog} (h : NoDataAfterEof (newer ++ log)) :
    NoDataAfterEof log := by
  induction newer with
  | nil => exact h
  | cons x newer ih => exact ih h.2

theorem readOf_eq_nil {x : SlotItem} (h : ∀ h', readsData h' x = false) : readOf x = [] := by
  cases x with
  | mark t s m => rfl
  | call id t s c r =>
    cases c with
    | channelRead h' n =>
      cases r with
      | code rc hrc => rfl
      | data bs hpos hle =>
        have := h h'
        simp [readsData] at this
    | _ => rfl

theorem NoDataAfterEof.eofSeen_eq {x y : SlotItem} {h : Handle}
    (hno : NoDataAfterEof (items ++ log)) (hx : x ∈ items) (hr : readsData h x = true)
    (hy : y ∈ log) : eofSeen h y = false := by
  induction items with
  | nil => cases hx
  | cons z items ih =>
    rcases List.mem_cons.1 hx with rfl | hx
    · exact hno.1 h hr y (List.mem_append_right _ hy)
    · exact ih hno.2 hx

/-- A read is made with the flag as it was when the work began. -/
theorem WorkStep.pre_remoteEof (h : WorkStep p ext v v') :
    ∃ items, v'.log = items ++ v.log ∧
      ∀ x ∈ items, readOf x ≠ [] → x.pre.remoteEof = v.ch.remoteEof := by
  cases h with
  | pump h =>
    cases h with
    | wait ht => exact ⟨[], rfl, by simp⟩
    | checking hact hopen => exact ⟨[_], rfl, by simp⟩
    | forwardEof hact hopen hlocal herr hfwd hlog ht => exact ⟨[_], rfl, by simp⟩
    | pause ssh loc hact => exact ⟨[_], rfl, by simp⟩
    | rearmSend hset ht => exact ⟨[_], rfl, by simp⟩
    | rearmWrite hset ht => exact ⟨[_], rfl, by simp⟩
    | _ => exact ⟨[_, _], rfl, by simp [readOf]⟩
  | @sendEof u h id t t' rc hact hst hh heof hl hr hdone ht hflush ht' =>
    obtain ⟨items, hlog, hitems⟩ := hflush.entries t'
    refine ⟨items, hlog, hitems _ (fun _ ↦ rfl) (fun _ _ _ _ _ ↦ rfl) fun m hm hne ↦ ?_⟩
    rcases hm with rfl | rfl <;> exact absurd rfl hne
  | sendEofAgain hact hst hh heof hl hr hagain ht => exact ⟨[_, _], rfl, by simp [readOf]⟩
  | finalizing hact hst hτ hverdict => exact ⟨[_], rfl, by simp⟩
  | closeChannel hact hh ht => exact ⟨[_], rfl, by simp⟩
  | freeAgain hact hh hagain ht => exact ⟨[_], rfl, by simp⟩

theorem sshChannel_of_readsData {ch : ChannelSlot} {x : SlotItem} {h : Handle} (hx : OwnItem ch x)
    (hr : readsData h x = true) : ch.sshChannel = some h := by
  cases x with
  | mark t s m => cases hr
  | call id t s c r =>
    cases c with
    | channelRead h' n =>
      cases r with
      | code rc hrc => cases hr
      | data bs hpos hle =>
        obtain rfl : h' = h := by simpa [readsData] using hr
        exact hx.1 h' rfl
    | _ => cases hr

/-- A slot that has seen the end of its stream reads nothing more. -/
theorem quietReads_of_reach {clock : ℕ} (h : Reach p ext (.fresh clock) v)
    (hno : NoDataAfterEof v.log) : QuietReads v.log := by
  induction h with
  | refl =>
    intro x hx
    cases hx
  | @tail v v' hr hs ih =>
    obtain ⟨items, hlog⟩ := hs.log_append
    rw [hlog] at hno
    have hpast := ih hno.suffix
    intro x hx hne
    rw [hlog, List.mem_append] at hx
    rcases hx with hx | hx
    swap
    · exact hpast x hx hne
    by_contra heof
    rw [Bool.not_eq_false] at heof
    obtain ⟨h, hread⟩ : ∃ h, readsData h x = true := by
      by_contra hnone
      refine hne (readOf_eq_nil fun h ↦ ?_)
      by_contra hyes
      exact hnone ⟨h, by simpa using hyes⟩
    rcases hs.work_or_still with hw | ⟨items', hlog', hstill⟩
    · obtain ⟨items', hlog', hpre⟩ := hw.pre_remoteEof
      obtain rfl : items' = items := List.append_cancel_right (hlog'.symm.trans hlog)
      obtain ⟨items'', hlog'', hown⟩ := hw.ownLog
      obtain rfl : items'' = items' := List.append_cancel_right (hlog''.symm.trans hlog)
      have hch := sshChannel_of_readsData (hown x hx) hread
      rw [hpre x hx hne] at heof
      have hact : v.ch.active = true := by
        by_contra hdead
        have := (((sound_fresh clock).reach hr).dead (by simpa using hdead)).sshChannel
        rw [hch] at this
        cases this
      obtain ⟨h', hh', y, hy, hseen⟩ := (evidence_of_reach hr).remoteEof hact heof
      obtain rfl : h = h' := Option.some.inj (hch.symm.trans hh')
      have := hno.eofSeen_eq hx hread (life_subset _ hy)
      rw [hseen] at this
      cases this
    · obtain rfl : items' = items := List.append_cancel_right (hlog'.symm.trans hlog)
      exact hne (nothing_of_not_moves (hstill x hx)).1

end ReverseTunnel
