import ReverseTunnel.Channel.BreakerHistory

/-!
# The circuit breaker, over whole histories

Three laws of the breaker, for every history of calls. It **refines a map**: while at most eight ports
are mentioned, each port behaves as if it had a breaker of its own. It **engages**: after the third
failure the mapping is backed off for the whole delay, unless the deadline falls on a reading of `0`,
which the table takes for "not set". It **releases**: once the deadline has passed the mapping is not
backed off, but only for half a turn of the clock; then the wrapped difference changes its sign and
the mapping is backed off again, although nothing happened.
-/

namespace ReverseTunnel

open Clock32

namespace CircuitBreaker

variable {b : CircuitBreaker} {port : Int} {past : List BreakerCall}

theorem negative_iff {x : UInt32} : negative x = true ↔ 2 ^ 31 ≤ x.toNat := by
  have : (0x80000000 : UInt32).toNat = 2 ^ 31 := by decide
  rw [negative, decide_eq_true_iff, ge_iff_le, UInt32.le_iff_toNat_le, this]

/-! ### Independent cells -/

/-- The calls on one port. -/
def own (port : Int) (past : List BreakerCall) : List BreakerCall :=
  past.filter fun c ↦ c.port = port

theorem expected_own : expected port (own port past) = expected port past := by
  induction past with
  | nil => rfl
  | cons c past ih =>
    by_cases hc : c.port = port
    · rw [own, List.filter_cons_of_pos (by simpa using hc), ← own, ← heed_expected hc, ih,
        heed_expected hc]
    · rw [own, List.filter_cons_of_neg (by simpa using hc), ← own, expected_cons_of_ne hc, ih]

theorem mem_mentioned_own : port ∈ mentioned (own port past) ↔ port ∈ mentioned past := by
  simp only [mem_mentioned, own, List.mem_filter, decide_eq_true_eq]
  constructor
  · rintro ⟨h0, c, ⟨hc, -⟩, hport⟩
    exact ⟨h0, c, hc, hport⟩
  · rintro ⟨h0, c, hc, hport⟩
    exact ⟨h0, c, ⟨hc, hport⟩, hport⟩

theorem mentioned_own_subset : mentioned (own port past) ⊆ mentioned past := by
  intro q hq
  obtain ⟨h0, c, hc, hport⟩ := mem_mentioned.1 hq
  exact mem_mentioned.2 ⟨h0, c, List.mem_of_mem_filter hc, hport⟩

/-- What is found for a port, as long as few ports are mentioned. -/
theorem Holds.find_of_few (h : Holds b past) (hfew : (mentioned past).card ≤ maxMappingHealth) :
    b.find port = if port ∈ mentioned past then some (expected port past) else none := by
  split
  · next hmem =>
    have hport := (mem_mentioned.1 hmem).1
    rcases hf : b.find port with - | e
    · exact absurd ((find_eq_none_iff hport).1 hf) (h.not_lacks hfew hmem)
    · rw [h.find_eq hf]
  · next hmem =>
    by_cases hport : port = 0
    · exact if_pos hport
    · rw [find_eq_none_iff hport]
      intro i hi hip
      exact hmem (hip ▸ h.known i hi (by rwa [hip]))

/-- What a call returns, as long as few ports are mentioned. -/
theorem Holds.call_of_few (h : Holds b past) (hfew : (mentioned past).card ≤ maxMappingHealth)
    {c : BreakerCall} (hc : c.port ≠ 0) : (b.call c).1 = trips (expected c.port past) c := by
  have halloc := allocates_findOrAlloc b c.port
  rcases hf : b.findOrAlloc c.port with - | ⟨i, b'⟩ <;> rw [hf] at halloc
  · cases halloc with
    | none hlacks hfull =>
      have hnew : c.port ∉ mentioned past := fun hmem ↦ h.not_lacks hfew hmem hlacks
      rw [call_none hf, expected_of_not_mem hc hnew]
      cases c with
      | failure q time => rfl
      | success q => rfl
  · rw [call_some hc hf]
    cases halloc with
    | found i hi hport =>
      have := h.entry i hi (by rwa [hport])
      rw [hport] at this
      exact congrArg (trips · c) this
    | fresh i hi hlacks hfree =>
      have hnew : c.port ∉ mentioned past := fun hmem ↦ h.present _ hmem hlacks i hi hfree
      rw [expected_of_not_mem hc hnew]
      exact congrArg (trips · c) (Function.update_self ..)

/-- The breaker after a history, as a map from ports to cells. -/
structure RefinesMap (past : List BreakerCall) : Prop where
  /-- The ports in the table are distinct. -/
  distinct : ∀ i < maxMappingHealth, ∀ j < maxMappingHealth,
    ((after past).health i).remoteBindPort ≠ 0 →
    ((after past).health i).remoteBindPort = ((after past).health j).remoteBindPort → i = j
  /-- A mentioned port has one entry. -/
  one_entry : ∀ port ∈ mentioned past,
    ∃! i, i < maxMappingHealth ∧ ((after past).health i).remoteBindPort = port
  /-- An entry stays with its port. -/
  kept : ∀ newer i, ((after past).health i).remoteBindPort ≠ 0 →
    ((after (newer ++ past)).health i).remoteBindPort = ((after past).health i).remoteBindPort
  /-- The entry of a port is its cell. -/
  entry : ∀ port ∈ mentioned past, (after past).peek port = some (expected port past)
  /-- What `peek` says of a port depends on the calls on it alone. -/
  peek_own : ∀ port, (after past).peek port = (after (own port past)).peek port
  /-- So does what `isBackedOff` says. -/
  isBackedOff_own : ∀ port now,
    (after past).isBackedOff port now = (after (own port past)).isBackedOff port now
  /-- So does what `recordFailure` returns. -/
  recordFailure_own : ∀ port time, ((after past).recordFailure port (stamp time)).1 =
    ((after (own port past)).recordFailure port (stamp time)).1

theorem refinesMap_of_few (hfew : (mentioned past).card ≤ maxMappingHealth) : RefinesMap past := by
  have h := holds_after past
  have hown port := holds_after (own port past)
  have hfew' port : (mentioned (own port past)).card ≤ maxMappingHealth :=
    Nat.le_trans (Finset.card_le_card mentioned_own_subset) hfew
  have hpeek port : (after past).find port = (after (own port past)).find port := by
    rw [h.find_of_few hfew, (hown port).find_of_few (hfew' port), expected_own]
    simp only [mem_mentioned_own]
  constructor
  · exact h.distinct
  · intro port hmem
    obtain ⟨i, hi⟩ : ∃ i, i < maxMappingHealth ∧ ((after past).health i).remoteBindPort = port := by
      simpa [lacks] using h.not_lacks hfew hmem
    refine ⟨i, hi, fun j hj ↦ ?_⟩
    have hport := (mem_mentioned.1 hmem).1
    exact h.distinct j hj.1 i hi.1 (by rwa [hj.2]) (by rw [hj.2, hi.2])
  · exact fun newer i hi ↦ remoteBindPort_append newer hi
  · intro port hmem
    rw [peek, h.find_of_few hfew, if_pos hmem]
  · exact hpeek
  · intro port now
    rw [isBackedOff, isBackedOff, hpeek]
  · intro port time
    by_cases hport : port = 0
    · rw [recordFailure, recordFailure, if_pos hport, if_pos hport]
    · have hall := h.call_of_few hfew (c := .failure port time) hport
      have hone := (hown port).call_of_few (hfew' port) (c := .failure port time) hport
      rw [BreakerCall.port, expected_own] at hone
      exact hall.trans hone.symm

/-- **The breaker refines a map from ports to cells**, and a ninth port changes nothing. -/
theorem breaker_refines_map (past : List BreakerCall) :
    ((mentioned past).card ≤ maxMappingHealth → RefinesMap past) ∧
      ((after past).full → ∀ c : BreakerCall, (after past).lacks c.port →
        (after past).call c = (false, after past)) :=
  ⟨refinesMap_of_few, fun hfull _ hlacks ↦ call_of_full hfull hlacks⟩

/-- Failures of two ports, one of which recovers. -/
def twoPorts : List BreakerCall :=
  [.failure 8080 7, .success 8022, .failure 8022 5, .failure 8080 3, .failure 8022 2, .failure 8080 1]

/-- A table that is full. -/
def eightPorts : List BreakerCall :=
  (List.range 8).map fun n ↦ .failure (8000 + (n : ℕ)) n

theorem breaker_refines_map_twoPorts :
    (after twoPorts).peek 8080 = some ⟨8080, 3, 1007⟩ ∧ RefinesMap twoPorts ∧
      (after eightPorts).call (.failure 9000 9) = (false, after eightPorts) :=
  ⟨by decide, (breaker_refines_map twoPorts).1 (by decide),
    (breaker_refines_map eightPorts).2 (by decide) _ (by decide)⟩

/-! ### Engaging -/

theorem delayMs_pos (fails : ℕ) : 0 < delayMs fails := by
  have : 0 < 2 ^ min 16 (fails - 3) := Nat.pow_pos (by decide)
  rw [delayMs]
  omega

theorem delayMs_le (fails : ℕ) : delayMs fails ≤ 60000 := Nat.min_le_left ..

/-- The cell of a port says whether it is backed off. -/
def isOpen (h : MappingHealth) (time : ℕ) : Bool :=
  h.backoffUntilMs != 0 && negative (stamp time - h.backoffUntilMs)

theorem isBackedOff_eq {h : MappingHealth} (hf : b.find port = some h) (time : ℕ) :
    b.isBackedOff port (stamp time) = isOpen h time := by
  rw [isBackedOff, hf]
  rfl

/-- The back-off that the next failure of the port applies. -/
def nextDelay (port : Int) (past : List BreakerCall) : ℕ := delayMs (min 100 (failures port past + 1))

/-- A failure at `time` backs the port off for `delay`: until then it is backed off, and another
failure of it is no new trip, whatever happens to other ports. -/
def EngagesFor (past : List BreakerCall) (port : Int) (time delay : ℕ) : Prop :=
  ∀ e < delay, ∀ others : List BreakerCall, (∀ c ∈ others, c.port ≠ port) →
    let b := after (others ++ .failure port time :: past)
    b.isBackedOff port (stamp (time + e)) = true ∧
      (b.recordFailure port (stamp (time + e))).1 = false ∧
      (b.recordFailure port (stamp (time + e))).2.totalTrips = b.totalTrips

theorem findOrAlloc_of_find {h : MappingHealth} (hf : b.find port = some h) :
    ∃ i, b.findOrAlloc port = some (i, b) ∧ b.health i = h := by
  rw [find] at hf
  split at hf
  · cases hf
  · obtain ⟨i, hi, rfl⟩ := Option.map_eq_some_iff.1 hf
    exact ⟨i, by rw [findOrAlloc, hi], rfl⟩

theorem port_ne_zero_of_find {h : MappingHealth} (hf : b.find port = some h) : port ≠ 0 := by
  rintro rfl
  exact nomatch (hf : none = some h)

/-- A port in the table is found after every further call. -/
theorem find_append (newer : List BreakerCall) (hf : ((after past).find port).isSome = true) :
    (after (newer ++ past)).find port = some (expected port (newer ++ past)) := by
  obtain ⟨h, hh⟩ := Option.isSome_iff_exists.1 hf
  have hport := port_ne_zero_of_find hh
  rcases hf' : (after (newer ++ past)).find port with - | e
  · have hlacks := (find_eq_none_iff hport).1 hf'
    have : ¬(after past).lacks port := by simp [← find_eq_none_iff hport, hh]
    simp only [lacks, not_forall, not_not] at this
    obtain ⟨i, hi, hip⟩ := this
    refine absurd ?_ (hlacks i hi)
    rw [remoteBindPort_append newer (by rwa [hip]), hip]
  · rw [(holds_after _).find_eq hf']

/-- What a failure says of a port that is open. -/
theorem recordFailure_of_isOpen {h : MappingHealth} {time : ℕ} (hf : b.find port = some h)
    (hopen : isOpen h time = true) :
    (b.recordFailure port (stamp time)).1 = false ∧
      (b.recordFailure port (stamp time)).2.totalTrips = b.totalTrips := by
  obtain ⟨i, hi, rfl⟩ := findOrAlloc_of_find hf
  have hcall := call_some (c := .failure port time) (port_ne_zero_of_find hf) hi
  have htrips : trips (b.health i) (.failure port time) = false := by
    rw [isOpen] at hopen
    rw [trips, hopen]
    exact Bool.and_false _
  rw [htrips] at hcall
  rw [call] at hcall
  rw [hcall]
  exact ⟨rfl, rfl⟩

/-- Before the deadline a cell is open, if the deadline is not taken for "not set". -/
theorem isOpen_of_lt {d time : ℕ} {h : MappingHealth} (hd : h.backoffUntilMs = stamp d)
    (hlt : time < d) (hle : d - time ≤ 60000) : isOpen h time = true ↔ ¬2 ^ 32 ∣ d := by
  have hneg : negative (stamp time - stamp d) = true := by
    rw [negative_iff, toNat_stamp_sub_of_lt hlt (by omega)]
    omega
  rw [isOpen, hd, hneg, Bool.and_true, bne_iff_ne, ne_eq, stamp_eq_zero_iff]

theorem backoffUntilMs_failure {time : ℕ} (hfails : failThreshold ≤ failures port past + 1) :
    (expected port (.failure port time :: past)).backoffUntilMs =
      stamp (time + nextDelay port past) := by
  rw [expected, windowEnd, failures, lastFailure, if_pos rfl, if_pos rfl, if_pos hfails]
  rfl

/-- **The breaker engages at every clock value** at which the deadline does not fall on a reading of
`0`, and at no other. -/
theorem engages_iff {time : ℕ} (hentry : ((after past).peek port).isSome = true)
    (hfails : ∀ h ∈ (after (.failure port time :: past)).peek port,
      failThreshold ≤ h.consecutiveFails) :
    EngagesFor past port time (nextDelay port past) ↔ ¬2 ^ 32 ∣ time + nextDelay port past := by
  have hfind others := find_append (others ++ [.failure port time]) hentry
  simp only [List.append_assoc, List.singleton_append] at hfind
  have hcell : ∀ others : List BreakerCall, (∀ c ∈ others, c.port ≠ port) →
      (expected port (others ++ .failure port time :: past)).backoffUntilMs =
        stamp (time + nextDelay port past) := by
    intro others hothers
    have hthird := hfails _ (hfind [])
    simp only [List.nil_append, expected, failures, if_true, failThreshold] at hthird
    rw [expected_append hothers]
    exact backoffUntilMs_failure (by simp only [failThreshold]; omega)
  have hle := delayMs_le (min 100 (failures port past + 1))
  constructor
  · intro h
    have hopen := (h 0 (delayMs_pos _) [] (by simp)).1
    rw [isBackedOff_eq (hfind [])] at hopen
    refine (isOpen_of_lt (hcell [] (by simp)) ?_ ?_).1 hopen
    · exact Nat.add_lt_add_left (delayMs_pos _) time
    · rw [nextDelay]
      omega
  · intro hset e he others hothers
    have hlt : time + e < time + nextDelay port past := Nat.add_lt_add_left he time
    have hwithin : time + nextDelay port past - (time + e) ≤ 60000 := by
      rw [nextDelay]
      omega
    have hopen := (isOpen_of_lt (hcell others hothers) hlt hwithin).2 hset
    exact ⟨by rw [isBackedOff_eq (hfind others), hopen], recordFailure_of_isOpen (hfind others) hopen⟩

/-- The third failure, just before the clock wraps. -/
theorem engages_beforeWrap :
    EngagesFor [.failure 8022 4294967290, .failure 8022 4294967290] 8022 4294967294 1000 :=
  (engages_iff (by decide) (by decide)).2 (by decide)

/-- The third failure comes a second before the clock wraps, and the deadline is taken for
"not set". -/
theorem not_engaged :
    ¬∀ (past : List BreakerCall) (port : Int) (time : ℕ), port ≠ 0 →
      ((after past).peek port).isSome = true →
      (∀ h ∈ (after (.failure port time :: past)).peek port, failThreshold ≤ h.consecutiveFails) →
      EngagesFor past port time (nextDelay port past) := by
  intro hall
  have h := hall [.failure 8022 0, .failure 8022 0] 8022 4294966296 (by decide) (by decide)
    (by decide)
  exact absurd (h 0 (by decide) [] (by simp)).1 (by decide)

/-! ### Releasing -/

/-- After the deadline a cell is open again for every second half of a turn of the clock. -/
theorem isOpen_of_le {d time : ℕ} {h : MappingHealth} (hd : h.backoffUntilMs = stamp d)
    (hle : d ≤ time) : isOpen h time = false ↔ 2 ^ 32 ∣ d ∨ (time - d) % 2 ^ 32 < 2 ^ 31 := by
  rw [← Bool.not_eq_true, isOpen, hd, Bool.and_eq_true, bne_iff_ne, ne_eq, stamp_eq_zero_iff,
    negative_iff, toNat_stamp_sub_stamp hle]
  omega

/-- **The breaker releases**, for every half turn of the clock that follows the end of the window, and
backs off again for every other half. -/
theorem released_iff {time : ℕ} (hlate : ∀ d ∈ windowEnd port past, d ≤ time) :
    (after past).isBackedOff port (stamp time) = false ↔
      (after past).peek port = none ∨
        ∀ d ∈ windowEnd port past, 2 ^ 32 ∣ d ∨ (time - d) % 2 ^ 32 < 2 ^ 31 := by
  rcases hf : (after past).find port with - | h
  · simp [isBackedOff, peek, hf]
  · rw [isBackedOff_eq hf, peek, hf, (holds_after past).find_eq hf]
    rcases hw : windowEnd port past with - | d
    · simp [isOpen, expected, hw]
    · have hd : (expected port past).backoffUntilMs = stamp d := by
        rw [expected, hw]
        rfl
      rw [isOpen_of_le hd (hlate d hw)]
      simp

/-- Three failures, the last at the given time. -/
def threeFailures (time : ℕ) : List BreakerCall :=
  [.failure 8022 time, .failure 8022 0, .failure 8022 0]

theorem released_threeFailures :
    windowEnd 8022 (threeFailures 300) = some 1300 ∧
      (after (threeFailures 300)).isBackedOff 8022 (stamp 1300) = false :=
  ⟨by decide, (released_iff (by decide)).2 (Or.inr (by decide))⟩

/-- The times of the failures, the newest first. -/
def times (past : List BreakerCall) : List ℕ := past.filterMap fun
  | .failure _ time => some time
  | .success _ => none

/-- Half a turn of the clock after the window the mapping is backed off again. -/
theorem not_released :
    ¬∀ (past : List BreakerCall) (port : Int) (time : ℕ), (times past).Pairwise (· ≥ ·) →
      (∀ d ∈ windowEnd port past, d ≤ time) →
      (after past).isBackedOff port (stamp time) = false := by
  intro hall
  have h := hall (threeFailures 300) 8022 (1300 + 2 ^ 31) (by decide) (by decide)
  exact absurd h (by decide)

end CircuitBreaker

end ReverseTunnel
