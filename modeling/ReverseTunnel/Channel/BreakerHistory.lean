import Mathlib.Data.Finset.Card
import Mathlib.Data.Finset.Image
import Mathlib.Tactic.IntervalCases
import ReverseTunnel.Channel.CircuitBreaker
import ReverseTunnel.Lib.Clock32

/-!
# What the circuit breaker remembers

The table of the circuit breaker, as a function of the history of the calls made on it. A history is
a list of calls, the newest first, and each call carries the **true** time at which it was made; the
breaker sees only the stamp of it.

The abstract breaker has an independent cell for each port: `expected port past` is the entry a port
has after a history in which its own calls are all that matters. `Holds b past` relates the table to
these cells: each entry in use is the cell of its port, no port has two entries, and a port that was
mentioned is in the table unless the table is **full**. One call keeps the relation, hence every
history does. The table never forgets a port, and a port that has come too late is never let in.
-/

namespace ReverseTunnel

open Clock32

/-- A call on the breaker, with its true time. -/
inductive BreakerCall where
  /-- `recordFailure` -/
  | failure (port : Int) (time : ℕ)
  /-- `recordSuccess` -/
  | success (port : Int)
  deriving DecidableEq

namespace BreakerCall

/-- The port of the call. -/
def port : BreakerCall → Int
  | failure port _ => port
  | success port => port

end BreakerCall

namespace CircuitBreaker

/-- The result of a call, `false` for `recordSuccess`, and the breaker after it. -/
def call (b : CircuitBreaker) : BreakerCall → Bool × CircuitBreaker
  | .failure port time => b.recordFailure port (stamp time)
  | .success port => (false, b.recordSuccess port)

/-- The breaker after calls on `b`, the newest first. -/
def afterCalls (b : CircuitBreaker) : List BreakerCall → CircuitBreaker
  | [] => b
  | c :: past => ((b.afterCalls past).call c).2

/-- The breaker after a history of calls. -/
def after (past : List BreakerCall) : CircuitBreaker := afterCalls {} past

@[simp] theorem after_nil : after [] = {} := rfl

@[simp] theorem after_cons (c : BreakerCall) (past : List BreakerCall) :
    after (c :: past) = ((after past).call c).2 := rfl

/-! ### The cell of a port -/

/-- The failures of the port since its last success. -/
def failures (port : Int) : List BreakerCall → ℕ
  | [] => 0
  | .failure q _ :: past => if q = port then failures port past + 1 else failures port past
  | .success q :: past => if q = port then 0 else failures port past

/-- The true time of the last failure of the port. -/
def lastFailure (port : Int) : List BreakerCall → ℕ
  | [] => 0
  | .failure q time :: past => if q = port then time else lastFailure port past
  | .success _ :: past => lastFailure port past

/-- The back-off after this many consecutive failures, in milliseconds. -/
def delayMs (fails : ℕ) : ℕ := min 60000 (1000 * 2 ^ min 16 (fails - 3))

/-- The end of the back-off window of the last failure, if the breaker is open. -/
def windowEnd (port : Int) (past : List BreakerCall) : Option ℕ :=
  if failThreshold ≤ failures port past then
    some (lastFailure port past + delayMs (min 100 (failures port past)))
  else none

/-- The entry of a port whose calls in the history were all heeded. -/
def expected (port : Int) (past : List BreakerCall) : MappingHealth where
  remoteBindPort := port
  consecutiveFails := min 100 (failures port past)
  backoffUntilMs := (windowEnd port past).elim 0 stamp

/-- The ports other than `0` that the history mentions. -/
def mentioned (past : List BreakerCall) : Finset Int :=
  ((past.map BreakerCall.port).filter (· ≠ 0)).toFinset

theorem delayFor_eq (fails : ℕ) : delayFor fails = stamp (delayMs fails) := by
  have hexp : min 16 (fails - 3) = min (fails - failThreshold) 16 := Nat.min_comm ..
  rw [delayFor, delayMs, hexp]
  have hle : min (fails - failThreshold) 16 ≤ 16 := Nat.min_le_right ..
  generalize min (fails - failThreshold) 16 = exp at hle
  interval_cases exp <;> decide

/-! ### Looking up and allocating -/

variable {b : CircuitBreaker} {port : Int} {i : ℕ} {past : List BreakerCall}

/-- No entry is free. -/
def full (b : CircuitBreaker) : Prop :=
  ∀ i < maxMappingHealth, (b.health i).remoteBindPort ≠ 0

/-- No entry is for the port. -/
def lacks (b : CircuitBreaker) (port : Int) : Prop :=
  ∀ i < maxMappingHealth, (b.health i).remoteBindPort ≠ port

instance (b : CircuitBreaker) : Decidable b.full :=
  inferInstanceAs (Decidable (∀ i < maxMappingHealth, _))

instance (b : CircuitBreaker) (port : Int) : Decidable (b.lacks port) :=
  inferInstanceAs (Decidable (∀ i < maxMappingHealth, _))

theorem of_indexOf (h : b.indexOf port = some i) :
    i < maxMappingHealth ∧ (b.health i).remoteBindPort = port := by
  rw [indexOf] at h
  exact ⟨List.mem_range.1 (List.mem_of_find?_eq_some h), by simpa using List.find?_some h⟩

theorem lacks_of_indexOf (h : b.indexOf port = none) : b.lacks port := by
  rw [indexOf, List.find?_eq_none] at h
  intro i hi
  simpa using h i (List.mem_range.2 hi)

theorem indexOf_of_lacks (h : b.lacks port) : b.indexOf port = none := by
  rw [indexOf, List.find?_eq_none]
  intro i hi
  simpa using h i (List.mem_range.1 hi)

/-- What `findOrAlloc` finds. -/
inductive Allocates (b : CircuitBreaker) (port : Int) : Option (ℕ × CircuitBreaker) → Prop
  /-- The port has an entry. -/
  | found (i : ℕ) (hi : i < maxMappingHealth) (hport : (b.health i).remoteBindPort = port) :
    Allocates b port (some (i, b))
  /-- It gets a free one. -/
  | fresh (i : ℕ) (hi : i < maxMappingHealth) (hlacks : b.lacks port)
    (hfree : (b.health i).remoteBindPort = 0) :
    Allocates b port
      (some (i, { b with health := Function.update b.health i { remoteBindPort := port } }))
  /-- There is none. -/
  | none (hlacks : b.lacks port) (hfull : b.full) : Allocates b port none

theorem allocates_findOrAlloc (b : CircuitBreaker) (port : Int) :
    Allocates b port (b.findOrAlloc port) := by
  rw [findOrAlloc]
  rcases hport : b.indexOf port with - | i
  · rcases hfree : b.indexOf 0 with - | i
    · exact .none (lacks_of_indexOf hport) (lacks_of_indexOf hfree)
    · exact .fresh i (of_indexOf hfree).1 (lacks_of_indexOf hport) (of_indexOf hfree).2
  · exact .found i (of_indexOf hport).1 (of_indexOf hport).2

/-! ### One call -/

/-- One more failure, counted up to a bound. -/
def countFailure (fails : ℕ) : ℕ := if fails < 100 then fails + 1 else fails

/-- The entry of a port after a call on it. -/
def heed (h : MappingHealth) : BreakerCall → MappingHealth
  | .failure _ time =>
    { h with
      consecutiveFails := countFailure h.consecutiveFails
      backoffUntilMs :=
        if countFailure h.consecutiveFails ≥ failThreshold then
          stamp time + delayFor (countFailure h.consecutiveFails)
        else h.backoffUntilMs }
  | .success _ => { h with consecutiveFails := 0, backoffUntilMs := 0 }

/-- Whether a call on a port with this entry engages the back-off. -/
def trips (h : MappingHealth) : BreakerCall → Bool
  | .failure _ time =>
    countFailure h.consecutiveFails ≥ failThreshold &&
      !(h.backoffUntilMs != 0 && negative (stamp time - h.backoffUntilMs))
  | .success _ => false

@[simp] theorem heed_remoteBindPort (h : MappingHealth) (c : BreakerCall) :
    (heed h c).remoteBindPort = h.remoteBindPort := by
  cases c <;> rfl

theorem call_zero {c : BreakerCall} (hc : c.port = 0) : b.call c = (false, b) := by
  cases c with
  | failure q time => exact if_pos hc
  | success q => exact congrArg _ (if_pos hc)

theorem call_none {c : BreakerCall} (h : b.findOrAlloc c.port = none) : b.call c = (false, b) := by
  cases c with
  | failure q time =>
    rw [BreakerCall.port] at h
    rw [call, recordFailure, h]
    exact ite_self _
  | success q =>
    rw [BreakerCall.port] at h
    rw [call, recordSuccess, h]
    exact congrArg _ (ite_self _)

theorem recordFailure_some {b' : CircuitBreaker} {now : UInt32} (hport : port ≠ 0)
    (h : b.findOrAlloc port = some (i, b')) :
    b.recordFailure port now =
      let h := b'.health i
      let fails := countFailure h.consecutiveFails
      if fails ≥ failThreshold then
        let h' := { h with consecutiveFails := fails, backoffUntilMs := now + delayFor fails }
        let b'' := { b' with health := Function.update b'.health i h' }
        if h.backoffUntilMs != 0 && negative (now - h.backoffUntilMs) then (false, b'')
        else (true, { b'' with totalTrips := b''.totalTrips + 1 })
      else
        (false,
          { b' with health := Function.update b'.health i { h with consecutiveFails := fails } }) := by
  rw [recordFailure, if_neg hport, h]
  rfl

/-- A call heeds the entry it finds, and counts a trip. -/
theorem call_some {c : BreakerCall} {b' : CircuitBreaker} (hc : c.port ≠ 0)
    (h : b.findOrAlloc c.port = some (i, b')) :
    b.call c = (trips (b'.health i) c,
      { health := Function.update b'.health i (heed (b'.health i) c)
        totalTrips := b'.totalTrips + (trips (b'.health i) c).toNat }) := by
  cases c with
  | failure q time =>
    rw [BreakerCall.port] at h hc
    rw [call, recordFailure_some hc h]
    by_cases hge : countFailure (b'.health i).consecutiveFails ≥ failThreshold
    · rcases hopen : ((b'.health i).backoffUntilMs != 0 &&
        negative (stamp time - (b'.health i).backoffUntilMs)) <;> simp [trips, heed, hge, hopen]
    · simp [trips, heed, hge]
  | success q =>
    rw [BreakerCall.port] at h hc
    rw [call, recordSuccess, if_neg hc, h]
    rfl

/-! ### The cells of a history -/

theorem expected_cons_of_ne {c : BreakerCall} (hc : c.port ≠ port) :
    expected port (c :: past) = expected port past := by
  cases c with
  | failure q time =>
    rw [BreakerCall.port] at hc
    simp [expected, windowEnd, failures, lastFailure, hc]
  | success q =>
    rw [BreakerCall.port] at hc
    simp [expected, windowEnd, failures, lastFailure, hc]

theorem expected_append {newer : List BreakerCall} (h : ∀ c ∈ newer, c.port ≠ port) :
    expected port (newer ++ past) = expected port past := by
  induction newer with
  | nil => rfl
  | cons c newer ih =>
    rw [List.cons_append, expected_cons_of_ne (h c (List.mem_cons_self ..))]
    exact ih fun x hx ↦ h x (List.mem_cons_of_mem _ hx)

theorem countFailure_min (n : ℕ) : countFailure (min 100 n) = min 100 (n + 1) := by
  rw [countFailure]
  split <;> omega

/-- The cell of a port heeds the calls on the port. -/
theorem heed_expected {c : BreakerCall} (hc : c.port = port) :
    heed (expected port past) c = expected port (c :: past) := by
  cases c with
  | failure q time =>
    obtain rfl : q = port := hc
    simp only [heed, expected, failures, windowEnd, lastFailure, if_true, countFailure_min]
    by_cases hge : failThreshold ≤ failures q past + 1
    · have hmin : min 100 (failures q past + 1) ≥ failThreshold := by
        simp only [failThreshold] at hge ⊢
        omega
      rw [if_pos hmin, if_pos hge, delayFor_eq, ← stamp_add]
      rfl
    · have hmin : ¬min 100 (failures q past + 1) ≥ failThreshold := by
        simp only [failThreshold] at hge ⊢
        omega
      have hlt : ¬failThreshold ≤ failures q past := by omega
      rw [if_neg hmin, if_neg hlt, if_neg hge]
  | success q =>
    obtain rfl : q = port := hc
    simp [heed, expected, failures, windowEnd, failThreshold]

theorem mem_mentioned : port ∈ mentioned past ↔ port ≠ 0 ∧ ∃ c ∈ past, c.port = port := by
  simp only [mentioned, List.mem_toFinset, List.mem_filter, List.mem_map, decide_eq_true_eq]
  exact and_comm

theorem mem_mentioned_cons {c : BreakerCall} :
    port ∈ mentioned (c :: past) ↔ port ≠ 0 ∧ c.port = port ∨ port ∈ mentioned past := by
  simp only [mem_mentioned, List.mem_cons, exists_eq_or_imp, and_or_left]

/-- A port that was not mentioned has a fresh cell. -/
theorem expected_of_not_mem (hport : port ≠ 0) (h : port ∉ mentioned past) :
    expected port past = { remoteBindPort := port } := by
  have hne : ∀ c ∈ past, c.port ≠ port := fun c hc heq ↦ h (mem_mentioned.2 ⟨hport, c, hc, heq⟩)
  have : expected port (past ++ []) = expected port [] := expected_append hne
  rw [List.append_nil] at this
  rw [this]
  rfl

/-! ### The table holds the cells -/

/-- The table after a history, in terms of the cells. -/
structure Holds (b : CircuitBreaker) (past : List BreakerCall) : Prop where
  /-- No port has two entries. -/
  distinct : ∀ i < maxMappingHealth, ∀ j < maxMappingHealth, (b.health i).remoteBindPort ≠ 0 →
    (b.health i).remoteBindPort = (b.health j).remoteBindPort → i = j
  /-- An entry in use is the cell of its port. -/
  entry : ∀ i < maxMappingHealth, (b.health i).remoteBindPort ≠ 0 →
    b.health i = expected (b.health i).remoteBindPort past
  /-- Its port was mentioned. -/
  known : ∀ i < maxMappingHealth, (b.health i).remoteBindPort ≠ 0 →
    (b.health i).remoteBindPort ∈ mentioned past
  /-- A port that was mentioned is in the table, unless that is full. -/
  present : ∀ port ∈ mentioned past, b.lacks port → b.full

/-- A table in which one entry, for the port of the call, heeds the call. -/
theorem Holds.update {c : BreakerCall} {b' : CircuitBreaker} (h : Holds b past) (hc : c.port ≠ 0)
    (hi : i < maxMappingHealth) (hcell : b'.health i = expected c.port (c :: past))
    (hrest : ∀ j, j ≠ i → b'.health j = b.health j)
    (hold : ∀ j < maxMappingHealth, j ≠ i → (b.health j).remoteBindPort ≠ c.port)
    (hport : (b.health i).remoteBindPort = c.port ∨ (b.health i).remoteBindPort = 0) :
    Holds b' (c :: past) := by
  have hporti : (b'.health i).remoteBindPort = c.port := by rw [hcell]; rfl
  constructor
  · intro j hj k hk hj0 hjk
    by_cases hji : j = i <;> by_cases hki : k = i
    · rw [hji, hki]
    · rw [hji, hporti, hrest k hki] at hjk
      exact absurd hjk.symm (hold k hk hki)
    · rw [hki, hporti, hrest j hji] at hjk
      exact absurd hjk (hold j hj hji)
    · rw [hrest j hji] at hj0 hjk
      rw [hrest k hki] at hjk
      exact h.distinct j hj k hk hj0 hjk
  · intro j hj hj0
    by_cases hji : j = i
    · rw [hji, hporti, hcell]
    · rw [hrest j hji] at hj0 ⊢
      rw [expected_cons_of_ne (hold j hj hji).symm]
      exact h.entry j hj hj0
  · intro j hj hj0
    rw [mem_mentioned_cons]
    by_cases hji : j = i
    · rw [hji, hporti]
      exact Or.inl ⟨hc, rfl⟩
    · rw [hrest j hji] at hj0 ⊢
      exact Or.inr (h.known j hj hj0)
  · intro q hq hlacks j hj hj0
    rcases mem_mentioned_cons.1 hq with ⟨-, rfl⟩ | hq
    · exact hlacks i hi hporti
    · -- The port was in the table before, unless that was full; both still hold.
      by_cases hji : j = i
      · rw [hji, hporti] at hj0
        exact hc hj0
      · have hfull : b.full := by
          refine h.present q hq fun k hk hkq ↦ ?_
          by_cases hki : k = i
          · subst hki
            rcases hport with hport | hport
            · exact hlacks k hk (by rw [hporti, ← hport, hkq])
            · exact (mem_mentioned.1 hq).1 (by rw [← hkq, hport])
          · exact hlacks k hk (by rw [hrest k hki, hkq])
        rw [hrest j hji] at hj0
        exact hfull j hj hj0

/-- A call that is not heeded. -/
theorem Holds.ignore {c : BreakerCall} (h : Holds b past) (hlacks : c.port ≠ 0 → b.lacks c.port)
    (hfull : c.port ≠ 0 → b.full) : Holds b (c :: past) := by
  constructor
  · exact h.distinct
  · intro i hi hi0
    have hne : c.port ≠ (b.health i).remoteBindPort := by
      intro heq
      exact hlacks (by rwa [heq]) i hi heq.symm
    rw [expected_cons_of_ne hne]
    exact h.entry i hi hi0
  · intro i hi hi0
    exact mem_mentioned_cons.2 (Or.inr (h.known i hi hi0))
  · intro q hq hq'
    rcases mem_mentioned_cons.1 hq with ⟨hq0, rfl⟩ | hq
    · exact hfull hq0
    · exact h.present q hq hq'

theorem Holds.call (h : Holds b past) (c : BreakerCall) : Holds (b.call c).2 (c :: past) := by
  by_cases hc : c.port = 0
  · rw [call_zero hc]
    exact h.ignore (fun hc' ↦ absurd hc hc') fun hc' ↦ absurd hc hc'
  · have halloc := allocates_findOrAlloc b c.port
    rcases hf : b.findOrAlloc c.port with - | ⟨i, b'⟩ <;> rw [hf] at halloc
    · rw [call_none hf]
      cases halloc with
      | none hlacks hfull => exact h.ignore (fun _ ↦ hlacks) fun _ ↦ hfull
    · rw [call_some hc hf]
      cases halloc with
      | found i hi hport =>
        refine h.update hc hi ?_ (fun j hj ↦ Function.update_of_ne hj ..) ?_ (Or.inl hport)
        · show Function.update b.health i _ i = _
          rw [Function.update_self, h.entry i hi (by rwa [hport]), hport]
          exact heed_expected rfl
        · intro j hj hji hjc
          exact hji (h.distinct j hj i hi (by rwa [hjc]) (by rw [hjc, hport]))
      | fresh i hi hlacks hfree =>
        have hnew : c.port ∉ mentioned past := fun hmem ↦ h.present _ hmem hlacks i hi hfree
        refine h.update hc hi ?_ (fun j hj ↦ ?_) (fun j hj _ ↦ hlacks j hj) (Or.inr hfree)
        · show Function.update (Function.update b.health i _) i
            (heed (Function.update b.health i { remoteBindPort := c.port } i) c) i = _
          rw [Function.update_self, Function.update_self, ← expected_of_not_mem hc hnew]
          exact heed_expected rfl
        · show Function.update (Function.update b.health i _) i _ j = _
          rw [Function.update_of_ne hj, Function.update_of_ne hj]

/-- **The table holds the cells**, after every history. -/
theorem holds_after (past : List BreakerCall) : Holds (after past) past := by
  induction past with
  | nil =>
    constructor
    · intro i _ j _ hi0
      exact absurd rfl hi0
    · intro i _ hi0
      exact absurd rfl hi0
    · intro i _ hi0
      exact absurd rfl hi0
    · intro q hq
      exact absurd hq (by simp [mentioned])
  | cons c past ih => exact ih.call c

/-! ### What can be read from the table -/

/-- What is found for a port is its cell. -/
theorem Holds.find_eq (h : Holds b past) {e : MappingHealth} (hf : b.find port = some e) :
    e = expected port past := by
  rw [find] at hf
  split at hf
  · cases hf
  · next hport =>
    obtain ⟨i, hi, rfl⟩ := Option.map_eq_some_iff.1 hf
    obtain ⟨hlt, hi'⟩ := of_indexOf hi
    have := h.entry i hlt (by rwa [hi'])
    rwa [hi'] at this

theorem find_eq_none_iff (hport : port ≠ 0) : b.find port = none ↔ b.lacks port := by
  rw [find, if_neg hport, Option.map_eq_none_iff]
  exact ⟨lacks_of_indexOf, indexOf_of_lacks⟩

/-- Eight ports and another one would be nine. -/
theorem Holds.not_lacks (h : Holds b past) (hfew : (mentioned past).card ≤ maxMappingHealth)
    (hmem : port ∈ mentioned past) : ¬b.lacks port := by
  intro hlacks
  have hfull := h.present port hmem hlacks
  let ports := (Finset.range maxMappingHealth).image fun i ↦ (b.health i).remoteBindPort
  have hcard : ports.card = maxMappingHealth := by
    rw [Finset.card_image_of_injOn, Finset.card_range]
    intro i hi j hj hij
    have hi := Finset.mem_range.1 hi
    exact h.distinct i hi j (Finset.mem_range.1 hj) (hfull i hi) hij
  have hnotin : port ∉ ports := by
    intro hin
    obtain ⟨i, hi, hip⟩ := Finset.mem_image.1 hin
    exact hlacks i (Finset.mem_range.1 hi) hip
  have hsub : insert port ports ⊆ mentioned past := by
    intro q hq
    rcases Finset.mem_insert.1 hq with rfl | hq
    · exact hmem
    · obtain ⟨i, hi, rfl⟩ := Finset.mem_image.1 hq
      have hi := Finset.mem_range.1 hi
      exact h.known i hi (hfull i hi)
  have hle := Finset.card_le_card hsub
  rw [Finset.card_insert_of_notMem hnotin, hcard] at hle
  omega

/-- A port in the table keeps its entry. -/
theorem remoteBindPort_call {c : BreakerCall} (hi : (b.health i).remoteBindPort ≠ 0) :
    ((b.call c).2.health i).remoteBindPort = (b.health i).remoteBindPort := by
  by_cases hc : c.port = 0
  · rw [call_zero hc]
  · have halloc := allocates_findOrAlloc b c.port
    rcases hf : b.findOrAlloc c.port with - | ⟨j, b'⟩ <;> rw [hf] at halloc
    · rw [call_none hf]
    · rw [call_some hc hf]
      show (Function.update b'.health j _ i).remoteBindPort = _
      cases halloc with
      | found j hj hport =>
        by_cases hij : i = j
        · subst hij
          rw [Function.update_self, heed_remoteBindPort]
        · rw [Function.update_of_ne hij]
      | fresh j hj hlacks hfree =>
        have hij : i ≠ j := fun heq ↦ hi (by rw [heq, hfree])
        rw [Function.update_of_ne hij]
        show (Function.update b.health j _ i).remoteBindPort = _
        rw [Function.update_of_ne hij]

theorem remoteBindPort_append (newer : List BreakerCall)
    (hi : ((after past).health i).remoteBindPort ≠ 0) :
    ((after (newer ++ past)).health i).remoteBindPort = ((after past).health i).remoteBindPort := by
  induction newer with
  | nil => rfl
  | cons c newer ih =>
    rw [List.cons_append, after_cons, remoteBindPort_call (by rwa [ih]), ih]

/-- A call on a port that is not in a full table. -/
theorem call_of_full {c : BreakerCall} (hfull : b.full) (hlacks : b.lacks c.port) :
    b.call c = (false, b) := by
  apply call_none
  rw [findOrAlloc, indexOf_of_lacks hlacks, indexOf_of_lacks hfull]

end CircuitBreaker

end ReverseTunnel
