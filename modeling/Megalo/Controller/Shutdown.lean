import Megalo.Redis.Client

/-! subscribeStateUpdates of apps/controller-service/cmd/server/main.go: which messages of
the states channel make the controller shut a slave process down. -/
namespace Megalo.Controller

open Redis

/-- observedStateStore -/
abbrev ObservedStates := String → Option SlaveState

def observedKey (state : SlaveState) : String := state.sessionID ++ ":" ++ state.slaveID

def remember (states : ObservedStates) (state : SlaveState) : SlaveState × ObservedStates :=
  ((states (observedKey state)).getD SlaveState.zero,
    Function.update states (observedKey state) (some state))

def isGoneTransition (previous current : SlaveState) : Bool :=
  previous.status != .gone && current.status == .gone

inductive Notified
  | skipped
  | shutdown (podIP reason : String) (ok : Bool)
  deriving DecidableEq

/-- notifyGoneSlave; the last argument says whether dialing and the Shutdown call succeed. -/
def notifyGoneSlave (previous current : SlaveState) (ok : Bool) : Notified :=
  if !isGoneTransition previous current || current.podIP == "" then .skipped
  else .shutdown current.podIP current.deathReason.text ok

/-- A message of the states channel, and the fate of a Shutdown call made for it. -/
structure Delivery where
  payload : Payload
  ok : Bool

/-- One turn of the loop of subscribeStateUpdates. -/
def observe (states : ObservedStates) (d : Delivery) : Notified × ObservedStates :=
  match decodeSlaveState d.payload with
  | .error _ => (.skipped, states)
  | .ok state =>
    let (previous, states) := remember states state
    (notifyGoneSlave previous state d.ok, states)

def observed (stream : List Delivery) : ObservedStates :=
  stream.foldl (fun states d => (observe states d).2) fun _ => none

/-- What the loop does for the i-th message. -/
def notified (stream : List Delivery) (i : Nat) : Option Notified :=
  (stream[i]?).map fun d => (observe (observed (stream.take i)) d).1

def Delivery.state (d : Delivery) : Option SlaveState :=
  match d.payload with
  | .slave state => some state
  | _ => none

/-- The i-th message is a state of the slave. -/
def Tells (stream : List Delivery) (i : Nat) (S id : String) (state : SlaveState) (ok : Bool) :
    Prop :=
  stream[i]? = some ⟨.slave state, ok⟩ ∧ state.sessionID = S ∧ state.slaveID = id

def ShutDown (stream : List Delivery) (i : Nat) (S id : String) : Prop :=
  ∃ state ok podIP reason, Tells stream i S id state ok ∧
    notified stream i = some (.shutdown podIP reason true)

/-- Each slave is shut down at most once, and every GONE message tries until it is. -/
structure ExactlyOnce (stream : List Delivery) : Prop where
  once : ∀ S id i j, ShutDown stream i S id → ShutDown stream j S id → i = j
  tried : ∀ S id i state ok, Tells stream i S id state ok → state.status = .gone →
    state.podIP ≠ "" → (∀ j < i, ¬ ShutDown stream j S id) →
      ∃ result, notified stream i = some (.shutdown state.podIP state.deathReason.text result)

/-- The last state before the i-th message under its key. -/
def lastObserved (stream : List Delivery) (k : String) : Option SlaveState :=
  (stream.filterMap Delivery.state).reverse.find? fun state => observedKey state == k

/-- A state with an address turns GONE: what came last under its key is not GONE. -/
def TurnsGone (stream : List Delivery) (i : Nat) (state : SlaveState) : Prop :=
  isGoneTransition ((lastObserved (stream.take i) (observedKey state)).getD SlaveState.zero)
    state = true ∧ state.podIP ≠ ""

/-- The state that the i-th message tells. -/
def stateAt (stream : List Delivery) (i : Nat) : Option SlaveState :=
  (stream[i]?).bind Delivery.state

/-- Of the messages before the i-th, the j-th is the last under the key. -/
structure LastBefore (stream : List Delivery) (i : Nat) (k : String) (j : Nat)
    (previous : SlaveState) : Prop where
  before : j < i
  told : stateAt stream j = some previous
  key : observedKey previous = k
  last : ∀ m state, j < m → m < i → stateAt stream m = some state → observedKey state ≠ k

/-- The i-th message turns its slave GONE: no message comes before it under its key, or the last
one there is not GONE. -/
def GoneTransition (stream : List Delivery) (i : Nat) (state : SlaveState) : Prop :=
  state.status = .gone ∧
    ∀ j previous, LastBefore stream i (observedKey state) j previous → previous.status ≠ .gone

def Attempted (stream : List Delivery) (i : Nat) : Prop :=
  ∃ podIP reason ok, notified stream i = some (.shutdown podIP reason ok)

/-- Where the controller tries to shut a slave down, whatever becomes of it. -/
structure ShutDownAtTransitions (stream : List Delivery) : Prop where
  /-- A message that turns a slave with an address GONE makes one attempt. -/
  attempted : ∀ i S id state ok, Tells stream i S id state ok → GoneTransition stream i state →
    state.podIP ≠ "" →
      notified stream i = some (.shutdown state.podIP state.deathReason.text ok)
  /-- No other message does. -/
  turned : ∀ i, Attempted stream i →
    ∃ state, stateAt stream i = some state ∧ GoneTransition stream i state ∧ state.podIP ≠ ""
  /-- Between two attempts under one key the slave was not GONE. -/
  apart : ∀ i j earlier later, i < j → Attempted stream i → Attempted stream j →
    stateAt stream i = some earlier → stateAt stream j = some later →
      observedKey earlier = observedKey later → ∃ m between, i < m ∧ m < j ∧
        stateAt stream m = some between ∧ observedKey between = observedKey later ∧
          between.status ≠ .gone

section Stream

variable {stream : List Delivery} {i : Nat} {S id : String} {state : SlaveState} {ok : Bool}

theorem observe_states (states : ObservedStates) (d : Delivery) (k : String) :
    (observe states d).2 k =
      (d.state.filter fun state => observedKey state == k).or (states k) := by
  obtain ⟨payload, ok⟩ := d
  cases payload with
  | slave state =>
    simp only [observe, decodeSlaveState, remember, Delivery.state, Option.filter]
    by_cases same : observedKey state = k
    · subst same
      simp
    · simp [same, Function.update_of_ne (Ne.symm same)]
  | _ => rfl

/-- The store holds what came last under each key. -/
theorem observed_last (stream : List Delivery) (k : String) :
    observed stream k = lastObserved stream k := by
  induction stream using List.reverseRecOn with
  | nil => rfl
  | append_singleton stream d ih =>
    rw [observed, List.foldl_append, ← observed, List.foldl_cons, List.foldl_nil, observe_states,
      ih, lastObserved, lastObserved, List.filterMap_append, List.reverse_append,
      List.find?_append]
    congr 1
    cases kind : d.state with
    | none => simp [kind]
    | some state =>
      by_cases same : observedKey state = k <;> simp [kind, Option.filter, same]

theorem notified_tells (tells : Tells stream i S id state ok) :
    notified stream i = some (notifyGoneSlave
      ((lastObserved (stream.take i) (observedKey state)).getD SlaveState.zero) state ok) := by
  simp only [notified, tells.1, Option.map_some, observe, decodeSlaveState, remember,
    observed_last]

/-- A message makes an attempt exactly when it turns its slave GONE. -/
theorem notified_shutdown (tells : Tells stream i S id state ok) {podIP reason : String}
    {result : Bool} : notified stream i = some (.shutdown podIP reason result) ↔
      TurnsGone stream i state ∧ podIP = state.podIP ∧ reason = state.deathReason.text ∧
        result = ok := by
  rw [notified_tells tells, Option.some.injEq, notifyGoneSlave, TurnsGone]
  split
  · rename_i skipped
    simp only [Bool.or_eq_true, Bool.not_eq_true', beq_iff_eq] at skipped
    refine iff_of_false nofun fun turns => ?_
    rcases skipped with stays | nowhere
    · rw [turns.1.1] at stays
      cases stays
    · exact turns.1.2 nowhere
  · rename_i sent
    simp only [Bool.or_eq_true, Bool.not_eq_true', beq_iff_eq, not_or, Bool.not_eq_false] at sent
    rw [and_iff_right sent, Notified.shutdown.injEq]
    simp only [eq_comm]

theorem ShutDown.told (shut : ShutDown stream i S id) :
    ∃ state, Tells stream i S id state true := by
  obtain ⟨state, ok, podIP, reason, tells, sent⟩ := shut
  obtain ⟨-, -, -, rfl⟩ := (notified_shutdown tells).mp sent
  exact ⟨state, tells⟩

theorem lastObserved_succ (stream : List Delivery) (i : Nat) (k : String) :
    lastObserved (stream.take (i + 1)) k =
      ((stateAt stream i).filter fun state => observedKey state == k).or
        (lastObserved (stream.take i) k) := by
  rw [← observed_last, ← observed_last, List.take_add_one, observed, List.foldl_append, ← observed,
    stateAt]
  cases stream[i]? with
  | none => rfl
  | some d => exact observe_states _ d k

variable {k : String} {j : Nat} {previous : SlaveState}

theorem LastBefore.succ (last : LastBefore stream i k j previous)
    (other : ∀ state, stateAt stream i = some state → observedKey state ≠ k) :
    LastBefore stream (i + 1) k j previous where
  before := Nat.lt_succ_of_lt last.before
  told := last.told
  key := last.key
  last m state after before told := by
    rcases Nat.lt_succ_iff_lt_or_eq.mp before with earlier | rfl
    · exact last.last m state after earlier told
    · exact other state told

/-- The store is asked for the last message under the key. -/
theorem lastObserved_iff : lastObserved (stream.take i) k = some previous ↔
    ∃ j, LastBefore stream i k j previous := by
  induction i with
  | zero => exact iff_of_false nofun fun ⟨_, last⟩ => absurd last.before (Nat.not_lt_zero _)
  | succ i ih =>
    rw [lastObserved_succ]
    cases told : (stateAt stream i).filter fun state => observedKey state == k with
    | some state =>
      obtain ⟨here, key⟩ := Option.filter_eq_some_iff.mp told
      rw [Option.some_or, Option.some.injEq]
      have key : observedKey state = k := beq_iff_eq.mp key
      constructor
      · rintro rfl
        exact ⟨i, Nat.lt_succ_self i, here, key, fun m _ after before => by omega⟩
      · rintro ⟨j, last⟩
        rcases Nat.lt_succ_iff_lt_or_eq.mp last.before with earlier | rfl
        · exact absurd key (last.last i state earlier (Nat.lt_succ_self i) here)
        · exact Option.some.inj (here.symm.trans last.told)
    | none =>
      have other (state : SlaveState) (here : stateAt stream i = some state) :
          observedKey state ≠ k := by
        rw [here, Option.filter_some] at told
        split at told
        · cases told
        · exact fun key => absurd (beq_iff_eq.mpr key) ‹_›
      rw [Option.none_or, ih]
      constructor
      · exact fun ⟨j, last⟩ => ⟨j, last.succ other⟩
      · rintro ⟨j, last⟩
        refine ⟨j, ?_, last.told, last.key, fun m state after before =>
          last.last m state after (Nat.lt_succ_of_lt before)⟩
        rcases Nat.lt_succ_iff_lt_or_eq.mp last.before with earlier | rfl
        · exact earlier
        · exact absurd last.key (other previous last.told)

theorem turnsGone_iff :
    TurnsGone stream i state ↔ GoneTransition stream i state ∧ state.podIP ≠ "" := by
  unfold TurnsGone GoneTransition isGoneTransition
  rw [Bool.and_eq_true, bne_iff_ne, beq_iff_eq]
  refine and_congr_left fun _ => and_comm.trans (and_congr_right fun _ => ?_)
  cases last : lastObserved (stream.take i) (observedKey state) with
  | none =>
    refine iff_of_true nofun fun j previous before => ?_
    cases last.symm.trans (lastObserved_iff.mpr ⟨j, before⟩)
  | some previous =>
    constructor
    · intro stays j other before
      cases last.symm.trans (lastObserved_iff.mpr ⟨j, before⟩)
      exact stays
    · intro all
      obtain ⟨j, before⟩ := lastObserved_iff.mp last
      exact all j previous before

/-- A message under the key has a last one after it or is that itself. -/
theorem last_exists (told : stateAt stream i = some state) (before : i < j) :
    ∃ m previous, i ≤ m ∧ LastBefore stream j (observedKey state) m previous := by
  induction j with
  | zero => exact absurd before (Nat.not_lt_zero i)
  | succ j ih =>
    by_cases here : ∃ other, stateAt stream j = some other ∧ observedKey other = observedKey state
    · obtain ⟨other, there, key⟩ := here
      exact ⟨j, other, Nat.lt_succ_iff.mp before, Nat.lt_succ_self j, there, key,
        fun m _ after before => by omega⟩
    · rcases Nat.lt_succ_iff_lt_or_eq.mp before with earlier | rfl
      · obtain ⟨m, previous, since, last⟩ := ih earlier
        exact ⟨m, previous, since, last.succ fun other there key => here ⟨other, there, key⟩⟩
      · exact absurd ⟨state, told, rfl⟩ here

theorem tells_of_stateAt (told : stateAt stream i = some state) :
    ∃ ok, Tells stream i state.sessionID state.slaveID state ok := by
  obtain ⟨⟨payload, ok⟩, found, told⟩ := Option.bind_eq_some_iff.mp told
  cases payload with
  | slave state' =>
    cases told
    exact ⟨ok, found, rfl, rfl⟩
  | _ => cases told

theorem stateAt_of_attempted (attempted : Attempted stream i) :
    ∃ state, stateAt stream i = some state := by
  obtain ⟨podIP, reason, ok, sent⟩ := attempted
  obtain ⟨⟨payload, ok'⟩, found, sent⟩ := Option.map_eq_some_iff.mp sent
  cases payload with
  | slave state => exact ⟨state, by rw [stateAt, found]; rfl⟩
  | _ => cases sent

theorem Attempted.turns (attempted : Attempted stream i) (told : stateAt stream i = some state) :
    GoneTransition stream i state ∧ state.podIP ≠ "" := by
  obtain ⟨podIP, reason, ok, sent⟩ := attempted
  obtain ⟨ok', tells⟩ := tells_of_stateAt told
  exact turnsGone_iff.mp ((notified_shutdown tells).mp sent).1

/-- Each transition to GONE is tried exactly once, and nothing else is. -/
theorem shutdown_exactly_once (stream : List Delivery) : ShutDownAtTransitions stream := by
  constructor
  · intro i S id state ok tells turns address
    exact (notified_shutdown tells).mpr ⟨turnsGone_iff.mpr ⟨turns, address⟩, rfl, rfl, rfl⟩
  · intro i attempted
    obtain ⟨state, told⟩ := stateAt_of_attempted attempted
    exact ⟨state, told, attempted.turns told⟩
  · intro i j earlier later order first second told told' key
    have gone := (first.turns told).1.1
    obtain ⟨m, between, since, last⟩ := last_exists told order
    rw [key] at last
    have changed := (second.turns told').1.2 m between last
    refine ⟨m, between, lt_of_le_of_ne since ?_, last.before, last.told, last.key, changed⟩
    rintro rfl
    cases told.symm.trans last.told
    exact changed gone

/-- A slave is reported GONE, its Shutdown call fails, and the end of the session reports it
once more. -/
def republished : List Delivery := [⟨.slave (.sample .gone), false⟩, ⟨.slave (.sample .gone), true⟩]

/-- The second report makes no attempt. -/
theorem shutdown_not_repeated : ¬ ExactlyOnce republished := by
  intro exactly
  have fails : notified republished 0 =
      some (.shutdown "10.0.0.10" "DEATH_REASON_UNSPECIFIED" false) := by decide +kernel
  have skips : notified republished 1 = some .skipped := by decide +kernel
  have undone : ∀ j < 1, ¬ ShutDown republished j UUID.sample.text UUID.sampleSlave.text := by
    rintro j before ⟨_, _, podIP, reason, _, succeeded⟩
    obtain rfl : j = 0 := by omega
    rw [fails] at succeeded
    cases succeeded
  obtain ⟨result, sent⟩ := exactly.tried UUID.sample.text UUID.sampleSlave.text 1 (.sample .gone)
    true ⟨rfl, rfl, rfl⟩ rfl (by decide) undone
  rw [skips] at sent
  cases sent

end Stream

end Megalo.Controller
