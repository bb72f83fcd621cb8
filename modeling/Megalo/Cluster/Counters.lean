import Megalo.Cluster.Records

/-! The counters of the session against its records. A record is written first and counted
later, so every thread in between owes the counters what its write has changed. -/
namespace Megalo.Cluster

open Redis Slave Transition

def counter (terminal : Bool) (m : SessionMetrics) : Int :=
  if terminal then m.goneSlaves.toInt else m.liveSlaves.toInt

/-- A slave record of the session in one of the two classes. -/
def countedAs (S : UUID) (terminal : Bool) (key : String) : Payload → Bool
  | .slave state => glob (sessionSlavePattern S.text).toList key.toList &&
    isTerminalState state.status == terminal
  | _ => false

def recordCount (S : UUID) (r : Server) (terminal : Bool) : Nat :=
  r.store.tally (countedAs S terminal)

/-- LiveSlaves is the number of records that are not terminal, GoneSlaves that of the others. -/
def CountersAgree (S : UUID) (r : Server) : Prop :=
  ∃ m, r.store.get (sessionMetricsKey S.text) = some (.metrics m) ∧
    ∀ terminal, counter terminal m = recordCount S r terminal

def Thread.calls : Thread → Bool
  | .controller (.dispatch _ _) | .register _ _ (.returned _) => true
  | _ => false

/-- Redis answers every command, and endSession does not run. -/
def undisturbed (c : Config World Thread) : Turn Thread Step Outside → Bool
  | .run i step => (c.threads[i]?).all fun t =>
    !t.isEnding && (t.calls || step.input.reply == .answered)
  | _ => true

/-- The record a state is SET over is in the class its counting takes it to be in: live
where the change is counted, and else in the class of the new state already. -/
def recordFits (S : UUID) (r : Server) (previous state : SlaveState) : Bool :=
  match r.store.get (sessionSlaveKey S.text state.slaveID) with
  | some (.slave current) =>
    isTerminalState current.status == (isTerminalState state.status && !counts previous state)
  | _ => false

def roomLive (m : SessionMetrics) : Bool := m.liveSlaves != Int32.maxValue

def roomGone (m : SessionMetrics) : Bool :=
  decide (m.liveSlaves > 0) && m.goneSlaves != Int32.maxValue

/-- EXEC commits to counters that have room, or it may be tried again. -/
def commitFits (S : UUID) (r : Server) (room : SessionMetrics → Bool) : Updating → Bool
  | .exec attempt stamp _ =>
    if r.store.stamp (sessionMetricsKey S.text) = stamp then
      match r.store.get (sessionMetricsKey S.text) with
      | some (.metrics m) => room m
      | _ => true
    else attempt + 1 < maxRetries
  | _ => true

/-- A step that writes a record or counts it. -/
def countsOnce (S : UUID) (c : Config World Thread) : Turn Thread Step Outside → Bool
  | .run i _ => match c.threads[i]? with
    | some (.podUpdate _ (.publishing previous state .set))
    | some (.controller (.publishing _ previous state .set)) =>
      recordFits S c.shared.redis previous state
    | some (.register _ _ (.updating _ u)) => commitFits S c.shared.redis roomLive u
    | some (.podUpdate _ (.updating _ _ u))
    | some (.controller (.updating _ _ _ u)) => commitFits S c.shared.redis roomGone u
    | _ => true
  | _ => true

section Counters

variable {S : UUID} {rand : Rand} {step : Step} {w w' : World} {t t' : Thread}
  {c c' : Config World Thread} {a : Turn Thread Step Outside} {terminal : Bool}

def gone (terminal : Bool) : Int := if terminal then 1 else -1

/-- What a thread has written and not yet counted. -/
def Thread.owes (terminal : Bool) : Thread → Int
  | .register _ _ (.publishing _ _) | .register _ _ (.updating _ _) => if terminal then 0 else 1
  | .podUpdate _ (.publishing previous state .publish)
  | .controller (.publishing _ previous state .publish) =>
    if counts previous state then gone terminal else 0
  | .podUpdate _ (.updating _ _ _) | .controller (.updating _ _ _ _) => gone terminal
  | _ => 0

/-- The counters and what the threads owe them make up the records. -/
def Balanced (S : UUID) (c : Config World Thread) : Prop :=
  ∃ m, c.shared.redis.store.get (sessionMetricsKey S.text) = some (.metrics m) ∧
    ∀ terminal, counter terminal m + (c.threads.map (Thread.owes terminal)).sum =
      recordCount S c.shared.redis terminal

theorem countedAs_slave (S : UUID) (id : String) (state : SlaveState) :
    countedAs S terminal (sessionSlaveKey S.text id) (.slave state) =
      (isTerminalState state.status == terminal) := by
  have matched := (matches_slavePattern (uuid_plain S) (sessionSlaveKey S.text id)).mpr ⟨id, rfl⟩
  simp only [countedAs, matched, Bool.true_and]

theorem toInt_succ {n : Int32} (room : n ≠ Int32.maxValue) : (n + 1).toInt = n.toInt + 1 := by
  have top : n.toInt ≠ Int32.maxValue.toInt := fun same => room (Int32.toInt_inj.mp same)
  have upper := n.toInt_lt
  have lower := n.le_toInt
  rw [Int32.toInt_maxValue] at top
  rw [Int32.toInt_add, Int32.toInt_one, Int.bmod_eq_of_le] <;> omega

theorem counter_live {m : SessionMetrics} {now : Time} (room : roomLive m = true) :
    counter terminal (completed S.text now (countLive m)) =
      counter terminal m + if terminal then 0 else 1 := by
  cases terminal with
  | true => simp [counter, completed, countLive]
  | false => simp [counter, completed, countLive, toInt_succ (bne_iff_ne.mp room)]

theorem counter_gone {m : SessionMetrics} {now : Time} (room : roomGone m = true) :
    counter terminal (completed S.text now (countGone m)) = counter terminal m + gone terminal := by
  simp only [roomGone, Bool.and_eq_true, decide_eq_true_eq, bne_iff_ne] at room
  cases terminal with
  | true => simp [counter, completed, countGone, gone, toInt_succ room.2]
  | false =>
    have lower : (1 : Int32).toInt ≤ m.liveSlaves.toInt := by
      have := Int32.lt_iff_toInt_lt.mp room.1
      rw [Int32.toInt_zero] at this
      rw [Int32.toInt_one]
      omega
    have less : (m.liveSlaves - 1).toInt = m.liveSlaves.toInt - 1 := by
      have upper := m.liveSlaves.toInt_lt
      rw [Int32.toInt_one] at lower
      rw [Int32.toInt_sub, Int32.toInt_one, Int.bmod_eq_of_le] <;> omega
    simp [counter, completed, countGone, gone, room.1, less, sub_eq_add_neg]

/-- A step of a thread changes the records by as much as the counters and what it owes. -/
def Settles (S : UUID) (r r' : Server) (t t' : Thread) : Prop :=
  ∀ m, r.store.get (sessionMetricsKey S.text) = some (.metrics m) →
    ∃ m', r'.store.get (sessionMetricsKey S.text) = some (.metrics m') ∧ ∀ terminal,
      (recordCount S r' terminal : Int) - recordCount S r terminal =
        (counter terminal m' - counter terminal m) + (t'.owes terminal - t.owes terminal)

theorem settles_same {r r' : Server} (store : r'.store = r.store)
    (owes : ∀ terminal, t'.owes terminal = t.owes terminal) : Settles S r r' t t' := by
  intro m got
  refine ⟨m, by rw [store, got], fun terminal => ?_⟩
  simp only [recordCount, store, owes terminal, sub_self, add_zero]

theorem settles_set {r : Server} {state : SlaveState} (session : state.sessionID = S.text)
    (change : ∀ terminal, (recordCount S (Command.run r (.set state)) terminal : Int) -
      recordCount S r terminal = t'.owes terminal - t.owes terminal) :
    Settles S r (Command.run r (.set state)) t t' := by
  intro m got
  refine ⟨m, ?_, fun terminal => by rw [change terminal, sub_self, zero_add]⟩
  rw [Command.run, session,
    Stamped.Store.get_put_of_ne (sessionSlaveKey_ne_metrics S.text _).symm, got]

theorem count_new {r : Server} {state : SlaveState} (session : state.sessionID = S.text)
    (absent : r.store.get (sessionSlaveKey S.text state.slaveID) = none) (terminal : Bool) :
    (recordCount S (Command.run r (.set state)) terminal : Int) - recordCount S r terminal =
      if isTerminalState state.status == terminal then 1 else 0 := by
  simp only [recordCount, Command.run, session, Stamped.Store.tally_put_new absent,
    countedAs_slave]
  omega

theorem count_old {r : Server} {state current : SlaveState} (session : state.sessionID = S.text)
    (present : r.store.get (sessionSlaveKey S.text state.slaveID) = some (.slave current))
    (terminal : Bool) :
    (recordCount S (Command.run r (.set state)) terminal : Int) - recordCount S r terminal =
      (if isTerminalState state.status == terminal then 1 else 0) -
        if isTerminalState current.status == terminal then 1 else 0 := by
  simp only [recordCount, Command.run, session, Stamped.Store.tally_put_old present,
    countedAs_slave]
  omega

theorem counts_terminal {previous state : SlaveState} (counted : counts previous state = true) :
    isTerminalState state.status = true := by
  simp only [counts, Bool.not_eq_true', Bool.or_eq_false_iff, Bool.not_eq_false'] at counted
  exact counted.2

theorem count_fits {r : Server} {previous state : SlaveState} (session : state.sessionID = S.text)
    (fits : recordFits S r previous state = true) (terminal : Bool) :
    (recordCount S (Command.run r (.set state)) terminal : Int) - recordCount S r terminal =
      if counts previous state then gone terminal else 0 := by
  unfold recordFits at fits
  split at fits
  · rename_i current present
    rw [count_old session present, beq_iff_eq.mp fits]
    cases counted : counts previous state with
    | true =>
      rw [counts_terminal counted]
      cases terminal <;> rfl
    | false => simp
  · cases fits

theorem settles_commit {r : Server} {m : SessionMetrics}
    {fn : SessionMetrics → SessionMetrics} {room : SessionMetrics → Bool}
    {a n : Nat} (paid : Bool → Int) (sound : Updating.Sound S.text fn r (.exec a n m))
    (same : r.store.stamp (sessionMetricsKey S.text) = n)
    (fits : commitFits S r room (.exec a n m) = true)
    (pays : ∀ (old : SessionMetrics) now terminal, room old = true →
      counter terminal (completed S.text now (fn old)) = counter terminal old + paid terminal)
    (owed : ∀ terminal, t'.owes terminal = t.owes terminal - paid terminal) :
    Settles S r (Command.run r (.setMetrics S.text m)) t t' := by
  obtain ⟨old, now, made, saw⟩ := sound
  have there := saw.2 same
  intro current got
  cases got.symm.trans there
  simp only [commitFits, same, if_true, there] at fits
  refine ⟨m, Stamped.Store.get_put_self, fun terminal => ?_⟩
  have unchanged : recordCount S (Command.run r (.setMetrics S.text m)) terminal =
      recordCount S r terminal := by
    have := Stamped.Store.tally_put_old (p := countedAs S terminal) (v := .metrics m) there
    simp only [countedAs, Bool.false_eq_true, if_false, sub_zero, add_zero, Nat.cast_inj] at this
    exact this
  rw [unchanged, owed terminal, made, pays old now terminal fits]
  omega

/-- A call that finds the metrics and has an attempt left does not give up. -/
theorem commits_in_time {sessionID : String} {fn : SessionMetrics → SessionMetrics} {r : Server}
    {i : Input} {u : Updating} {room : SessionMetrics → Bool} {cause : String} {d : Command}
    (session : sessionID = S.text) (answered : i.reply = .answered)
    (there : ∃ m, r.store.get (sessionMetricsKey S.text) = some (.metrics m))
    (fits : commitFits S r room u = true) (running : u.running = true)
    (moved : Updating.Moved sessionID fn r i u (.returned (.error cause), d)) : False := by
  subst session
  cases moved with
  | failed fault => simp [answered, Reply.error] at fault
  | lost fault => simp [answered, Reply.error] at fault
  | missing _ none => exact there.elim none
  | exhausted _ moved last =>
    simp only [commitFits, moved, if_false, decide_eq_true_eq] at fits
    omega
  | finished => cases running

theorem settles_register {caller : Option ProcessID} {req : RegisterSlaveRequest}
    {pc next : Registering} {d : Command} (knows : pc.Knows S [""] w) (placed : pc.placed = true)
    (sound : (Thread.register caller req pc).Sound S w.redis)
    (answered : step.input.reply = .answered)
    (there : ∃ m, w.redis.store.get (sessionMetricsKey S.text) = some (.metrics m))
    (absent : ∀ sessionID, pc = .resolved sessionID →
      w.redis.store.get (sessionSlaveKey S.text step.slaveID.text) = none)
    (fits : ∀ state u, pc = .updating state u → commitFits S w.redis roomLive u = true)
    (moved : Registering.Moved req w.redis step.input step.slaveID pc (next, d)) :
    Settles S w.redis (d.run w.redis) (.register caller req pc) (.register caller req next) := by
  cases moved with
  | blank none =>
    rw [show _ = S.text from knows, S.not_blank] at none
    cases none
  | failed fault =>
    rw [answered] at fault
    cases fault
  | set made =>
    have session :
      (registeredState S.text req step.slaveID step.input.now).sessionID = S.text := rfl
    rw [made, show _ = S.text from knows]
    refine settles_set session fun terminal => ?_
    rw [count_new session (absent _ rfl)]
    cases terminal <;> rfl
  | @abandon state u _ _ _ moved =>
    exact (commits_in_time knows.1 answered there (fits state u rfl) placed moved).elim
  | @commit state a n m _ same =>
    have session : state.sessionID = S.text := knows.1
    simp only [Thread.Sound, session] at sound
    rw [session] at same ⊢
    refine settles_commit (fun terminal => if terminal then 0 else 1) sound same
      (fits state _ rfl) (fun old now terminal room => counter_live room) fun terminal => ?_
    exact (sub_self _).symm
  | _ => exact settles_same rfl fun _ => rfl

theorem settles_podUpdate {message : Message} {pc next : PodUpdating} {d : Command}
    (knows : pc.Knows S [""] w) (placed : pc.placed = true)
    (sound : (Thread.podUpdate message pc).Sound S w.redis)
    (answered : step.input.reply = .answered)
    (there : ∃ m, w.redis.store.get (sessionMetricsKey S.text) = some (.metrics m))
    (writes : ∀ previous state, pc = .publishing previous state .set →
      recordFits S w.redis previous state = true)
    (fits : ∀ previous state u, pc = .updating previous state u →
      commitFits S w.redis roomGone u = true)
    (moved : PodUpdating.Moved S.text message w.redis step.input pc (next, d)) :
    Settles S w.redis (d.run w.redis) (.podUpdate message pc) (.podUpdate message next) := by
  cases moved with
  | failed fault =>
    rw [answered] at fault
    cases fault
  | @set previous state =>
    refine settles_set knows.2.1 fun terminal => ?_
    rw [count_fits knows.2.1 (writes previous state rfl)]
    exact (sub_zero _).symm
  | publish _ counted =>
    exact settles_same rfl fun terminal => by simp only [Thread.owes, counted, if_true]
  | uncounted _ same =>
    exact settles_same rfl fun terminal => by
      simp only [Thread.owes, same, Bool.false_eq_true, if_false]
  | @abandon previous state u _ _ _ moved =>
    exact (commits_in_time rfl answered there (fits previous state u rfl) placed moved).elim
  | @commit previous state a n m _ same =>
    refine settles_commit gone sound same (fits previous state _ rfl)
      (fun old now terminal room => counter_gone room) fun terminal => ?_
    exact (sub_self _).symm
  | _ => exact settles_same rfl fun _ => rfl

theorem settles_handling {pc next : Handling} {d : Command}
    (knows : pc.Knows S [""] w) (placed : pc.placed = true)
    (sound : (Thread.controller pc).Sound S w.redis)
    (answered : step.input.reply = .answered)
    (there : ∃ m, w.redis.store.get (sessionMetricsKey S.text) = some (.metrics m))
    (writes : ∀ event previous state, pc = .publishing event previous state .set →
      recordFits S w.redis previous state = true)
    (fits : ∀ event previous state u, pc = .updating event previous state u →
      commitFits S w.redis roomGone u = true)
    (moved : Handling.Moved w.redis step.input pc (next, d)) :
    Settles S w.redis (d.run w.redis) (.controller pc) (.controller next) := by
  cases moved with
  | @listing event l =>
    refine settles_same rfl fun terminal => ?_
    rcases resolved_cases event (l.step event.sessionID w.redis step.input) with
      same | ⟨_, same⟩ | ⟨_, same⟩ <;> rw [same] <;> rfl
  | failed fault =>
    rw [answered] at fault
    cases fault
  | @set event previous state =>
    refine settles_set knows.2.2.1 fun terminal => ?_
    rw [count_fits knows.2.2.1 (writes event previous state rfl)]
    exact (sub_zero _).symm
  | publish _ counted =>
    exact settles_same rfl fun terminal => by simp only [Thread.owes, counted, if_true]
  | uncounted _ same =>
    exact settles_same rfl fun terminal => by
      simp only [Thread.owes, same, Bool.false_eq_true, if_false]
  | @abandon event previous state u _ _ moved =>
    exact (commits_in_time knows.1 answered there (fits event previous state u rfl) placed
      moved).elim
  | @commit event previous state a n m _ same =>
    have session : event.sessionID = S.text := knows.1
    simp only [Thread.Sound, session] at sound
    rw [session] at same ⊢
    refine settles_commit gone sound same (fits event previous state _ rfl)
      (fun old now terminal room => counter_gone room) fun terminal => ?_
    exact (sub_self _).symm
  | _ => exact settles_same rfl fun _ => rfl

theorem settles_acts (base : Grounded S [""] c) {i : Nat} (found : c.threads[i]? = some t)
    (still : undisturbed c (.run i step) = true) (once : countsOnce S c (.run i step) = true)
    (there : ∃ m, c.shared.redis.store.get (sessionMetricsKey S.text) = some (.metrics m))
    (acts : t.Acts S rand step c.shared (w', t')) :
    Settles S c.shared.redis w'.redis t t' := by
  have knows := base.knows i t found
  have placed := base.roles.placed i t found
  have sound := base.sound i t found
  simp only [undisturbed, found, Option.all_some, Bool.and_eq_true, Bool.not_eq_true',
    Bool.or_eq_true, beq_iff_eq] at still
  obtain ⟨apart, answers⟩ := still
  have answered : t.calls = false → step.input.reply = .answered :=
    fun own => answers.resolve_left (by simp [own])
  cases acts with
  | deliver => exact settles_same (by rw [(deliver_frame ..).1]) fun _ => rfl
  | resolved fresh moved =>
    refine settles_register knows placed sound (answered rfl) there (fun _ _ => ?_)
      (fun _ _ same => by simp at same) moved
    exact Option.eq_none_iff_forall_ne_some.mpr (fresh_record base fresh)
  | @register caller req pc _ _ settled running moved =>
    refine settles_register knows placed sound (answered ?_) there
      (fun _ same => absurd same (settled _)) ?_ moved
    · cases pc with
      | returned result => exact absurd rfl (running result)
      | _ => rfl
    · rintro state u rfl
      simpa only [countsOnce, found] using once
  | @podUpdate message pc _ _ running moved =>
    refine settles_podUpdate knows placed sound (answered rfl) there ?_ ?_ moved
    · rintro previous state rfl
      simpa only [countsOnce, found] using once
    · rintro previous state u rfl
      simpa only [countsOnce, found] using once
  | receive => exact settles_same rfl fun _ => rfl
  | @call event previous _ ran =>
    subst ran
    refine settles_same (by rw [(call_frame ..).1]) fun terminal => ?_
    rcases call_outcome rand c.shared step.input event previous with
      same | ⟨_, _, _, _, _, _, same⟩ <;> rw [same] <;> rfl
  | handle moved =>
    refine settles_handling knows placed sound (answered ?_) there ?_ ?_ moved
    · cases moved <;> rfl
    · rintro event previous state rfl
      simpa only [countsOnce, found] using once
    · rintro event previous state u rfl
      simpa only [countsOnce, found] using once
  | list => cases apart
  | ending => cases apart

theorem balanced_step (base : Grounded S [""] c) (h : Balanced S c)
    (still : undisturbed c a = true) (once : countsOnce S c a = true)
    (taken : (cluster S rand).step c a = some c') : Balanced S c' := by
  obtain ⟨m, got, agree⟩ := h
  cases Composite.took_of_step taken with
  | @start l ready =>
    refine ⟨m, got, fun terminal => ?_⟩
    have nothing : l.owes terminal = 0 := by
      rcases starts_cases ready with ⟨_, _, rfl⟩ | ⟨_, rfl⟩ <;> rfl
    rw [Composite.sum_append_one, nothing, add_zero]
    exact agree terminal
  | outside moved =>
    simp only [Balanced, (outside_redis moved).1]
    exact ⟨m, got, agree⟩
  | @run i step t t' w' found moved =>
    have acts := (Thread.move_moved moved).acts (base.roles.placed i t found)
    obtain ⟨m', got', change⟩ := settles_acts base found still once ⟨m, got⟩ acts m got
    refine ⟨m', got', fun terminal => ?_⟩
    have moved := change terminal
    have before := agree terminal
    change counter terminal m' + _ = (recordCount S w'.redis terminal : Int)
    rw [Composite.sum_set _ found]
    omega

theorem balanced_started {startedAt : Time} {r : Server} (vacant : Vacant S r) :
    Balanced S (started S startedAt r) := by
  refine ⟨⟨S.text, 0, 0, startedAt⟩, ?_, fun terminal => ?_⟩
  · simp only [started, Command.run,
      Stamped.Store.get_put_of_ne (sessionMetricsKey_ne_active _), Stamped.Store.get_put_self]
  · have none : recordCount S (started S startedAt r).shared.redis terminal = 0 := by
      refine Stamped.Store.tally_eq_zero fun key payload got => ?_
      cases payload with
      | slave state =>
        by_contra counted
        simp only [countedAs, Bool.not_eq_false, Bool.and_eq_true] at counted
        obtain ⟨id, rfl⟩ := (matches_slavePattern (uuid_plain S) key).mp counted.1
        obtain ⟨_, _, _, _, named⟩ := (records_started [] vacant).slave id _ got
        rcases named with other | ⟨u, drawn, _⟩
        · cases other
        · cases drawn
      | _ => rfl
    rw [none]
    cases terminal <;> rfl

/-- Where every record is counted in the class it is written over, the counters agree with
the records whenever no operation is in flight. -/
theorem counters_agree {startedAt : Time} {r : Server} (vacant : Vacant S r)
    (reached : (cluster S rand).system.ReachableVia
      (fun c a => undisturbed c a = true ∧ countsOnce S c a = true) (started S startedAt r) c)
    (rest : ∀ t ∈ c.threads, t.inFlight = false) : CountersAgree S c.shared.redis := by
  obtain ⟨m, got, agree⟩ : Balanced S c :=
    reachable_invariant vacant (balanced_started vacant)
      (fun _ _ _ base h met taken => balanced_step base h met.1 met.2 taken) reached
  refine ⟨m, got, fun terminal => ?_⟩
  have paid : (c.threads.map (Thread.owes terminal)).sum = 0 := by
    refine List.sum_eq_zero fun owed member => ?_
    obtain ⟨t, at_rest, rfl⟩ := List.mem_map.mp member
    have still := rest t at_rest
    cases t with
    | register caller req pc => cases pc <;> first | rfl | cases still
    | podUpdate message pc => cases pc <;> first | rfl | cases still
    | controller pc => cases pc <;> first | rfl | cases still
    | ending pc => rfl
  have total := agree terminal
  rw [paid, add_zero] at total
  exact total

end Counters

def countersAgree (S : UUID) (r : Server) : Bool :=
  match r.store.get (sessionMetricsKey S.text) with
  | some (.metrics m) =>
    [true, false].all fun terminal => counter terminal m == recordCount S r terminal
  | _ => false

theorem countersAgree_of {S : UUID} {r : Server} (agree : CountersAgree S r) :
    countersAgree S r = true := by
  obtain ⟨m, got, same⟩ := agree
  simp [countersAgree, got, same]

/-- The frontend reports a slave gone, and then its process answers an event alive: one
record, which is live, and it is counted as gone. -/
theorem counters_disagree : ∃ c,
    sampleCluster.run sampleSession (joins ++ reports 6 3 ++ turns 6 0) = some c ∧
    sampleCluster.check undisturbed sampleSession (joins ++ reports 6 3 ++ turns 6 0) = true ∧
    (∀ t ∈ c.threads, t.inFlight = false) ∧ ¬ CountersAgree .sample c.shared.redis := by
  obtain ⟨c, ran, passes⟩ := System.run_passes (joins ++ reports 6 3 ++ turns 6 0)
    (fun c => c.threads.all (fun t => !t.inFlight) && !countersAgree .sample c.shared.redis)
    (by decide +kernel :
      (sampleCluster.run sampleSession (joins ++ reports 6 3 ++ turns 6 0)).any _ = true)
  simp only [Bool.and_eq_true, List.all_eq_true, Bool.not_eq_true'] at passes
  obtain ⟨rest, differ⟩ := passes
  refine ⟨c, ran, by decide +kernel, rest, fun agree => ?_⟩
  rw [countersAgree_of agree] at differ
  cases differ

theorem counters_agree_reported : ∃ c,
    sampleCluster.run sampleSession (joins ++ turns 6 0 ++ reports 6 3) = some c ∧
      CountersAgree .sample c.shared.redis := by
  obtain ⟨c, ran, rest⟩ := System.run_passes (joins ++ turns 6 0 ++ reports 6 3)
    (fun c => c.threads.all fun t => !t.inFlight)
    (by decide +kernel :
      (sampleCluster.run sampleSession (joins ++ turns 6 0 ++ reports 6 3)).any _ = true)
  simp only [List.all_eq_true, Bool.not_eq_true'] at rest
  have met : sampleCluster.check (fun c a => undisturbed c a && countsOnce .sample c a)
      sampleSession (joins ++ turns 6 0 ++ reports 6 3) = true := by decide +kernel
  refine ⟨c, ran, counters_agree (vacant_empty _) (System.ReachableVia.mono (fun _ _ both => ?_)
    (System.run_reachableVia ran (System.meets_of_check met))) rest⟩
  simpa only [Bool.and_eq_true] using both

end Megalo.Cluster
