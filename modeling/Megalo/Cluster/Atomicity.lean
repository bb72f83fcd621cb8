import Megalo.Cluster.World
import Megalo.Cluster.Moves
import Megalo.Redis.Layout

/-! RegisterSlave and handlePodStateUpdate against a failing Redis: what an error leaves
behind. The operation runs alone; a client that writes a key back as it is can make
the transactions on that key fail. -/
namespace Megalo.Cluster

open Redis Transition

/-- An operation between two of its commands, with the errors it has returned. -/
structure Operation (L : Type) where
  start : L
  step : Server → Input → UUID → L → L × Command
  failed : L → Bool

def registerSlave (req : RegisterSlaveRequest) : Operation Registering where
  start := .getActiveSessionID
  step r i slaveID pc := pc.step req r i slaveID
  failed
    | .returned (.error _) => true
    | _ => false

def handlePodStateUpdate (sessionID : String) (message : Message) : Operation PodUpdating where
  start := .received
  step r i _ pc := pc.step sessionID message r i
  failed
    | .returned (some _) => true
    | _ => false

inductive Move
  | step (i : Input) (slaveID : UUID)
  | rewrite (key : String)

def rewrite (r : Server) (key : String) : Server :=
  match r.store.get key with
  | none => r
  | some payload => { r with store := r.store.put key payload }

def Operation.system {L : Type} (op : Operation L) : System (Server × L) Move where
  step s
    | .step i slaveID =>
      let next := op.step s.1 i slaveID s.2
      some (next.2.run s.1, next.1)
    | .rewrite key => some (rewrite s.1 key, s.2)

/-- The operation from end to end on a Redis that answers. -/
def Operation.once {L : Type} (op : Operation L) (now : Time) (slaveID : UUID) (r : Server) :
    Server :=
  (alone (fun r pc => op.step r (answers now) slaveID pc) 6 r op.start).1

def recordAt (r : Server) (key : String) : Option SlaveState :=
  match r.store.get key with
  | some (.slave state) => some state
  | _ => none

def countersOf (r : Server) (sessionID : String) : Option (Int32 × Int32) :=
  match r.store.get (sessionMetricsKey sessionID) with
  | some (.metrics m) => some (m.liveSlaves, m.goneSlaves)
  | _ => none

/-- Two servers with the same slave records and session counters. -/
def Alike (r r' : Server) : Prop :=
  (∀ key, recordAt r key = recordAt r' key) ∧
    ∀ sessionID, countersOf r sessionID = countersOf r' sessionID

/-- An operation that fails has changed nothing, and the same request ends as it would have
ended without the failure. -/
def NothingHappened {L : Type} (op : Operation L) (r r' : Server) : Prop :=
  Alike r r' ∧ ∀ now slaveID, Alike (op.once now slaveID r) (op.once now slaveID r')

/-- The SET of the record is refused, or the record is stored already. -/
def SparesRecord (r : Server) (i : Input) (state : SlaveState) : Prop :=
  (∃ err, i.reply = .refused err) ∨
    r.store.get (sessionSlaveKey state.sessionID state.slaveID) = some (.slave state)

/-- No EXEC runs that finds the metrics as WATCH found them. -/
def SparesCounters (r : Server) (i : Input) (sessionID : String) : Updating → Prop
  | .exec _ stamp _ => (∃ err, i.reply = .refused err) ∨
    r.store.stamp (sessionMetricsKey sessionID) ≠ stamp
  | _ => True

def Registering.Spares (req : RegisterSlaveRequest) (s : Server × Registering) : Move → Prop
  | .step i slaveID => match s.2 with
    | .resolved sessionID => isBlank sessionID = true ∨
      SparesRecord s.1 i (registeredState sessionID req slaveID i.now)
    | .updating state u => SparesCounters s.1 i state.sessionID u
    | _ => True
  | .rewrite _ => True

def PodUpdating.Spares (sessionID : String) (s : Server × PodUpdating) : Move → Prop
  | .step i _ => match s.2 with
    | .publishing _ state .set => SparesRecord s.1 i state
    | .updating _ _ u => SparesCounters s.1 i sessionID u
    | _ => True
  | .rewrite _ => True

section Contents

variable {r₀ r r' : Server} {state : SlaveState}

/-- What every key holds. -/
def Same (r r' : Server) : Prop := ∀ key, r.store.get key = r'.store.get key

theorem Same.alike (same : Same r r') : Alike r r' :=
  ⟨fun key => by rw [recordAt, recordAt, same], fun S => by rw [countersOf, countersOf, same]⟩

theorem same_rewrite (r : Server) (key : String) : Same (rewrite r key) r := by
  intro l
  unfold rewrite
  split
  · rfl
  · by_cases same : l = key
    · subst same
      exact Stamped.Store.get_put_self.trans (Eq.symm ‹_›)
    · exact Stamped.Store.get_put_of_ne same

/-- The keys hold what they held before, but for one record. -/
def Wrote (r₀ : Server) (state : SlaveState) (r : Server) : Prop :=
  ∀ key, r.store.get key = if key = sessionSlaveKey state.sessionID state.slaveID
    then some (.slave state) else r₀.store.get key

theorem Same.wrote (same : Same r₀ r) (state : SlaveState) :
    Wrote r₀ state (Command.run r (.set state)) := by
  intro key
  split
  · subst_vars
    exact Stamped.Store.get_put_self
  · rename_i other
    exact (Stamped.Store.get_put_of_ne other).trans (same key).symm

theorem Wrote.of_same (wrote : Wrote r₀ state r) (same : Same r' r) : Wrote r₀ state r' :=
  fun key => (same key).trans (wrote key)

theorem Wrote.alike_iff (wrote : Wrote r₀ state r) : Alike r₀ r ↔
    r₀.store.get (sessionSlaveKey state.sessionID state.slaveID) = some (.slave state) := by
  have written := wrote (sessionSlaveKey state.sessionID state.slaveID)
  rw [if_pos rfl] at written
  constructor
  · intro alike
    have record := alike.1 (sessionSlaveKey state.sessionID state.slaveID)
    simp only [recordAt, written] at record
    split at record
    · rw [‹r₀.store.get _ = _›, Option.some.inj record]
    · cases record
  · intro stored
    refine Same.alike fun key => ?_
    rw [wrote key]
    split
    · subst_vars
      exact stored
    · rfl

theorem Wrote.same (wrote : Wrote r₀ state r) (alike : Alike r₀ r) : Same r₀ r := by
  intro key
  rw [wrote key]
  split
  · subst_vars
    exact wrote.alike_iff.mp alike
  · rfl

theorem countLive_moves (m : SessionMetrics) :
    ((countLive m).liveSlaves, (countLive m).goneSlaves) ≠ (m.liveSlaves, m.goneSlaves) := by
  intro same
  have next : m.liveSlaves + 1 = m.liveSlaves := congrArg Prod.fst same
  exact absurd (Int32.add_eq_left.mp next) (by decide)

theorem countGone_moves (m : SessionMetrics) :
    ((countGone m).liveSlaves, (countGone m).goneSlaves) ≠ (m.liveSlaves, m.goneSlaves) := by
  intro same
  have next : m.goneSlaves + 1 = m.goneSlaves := congrArg Prod.snd same
  exact absurd (Int32.add_eq_left.mp next) (by decide)

/-- A SET that is spared leaves everything as it was, any other one shows. -/
theorem set_spared (same : Same r₀ r) (i : Input) (state : SlaveState) :
    SparesRecord r i state ∧ Same r₀ ((i.reply.change (.set state)).run r) ∨
      ¬ SparesRecord r i state ∧ ¬ Alike r₀ ((i.reply.change (.set state)).run r) := by
  cases reply : i.reply with
  | refused err => exact .inl ⟨.inl ⟨err, reply⟩, same⟩
  | _ =>
    have wrote := same.wrote state
    have stored : SparesRecord r i state ↔ Alike r₀ (Command.run r (.set state)) := by
      rw [wrote.alike_iff, same, SparesRecord, reply]
      simp
    by_cases alike : Alike r₀ (Command.run r (.set state))
    · exact .inl ⟨stored.mpr alike, wrote.same alike⟩
    · exact .inr ⟨mt stored.mp alike, alike⟩

variable {S : String} {fn : SessionMetrics → SessionMetrics} {u : Updating}

theorem countersOf_eq {m : SessionMetrics}
    (held : r.store.get (sessionMetricsKey S) = some (.metrics m)) :
    countersOf r S = some (m.liveSlaves, m.goneSlaves) := by
  rw [countersOf, held]

theorem Wrote.counted {old m : SessionMetrics} {now : Time} (wrote : Wrote r₀ state r)
    (held : r.store.get (sessionMetricsKey S) = some (.metrics old))
    (made : m = completed S now (fn old))
    (moves : ((fn old).liveSlaves, (fn old).goneSlaves) ≠ (old.liveSlaves, old.goneSlaves)) :
    ¬ Alike r₀ (Command.run r (.setMetrics S m)) := by
  intro alike
  have before := wrote (sessionMetricsKey S)
  split at before
  · rw [held] at before
    cases before
  · have counters := alike.2 S
    rw [countersOf_eq (before.symm.trans held), countersOf_eq Stamped.Store.get_put_self] at counters
    rw [made] at counters
    exact moves (Option.some.inj counters).symm

/-- A step of UpdateSessionMetrics that is spared changes nothing, any other one shows. -/
theorem count_spared
    (moves : ∀ m, ((fn m).liveSlaves, (fn m).goneSlaves) ≠ (m.liveSlaves, m.goneSlaves))
    (wrote : Wrote r₀ state r) (sound : u.Sound S fn r) (i : Input) :
    SparesCounters r i S u ∧ (u.step S fn r i).2.run r = r ∨
      ¬ SparesCounters r i S u ∧ ¬ Alike r₀ ((u.step S fn r i).2.run r) := by
  cases u with
  | exec a n m =>
    by_cases unmoved : r.store.stamp (sessionMetricsKey S) = n
    · obtain ⟨old, now, made, saw⟩ := sound
      have counted := wrote.counted (saw.2 unmoved) made (moves old)
      cases reply : i.reply with
      | refused err =>
        refine .inl ⟨.inl ⟨err, reply⟩, ?_⟩
        simp only [Updating.step, if_pos unmoved, reply, Reply.change, Command.run]
      | _ =>
        refine .inr ⟨by simp [SparesCounters, reply, unmoved], ?_⟩
        simpa only [Updating.step, if_pos unmoved, reply, Reply.change] using counted
    · refine .inl ⟨.inr unmoved, ?_⟩
      simp only [Updating.step, if_neg unmoved, Command.run]
  | _ => exact .inl ⟨trivial, rfl⟩

/-- What is known while the metrics are updated. -/
structure Counting (r₀ : Server) (state : SlaveState) (S : String)
    (fn : SessionMetrics → SessionMetrics) (r : Server) (u : Updating) : Prop where
  wrote : Wrote r₀ state r
  sound : u.Sound S fn r
  running : u.running = true

/-- An operation that has returned has left everything as it was, or it shows. -/
def Settled (r₀ r : Server) : Prop := Same r₀ r ∨ ¬ Alike r₀ r

theorem Same.settled (same : Same r₀ r) : Settled r₀ r := .inl same

theorem Wrote.settled (wrote : Wrote r₀ state r) : Settled r₀ r :=
  (em (Alike r₀ r)).imp wrote.same id

theorem Same.symm (same : Same r r') : Same r' r := fun key => (same key).symm

theorem Same.trans {r'' : Server} (first : Same r r') (second : Same r' r'') : Same r r'' :=
  fun key => (first key).trans (second key)

theorem Settled.of_same (settled : Settled r₀ r) (same : Same r r') : Settled r₀ r' := by
  refine settled.imp (·.trans same) fun broken alike => broken ?_
  have back := same.symm.alike
  exact ⟨fun key => (alike.1 key).trans (back.1 key), fun S => (alike.2 S).trans (back.2 S)⟩

theorem Same.alike_iff (same : Same r r') : Alike r₀ r ↔ Alike r₀ r' := by
  have there := same.alike
  simp only [Alike, there.1, there.2]

/-- Between the SET and its return, the operation leaves the loop or goes on counting. -/
theorem Counting.step
    (moves : ∀ m, ((fn m).liveSlaves, (fn m).goneSlaves) ≠ (m.liveSlaves, m.goneSlaves))
    (counting : Counting r₀ state S fn r u) (i : Input) :
    Settled r₀ ((u.step S fn r i).2.run r) ∧
      ((u.step S fn r i).1.running = true →
        Counting r₀ state S fn ((u.step S fn r i).2.run r) (u.step S fn r i).1) := by
  obtain ⟨wrote, sound, running⟩ := counting
  have settled : Settled r₀ ((u.step S fn r i).2.run r) := by
    rcases count_spared moves wrote sound i with ⟨_, unchanged⟩ | ⟨_, broken⟩
    · rw [unchanged]
      exact wrote.settled
    · exact .inr broken
  refine ⟨settled, ?_⟩
  refine Updating.step_cases (P := fun next => next.1.running = true →
    Counting r₀ state S fn (next.2.run r) next.1) running ?_ ?_ ?_
  · intro next later moved _
    exact ⟨wrote, sound.moved moved, later⟩
  · intro cause c _ stopped
    cases stopped
  · intro a n m _ _ _ stopped
    cases stopped

theorem later_rewrite (r : Server) (key : String) :
    Stamped.Store.Later r.store (rewrite r key).store := by
  unfold rewrite
  split
  · exact Stamped.Store.Later.refl
  · exact Stamped.Store.later_put

theorem Counting.rewrite (counting : Counting r₀ state S fn r u) (key : String) :
    Counting r₀ state S fn (rewrite r key) u where
  wrote := counting.wrote.of_same (same_rewrite r key)
  sound := counting.sound.later (later_rewrite r key)
  running := counting.running

/-- A step that changes no key and is no SET or EXEC. -/
theorem raises_none {p : Prop} (same : Same r r') (spared : p) :
    ¬ Alike r₀ r' ↔ ¬ Alike r₀ r ∨ ¬ p := by
  rw [same.alike_iff, not_not_intro spared |> iff_false_intro, or_false]

theorem raises_set (same : Same r₀ r) (i : Input) (state : SlaveState) :
    ¬ Alike r₀ ((i.reply.change (.set state)).run r) ↔
      ¬ Alike r₀ r ∨ ¬ SparesRecord r i state := by
  have alike := same.alike
  rcases set_spared same i state with ⟨spared, after⟩ | ⟨unspared, broken⟩
  · simp [spared, alike, after.alike]
  · simp only [unspared, broken, not_false_eq_true, or_true]

theorem raises_count
    (moves : ∀ m, ((fn m).liveSlaves, (fn m).goneSlaves) ≠ (m.liveSlaves, m.goneSlaves))
    (counting : Counting r₀ state S fn r u) (i : Input) :
    ¬ Alike r₀ ((u.step S fn r i).2.run r) ↔ ¬ Alike r₀ r ∨ ¬ SparesCounters r i S u := by
  rcases count_spared moves counting.wrote counting.sound i with ⟨spared, same⟩ | ⟨un, broken⟩
  · simp only [spared, same, not_true_eq_false, or_false]
  · simp only [un, broken, not_false_eq_true, or_true]

theorem set_step (same : Same r₀ r) (i : Input) (state : SlaveState) :
    (∃ err, (Publishing.set.step state i).1 = .returned (some err) ∧
      Settled r₀ ((Publishing.set.step state i).2.run r)) ∨
      (Publishing.set.step state i).1 = .publish ∧
        Wrote r₀ state ((Publishing.set.step state i).2.run r) := by
  simp only [Publishing.step]
  cases i.reply with
  | answered => exact .inr ⟨rfl, same.wrote state⟩
  | refused err => exact .inl ⟨_, rfl, same.settled⟩
  | lost err => exact .inl ⟨_, rfl, (same.wrote state).settled⟩

theorem publish_step (i : Input) (state : SlaveState) :
    (∃ err, (Publishing.publish.step state i).1 = .returned err) ∧
      Same r ((Publishing.publish.step state i).2.run r) := by
  constructor
  · simp only [Publishing.step]
    split <;> exact ⟨_, rfl⟩
  · simp only [Publishing.step]
    cases i.reply <;> exact fun _ => rfl

end Contents

section Steps

variable {r₀ : Server}

def Registering.Held (r₀ : Server) (s : Server × Registering) : Prop :=
  match s.2 with
  | .getActiveSessionID | .resolved _ => Same r₀ s.1
  | .publishing state p => p = .publish ∧ Wrote r₀ state s.1
  | .updating state u => Counting r₀ state state.sessionID countLive s.1 u
  | .returned _ => Settled r₀ s.1

def PodUpdating.Held (sessionID : String) (r₀ : Server) (s : Server × PodUpdating) : Prop :=
  match s.2 with
  | .received => Same r₀ s.1
  | .publishing _ state p => p = .set ∧ Same r₀ s.1 ∨ p = .publish ∧ Wrote r₀ state s.1
  | .updating _ state u => Counting r₀ state sessionID countGone s.1 u
  | .returned _ => Settled r₀ s.1

theorem Registering.Held.updated {r : Server} {state : SlaveState} {u : Updating}
    (settled : Settled r₀ r)
    (counting : u.running = true → Counting r₀ state state.sessionID countLive r u) :
    Registering.Held r₀ (r, .updated state u) := by
  cases u with
  | returned result => cases result <;> exact settled
  | _ => exact counting rfl

theorem Registering.Held.rewrite {r : Server} {pc : Registering}
    (held : Registering.Held r₀ (r, pc)) (key : String) :
    Registering.Held r₀ (Cluster.rewrite r key, pc) := by
  have same := (same_rewrite r key).symm
  cases pc with
  | getActiveSessionID => exact Same.trans held same
  | resolved sessionID => exact Same.trans held same
  | publishing state p => exact ⟨held.1, held.2.of_same same.symm⟩
  | updating state u => exact Counting.rewrite held key
  | returned result => exact Settled.of_same held same

theorem Registering.Held.step {req : RegisterSlaveRequest} {s t : Server × Registering} {a : Move}
    (held : Registering.Held r₀ s) (taken : (registerSlave req).system.step s a = some t) :
    Registering.Held r₀ t ∧ (¬ Alike r₀ t.1 ↔ ¬ Alike r₀ s.1 ∨ ¬ Registering.Spares req s a) := by
  obtain ⟨r, pc⟩ := s
  cases a with
  | rewrite key =>
    cases Option.some.inj taken
    exact ⟨held.rewrite key, raises_none (same_rewrite r key).symm trivial⟩
  | step i slaveID =>
    cases Option.some.inj taken
    cases pc with
    | getActiveSessionID =>
      have same : Same r₀ r := held
      refine ⟨?_, raises_none (fun _ => rfl) trivial⟩
      simp only [registerSlave, Registering.step]
      split
      · exact same.settled
      · exact same
    | resolved sessionID =>
      have same : Same r₀ r := held
      by_cases blank : isBlank sessionID = true
      · have start : publishSlaveState (registeredState sessionID req slaveID i.now) =
            .returned (some "session_id is required") := if_pos blank
        simp only [registerSlave, Registering.step, start]
        exact ⟨same.settled, raises_none (fun _ => rfl) (.inl blank)⟩
      · have start : publishSlaveState (registeredState sessionID req slaveID i.now) = .set :=
          if_neg blank
        have raises := raises_set same i (registeredState sessionID req slaveID i.now)
        simp only [registerSlave, Registering.step, start]
        refine ⟨?_, raises.trans (by simp [Registering.Spares, blank])⟩
        rcases set_step same i (registeredState sessionID req slaveID i.now) with
          ⟨err, failed, settled⟩ | ⟨stored, wrote⟩
        · rw [failed]
          exact settled
        · rw [stored]
          exact ⟨rfl, wrote⟩
    | publishing state p =>
      obtain ⟨rfl, wrote⟩ := held
      obtain ⟨⟨err, returned⟩, same⟩ := publish_step (r := r) i state
      refine ⟨?_, raises_none same trivial⟩
      simp only [registerSlave, Registering.step, returned]
      cases err with
      | none => exact ⟨wrote.of_same same.symm, trivial, rfl⟩
      | some err => exact (wrote.of_same same.symm).settled
    | updating state u =>
      obtain ⟨settled, counting⟩ := Counting.step countLive_moves held i
      exact ⟨.updated settled counting, raises_count countLive_moves held i⟩
    | returned result => exact ⟨held, raises_none (fun _ => rfl) trivial⟩

theorem PodUpdating.Held.updated {S : String} {r : Server} {previous state : SlaveState}
    {u : Updating} (settled : Settled r₀ r)
    (counting : u.running = true → Counting r₀ state S countGone r u) :
    PodUpdating.Held S r₀ (r, .updated previous state u) := by
  cases u with
  | returned result => cases result <;> exact settled
  | _ => exact counting rfl

theorem PodUpdating.Held.rewrite {S : String} {r : Server} {pc : PodUpdating}
    (held : PodUpdating.Held S r₀ (r, pc)) (key : String) :
    PodUpdating.Held S r₀ (Cluster.rewrite r key, pc) := by
  have same := (same_rewrite r key).symm
  cases pc with
  | received => exact Same.trans held same
  | publishing previous state p =>
    exact held.imp (fun ⟨at_set, before⟩ => ⟨at_set, before.trans same⟩)
      fun ⟨at_publish, wrote⟩ => ⟨at_publish, wrote.of_same same.symm⟩
  | updating previous state u => exact Counting.rewrite held key
  | returned err => exact Settled.of_same held same

theorem PodUpdating.Held.step {S : String} {message : Message} {s t : Server × PodUpdating}
    {a : Move} (held : PodUpdating.Held S r₀ s)
    (taken : (handlePodStateUpdate S message).system.step s a = some t) :
    PodUpdating.Held S r₀ t ∧ (¬ Alike r₀ t.1 ↔ ¬ Alike r₀ s.1 ∨ ¬ PodUpdating.Spares S s a) := by
  obtain ⟨r, pc⟩ := s
  cases a with
  | rewrite key =>
    cases Option.some.inj taken
    exact ⟨held.rewrite key, raises_none (same_rewrite r key).symm trivial⟩
  | step i slaveID =>
    cases Option.some.inj taken
    cases pc with
    | received =>
      have same : Same r₀ r := held
      refine ⟨?_, raises_none ?_ trivial⟩
      · simp only [handlePodStateUpdate, PodUpdating.step]
        split
        · exact same.settled
        · split
          · exact same.settled
          · simp only [publishSlaveState]
            split
            · exact same.settled
            · exact .inl ⟨rfl, same⟩
      · simp only [handlePodStateUpdate, PodUpdating.step]
        exact fun _ => rfl
    | publishing previous state p =>
      rcases held with ⟨rfl, same⟩ | ⟨rfl, wrote⟩
      · refine ⟨?_, raises_set same i state⟩
        simp only [handlePodStateUpdate, PodUpdating.step]
        rcases set_step same i state with ⟨err, failed, settled⟩ | ⟨stored, wrote⟩
        · rw [failed]
          exact settled
        · rw [stored]
          exact .inr ⟨rfl, wrote⟩
      · obtain ⟨⟨err, returned⟩, same⟩ := publish_step (r := r) i state
        have after := wrote.of_same same.symm
        refine ⟨?_, raises_none same trivial⟩
        simp only [handlePodStateUpdate, PodUpdating.step, returned]
        cases err with
        | none =>
          simp only [published]
          split
          · exact ⟨after, trivial, rfl⟩
          · exact after.settled
        | some err => exact after.settled
    | updating previous state u =>
      obtain ⟨settled, counting⟩ := Counting.step countGone_moves held i
      exact ⟨.updated settled counting, raises_count countGone_moves held i⟩
    | returned err => exact ⟨held, raises_none (fun _ => rfl) trivial⟩

end Steps

section Again

variable {r r' : Server}

theorem Same.put (same : Same r r') (key : String) (payload : Payload) (l : String) :
    (r.store.put key payload).get l = (r'.store.put key payload).get l := by
  by_cases own : l = key
  · subst own
    rw [Stamped.Store.get_put_self, Stamped.Store.get_put_self]
  · rw [Stamped.Store.get_put_of_ne own, Stamped.Store.get_put_of_ne own]
    exact same l

theorem Same.published (same : Same r r') (state : SlaveState) :
    Same (Command.run (Command.run r (.set state)) (.publish state))
      (Command.run (Command.run r' (.set state)) (.publish state)) :=
  same.put (sessionSlaveKey state.sessionID state.slaveID) (.slave state)

/-- UpdateSessionMetrics inside an operation that goes on with its result. -/
theorem Same.counting {L : Type} {step : Server → L → L × Command} (again : Updating → L)
    (S : String) (fn : SessionMetrics → SessionMetrics) (now : Time)
    (steps : ∀ r u, step r (again u) =
      (again (u.step S fn r (answers now)).1, (u.step S fn r (answers now)).2))
    (same : Same r r') :
    Same (alone step 3 r (again (.watch 0))).1 (alone step 3 r' (again (.watch 0))).1 := by
  intro key
  have metrics := same (sessionMetricsKey S)
  simp only [alone, steps, Updating.step, answers, Reply.error, Command.run, metrics]
  cases r'.store.get (sessionMetricsKey S) with
  | none => exact same key
  | some payload =>
    cases payload with
    | metrics m =>
      simp only [decodeSessionMetrics, if_true, Reply.change]
      exact same.put _ _ key
    | _ => exact same key

section Steps

variable {L : Type} {step : Server → L → L × Command} {l l' : L} {c : Command} {n : Nat}

theorem Same.next (ran : step r l = (l', c)) (ran' : step r' l = (l', c))
    (next : Same (alone step n (c.run r) l').1 (alone step n (c.run r') l').1) :
    Same (alone step (n + 1) r l).1 (alone step (n + 1) r' l).1 := by
  rwa [alone, ran, alone, ran']

theorem Same.goes (ran : ∀ r, step r l = (l', c))
    (next : Same (alone step n (c.run r) l').1 (alone step n (c.run r') l').1) :
    Same (alone step (n + 1) r l).1 (alone step (n + 1) r' l).1 :=
  .next (ran r) (ran r') next

theorem Same.finished (same : Same r r') (halts : ∀ r, step r l = (l, .read)) :
    Same (alone step n r l).1 (alone step n r' l).1 := by
  induction n with
  | zero => exact same
  | succ n ih => exact .goes halts ih

end Steps

/-- What an operation does alone is settled by what the keys hold. -/
theorem Same.registerSlave (same : Same r r') (req : RegisterSlaveRequest) (now : Time)
    (slaveID : UUID) : Same ((Cluster.registerSlave req).once now slaveID r)
      ((Cluster.registerSlave req).once now slaveID r') := by
  have first : ∀ r : Server, Registering.step req r (answers now) slaveID .getActiveSessionID =
      (match r.store.get activeSessionKey with
        | none => .returned (.error "get active session: active session not found")
        | some payload => .resolved payload.raw, .read) := by
    intro r
    simp only [Registering.step, getActiveSessionID, answers, Reply.error]
    cases r.store.get activeSessionKey <;> rfl
  refine .next (first r) (same activeSessionKey ▸ first r') ?_
  cases r.store.get activeSessionKey with
  | none => exact same.finished fun _ => rfl
  | some payload =>
    by_cases blank : isBlank payload.raw = true
    · have second : ∀ r : Server, Registering.step req r (answers now) slaveID
          (.resolved payload.raw) =
          (.returned (.error "publish slave state: session_id is required"), .read) := by
        intro r
        have start : publishSlaveState (registeredState payload.raw req slaveID now) =
            .returned (some "session_id is required") := if_pos blank
        simp only [Registering.step, answers, start]
        rfl
      exact .goes second (same.finished fun _ => rfl)
    · have second : ∀ r : Server, Registering.step req r (answers now) slaveID
          (.resolved payload.raw) =
          (.publishing (registeredState payload.raw req slaveID now) .publish,
            .set (registeredState payload.raw req slaveID now)) := by
        intro r
        have start : publishSlaveState (registeredState payload.raw req slaveID now) = .set :=
          if_neg blank
        simp only [Registering.step, answers, start]
        rfl
      have counts : ∀ (r : Server) (u : Updating),
          Registering.step req r (answers now) slaveID
            (.updated (registeredState payload.raw req slaveID now) u) =
          (.updated (registeredState payload.raw req slaveID now)
              (u.step payload.raw countLive r (answers now)).1,
            (u.step payload.raw countLive r (answers now)).2) := by
        intro r u
        cases u with
        | returned result => cases result <;> rfl
        | _ => rfl
      have third : ∀ r : Server, Registering.step req r (answers now) slaveID
          (.publishing (registeredState payload.raw req slaveID now) .publish) =
          (.updated (registeredState payload.raw req slaveID now) (.watch 0),
            .publish (registeredState payload.raw req slaveID now)) := fun _ => rfl
      have counted := Same.counting (Registering.updated (registeredState payload.raw req slaveID
        now)) _ _ _ counts (same.published (registeredState payload.raw req slaveID now))
      exact .goes second (.goes third counted)

theorem Same.handlePodStateUpdate (same : Same r r') (S : String) (message : Message) (now : Time)
    (slaveID : UUID) : Same ((Cluster.handlePodStateUpdate S message).once now slaveID r)
      ((Cluster.handlePodStateUpdate S message).once now slaveID r') := by
  have got : getSlaveState r (answers now) S message.slaveID =
      getSlaveState r' (answers now) S message.slaveID := by
    simp only [getSlaveState, same (sessionSlaveKey S message.slaveID)]
  have first : PodUpdating.step S message r (answers now) .received =
      PodUpdating.step S message r' (answers now) .received := by
    simp only [PodUpdating.step, got]
  generalize started : PodUpdating.step S message r' (answers now) .received = next at first
  have moved : PodUpdating.Moved S message r' (answers now) .received next :=
    started ▸ PodUpdating.step_moved rfl
  refine .next first started ?_
  cases moved with
  | rejected => exact same.finished fun _ => rfl
  | failed fault => cases fault
  | @receive reason previous state =>
    refine .goes (fun _ => rfl) ?_
    by_cases counted : counts previous state = true
    · have third : ∀ r : Server, PodUpdating.step S message r (answers now)
          (.publishing previous state .publish) =
          (.updating previous state (.watch 0), .publish state) := by
        intro r
        simp only [PodUpdating.step, Publishing.step, answers, Reply.error, PodUpdating.published,
          if_pos counted]
        rfl
      have counts : ∀ (r : Server) (u : Updating),
          PodUpdating.step S message r (answers now) (.updated previous state u) =
          (.updated previous state (u.step S countGone r (answers now)).1,
            (u.step S countGone r (answers now)).2) := by
        intro r u
        cases u with
        | returned result => cases result <;> rfl
        | _ => rfl
      have counted := Same.counting (PodUpdating.updated previous state) _ _ _ counts
        (same.published state)
      exact .goes third counted
    · have third : ∀ r : Server, PodUpdating.step S message r (answers now)
          (.publishing previous state .publish) = (.returned none, .publish state) := by
        intro r
        simp only [PodUpdating.step, Publishing.step, answers, Reply.error, PodUpdating.published,
          if_neg counted]
        rfl
      exact .goes third (Same.finished (same.published state) fun _ => rfl)

end Again

section Law

variable {r₀ : Server} {as : List Move}

/-- The law of an operation from what one of its steps keeps and shows. -/
theorem Operation.law {L : Type} {op : Operation L} (Held : Server × L → Prop)
    {Spares : Server × L → Move → Prop} {s : Server × L} (start : Held (r₀, op.start))
    (kept : ∀ s a t, Held s → op.system.step s a = some t →
      Held t ∧ (¬ Alike r₀ t.1 ↔ ¬ Alike r₀ s.1 ∨ ¬ Spares s a))
    (settled : ∀ s, Held s → op.failed s.2 = true → Settled r₀ s.1)
    (again : ∀ r, Same r₀ r → ∀ now slaveID,
      Same (op.once now slaveID r₀) (op.once now slaveID r))
    (ran : op.system.run (r₀, op.start) as = some s) (failed : op.failed s.2 = true) :
    NothingHappened op r₀ s.1 ↔ op.system.Meets Spares (r₀, op.start) as := by
  have everything : op.system.Meets (fun _ _ => True) (r₀, op.start) as :=
    System.meets_of_forall (fun _ _ _ => trivial) _
  have held : Held s := (System.run_reachable ran).invariant start
    fun t a u before _ taken => (kept t a u before taken).1
  have raised : ¬ Alike r₀ s.1 ↔ ¬ Alike r₀ r₀ ∨ ¬ op.system.Meets Spares (r₀, op.start) as :=
    System.run_raises (J := Held) (P := fun t => ¬ Alike r₀ t.1)
      (fun t a u before _ taken => (kept t a u before taken).1)
      (fun t a u before _ taken => (kept t a u before taken).2) start everything ran
  have first : Alike r₀ r₀ := Same.alike fun _ => rfl
  have alike_iff : Alike r₀ s.1 ↔ op.system.Meets Spares (r₀, op.start) as := by
    simpa only [first, not_true_eq_false, false_or, not_iff_not] using raised
  rw [← alike_iff]
  refine ⟨And.left, fun alike => ⟨alike, fun now slaveID => ?_⟩⟩
  have same : Same r₀ s.1 := (settled s held failed).resolve_right (not_not_intro alike)
  exact (again s.1 same now slaveID).alike

theorem fails_cleanly :
    (∀ req as s, (registerSlave req).system.run (r₀, .getActiveSessionID) as = some s →
      (registerSlave req).failed s.2 = true →
      (NothingHappened (registerSlave req) r₀ s.1 ↔
        (registerSlave req).system.Meets (Registering.Spares req) (r₀, .getActiveSessionID) as)) ∧
    (∀ S message as s, (handlePodStateUpdate S message).system.run (r₀, .received) as = some s →
      (handlePodStateUpdate S message).failed s.2 = true →
      (NothingHappened (handlePodStateUpdate S message) r₀ s.1 ↔
        (handlePodStateUpdate S message).system.Meets (PodUpdating.Spares S) (r₀, .received)
          as)) := by
  constructor
  · intro req as s ran failed
    refine Operation.law (Registering.Held r₀) (fun _ => rfl)
      (fun _ _ _ held taken => held.step taken) ?_ (fun r same => same.registerSlave req) ran failed
    rintro ⟨r, pc⟩ held failed
    cases pc <;> first | exact held | cases failed
  · intro S message as s ran failed
    refine Operation.law (PodUpdating.Held S r₀) (fun _ => rfl)
      (fun _ _ _ held taken => held.step taken) ?_
      (fun r same => same.handlePodStateUpdate S message) ran failed
    rintro ⟨r, pc⟩ held failed
    cases pc <;> first | exact held | cases failed

def goes : Move := .step ⟨3, .answered⟩ .sampleSlave

def refusal : Move := .step ⟨3, .refused "connection refused"⟩ .sampleSlave

/-- RegisterSlave on the sample session, and the record of the sample slave. -/
def sampleRegistration (as : List Move) : Option (Server × Registering) :=
  (registerSlave sampleRequest).system.run (sampleSession.shared.redis, .getActiveSessionID) as

def sampleRecord (r : Server) : Option SlaveState :=
  recordAt r (sessionSlaveKey UUID.sample.text UUID.sampleSlave.text)

theorem fails_cleanly_refused : ∃ s, sampleRegistration [goes, refusal] = some s ∧
    NothingHappened (registerSlave sampleRequest) sampleSession.shared.redis s.1 := by
  obtain ⟨s, ran, failed⟩ := System.run_passes [goes, refusal]
    (fun s => (registerSlave sampleRequest).failed s.2)
    (by decide : (sampleRegistration [goes, refusal]).any _ = true)
  have spared : ∀ s, Registering.Spares sampleRequest s refusal := by
    rintro ⟨r, pc⟩
    cases pc with
    | resolved sessionID => exact .inr (.inl ⟨_, rfl⟩)
    | updating state u =>
      cases u with
      | exec a n m => exact .inl ⟨_, rfl⟩
      | _ => trivial
    | _ => trivial
  exact ⟨s, ran, (fails_cleanly.1 _ _ _ ran failed).mpr
    ⟨trivial, fun t _ => ⟨spared t, fun _ _ => trivial⟩⟩⟩

/-- A PUBLISH that fails leaves a record that no counter counts. -/
theorem fails_halfway : ∃ s, sampleRegistration [goes, goes, refusal] = some s ∧
    (registerSlave sampleRequest).failed s.2 = true ∧
    ¬ NothingHappened (registerSlave sampleRequest) sampleSession.shared.redis s.1 := by
  obtain ⟨s, ran, passes⟩ := System.run_passes [goes, goes, refusal]
    (fun s => (registerSlave sampleRequest).failed s.2 && (sampleRecord s.1).isSome)
    (by decide : (sampleRegistration [goes, goes, refusal]).any _ = true)
  simp only [Bool.and_eq_true] at passes
  refine ⟨s, ran, passes.1, fun nothing => ?_⟩
  have before : sampleRecord sampleSession.shared.redis = none := by decide
  have after : sampleRecord s.1 = none := (nothing.1.1 _).symm.trans before
  rw [after] at passes
  cases passes.2

end Law

end Megalo.Cluster
