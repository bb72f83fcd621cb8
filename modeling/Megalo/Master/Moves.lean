import Megalo.Master.World
import Megalo.Cluster.Moves

/-! The moves of master-service, each said once. The sessions move by themselves: whatever
else happens, what is reached of them is reached by the critical sections alone. -/
namespace Megalo.Master

open Redis Cluster Transition
open Session (ThreadID)

section Commands

variable {r : Server} {c : Command} {i : Input}

/-- A command that leaves session:active as it is and deletes no key. -/
def Outlives : Command → Prop
  | .create _ _ | .delete _ => False
  | _ => True

theorem active_run (outlives : Outlives c) :
    (c.run r).store.get activeSessionKey = r.store.get activeSessionKey := by
  cases c with
  | set state => exact Stamped.Store.get_put_of_ne (sessionSlaveKey_ne_active _ _).symm
  | setMetrics S m => exact Stamped.Store.get_put_of_ne (sessionMetricsKey_ne_active S).symm
  | create => exact outlives.elim
  | delete => exact outlives.elim
  | _ => rfl

theorem isSome_put {s : Stamped.Store String Payload} {k l : String} {v : Payload}
    (there : (s.get k).isSome = true) : ((s.put l v).get k).isSome = true := by
  by_cases same : k = l
  · rw [same, Stamped.Store.get_put_self]
    rfl
  · rwa [Stamped.Store.get_put_of_ne same]

theorem isSome_run {k : String} (outlives : Outlives c)
    (there : (r.store.get k).isSome = true) : ((c.run r).store.get k).isSome = true := by
  cases c with
  | set state => exact isSome_put there
  | setMetrics S m => exact isSome_put there
  | create => exact outlives.elim
  | delete => exact outlives.elim
  | _ => exact there

theorem publishing_outlives (state : SlaveState) (p : Publishing) :
    Outlives (p.step state i).2 := by
  rcases p.step_command (i := i) state with same | same <;> rw [same]
  · cases p <;> trivial
  · trivial

/-- UpdateSessionMetrics only reads, and sets the metrics. -/
theorem updating_commands {S : String} {fn : SessionMetrics → SessionMetrics}
    {P : Command → Prop} (u : Updating) (read : P .read) (sets : ∀ m, P (.setMetrics S m)) :
    P (u.step S fn r i).2 := by
  have either : (u.step S fn r i).2 = u.pending S r ∨ (u.step S fn r i).2 = .read := u.step_command
  rcases either with same | same <;> rw [same]
  · cases u with
    | exec a stamp m =>
      simp only [Updating.pending]
      split
      · exact sets m
      · exact read
    | _ => exact read
  · exact read

theorem updating_outlives {S : String} {fn : SessionMetrics → SessionMetrics} (u : Updating) :
    Outlives (u.step S fn r i).2 :=
  updating_commands u trivial fun _ => trivial

theorem Operation.step_outlives (step : Step) (op : Operation) : Outlives (op.step step r).2 := by
  cases op with
  | registerSlave req pc =>
    cases pc with
    | resolved S => exact publishing_outlives ..
    | publishing state p => exact publishing_outlives ..
    | updating state u => exact updating_outlives u
    | _ => trivial
  | handlePodStateUpdate S message pc =>
    cases pc with
    | publishing previous state p => exact publishing_outlives ..
    | updating previous state u => exact updating_outlives u
    | _ => trivial
  | handleEvent pc =>
    cases pc with
    | publishing event previous state p => exact publishing_outlives ..
    | updating event previous state u => exact updating_outlives u
    | _ => trivial
  | updateSessionMetrics S fn pc => exact updating_outlives pc
  | handleListSlaveStates client pc => trivial

end Commands

section Moves

variable {grace : Time} {w w' : World} {c c' : Config World Call} {e : Outside}

theorem list_frame (i : Input) (op : Operation) :
    w.list i op = { w with listed := (w.list i op).listed } := by
  unfold World.list
  split
  · split <;> rfl
  · rfl

/-- The history of snapshots changes for a client when its first one lists its own session. -/
theorem list_cases (i : Input) (op : Operation) (g : ThreadID) :
    (w.list i op).listed g = w.listed g ∨
      ((w.created g).isSome = true ∧ (w.list i op).listed g = some w.sets.length ∧
        ∀ step r, (op.step step r).2 = .read) := by
  unfold World.list
  split
  · rename_i client S
    split
    · rename_i first
      by_cases own : g = client
      · subst own
        refine .inr ⟨by simp [first.2.1], Function.update_self .., fun _ _ => rfl⟩
      · exact .inl (Function.update_of_ne own ..)
    · exact .inl rfl
  · exact .inl rfl

/-- An operation touches Redis, the states channel and the history. -/
theorem move_frame (step : Step) (w : World) (call : Call) :
    (call.move step w).1 = { w with
      redis := (call.operation.step step w.redis).2.run w.redis
      channel := w.channel ++ messages (some call.set) (call.operation.step step w.redis).2
      listed := (w.list step.input call.operation).listed
      sets := w.sets ++ stored (call.operation.step step w.redis).2 } := by
  simp only [Call.move, World.run]
  rw [list_frame]

theorem createSession_uuid (now startedAt : Time) (uuid : UUID) :
    ∃ m : SessionMeta, m.sessionID = uuid.text ∧
      Redis.createSession now ⟨uuid.text, startedAt⟩ =
        .ok (.create m ⟨uuid.text, 0, 0, m.startedAt⟩) := by
  have named : isBlank uuid.text = false := uuid.not_blank
  unfold Redis.createSession
  simp only [named, Bool.false_eq_true, if_false]
  split
  · exact ⟨_, rfl, rfl⟩
  · exact ⟨_, rfl, rfl⟩

/-- The steps outside the operations. -/
inductive World.Goes (grace : Time) (w : World) : Outside → World → Prop
  | session {a : Session.Action} {s : Session.World} (allowed : w.allows a = true)
      (taken : Session.step grace w.session a = some s) :
      Goes grace w (.session a) { w with session := s }
  | fails {g : ThreadID} {uuid : UUID} {i : Input} {s : Session.World} {c : Command} {err : String}
      (fault : i.reply.error = some err)
      (taken : Session.step grace w.session (.startSession g uuid false) = some s) :
      Goes grace w (.startSession g uuid i) { w with session := s, redis := c.run w.redis }
  | starts {g : ThreadID} {uuid : UUID} {i : Input} {s : Session.World} {m : SessionMeta}
      {metrics : SessionMetrics} (answered : i.reply = .answered)
      (named : m.sessionID = uuid.text)
      (taken : Session.step grace w.session (.startSession g uuid true) = some s) :
      Goes grace w (.startSession g uuid i) { w with
        session := s
        redis := (Command.create m metrics).run w.redis
        created := Function.update w.created g (some uuid.text) }
  | ends {g : ThreadID} {i : Input} {S : String} {next : Ending} {c : Command}
      (pc : w.session.threads g = .finalizing S) (running : ∀ err, w.ends g S ≠ .returned err)
      (ran : (w.ends g S).step S w.redis i = (next, c)) :
      Goes grace w (.endSession g i) { w with
        redis := c.run w.redis
        channel := w.channel ++ messages none c
        ending := Function.update w.ending g (some next)
        endErrors := failure next ++ w.endErrors }
  | hubAdd {g : ThreadID} {m : SessionMeta} (pc : w.session.threads g = .connected m)
      (apart : w.link g = .apart) :
      Goes grace w (.hubAdd g) { w with
        link := Function.update w.link g .joined
        conns := g :: w.conns
        attached := Function.update w.attached g (some m.sessionID) }
  | hubRemove {g : ThreadID} {m : SessionMeta} {explicit : Bool}
      (pc : w.session.threads g = .closing m explicit) (joined : w.link g = .joined) :
      Goes grace w (.hubRemove g) { w with
        link := Function.update w.link g .left
        conns := w.conns.filter (· != g) }
  | undecoded {message : Published} {rest : List Published} {err : String}
      (waits : w.subscriber = .waiting) (head : w.channel = message :: rest)
      (decoded : decodeSlaveState message.payload = .error err) :
      Goes grace w .receive { w with channel := rest, subscriber := .waiting }
  | receive {message : Published} {rest : List Published} {state : SlaveState}
      (waits : w.subscriber = .waiting) (head : w.channel = message :: rest)
      (decoded : decodeSlaveState message.payload = .ok state) :
      Goes grace w .receive
        { w with channel := rest, subscriber := .decoded ⟨state, message.set⟩ }
  | skip {u : Update} (decoded : w.subscriber = .decoded u)
      (other : w.session.memory.server.sessionID = "" ∨
        u.state.sessionID ≠ w.session.memory.server.sessionID) :
      Goes grace w .check { w with subscriber := .waiting }
  | pass {u : Update} (decoded : w.subscriber = .decoded u)
      (current : u.state.sessionID = w.session.memory.server.sessionID) :
      Goes grace w .check { w with subscriber := .checked u }
  | broadcast {u : Update} {broken : List ThreadID} (checked : w.subscriber = .checked u) :
      Goes grace w (.broadcast broken) { w with
        subscriber := .waiting
        conns := w.conns.filter fun g => !broken.contains g
        written := w.written ++ (w.conns.filter fun g => !broken.contains g).map fun g => ⟨g, u⟩ }
  | publish {payload : Payload} :
      Goes grace w (.publish payload) { w with channel := w.channel ++ [⟨payload, none⟩] }
  | lose {message : Published} {rest : List Published} (head : w.channel = message :: rest) :
      Goes grace w .lose { w with channel := rest }

theorem goes_of_outside (moved : w.outside grace e = some w') : w.Goes grace e w' := by
  cases e with
  | session a =>
    simp only [World.outside, Option.ite_none_right_eq_some, Option.map_eq_some_iff] at moved
    obtain ⟨allowed, s, taken, rfl⟩ := moved
    exact .session allowed taken
  | startSession g uuid i =>
    obtain ⟨m, named, created⟩ := createSession_uuid i.now w.session.now uuid
    simp only [World.outside, World.startSession, created] at moved
    cases fault : i.reply.error with
    | some err =>
      simp only [fault, Option.map_eq_some_iff] at moved
      obtain ⟨s, taken, rfl⟩ := moved
      exact .fails fault taken
    | none =>
      simp only [fault, Option.map_eq_some_iff] at moved
      obtain ⟨s, taken, rfl⟩ := moved
      exact .starts (Reply.answered_of_error fault) named taken
  | endSession g i =>
    simp only [World.outside, World.endSession] at moved
    split at moved
    · rename_i S pc
      split at moved
      · cases moved
      · rename_i running
        cases Option.some.inj moved
        exact .ends pc running rfl
    · cases moved
  | hubAdd g =>
    simp only [World.outside, World.hubAdd] at moved
    split at moved
    · rename_i pc apart
      cases Option.some.inj moved
      exact .hubAdd pc apart
    · cases moved
  | hubRemove g =>
    simp only [World.outside, World.hubRemove] at moved
    split at moved
    · rename_i pc joined
      cases Option.some.inj moved
      exact .hubRemove pc joined
    · cases moved
  | receive =>
    simp only [World.outside, World.receive] at moved
    split at moved
    · rename_i message rest waits head
      cases Option.some.inj moved
      cases decoded : decodeSlaveState message.payload with
      | ok state => exact .receive waits head decoded
      | error err => exact .undecoded waits head decoded
    · cases moved
  | check =>
    simp only [World.outside, World.check] at moved
    split at moved
    · rename_i u decoded
      cases Option.some.inj moved
      split
      · rename_i other
        exact .skip decoded other
      · rename_i same
        simp only [not_or, ne_eq, not_not] at same
        exact .pass decoded same.2
    · cases moved
  | broadcast broken =>
    simp only [World.outside, World.broadcast] at moved
    split at moved
    · rename_i u checked
      cases Option.some.inj moved
      exact .broadcast checked
    · cases moved
  | publish payload =>
    cases Option.some.inj moved
    exact .publish
  | lose =>
    simp only [World.outside] at moved
    split at moved
    · rename_i message rest head
      cases Option.some.inj moved
      exact .lose head
    · cases moved

/-- A step takes the sessions through one critical section or leaves them. -/
theorem session_step {a : Turn Call Step Outside} (taken : (master grace).step c a = some c') :
    c'.shared.session = c.shared.session ∨
      ∃ b, Session.step grace c.shared.session b = some c'.shared.session := by
  cases Composite.took_of_step taken with
  | start => exact .inl rfl
  | @run n step call call' w' found moved =>
    obtain rfl := congrArg Prod.fst (Option.some.inj moved)
    apply Or.inl
    rw [move_frame]
  | outside moved =>
    cases goes_of_outside moved with
    | session _ entered => exact .inr ⟨_, entered⟩
    | fails _ entered => exact .inr ⟨_, entered⟩
    | starts _ _ entered => exact .inr ⟨_, entered⟩
    | _ => exact .inl rfl

theorem session_reached {ok : Config World Call → Turn Call Step Outside → Prop} {r : Server}
    (reached : (master grace).system.ReachableVia ok (boot r) c) :
    (Session.machine grace).Reachable .initial c.shared.session :=
  reached.view (f := fun d => d.shared.session) fun _ _ _ taken => session_step taken

end Moves

end Megalo.Master
