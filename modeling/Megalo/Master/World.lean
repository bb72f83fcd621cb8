import Megalo.Cluster.Operations
import Megalo.Library.Interleave
import Megalo.Session.Slot

/-! master-service around its sessions: the /ws handlers and the timers on masterServer, their
connections in the hub, endSession and the operations of both services on Redis, and the loop
that passes the states channel on to the hub. -/
namespace Megalo.Master

open Redis Cluster Transition
open Session (ThreadID)

/-- handleListSlaveStates between two of its commands. -/
inductive Snapshot
  | getActiveSessionID
  | listing (sessionID : String) (l : Listing)
  | returned (answer : Except String (List SlaveState))

namespace Snapshot

def listed (sessionID : String) : Listing → Snapshot
  | .returned result => .returned result
  | l => .listing sessionID l

def step (r : Server) (i : Input) : Snapshot → Snapshot
  | .getActiveSessionID => match Redis.getActiveSessionID r i with
    | .error _ => .returned (.ok [])
    | .ok sessionID => .listing sessionID .keys
  | .listing sessionID l => listed sessionID (l.step sessionID r i)
  | .returned answer => .returned answer

end Snapshot

/-- What runs beside the sessions. A snapshot is of the client that a handler serves. -/
inductive Operation
  | registerSlave (req : RegisterSlaveRequest) (pc : Registering)
  | handlePodStateUpdate (sessionID : String) (message : Message) (pc : PodUpdating)
  | handleEvent (pc : Handling)
  | updateSessionMetrics (sessionID : String) (fn : SessionMetrics → SessionMetrics)
      (pc : Updating)
  | handleListSlaveStates (client : ThreadID) (pc : Snapshot)

/-- The slaves are outside; an answer of theirs may be any. -/
structure Step where
  input : Input
  slaveID : UUID
  event : Event
  answer : Except String ExecuteEventResponse

def Operation.step (step : Step) (r : Server) : Operation → Operation × Command
  | .registerSlave req pc =>
    let next := pc.step req r step.input step.slaveID
    (.registerSlave req next.1, next.2)
  | .handlePodStateUpdate sessionID message pc =>
    let next := pc.step sessionID message r step.input
    (.handlePodStateUpdate sessionID message next.1, next.2)
  | .handleEvent (.dispatch event previous) =>
    (.handleEvent (.answered event previous step.answer), .read)
  | .handleEvent pc =>
    let next := pc.step r step.input step.event
    (.handleEvent next.1, next.2)
  | .updateSessionMetrics sessionID fn pc =>
    let next := pc.step sessionID fn r step.input
    (.updateSessionMetrics sessionID fn next.1, next.2)
  | .handleListSlaveStates client pc =>
    (.handleListSlaveStates client (pc.step r step.input), .read)

def Operation.starts : Operation → Bool
  | .registerSlave _ .getActiveSessionID | .handlePodStateUpdate _ _ .received
  | .handleEvent .idle | .updateSessionMetrics _ _ (.watch 0)
  | .handleListSlaveStates _ .getActiveSessionID => true
  | _ => false

/-- An operation, and which SET of a state was its latest. -/
structure Call where
  operation : Operation
  set : Nat

/-- A message on the states channel; set is history, the SET it tells of. -/
structure Published where
  payload : Payload
  set : Option Nat
  deriving DecidableEq

/-- A decoded message. -/
structure Update where
  state : SlaveState
  set : Option Nat
  deriving DecidableEq

/-- The loop of subscribeStateUpdates. -/
inductive Subscribing
  | waiting
  | decoded (update : Update)
  | checked (update : Update)
  deriving DecidableEq

/-- Where the connection of a handler is to the hub. -/
inductive Link
  | apart
  | joined
  | left
  deriving DecidableEq

/-- A state written to the connection of a handler. -/
structure Written where
  conn : ThreadID
  update : Update
  deriving DecidableEq

structure World where
  session : Session.World
  redis : Server
  channel : List Published
  /-- endSession of a goroutine that has begun it. -/
  ending : ThreadID → Option Ending
  link : ThreadID → Link
  conns : List ThreadID
  subscriber : Subscribing
  /-- The rest is history: what endSession returned, the states the operations have SET, the
  session a handler created, the session its connection entered the hub for, the number of
  SETs when the snapshot of its client listed the session, and what the hub has written. -/
  endErrors : List String
  sets : List SlaveState
  created : ThreadID → Option String
  attached : ThreadID → Option String
  listed : ThreadID → Option Nat
  written : List Written

inductive Outside
  | session (a : Session.Action)
  | startSession (g : ThreadID) (uuid : UUID) (i : Input)
  | endSession (g : ThreadID) (i : Input)
  | hubAdd (g : ThreadID)
  | hubRemove (g : ThreadID)
  | receive
  | check
  | broadcast (broken : List ThreadID)
  /-- Anyone may publish on the states channel, and pub/sub may lose a message. -/
  | publish (payload : Payload)
  | lose

def stored : Command → List SlaveState
  | .set state => [state]
  | _ => []

def messages (set : Option Nat) : Command → List Published
  | .publish state => [⟨.slave state, set⟩]
  | _ => []

def failure : Ending → List String
  | .returned (some err) => [err]
  | _ => []

def World.run (w : World) (set : Option Nat) (c : Command) : World :=
  { w with redis := c.run w.redis, channel := w.channel ++ messages set c }

/-- The snapshot of a client lists the session its handler created. -/
def World.list (w : World) (i : Input) : Operation → World
  | .handleListSlaveStates g (.listing sessionID .keys) =>
    if i.reply = .answered ∧ w.created g = some sessionID ∧ w.listed g = none then
      { w with listed := Function.update w.listed g (some w.sets.length) }
    else w
  | _ => w

def Call.move (step : Step) (w : World) (call : Call) : World × Call :=
  let next := call.operation.step step w.redis
  let after := (w.list step.input call.operation).run (some call.set) next.2
  ({ after with sets := w.sets ++ stored next.2 },
    ⟨next.1, if (stored next.2).isEmpty then call.set else w.sets.length⟩)

section Sections

variable (grace : Time) (w : World) (g : ThreadID)

/-- endSession of a goroutine that finalizes a session. -/
def World.ends (sessionID : String) : Ending :=
  (w.ending g).getD (Cluster.endSession sessionID)

def World.ended : Bool :=
  match w.session.threads g with
  | .finalizing sessionID => match w.ends g sessionID with
    | .returned _ => true
    | _ => false
  | _ => false

/-- A handler reads from its connection between hub.add and the first error, and releases the
slot after hub.remove. -/
def World.allows : Session.Action → Bool
  | .startSession _ _ _ => false
  | .readError g _ => w.link g == .joined
  | .handleConnectionClosed g => w.link g != .joined
  | .endSession g => w.ended g
  | _ => true

def World.startSession (uuid : UUID) (i : Input) : Option World :=
  match Redis.createSession i.now ⟨uuid.text, w.session.now⟩ with
  | .error _ => (Session.step grace w.session (.startSession g uuid false)).map fun s =>
    { w with session := s }
  | .ok command => match i.reply.error with
    | some _ => (Session.step grace w.session (.startSession g uuid false)).map fun s =>
      { w with session := s, redis := (i.reply.change command).run w.redis }
    | none => (Session.step grace w.session (.startSession g uuid true)).map fun s =>
      { w with
        session := s
        redis := command.run w.redis
        created := Function.update w.created g (some uuid.text) }

/-- The next command of endSession. -/
def World.endSession (i : Input) : Option World :=
  match w.session.threads g with
  | .finalizing sessionID => match w.ends g sessionID with
    | .returned _ => none
    | pc =>
      let next := pc.step sessionID w.redis i
      some { w.run none next.2 with
        ending := Function.update w.ending g (some next.1)
        endErrors := failure next.1 ++ w.endErrors }
  | _ => none

def World.hubAdd : Option World :=
  match w.session.threads g, w.link g with
  | .connected sessionMeta, .apart => some
    { w with
      link := Function.update w.link g .joined
      conns := g :: w.conns
      attached := Function.update w.attached g (some sessionMeta.sessionID) }
  | _, _ => none

def World.hubRemove : Option World :=
  match w.session.threads g, w.link g with
  | .closing _ _, .joined => some
    { w with
      link := Function.update w.link g .left
      conns := w.conns.filter (· != g) }
  | _, _ => none

def World.receive : Option World :=
  match w.subscriber, w.channel with
  | .waiting, message :: rest => some
    { w with
      channel := rest
      subscriber := match decodeSlaveState message.payload with
        | .ok state => .decoded ⟨state, message.set⟩
        | .error _ => .waiting }
  | _, _ => none

def World.check : Option World :=
  match w.subscriber with
  | .decoded update =>
    let currentSessionID := w.session.memory.server.sessionID
    some { w with
      subscriber :=
        if currentSessionID = "" ∨ update.state.sessionID ≠ currentSessionID then .waiting
        else .checked update }
  | _ => none

/-- A connection on which the write fails leaves the hub. -/
def World.broadcast (broken : List ThreadID) : Option World :=
  match w.subscriber with
  | .checked update =>
    let alive := w.conns.filter fun g => !broken.contains g
    some { w with
      subscriber := .waiting
      conns := alive
      written := w.written ++ alive.map fun g => ⟨g, update⟩ }
  | _ => none

def World.outside : Outside → Option World
  | .session a =>
    if w.allows a then (Session.step grace w.session a).map fun s => { w with session := s }
    else none
  | .startSession g uuid i => w.startSession grace g uuid i
  | .endSession g i => w.endSession g i
  | .hubAdd g => w.hubAdd g
  | .hubRemove g => w.hubRemove g
  | .receive => w.receive
  | .check => w.check
  | .broadcast broken => w.broadcast broken
  | .publish payload => some { w with channel := w.channel ++ [⟨payload, none⟩] }
  | .lose => match w.channel with
    | _ :: rest => some { w with channel := rest }
    | [] => none

end Sections

def master (grace : Time) : Composite World Call Step Outside where
  starts _ call := call.operation.starts
  move _ step w call := some (call.move step w)
  outside e w := w.outside grace e

/-- The start of the service, on what is left in Redis. -/
def boot (r : Server) : Config World Call where
  shared :=
    { session := .initial
      redis := r
      channel := []
      ending := fun _ => none
      link := fun _ => .apart
      conns := []
      subscriber := .waiting
      endErrors := []
      sets := []
      created := fun _ => none
      attached := fun _ => none
      listed := fun _ => none
      written := [] }
  threads := []

/-- A client connects as handler g and gets a session. -/
def connects (g : ThreadID) (uuid : UUID) : List (Turn Call Step Outside) :=
  [.outside (.session (.request g)), .outside (.session (.upgrade g true)),
    .outside (.startSession g uuid ⟨1, .answered⟩), .outside (.session (.commitSession g)),
    .outside (.hubAdd g)]

/-- It closes its connection, and its session, which has no slaves, ends. -/
def disconnects (g : ThreadID) : List (Turn Call Step Outside) :=
  [.outside (.session (.readError g true)), .outside (.hubRemove g),
      .outside (.session (.handleConnectionClosed g))] ++
    List.replicate 7 (.outside (.endSession g ⟨2, .answered⟩)) ++
      [.outside (.session (.endSession g)), .outside (.session (.finalizeSession g))]

end Megalo.Master
