import Megalo.Redis.Client
import Megalo.Slave.Pod

/-! The operations that share a session's records: RegisterSlave of libs/app/controller,
handlePodStateUpdate and endSession of apps/master-service, and the event loop of
apps/controller-service. Each stands between two of its commands, as its calls do. -/
namespace Megalo.Cluster

open Redis Slave

structure RegisterSlaveRequest where
  k8sPodName : String
  k8sPodUID : String
  podIP : String
  initialRemainingTurns : Int32
  deriving DecidableEq

/-- The request registerWithController makes of its registration info. -/
def registerRequest (pod : PodRegistration) : RegisterSlaveRequest :=
  ⟨pod.k8sPodName, pod.k8sPodUID, pod.podIP, pod.initialTurn⟩

/-- The record RegisterSlave publishes. -/
def registeredState (sessionID : String) (req : RegisterSlaveRequest) (slaveID : UUID)
    (now : Time) : SlaveState where
  sessionID := sessionID
  slaveID := slaveID.text
  k8sPodName := req.k8sPodName
  k8sPodUID := req.k8sPodUID
  podIP := req.podIP
  status := .live
  deathReason := .unspecified
  turnsLived := 0
  remainingTurns := req.initialRemainingTurns
  stress := 0
  fear := 0
  infected := false
  firewall := false
  observedAt := now
  source := "controller-service"

def countLive (m : SessionMetrics) : SessionMetrics := { m with liveSlaves := m.liveSlaves + 1 }

/-- The update applySessionMetricsForStateChange makes of the metrics. -/
def countGone (m : SessionMetrics) : SessionMetrics :=
  { m with
    liveSlaves := if m.liveSlaves > 0 then m.liveSlaves - 1 else m.liveSlaves
    goneSlaves := m.goneSlaves + 1 }

def countAllGone (count : Nat) (m : SessionMetrics) : SessionMetrics :=
  { m with liveSlaves := 0, goneSlaves := .ofNat count }

/-- The test on which applySessionMetricsForStateChange updates the metrics. -/
def counts (previous current : SlaveState) : Bool :=
  !(isTerminalState previous.status || !isTerminalState current.status)

inductive Registering
  | getActiveSessionID
  | resolved (sessionID : String)
  | publishing (state : SlaveState) (p : Publishing)
  | updating (state : SlaveState) (u : Updating)
  | returned (result : Except String SlaveState)

namespace Registering

def published (state : SlaveState) : Publishing → Registering
  | .returned none => .updating state (.attempt state.sessionID 0)
  | .returned (some err) => .returned (.error ("publish slave state: " ++ err))
  | p => .publishing state p

def updated (state : SlaveState) : Updating → Registering
  | .returned (.ok _) => .returned (.ok state)
  | .returned (.error err) => .returned (.error ("increment session live count: " ++ err))
  | u => .updating state u

/-- RegisterSlave; the slave id is drawn right before the record is published. -/
def step (req : RegisterSlaveRequest) (r : Server) (i : Input) (slaveID : UUID) :
    Registering → Registering × Command
  | .getActiveSessionID => (match Redis.getActiveSessionID r i with
      | .error err => .returned (.error ("get active session: " ++ err))
      | .ok sessionID => .resolved sessionID, .read)
  | .resolved sessionID =>
    let state := registeredState sessionID req slaveID i.now
    let next := (publishSlaveState state).step state i
    (published state next.1, next.2)
  | .publishing state p =>
    let next := p.step state i
    (published state next.1, next.2)
  | .updating state u =>
    let next := u.step state.sessionID countLive r i
    (updated state next.1, next.2)
  | .returned result => (.returned result, .read)

end Registering

/-- websocketClientMessage, as a pod_state_update. -/
structure Message where
  sessionID : String
  slaveID : String
  status : String
  deathReason : String
  deriving DecidableEq

/-- The checks of handlePodStateUpdate before its first command. -/
def checkPodStateUpdate (sessionID : String) (message : Message) : Except String DeathReason :=
  if message.sessionID ≠ "" ∧ message.sessionID ≠ sessionID then .error "session mismatch"
  else if message.slaveID = "" then .error "slave_id is required"
  else if message.status ≠ SlaveStatus.gone.text then
    .error ("unsupported status: " ++ message.status)
  else if message.deathReason = DeathReason.podDown.text then .ok .podDown
  else if message.deathReason = DeathReason.userAction.text then .ok .userAction
  else .error ("unsupported death_reason: " ++ message.deathReason)

/-- nextState of handlePodStateUpdate. -/
def reportedState (reason : DeathReason) (now : Time) (previous : SlaveState) : SlaveState :=
  { previous with
    status := .gone, deathReason := reason, observedAt := now, source := "frontend-webxr" }

inductive PodUpdating
  | received
  | publishing (previous next : SlaveState) (p : Publishing)
  | updating (previous next : SlaveState) (u : Updating)
  | returned (err : Option String)

namespace PodUpdating

def published (sessionID : String) (previous next : SlaveState) : Publishing → PodUpdating
  | .returned none =>
    if counts previous next then .updating previous next (.attempt sessionID 0)
    else .returned none
  | .returned (some err) => .returned (some ("publish slave state: " ++ err))
  | p => .publishing previous next p

def updated (previous next : SlaveState) : Updating → PodUpdating
  | .returned (.ok _) => .returned none
  | .returned (.error err) => .returned (some ("update session metrics: " ++ err))
  | u => .updating previous next u

/-- handlePodStateUpdate. -/
def step (sessionID : String) (message : Message) (r : Server) (i : Input) :
    PodUpdating → PodUpdating × Command
  | .received => (match checkPodStateUpdate sessionID message with
      | .error err => .returned (some err)
      | .ok reason => match getSlaveState r i sessionID message.slaveID with
        | .error err => .returned (some err)
        | .ok previous =>
          let next := reportedState reason i.now previous
          published sessionID previous next (publishSlaveState next), .read)
  | .publishing previous state p =>
    let next := p.step state i
    (published sessionID previous state next.1, next.2)
  | .updating previous state u =>
    let next := u.step sessionID countGone r i
    (updated previous state next.1, next.2)
  | .returned err => (.returned err, .read)

end PodUpdating

/-- FromProtoSlaveState of an answer. -/
def fromProtoSlaveState (state : ProtoSlaveState) (source : String) : SlaveState where
  sessionID := state.sessionID
  slaveID := state.slaveID
  k8sPodName := state.k8sPodName
  k8sPodUID := state.k8sPodUID
  podIP := state.podIP
  status := state.status
  deathReason := state.deathReason
  turnsLived := state.turnsLived
  remainingTurns := state.remainingTurns
  stress := state.stress
  fear := state.fear
  infected := state.infected
  firewall := state.firewall
  observedAt := state.observedAt
  source := source

/-- The choice resolveTargetSlaveState makes from the listed states. -/
def resolveTargetSlaveState (target : String) (states : List SlaveState) :
    Except String SlaveState :=
  match states with
  | [] => .error "no active slave states"
  | first :: _ =>
    if target = "" then .ok ((states.find? fun state => state.status != .gone).getD first)
    else
      let matched := states.find? fun state =>
        state.slaveID == target || state.k8sPodName == target || state.podIP == target
      match matched with
      | some state => .ok state
      | none => .error "target slave not found"

/-- The event loop of the controller, which handles one event after another. -/
inductive Handling
  | idle
  | listing (event : Event) (l : Listing)
  | dispatch (event : Event) (previous : SlaveState)
  | publishing (event : Event) (previous state : SlaveState) (p : Publishing)
  | updating (event : Event) (previous state : SlaveState) (u : Updating)

namespace Handling

/-- An error is logged, and the loop waits for the next event. -/
def resolved (event : Event) : Listing → Handling
  | .returned (.ok states) => match resolveTargetSlaveState event.targetPod states with
    | .ok previous => .dispatch event previous
    | .error _ => .idle
  | .returned (.error _) => .idle
  | l => .listing event l

def published (event : Event) (previous state : SlaveState) : Publishing → Handling
  | .returned none =>
    if counts previous state then .updating event previous state (.attempt event.sessionID 0)
    else .idle
  | .returned (some _) => .idle
  | p => .publishing event previous state p

def updated (event : Event) (previous state : SlaveState) : Updating → Handling
  | .returned _ => .idle
  | u => .updating event previous state u

/-- The state the loop publishes for an answer. -/
def answeredState (event : Event) (resp : ExecuteEventResponse) : SlaveState :=
  { fromProtoSlaveState resp.slaveState "controller-service" with sessionID := event.sessionID }

def answered (event : Event) (previous : SlaveState) : Except String ExecuteEventResponse → Handling
  | .error _ => .idle
  | .ok resp =>
    let state := answeredState event resp
    published event previous state (publishSlaveState state)

/-- A step of the loop; the answer to its call is the cluster's to give. -/
def step (r : Server) (i : Input) (event : Event) : Handling → Handling × Command
  | .idle => (.listing event .keys, .read)
  | .listing event l => (resolved event (l.step event.sessionID r i), .read)
  | .dispatch event previous => (.dispatch event previous, .read)
  | .publishing event previous state p =>
    let next := p.step state i
    (published event previous state next.1, next.2)
  | .updating event previous state u =>
    let next := u.step event.sessionID countGone r i
    (updated event previous state next.1, next.2)

end Handling

/-- What markAllSlavesGone publishes of a listed state. -/
def goneState (now : Time) (state : SlaveState) : SlaveState :=
  { state with
    status := .gone, deathReason := .processDown, observedAt := now, source := "master-service" }

inductive Ending
  | listing (l : Listing)
  | publishing (now : Time) (count : Nat) (state : SlaveState) (p : Publishing)
      (rest : List SlaveState)
  | updating (count : Nat) (u : Updating)
  | deleting (d : Deleting)
  | returned (err : Option String)

namespace Ending

/-- The loop head of markAllSlavesGone. -/
def publishNext (sessionID : String) (now : Time) (count : Nat) : List SlaveState → Ending
  | [] => .updating count (.attempt sessionID 0)
  | state :: rest => match publishSlaveState (goneState now state) with
    | .returned (some err) =>
      .returned (some ("publish gone slave state " ++ state.slaveID ++ ": " ++ err))
    | p => .publishing now count (goneState now state) p rest

def listed (sessionID : String) (now : Time) : Listing → Ending
  | .returned (.ok states) => publishNext sessionID now states.length states
  | .returned (.error err) => .returned (some ("list slave states before session end: " ++ err))
  | l => .listing l

def published (sessionID : String) (now : Time) (count : Nat) (state : SlaveState)
    (rest : List SlaveState) : Publishing → Ending
  | .returned none => publishNext sessionID now count rest
  | .returned (some err) =>
    .returned (some ("publish gone slave state " ++ state.slaveID ++ ": " ++ err))
  | p => .publishing now count state p rest

def updated (count : Nat) : Updating → Ending
  | .returned (.ok _) => .deleting .keys
  | .returned (.error err) => .returned (some ("update final session metrics: " ++ err))
  | u => .updating count u

def deleted : Deleting → Ending
  | .returned none => .returned none
  | .returned (some err) => .returned (some ("delete session: " ++ err))
  | d => .deleting d

/-- endSession: markAllSlavesGone, and DeleteSession when it succeeds. -/
def step (sessionID : String) (r : Server) (i : Input) : Ending → Ending × Command
  | .listing l => (listed sessionID i.now (l.step sessionID r i), .read)
  | .publishing now count state p rest =>
    let next := p.step state i
    (published sessionID now count state rest next.1, next.2)
  | .updating count u =>
    let next := u.step sessionID (countAllGone count) r i
    (updated count next.1, next.2)
  | .deleting d =>
    let next := d.step sessionID r i
    (deleted next.1, next.2)
  | .returned err => (.returned err, .read)

end Ending

def endSession (sessionID : String) : Ending :=
  if isBlank sessionID then .returned none else .listing .keys

end Megalo.Cluster
