import Megalo.Auth.Gate
import Megalo.Cluster.Records
import Megalo.Master.World
import Megalo.Redis.Layout

/-! The HTTP interface of the master service: withCORS, the mux, the gate and the handlers of
main.go, for any number of requests beside one session of the whole system. A handler stands
between two of its commands; the events that it publishes are those the controller receives. -/
namespace Megalo.Http

open Redis Cluster Transition
open Auth (Gate GateStage Verifier Section)

structure PublishEventRequest where
  eventID : Int32
  seed : Int64
  targetPod : String
  deriving DecidableEq

/-- An HTTP request with a clean path; any other path is redirected by the mux. -/
structure Request where
  method : String
  path : String
  auth : Auth.Request
  /-- What the decoder makes of the body. -/
  body : Except String PublishEventRequest

inductive Body
  | empty
  | text (s : String)
  | event (event : Event)
  | sessionMeta (m : SessionMeta)
  | metrics (m : SessionMetrics)
  | states (states : List SlaveState)
  | state (state : SlaveState)

/-- A handler that has accepted its request; handleListSlaveStates is a Snapshot. -/
inductive Handler
  | publishEvent (req : PublishEventRequest)
  | getActiveSession
  | getActiveSessionMetrics
  | getSlaveState (slaveID : String)

inductive Stage
  | gating (stage : GateStage)
  | active (handler : Handler)
  /-- The handler's own command comes next; of PublishEvent it is the SET. -/
  | reading (sessionID : String) (handler : Handler)
  | listing (snapshot : Master.Snapshot)
  | publishing (event : Event)
  | answered (status : Nat) (body : Body)

structure Call where
  request : Request
  stage : Stage

inductive Effect
  | none
  | set (event : Event)
  | publish (event : Event)

def httpError (status : Nat) (message : String) : Stage := .answered status (.text message)

inductive Route
  | events
  | session
  | metrics
  | slaves
  | slave (slaveID : String)

/-- strings.TrimPrefix(path, "/internal/slaves/"), for a path under it. -/
def slavePath (path : String) : Option String :=
  if "/internal/slaves/".toList.isPrefixOf path.toList then
    some (String.ofList (path.toList.drop 17))
  else none

/-- The patterns of the mux that the gate is before, less the one for /ws. -/
def routeOf (path : String) : Option Route :=
  if path = "/events" ∨ path = "/internal/events" then some .events
  else if path = "/internal/session" then some .session
  else if path = "/internal/session/metrics" then some .metrics
  else if path = "/internal/slaves" then some .slaves
  else (slavePath path).map .slave

def saysNotFound (err : String) : Bool :=
  err.toList.tails.any fun tail => "not found".toList.isPrefixOf tail

namespace Request

variable (r : Request)

def enter : Stage :=
  if r.method = "OPTIONS" then .answered 204 .empty
  else if r.path = "/healthz" then .answered 200 (.text "ok")
  else match routeOf r.path with
    | some _ => .gating .arrived
    | none => .answered 404 (.text "404 page not found")

def getting (next : Stage) : Stage :=
  if r.method = "GET" then next else httpError 405 "method not allowed"

def dispatch : Stage :=
  match routeOf r.path with
  | some .events =>
    if r.method ≠ "POST" then httpError 405 "method not allowed"
    else match r.body with
      | .error err => httpError 400 err
      | .ok req => .active (.publishEvent req)
  | some .session => r.getting (.active .getActiveSession)
  | some .metrics => r.getting (.active .getActiveSessionMetrics)
  | some .slaves => r.getting (.listing .getActiveSessionID)
  | some (.slave slaveID) => r.getting
    (if slaveID = "" ∨ slaveID = r.path then httpError 400 "slave_id is required"
    else .active (.getSlaveState slaveID))
  | none => .answered 404 (.text "404 page not found")

end Request

def getSessionMeta (r : Server) (i : Input) (sessionID : String) : Except String SessionMeta :=
  match i.reply.error with
  | some err => .error ("get session meta: " ++ err)
  | none => match r.store.get (sessionMetaKey sessionID) with
    | none => .error ("session meta not found: " ++ sessionID)
    | some (.sessionMeta m) => .ok m
    | some _ => .error "decode session meta: invalid payload"

def getSessionMetrics (r : Server) (i : Input) (sessionID : String) :
    Except String SessionMetrics :=
  match i.reply.error with
  | some err => .error ("get session metrics: " ++ err)
  | none => match r.store.get (sessionMetricsKey sessionID) with
    | none => .error ("session metrics not found: " ++ sessionID)
    | some payload => decodeSessionMetrics payload

def PublishEventRequest.event (req : PublishEventRequest) (sessionID : String) (now : Time) :
    Event :=
  ⟨req.eventID, req.seed, req.targetPod, sessionID, "master-service", now⟩

namespace Handler

def inactive : Handler → Stage
  | .publishEvent _ => httpError 409 "active session not found"
  | _ => httpError 404 "active session not found"

/-- A command that changes something takes effect unless it was refused. -/
def effect (i : Input) (e : Effect) : Effect :=
  match i.reply with
  | .refused _ => .none
  | _ => e

def read (r : Server) (i : Input) (sessionID : String) : Handler → Stage × Effect
  | .publishEvent req =>
    if isBlank sessionID then (httpError 500 "session_id is required", .none)
    else
      let event := req.event sessionID i.now
      (match i.reply.error with
        | some err => httpError 500 ("set event: " ++ err)
        | none => .publishing event, effect i (.set event))
  | .getActiveSession => (match getSessionMeta r i sessionID with
      | .error err => httpError 500 err
      | .ok m => .answered 200 (.sessionMeta m), .none)
  | .getActiveSessionMetrics => (match getSessionMetrics r i sessionID with
      | .error err => httpError 500 err
      | .ok m => .answered 200 (.metrics m), .none)
  | .getSlaveState slaveID => (match Redis.getSlaveState r i sessionID slaveID with
      | .error err =>
        if saysNotFound err then httpError 404 ("slave state not found: " ++ slaveID)
        else httpError 500 err
      | .ok state => .answered 200 (.state state), .none)

end Handler

def listed : Master.Snapshot → Stage
  | .returned (.error err) => httpError 500 err
  | .returned (.ok states) => .answered 200 (.states states)
  | snapshot => .listing snapshot

def Stage.handle (r : Server) (i : Input) : Stage → Option (Stage × Effect)
  | .gating _ | .answered .. => none
  | .active handler => some (match getActiveSessionID r i with
      | .error _ => handler.inactive
      | .ok sessionID => .reading sessionID handler, .none)
  | .reading sessionID handler => some (handler.read r i sessionID)
  | .listing snapshot => some (listed (snapshot.step r i), .none)
  | .publishing event => some (match i.reply.error with
      | some err => httpError 500 ("publish event: " ++ err)
      | none => .answered 202 (.event event), Handler.effect i (.publish event))

def gated (request : Request) : GateStage → Stage
  | .served => request.dispatch
  | .rejected status _ => httpError status "unauthorized"
  | stage => .gating stage

structure Api where
  verifier : Verifier
  cluster : Config World Thread
  calls : List Call
  /-- What was published on the events channel, the last first. -/
  events : List Event

inductive ApiTurn
  | cluster (turn : Turn Thread Step Outside)
  | arrive (request : Request)
  | gate (n : Nat) (i : Section)
  | handle (n : Nat) (i : Input)
  /-- An event's key lives for ten minutes. -/
  | expire (createdAt : Time)

namespace Api

variable (S : UUID) (rand : Slave.Rand) (g : Gate) (s : Api)

def delivers : Turn Thread Step Outside → Bool
  | .run n step => match s.cluster.threads[n]? with
    | some (.controller .idle) => s.events.contains step.event
    | _ => true
  | _ => true

def setStore (store : Stamped.Store String Payload) : Api :=
  let w := s.cluster.shared
  { s with cluster := ⟨{ w with redis := { w.redis with store } }, s.cluster.threads⟩ }

def store : Stamped.Store String Payload := s.cluster.shared.redis.store

def effect : Effect → Api
  | .none => s
  | .set event =>
    s.setStore (s.store.put (sessionEventKey event.sessionID (unixNano event.createdAt))
      (.event event))
  | .publish event => { s with events := event :: s.events }

def setCall (n : Nat) (call : Call) : Api := { s with calls := s.calls.set n call }

def step (s : Api) : ApiTurn → Option Api
  | .cluster turn =>
    if s.delivers turn then
      ((Cluster.cluster S rand).step s.cluster turn).map fun cluster => { s with cluster }
    else none
  | .arrive request =>
    if request.path = "/ws" then none
    else some { s with calls := s.calls ++ [⟨request, request.enter⟩] }
  | .gate n i => s.calls[n]?.bind fun call => match call.stage with
    | .gating stage => (g.move i s.verifier ⟨call.request.auth, stage⟩).map fun (verifier, q) =>
      { s with verifier }.setCall n ⟨call.request, gated call.request q.stage⟩
    | _ => none
  | .handle n i => s.calls[n]?.bind fun call =>
    (call.stage.handle s.cluster.shared.redis i).map fun (stage, e) =>
      (s.effect e).setCall n ⟨call.request, stage⟩
  | .expire createdAt => some (s.setStore (s.store.drop (sessionEventKey S.text
      (unixNano createdAt))))

end Api

def api (S : UUID) (rand : Slave.Rand) (g : Gate) : System Api ApiTurn := ⟨Api.step S rand g⟩

/-- A session has been created on what was left in Redis; no request has come yet. -/
def opened (S : UUID) (startedAt clock : Time) (r : Server) : Api :=
  ⟨.initial clock, started S startedAt r, [], []⟩

end Megalo.Http
