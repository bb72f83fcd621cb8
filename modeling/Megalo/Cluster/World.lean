import Megalo.Cluster.Operations
import Megalo.Library.Interleave

/-! One session of the whole system. Redis and the slave processes are shared; the
controller's event loop, the end of the session and every RegisterSlave and
pod_state_update are threads, and move one Redis command or one call at a time. -/
namespace Megalo.Cluster

open Redis Slave Transition

/-- A slave process, a number for each start of the program. -/
abbrev ProcessID := Nat

structure World where
  redis : Server
  /-- The processes ever started, and which one answers at an address. -/
  slaves : ProcessID → Option Service
  route : String → Option ProcessID
  /-- What uuid.NewString has returned. -/
  issued : List UUID
  /-- The keys markAllSlavesGone listed. -/
  listed : Option (List String)

/-- A call of RegisterSlave keeps its caller until the answer has been delivered. -/
inductive Thread
  | register (caller : Option ProcessID) (req : RegisterSlaveRequest) (pc : Registering)
  | podUpdate (message : Message) (pc : PodUpdating)
  | controller (pc : Handling)
  | ending (pc : Ending)

structure Step where
  input : Input
  slaveID : UUID
  event : Event

/-- Processes start and stop at any time. -/
inductive Outside
  | start (p : ProcessID) (podID podName podUID podIP : String) (turns : Int32) (now : Time)
  | stop (podIP : String)

def World.run (w : World) (c : Command) : World := { w with redis := c.run w.redis }

def World.answering (w : World) (podIP : String) : Option (ProcessID × Service) :=
  (w.route podIP).bind fun p => (w.slaves p).map fun s => (p, s)

def World.setService (w : World) (p : ProcessID) (s : Service) : World :=
  { w with slaves := Function.update w.slaves p (some s) }

/-- The answer of RegisterSlave reaches its caller, or is lost on the way. -/
def deliver (w : World) (reply : Reply) (caller : ProcessID) :
    Except String SlaveState → World
  | .error _ => w
  | .ok state => match reply, w.slaves caller with
    | .answered, some s => w.setService caller (setRegistration state.slaveID s)
    | _, _ => w

/-- executeEventOnTarget: the call may fail before or after the process handled it. -/
def call (rand : Rand) (w : World) (i : Input) (event : Event) (previous : SlaveState) :
    World × Handling :=
  match w.answering previous.podIP with
  | none => (w, .idle)
  | some (p, s) =>
    let answer := executeEvent rand i.now ⟨event.eventID, event.seed, event.targetPod⟩ s
    match i.reply with
    | .answered => (w.setService p answer.2, .answered event previous answer.1)
    | .refused _ => (w, .idle)
    | .lost _ => (w.setService p answer.2, .idle)

def Thread.move (S : UUID) (rand : Rand) (step : Step) (w : World) :
    Thread → Option (World × Thread)
  | .register caller req (.returned result) => caller.map fun p =>
    (deliver w step.input.reply p result, .register none req (.returned result))
  | .register caller req (.resolved sessionID) =>
    if step.slaveID ∈ w.issued then none
    else
      let next := (Registering.resolved sessionID).step req w.redis step.input step.slaveID
      some ({ w.run next.2 with issued := step.slaveID :: w.issued }, .register caller req next.1)
  | .register caller req pc =>
    let next := pc.step req w.redis step.input step.slaveID
    some (w.run next.2, .register caller req next.1)
  | .podUpdate _ (.returned _) => none
  | .podUpdate message pc =>
    let next := pc.step S.text message w.redis step.input
    some (w.run next.2, .podUpdate message next.1)
  | .controller .idle =>
    if step.event.sessionID = S.text then
      some (w, .controller (.listing step.event .keys))
    else none
  | .controller (.dispatch event previous) =>
    let next := call rand w step.input event previous
    some (next.1, .controller next.2)
  | .controller pc =>
    let next := pc.step w.redis step.input step.event
    some (w.run next.2, .controller next.1)
  | .ending (.returned _) => none
  | .ending (.listing .keys) =>
    let next := (Ending.listing .keys).step S.text w.redis step.input
    some ({ w.run next.2 with listed := match step.input.reply with
      | .answered => some (w.redis.keys (sessionSlavePattern S.text))
      | _ => w.listed }, .ending next.1)
  | .ending pc =>
    let next := pc.step S.text w.redis step.input
    some (w.run next.2, .ending next.1)

/-- A slave calls RegisterSlave while it has no slave id; anyone else may call it too. -/
def Thread.starts (w : World) : Thread → Bool
  | .register caller req .getActiveSessionID => match caller with
    | none => true
    | some p => ((w.slaves p).bind registrationInfo).map registerRequest == some req
  | .podUpdate _ .received => true
  | _ => false

/-- An operation that has begun and not returned; endSession begins with its first command. -/
def Thread.inFlight : Thread → Bool
  | .register _ _ pc => match pc with
    | .returned _ => false
    | _ => true
  | .podUpdate _ pc => match pc with
    | .returned _ => false
    | _ => true
  | .controller pc => match pc with
    | .idle => false
    | _ => true
  | .ending pc => match pc with
    | .listing .keys | .returned _ => false
    | _ => true

def World.outside (w : World) : Outside → Option World
  | .start p podID podName podUID podIP turns now =>
    if (w.slaves p).isSome then none
    else
      let blank : PodState := ⟨"", "", "", "", "", 0, 0, .unspecified, .unspecified, 0, 0, 0,
        false, false⟩
      some { w.setService p (setupPod now podID podName podUID podIP ⟨turns, blank⟩) with
        route := Function.update w.route podIP (some p) }
  | .stop podIP => some { w with route := Function.update w.route podIP none }

def cluster (S : UUID) (rand : Rand) : Composite World Thread Step Outside where
  starts := Thread.starts
  move _ := Thread.move S rand
  outside e w := w.outside e

/-- CreateSession has run on what was left in Redis; the controller waits for events, and
endSession has not run its first command. -/
def started (S : UUID) (startedAt : Time) (r : Server) : Config World Thread where
  shared :=
    { redis := Command.run r (.create ⟨S.text, startedAt⟩ ⟨S.text, 0, 0, startedAt⟩)
      slaves := fun _ => none
      route := fun _ => none
      issued := []
      listed := none }
  threads := [.controller .idle, .ending (endSession S.text)]

/-- The session of the sample runs, on an empty Redis. -/
def sampleCluster : System (Config World Thread) (Turn Thread Step Outside) :=
  (cluster .sample .least).system

def sampleSession : Config World Thread := started .sample 1 .empty

/-- An event that only lets the pod recover, and so draws no random number. -/
def sampleEvent (targetPod : String) : Event :=
  ⟨5, 11, targetPod, UUID.sample.text, "master-service", 2⟩

def sampleRequest : RegisterSlaveRequest := ⟨"slave-service-0", "uid-1", "10.0.0.10", 3⟩

/-- A turn of a thread on a Redis that answers; a registration draws the sample slave id. -/
def turn (i : Nat) (targetPod : String) : Turn Thread Step Outside :=
  .run i ⟨⟨3, .answered⟩, .sampleSlave, sampleEvent targetPod⟩

def turns (n i : Nat) : List (Turn Thread Step Outside) := List.replicate n (turn i "")

/-- A slave process starts and calls RegisterSlave, which goes through. -/
def registers : List (Turn Thread Step Outside) :=
  .outside (.start 0 "slave-1" "slave-service-0" "uid-1" "10.0.0.10" 3 1) ::
    .start (.register (some 0) sampleRequest .getActiveSessionID) :: turns 6 2

def joins : List (Turn Thread Step Outside) := registers ++ [turn 2 ""]

def goneMessage : Message :=
  ⟨"", UUID.sampleSlave.text, SlaveStatus.gone.text, DeathReason.userAction.text⟩

/-- A pod_state_update as thread i takes n turns. -/
def reports (n i : Nat) : List (Turn Thread Step Outside) :=
  .start (.podUpdate goneMessage .received) :: turns n i

def sessionEnded (c : Config World Thread) : Bool :=
  match (c.threads[1]? : Option Thread) with
  | some (.ending (.returned none)) => true
  | _ => false

theorem sessionEnded_returned {c : Config World Thread} (ended : sessionEnded c = true) :
    c.threads[1]? = some (.ending (.returned none)) := by
  unfold sessionEnded at ended
  split at ended
  · assumption
  · cases ended

section Moves

variable {S : UUID} {rand : Rand} {step : Step} {w w' : World} {t t' : Thread}

@[simp] theorem setService_slaves (w : World) (p : ProcessID) (s : Service) :
    (w.setService p s).slaves = Function.update w.slaves p (some s) := rfl

theorem deliver_cases (w : World) (reply : Reply) (p : ProcessID)
    (result : Except String SlaveState) : deliver w reply p result = w ∨
      ∃ state s, result = .ok state ∧ w.slaves p = some s ∧
        deliver w reply p result = w.setService p (setRegistration state.slaveID s) := by
  cases result with
  | error err => exact .inl rfl
  | ok state =>
    cases held : w.slaves p with
    | none =>
      apply Or.inl
      simp only [deliver, held]
    | some s =>
      cases reply with
      | answered =>
        refine .inr ⟨state, s, rfl, rfl, ?_⟩
        simp only [deliver, held]
      | refused err => exact .inl rfl
      | lost err => exact .inl rfl

theorem answering_held {w : World} {podIP : String} {p : ProcessID} {s : Service}
    (found : w.answering podIP = some (p, s)) : w.slaves p = some s := by
  obtain ⟨q, _, found⟩ := Option.bind_eq_some_iff.mp found
  obtain ⟨s', held, same⟩ := Option.map_eq_some_iff.mp found
  cases same
  exact held

theorem call_cases (rand : Rand) (w : World) (i : Input) (event : Event)
    (previous : SlaveState) :
    call rand w i event previous = (w, .idle) ∨ ∃ p s, w.answering previous.podIP = some (p, s) ∧
      w.slaves p = some s ∧ ∃ pc, call rand w i event previous = (w.setService p
        (executeEvent rand i.now ⟨event.eventID, event.seed, event.targetPod⟩ s).2, pc) ∧
        (pc = .idle ∨ i.reply = .answered ∧ pc = .answered event previous
          (executeEvent rand i.now ⟨event.eventID, event.seed, event.targetPod⟩ s).1) := by
  cases found : w.answering previous.podIP with
  | none =>
    apply Or.inl
    simp only [call, found]
  | some answering =>
    obtain ⟨p, s⟩ := answering
    have held : w.slaves p = some s := answering_held found
    cases reply : i.reply with
    | answered =>
      refine .inr ⟨p, s, rfl, held, _, ?_, .inr ⟨rfl, rfl⟩⟩
      simp only [call, found, reply]
    | refused err =>
      apply Or.inl
      simp only [call, found, reply]
    | lost err =>
      refine .inr ⟨p, s, rfl, held, _, ?_, .inl rfl⟩
      simp only [call, found, reply]

inductive Thread.Moved (S : UUID) (rand : Rand) (step : Step) (w : World) :
    Thread → World × Thread → Prop
  | deliver {caller : ProcessID} {req : RegisterSlaveRequest} {result : Except String SlaveState} :
      Moved S rand step w (.register (some caller) req (.returned result))
        (deliver w step.input.reply caller result, .register none req (.returned result))
  | resolved {caller : Option ProcessID} {req : RegisterSlaveRequest} {sessionID : String}
      {next : Registering × Command}
      (ran : (Registering.resolved sessionID).step req w.redis step.input step.slaveID = next)
      (fresh : step.slaveID ∉ w.issued) :
      Moved S rand step w (.register caller req (.resolved sessionID))
        ({ w.run next.2 with issued := step.slaveID :: w.issued }, .register caller req next.1)
  | register {caller : Option ProcessID} {req : RegisterSlaveRequest} {pc : Registering}
      {next : Registering × Command} (ran : pc.step req w.redis step.input step.slaveID = next)
      (settled : ∀ sessionID, pc ≠ .resolved sessionID)
      (running : ∀ result, pc ≠ .returned result) :
      Moved S rand step w (.register caller req pc) (w.run next.2, .register caller req next.1)
  | podUpdate {message : Message} {pc : PodUpdating} {next : PodUpdating × Command}
      (ran : pc.step S.text message w.redis step.input = next)
      (running : ∀ err, pc ≠ .returned err) :
      Moved S rand step w (.podUpdate message pc) (w.run next.2, .podUpdate message next.1)
  | receive (ours : step.event.sessionID = S.text) :
      Moved S rand step w (.controller .idle) (w, .controller (.listing step.event .keys))
  | call {event : Event} {previous : SlaveState} {next : World × Handling}
      (ran : call rand w step.input event previous = next) :
      Moved S rand step w (.controller (.dispatch event previous)) (next.1, .controller next.2)
  | handle {pc : Handling} {next : Handling × Command}
      (ran : pc.step w.redis step.input step.event = next) (busy : pc ≠ .idle)
      (settled : ∀ event previous, pc ≠ .dispatch event previous) :
      Moved S rand step w (.controller pc) (w.run next.2, .controller next.1)
  | list {next : Ending × Command}
      (ran : (Ending.listing .keys).step S.text w.redis step.input = next) :
      Moved S rand step w (.ending (.listing .keys))
        ({ w.run next.2 with listed := match step.input.reply with
            | .answered => some (w.redis.keys (sessionSlavePattern S.text))
            | _ => w.listed }, .ending next.1)
  | ending {pc : Ending} {next : Ending × Command}
      (ran : pc.step S.text w.redis step.input = next) (later : pc ≠ .listing .keys)
      (running : ∀ err, pc ≠ .returned err) :
      Moved S rand step w (.ending pc) (w.run next.2, .ending next.1)

theorem Thread.move_moved (taken : t.move S rand step w = some (w', t')) :
    t.Moved S rand step w (w', t') := by
  cases t with
  | register caller req pc =>
    cases pc with
    | returned result =>
      cases caller with
      | none => cases taken
      | some p =>
        cases Option.some.inj taken
        exact .deliver
    | resolved sessionID =>
      simp only [move, Option.ite_none_left_eq_some] at taken
      obtain ⟨fresh, taken⟩ := taken
      generalize ran : Registering.step req w.redis step.input step.slaveID _ = next at taken
      cases Option.some.inj taken
      exact .resolved ran fresh
    | _ =>
      simp only [move] at taken
      generalize ran : Registering.step req w.redis step.input step.slaveID _ = next at taken
      cases Option.some.inj taken
      exact .register ran (by simp) (by simp)
  | podUpdate message pc =>
    cases pc with
    | returned err => cases taken
    | _ =>
      simp only [move] at taken
      generalize ran : PodUpdating.step S.text message w.redis step.input _ = next at taken
      cases Option.some.inj taken
      exact .podUpdate ran (by simp)
  | controller pc =>
    cases pc with
    | idle =>
      simp only [move, Option.ite_none_right_eq_some] at taken
      obtain ⟨ours, taken⟩ := taken
      cases Option.some.inj taken
      exact .receive ours
    | dispatch event previous =>
      simp only [move] at taken
      generalize ran : call rand w step.input event previous = next at taken
      cases Option.some.inj taken
      exact .call ran
    | _ =>
      simp only [move] at taken
      generalize ran : Handling.step w.redis step.input step.event _ = next at taken
      cases Option.some.inj taken
      exact .handle ran (by simp) (by simp)
  | ending pc =>
    cases pc with
    | returned err => cases taken
    | listing l =>
      cases l with
      | keys =>
        simp only [move] at taken
        generalize ran : Ending.step S.text w.redis step.input _ = next at taken
        cases Option.some.inj taken
        exact .list ran
      | _ =>
        simp only [move] at taken
        generalize ran : Ending.step S.text w.redis step.input _ = next at taken
        cases Option.some.inj taken
        exact .ending ran (by simp) (by simp)
    | _ =>
      simp only [move] at taken
      generalize ran : Ending.step S.text w.redis step.input _ = next at taken
      cases Option.some.inj taken
      exact .ending ran (by simp) (by simp)

end Moves

end Megalo.Cluster
