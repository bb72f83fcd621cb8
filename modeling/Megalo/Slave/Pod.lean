import Megalo.Domain
import Mathlib.Data.Rat.Defs
import Mathlib.Algebra.Order.Ring.Rat

/-! The slave service of libs/app/slave/service.go. The random numbers of one event come
from a generator that math/rand seeds; only the ranges of its numbers are used. -/
namespace Megalo.Slave

/-- math/rand: the same seed gives the same numbers; a float64 is the rational it stands for. -/
structure Rand where
  Source : Type
  newSource : Int64 → Source
  intn : Source → Nat → Nat × Source
  float64 : Source → Rat × Source
  intn_lt : ∀ rng n, 0 < n → (intn rng n).1 < n
  float64_range : ∀ rng, 0 ≤ (float64 rng).1 ∧ (float64 rng).1 < 1

structure PodState where
  podID : String
  k8sPodName : String
  k8sPodUID : String
  podIP : String
  slaveID : String
  turnsLived : Int32
  remaining : Int32
  status : SlaveStatus
  deathReason : DeathReason
  observedAt : Time
  stress : Int32
  fear : Int32
  infected : Bool
  firewall : Bool
  deriving DecidableEq

structure Service where
  initialRemainingTurns : Int32
  pod : PodState
  deriving DecidableEq

structure PodRegistration where
  podID : String
  initialTurn : Int32
  k8sPodName : String
  k8sPodUID : String
  podIP : String
  deriving DecidableEq

/-- slavev1.SlaveState; its observed_at text is parsed to the instant it names. -/
structure ProtoSlaveState where
  sessionID : String
  slaveID : String
  k8sPodName : String
  k8sPodUID : String
  podIP : String
  status : SlaveStatus
  deathReason : DeathReason
  turnsLived : Int32
  remainingTurns : Int32
  observedAt : Time
  stress : Int32
  fear : Int32
  infected : Bool
  firewall : Bool
  deriving DecidableEq

structure ExecuteEventRequest where
  eventID : Int32
  seed : Int64
  targetPod : String
  deriving DecidableEq

structure ExecuteEventResponse where
  accepted : Bool
  message : String
  slaveState : ProtoSlaveState
  deriving DecidableEq

/-- The instant a time.RFC3339 text keeps: whole seconds. -/
def rfc3339 (t : Time) : Time := t - t % 1000000000

/-- The float64 nearest to 0.35. -/
def deathChance : Rat := 3152519739159347 / 9007199254740992

def setupPod (now : Time) (podID podName podUID podIP : String) (s : Service) : Service :=
  { s with pod :=
    { podID, k8sPodName := podName, k8sPodUID := podUID, podIP, slaveID := ""
      turnsLived := 0, remaining := s.initialRemainingTurns, status := .live
      deathReason := .unspecified, observedAt := now, stress := 0, fear := 0
      infected := false, firewall := false } }

def registrationInfo (s : Service) : Option PodRegistration :=
  if s.pod.podID = "" ∨ s.pod.slaveID ≠ "" then none
  else some ⟨s.pod.podID, s.initialRemainingTurns, s.pod.k8sPodName, s.pod.k8sPodUID, s.pod.podIP⟩

def setRegistration (slaveID : String) (s : Service) : Service :=
  { s with pod := { s.pod with slaveID } }

def maxInt32 (current min : Int32) : Int32 := if current > min then current else min

namespace PodState

def matchesTarget (p : PodState) (target : String) : Bool :=
  target == p.podID || target == p.slaveID || target == p.k8sPodName || target == p.podIP

def toProtoState (p : PodState) : ProtoSlaveState where
  sessionID := ""
  slaveID := p.slaveID
  k8sPodName := p.k8sPodName
  k8sPodUID := p.k8sPodUID
  podIP := p.podIP
  status := p.status
  deathReason := p.deathReason
  turnsLived := p.turnsLived
  remainingTurns := p.remaining
  observedAt := rfc3339 p.observedAt
  stress := p.stress
  fear := p.fear
  infected := p.infected
  firewall := p.firewall

def tick (p : PodState) : PodState :=
  { p with
    turnsLived := p.turnsLived + 1
    remaining := if p.remaining > 0 then p.remaining - 1 else p.remaining
    stress := if p.stress > 0 then p.stress - 1 else p.stress
    fear := if p.fear > 0 then p.fear - 1 else p.fear }

section Events

variable (rand : Rand)

/-- math.Round(damage * 0.5) of a whole number rounds half away from zero. -/
def applyHit (p : PodState) (rng : rand.Source) : PodState × rand.Source :=
  let (hit, rng) := rand.intn rng 16
  let damage := if p.firewall then (10 + hit + 1) / 2 else 10 + hit
  let (dread, rng) := rand.intn rng 10
  ({ p with stress := p.stress + .ofNat damage, fear := p.fear + .ofNat (8 + dread) }, rng)

/-- math.Round(shake * 0.7), which is the nearest whole number for a shake from 14 to 25. -/
def applyScare (p : PodState) (rng : rand.Source) : PodState × rand.Source :=
  let (scare, rng) := rand.intn rng 12
  let shake := if p.firewall then (7 * (14 + scare) + 5) / 10 else 14 + scare
  ({ p with fear := p.fear + .ofNat shake }, rng)

def applyInfection (p : PodState) (rng : rand.Source) : PodState × rand.Source :=
  let (sick, rng) := rand.intn rng 8
  let (dread, rng) := rand.intn rng 4
  ({ p with
    infected := true
    stress := p.stress + .ofNat (6 + sick)
    fear := p.fear + .ofNat (5 + dread) }, rng)

def applyFirewall (p : PodState) (rng : rand.Source) : PodState × rand.Source :=
  let p := { p with firewall := !p.firewall }
  if p.firewall then
    ({ p with stress := maxInt32 (p.stress - 4) 0, fear := maxInt32 (p.fear - 2) 0 }, rng)
  else
    let (load, rng) := rand.intn rng 8
    ({ p with stress := p.stress + .ofNat load }, rng)

def recover (p : PodState) : PodState :=
  { p with stress := maxInt32 (p.stress - 1) 0, fear := maxInt32 (p.fear - 2) 0 }

def applyEvent (eventID : Int32) (p : PodState) (rng : rand.Source) : PodState × rand.Source :=
  if eventID = 1 then p.applyHit rand rng
  else if eventID = 2 then p.applyScare rand rng
  else if eventID = 3 then p.applyInfection rand rng
  else if eventID = 4 then p.applyFirewall rand rng
  else (p.recover, rng)

/-- The last number of the generator is drawn by the last comparison. -/
def mutateLife (p : PodState) (rng : rand.Source) : PodState :=
  let p :=
    if p.remaining ≤ 0 then { p with status := .terminating, deathReason := .lifespan } else p
  let p :=
    if p.status = .live ∧ p.stress ≥ 85 then
      { p with status := .terminating, deathReason := .userAction }
    else p
  let (p, rng) :=
    if p.status = .live ∧ p.infected = true ∧ p.fear > 70 then
      let (chance, rng) := rand.float64 rng
      if chance < deathChance then
        ({ p with status := .terminating, deathReason := .disease }, rng)
      else (p, rng)
    else (p, rng)
  if p.status = .terminating ∧ (rand.float64 rng).1 < deathChance then { p with status := .gone }
  else p

end Events

def describePodState (p : PodState) : String :=
  match p.status with
  | .gone => "pod terminated"
  | .terminating => "pod is terminating"
  | _ => "pod alive" ++ (if p.infected then " (infected)" else "") ++
      (if p.firewall then " (firewall)" else "")

end PodState

/-- ExecuteEvent runs under the service's mutex, in one piece. -/
def executeEvent (rand : Rand) (now : Time) (req : ExecuteEventRequest) (s : Service) :
    Except String ExecuteEventResponse × Service :=
  if s.pod.podID = "" then (.error "pod state not configured", s)
  else if req.targetPod ≠ "" ∧ s.pod.matchesTarget req.targetPod = false then
    (.error "target pod not found", s)
  else if s.pod.status = .gone then
    (.ok ⟨false, "target pod already gone", s.pod.toProtoState⟩, s)
  else
    let (pod, rng) := s.pod.tick.applyEvent rand req.eventID (rand.newSource req.seed)
    let pod := { pod.mutateLife rand rng with observedAt := now }
    (.ok ⟨pod.status == .live || pod.status == .terminating, pod.describePodState,
      pod.toProtoState⟩, { s with pod })

section Identity

variable (rand : Rand) (p : PodState) (rng : rand.Source) (eventID : Int32)

theorem applyEvent_slaveID : (p.applyEvent rand eventID rng).1.slaveID = p.slaveID := by
  unfold PodState.applyEvent
  split_ifs
  · rfl
  · rfl
  · rfl
  · unfold PodState.applyFirewall
    dsimp only
    split <;> rfl
  · rfl

theorem mutateLife_slaveID : (p.mutateLife rand rng).slaveID = p.slaveID := by
  unfold PodState.mutateLife
  dsimp only
  split_ifs <;> rfl

theorem executeEvent_slaveID (now : Time) (req : ExecuteEventRequest) (s : Service) :
    (executeEvent rand now req s).2.pod.slaveID = s.pod.slaveID := by
  unfold executeEvent
  split_ifs
  · rfl
  · rfl
  · rfl
  · simp only [mutateLife_slaveID, applyEvent_slaveID]
    rfl

theorem executeEvent_answer {now : Time} {req : ExecuteEventRequest} {s : Service}
    {resp : ExecuteEventResponse} (answered : (executeEvent rand now req s).1 = .ok resp) :
    resp.slaveState.slaveID = s.pod.slaveID := by
  unfold executeEvent at answered
  split_ifs at answered
  · rw [← Except.ok.inj answered]
    rfl
  · rw [← Except.ok.inj answered]
    simp only [PodState.toProtoState, mutateLife_slaveID, applyEvent_slaveID]
    rfl

def Service.accepts (s : Service) (target : String) : Bool :=
  s.pod.podID != "" && (target == "" || s.pod.matchesTarget target)

theorem executeEvent_accepts {now : Time} {req : ExecuteEventRequest} {s : Service}
    {resp : ExecuteEventResponse} (answered : (executeEvent rand now req s).1 = .ok resp) :
    s.accepts req.targetPod = true := by
  by_cases setup : s.pod.podID = ""
  · simp only [executeEvent, if_pos setup] at answered
    cases answered
  · by_cases missed : req.targetPod ≠ "" ∧ s.pod.matchesTarget req.targetPod = false
    · simp only [executeEvent, if_neg setup, if_pos missed] at answered
      cases answered
    · simp only [Service.accepts, Bool.and_eq_true, bne_iff_ne, Bool.or_eq_true, beq_iff_eq]
      refine ⟨setup, ?_⟩
      by_contra neither
      simp only [not_or, Bool.not_eq_true] at neither
      exact missed neither

end Identity

def Rand.least : Rand where
  Source := Unit
  newSource _ := ()
  intn _ _ := (0, ())
  float64 _ := (0, ())
  intn_lt _ _ pos := pos
  float64_range _ := ⟨le_refl _, zero_lt_one⟩

end Megalo.Slave
