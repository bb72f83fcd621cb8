import Megalo.Cluster.Operations
import Megalo.Library.Rfc3339

/-! The slave state on the wire: slavev1.SlaveState, the two encoders that write it and the one
decoder that reads it. An observation travels as text. -/
namespace Megalo.Proto

open Slave (PodState rfc3339)

/-- An enumeration of the wire is an int32, whatever its value. -/
structure SlaveStatus where
  number : Int32
  deriving DecidableEq

structure DeathReason where
  number : Int32
  deriving DecidableEq

namespace SlaveStatus

def unspecified : SlaveStatus := ⟨0⟩
def live : SlaveStatus := ⟨1⟩
def terminating : SlaveStatus := ⟨2⟩
def gone : SlaveStatus := ⟨3⟩

end SlaveStatus

namespace DeathReason

def unspecified : DeathReason := ⟨0⟩
def lifespan : DeathReason := ⟨1⟩
def disease : DeathReason := ⟨2⟩
def processDown : DeathReason := ⟨3⟩
def podDown : DeathReason := ⟨4⟩
def userAction : DeathReason := ⟨5⟩

end DeathReason

/-- slavev1.SlaveState -/
structure SlaveState where
  sessionId : String
  slaveId : String
  k8sPodName : String
  k8sPodUid : String
  podIp : String
  status : SlaveStatus
  deathReason : DeathReason
  turnsLived : Int32
  remainingTurns : Int32
  observedAt : String
  stress : Int32
  fear : Int32
  infected : Bool
  firewall : Bool
  deriving DecidableEq

/-- From the first day of the year 0 to Go's zero time, the first day of the year 1. -/
def zeroTime : Nat := 366 * 86400 * 1000000000

/-- t.Format(time.RFC3339) -/
def formatTime (t : Time) : String := Timestamp.format (t + zeroTime)

/-- time.Parse(time.RFC3339, raw); a time before Go's zero time is taken for the zero time. -/
def parseTime (raw : String) : Option Time :=
  (Timestamp.parse raw).map fun ns : Int => (ns - zeroTime).toNat

/-- toProtoStatus, one copy in each package. -/
def toProtoStatus : Megalo.SlaveStatus → SlaveStatus
  | .live => .live
  | .terminating => .terminating
  | .gone => .gone
  | .unspecified => .unspecified

/-- toProtoDeathReason, one copy in each package. -/
def toProtoDeathReason : Megalo.DeathReason → DeathReason
  | .lifespan => .lifespan
  | .disease => .disease
  | .processDown => .processDown
  | .podDown => .podDown
  | .userAction => .userAction
  | .unspecified => .unspecified

def fromProtoStatus (status : SlaveStatus) : Megalo.SlaveStatus :=
  if status = .live then .live
  else if status = .terminating then .terminating
  else if status = .gone then .gone
  else .unspecified

def fromProtoDeathReason (reason : DeathReason) : Megalo.DeathReason :=
  if reason = .lifespan then .lifespan
  else if reason = .disease then .disease
  else if reason = .processDown then .processDown
  else if reason = .podDown then .podDown
  else if reason = .userAction then .userAction
  else .unspecified

def toDomainState (p : PodState) : Megalo.SlaveState where
  sessionID := ""
  slaveID := p.slaveID
  k8sPodName := p.k8sPodName
  k8sPodUID := p.k8sPodUID
  podIP := p.podIP
  status := p.status
  deathReason := p.deathReason
  turnsLived := p.turnsLived
  remainingTurns := p.remaining
  stress := p.stress
  fear := p.fear
  infected := p.infected
  firewall := p.firewall
  observedAt := p.observedAt
  source := "slave-service"

/-- The slave service's encoder; it has no session to name. -/
def toProtoState (p : PodState) : SlaveState where
  sessionId := ""
  slaveId := p.slaveID
  k8sPodName := p.k8sPodName
  k8sPodUid := p.k8sPodUID
  podIp := p.podIP
  status := toProtoStatus p.status
  deathReason := toProtoDeathReason p.deathReason
  turnsLived := p.turnsLived
  remainingTurns := p.remaining
  observedAt := formatTime p.observedAt
  stress := p.stress
  fear := p.fear
  infected := p.infected
  firewall := p.firewall

/-- The encoder of the infra package. -/
def toProtoSlaveState (state : Megalo.SlaveState) : SlaveState where
  sessionId := state.sessionID
  slaveId := state.slaveID
  k8sPodName := state.k8sPodName
  k8sPodUid := state.k8sPodUID
  podIp := state.podIP
  status := toProtoStatus state.status
  deathReason := toProtoDeathReason state.deathReason
  turnsLived := state.turnsLived
  remainingTurns := state.remainingTurns
  observedAt := formatTime state.observedAt
  stress := state.stress
  fear := state.fear
  infected := state.infected
  firewall := state.firewall

/-- The observation that a text names; one that is no time is that of the reading. -/
def observedAt (now : Time) (raw : String) : Time :=
  if raw = "" then now else (parseTime raw).getD now

def fromProtoSlaveState (now : Time) (state : Option SlaveState) (source : String) :
    Megalo.SlaveState :=
  match state with
  | none => { Megalo.SlaveState.zero with source }
  | some state =>
    { sessionID := state.sessionId
      slaveID := state.slaveId
      k8sPodName := state.k8sPodName
      k8sPodUID := state.k8sPodUid
      podIP := state.podIp
      status := fromProtoStatus state.status
      deathReason := fromProtoDeathReason state.deathReason
      turnsLived := state.turnsLived
      remainingTurns := state.remainingTurns
      stress := state.stress
      fear := state.fear
      infected := state.infected
      firewall := state.firewall
      observedAt := observedAt now state.observedAt
      source }

/-- The instant is in a year of four digits. -/
def FourDigits (t : Time) : Prop := Timestamp.yearOf (t + zeroTime) < 10000

def WholeSecond (t : Time) : Prop := t % 1000000000 = 0

section Hop

variable {now t : Time} {p : PodState} {s : Megalo.SlaveState} {source : String}

theorem fromProto_toProtoStatus (status : Megalo.SlaveStatus) :
    fromProtoStatus (toProtoStatus status) = status := by
  cases status <;> rfl

theorem fromProto_toProtoDeathReason (reason : Megalo.DeathReason) :
    fromProtoDeathReason (toProtoDeathReason reason) = reason := by
  cases reason <;> rfl

/-- The text keeps the second and drops the rest. -/
theorem parse_formatTime (four : FourDigits t) : parseTime (formatTime t) = some (rfc3339 t) := by
  rw [parseTime, formatTime, Timestamp.parse_format four, Option.map_some, rfc3339]
  have whole : zeroTime % 1000000000 = 0 := rfl
  have second (n : Nat) : (((n + zeroTime) / 1000000000 * 1000000000 : Nat) - zeroTime : Int).toNat =
      n - n % 1000000000 := by omega
  exact congrArg some (second t)

theorem observedAt_formatTime (four : FourDigits t) :
    observedAt now (formatTime t) = rfc3339 t := by
  have written : formatTime t ≠ "" := Timestamp.format_ne_empty four
  rw [observedAt, if_neg written, parse_formatTime four]
  rfl

/-- Through the slave's encoder everything arrives but the fraction of the second. -/
theorem hop_pod (four : FourDigits p.observedAt) :
    fromProtoSlaveState now (some (toProtoState p)) source =
      { toDomainState p with observedAt := rfc3339 p.observedAt, source } := by
  simp only [fromProtoSlaveState, toProtoState, fromProto_toProtoStatus,
    fromProto_toProtoDeathReason, observedAt_formatTime four]
  rfl

theorem hop_state (four : FourDigits s.observedAt) :
    fromProtoSlaveState now (some (toProtoSlaveState s)) s.source =
      { s with observedAt := rfc3339 s.observedAt } := by
  simp only [fromProtoSlaveState, toProtoSlaveState, fromProto_toProtoStatus,
    fromProto_toProtoDeathReason, observedAt_formatTime four]

/-- The answer that the controller's model takes, with its observation parsed, is this one. -/
theorem hop_operations (four : FourDigits p.observedAt) :
    fromProtoSlaveState now (some (toProtoState p)) source =
      Cluster.fromProtoSlaveState p.toProtoState source := by
  rw [hop_pod four]
  rfl

theorem rfc3339_eq : rfc3339 t = t ↔ WholeSecond t := by
  have second (n : Nat) : n - n % 1000000000 = n ↔ n % 1000000000 = 0 := by omega
  exact second t

theorem rfc3339_le : t ≤ rfc3339 t ↔ WholeSecond t := by
  have second (n : Nat) : n ≤ n - n % 1000000000 ↔ n % 1000000000 = 0 := by omega
  exact second t

/-- The pod arrives as its domain state, observed no earlier than it was. -/
def PodSurvives (now : Time) (p : PodState) (source : String) : Prop :=
  fromProtoSlaveState now (some (toProtoState p)) source = { toDomainState p with source } ∧
    p.observedAt ≤ (fromProtoSlaveState now (some (toProtoState p)) source).observedAt

/-- A state goes there and back. -/
def StateSurvives (now : Time) (s : Megalo.SlaveState) : Prop :=
  fromProtoSlaveState now (some (toProtoSlaveState s)) s.source = s

/-- A state survives the hop exactly when it was observed at a whole second. -/
theorem survives_hop (podFour : FourDigits p.observedAt) (stateFour : FourDigits s.observedAt) :
    (PodSurvives now p source ↔ WholeSecond p.observedAt) ∧
      (StateSurvives now s ↔ WholeSecond s.observedAt) := by
  constructor
  · rw [PodSurvives, hop_pod podFour, ← rfc3339_le]
    constructor
    · exact And.right
    · intro kept
      refine ⟨?_, kept⟩
      rw [rfc3339_eq.mpr (rfc3339_le.mp kept)]
      rfl
  · rw [StateSurvives, hop_state stateFour, ← rfc3339_eq]
    constructor
    · exact fun same => congrArg Megalo.SlaveState.observedAt same
    · intro whole
      rw [whole]

def samplePodState (observedAt : Time) : PodState where
  podID := "slave-1"
  k8sPodName := "slave-service-0"
  k8sPodUID := "uid-1"
  podIP := "10.0.0.10"
  slaveID := UUID.sampleSlave.text
  turnsLived := 3
  remaining := 7
  status := .live
  deathReason := .unspecified
  observedAt
  stress := 12
  fear := 9
  infected := false
  firewall := true

/-- 2026-01-01T00:00:00Z -/
def newYear : Time := 63902822400 * 1000000000

theorem newYear_four : FourDigits newYear ∧ FourDigits (newYear + 500000000) := by
  unfold FourDigits
  decide +kernel

theorem survives_hop_newYear :
    (PodSurvives 0 (samplePodState newYear) "controller-service" ↔ WholeSecond newYear) ∧
      (StateSurvives 0 { SlaveState.sample .live with observedAt := newYear } ↔
        WholeSecond newYear) :=
  survives_hop (p := samplePodState newYear)
    (s := { SlaveState.sample .live with observedAt := newYear }) newYear_four.1 newYear_four.1

/-- Observed half a second later, the pod arrives with the second alone. -/
theorem hop_loses_fraction :
    ¬ PodSurvives 0 (samplePodState (newYear + 500000000)) "controller-service" := by
  intro survives
  have four : FourDigits (samplePodState (newYear + 500000000)).observedAt := newYear_four.2
  have kept := survives.2
  rw [hop_pod four] at kept
  exact absurd kept (by decide +kernel)

end Hop

end Megalo.Proto
