import Megalo.Domain
import Mathlib.Data.List.AList

/-! The state of the page: types.ts and store.ts of apps/frontend-webxr, less the activity
list, which only the screen reads. -/
namespace Megalo.Frontend

structure SessionMeta where
  sessionID : String
  startedAt : String
  deriving DecidableEq

structure SessionMetrics where
  sessionID : String
  liveSlaves : Int
  goneSlaves : Int
  updatedAt : String
  deriving DecidableEq

structure SlaveState where
  sessionID : String
  slaveID : String
  k8sPodName : String
  k8sPodUID : String
  podIP : String
  status : SlaveStatus
  deathReason : DeathReason
  turnsLived : Int
  remainingTurns : Int
  stress : Int
  fear : Int
  infected : Bool
  firewall : Bool
  observedAt : String
  source : String
  deriving DecidableEq

inductive GamePhase
  | idle
  | connecting
  | playing
  | error
  deriving DecidableEq

abbrev Pods := AList fun _ : String => SlaveState

structure GameState where
  phase : GamePhase
  session : Option SessionMeta
  metrics : Option SessionMetrics
  podsById : Pods
  selectedPodId : Option String
  hoveredPodId : Option String
  connectionMessage : String
  errorMessage : Option String
  actionInFlight : Bool
  xrSupported : Bool
  xrActive : Bool
  xrEliminatedPodIds : List String

def initialState (xrSupported : Bool) : GameState where
  phase := .idle
  session := none
  metrics := none
  podsById := ∅
  selectedPodId := none
  hoveredPodId := none
  connectionMessage := "セッション開始待機中"
  errorMessage := none
  actionInFlight := false
  xrSupported := xrSupported
  xrActive := false
  xrEliminatedPodIds := []

/-- next.localeCompare(previous) >= 0 on the texts of instants, whose characters compare by
code point. -/
def notBefore (next previous : String) : Bool := previous ≤ next

def shouldRestoreEliminatedPod (previous : Option SlaveState) (next : SlaveState) : Bool :=
  match previous with
  | none => true
  | some previous =>
    previous.k8sPodUID != next.k8sPodUID ||
      previous.status == .gone && notBefore next.observedAt previous.observedAt

namespace GameState

variable (s : GameState)

def resetToDisconnected (message : String) : GameState :=
  { initialState s.xrSupported with connectionMessage := message }

def hydrateSnapshot (session : SessionMeta) (metrics : SessionMetrics)
    (pods : List SlaveState) : GameState :=
  let podsById := pods.foldl (fun byId pod => byId.insert pod.slaveID pod) (∅ : Pods)
  let first := pods.head?.map SlaveState.slaveID
  { s with
    phase := .playing
    session := some session
    metrics := some metrics
    podsById := podsById
    selectedPodId := match s.selectedPodId with
      | some id => if id ≠ "" ∧ (podsById.lookup id).isSome then some id else first
      | none => first
    errorMessage := none
    connectionMessage := "接続中"
    xrEliminatedPodIds := [] }

def upsertPod (pod : SlaveState) : GameState :=
  let restore := pod.status ≠ .gone ∧ pod.slaveID ∈ s.xrEliminatedPodIds ∧
    shouldRestoreEliminatedPod (s.podsById.lookup pod.slaveID) pod = true
  { s with
    podsById := s.podsById.insert pod.slaveID pod
    selectedPodId := match s.selectedPodId with
      | none => some pod.slaveID
      | some id => some id
    xrEliminatedPodIds :=
      if restore then s.xrEliminatedPodIds.filter (· != pod.slaveID) else s.xrEliminatedPodIds }

def setMetrics (metrics : SessionMetrics) : GameState := { s with metrics := some metrics }

def setXRActive (xrActive : Bool) : GameState := { s with xrActive }

def setSelectedPod (slaveId : Option String) : GameState := { s with selectedPodId := slaveId }

def setHoveredPod (slaveId : Option String) : GameState := { s with hoveredPodId := slaveId }

def setActionInFlight (actionInFlight : Bool) : GameState := { s with actionInFlight }

def setXRSupport (xrSupported : Bool) : GameState := { s with xrSupported }

def markXrPodEliminated (slaveId : String) : GameState :=
  if slaveId ∈ s.xrEliminatedPodIds then s
  else { s with xrEliminatedPodIds := s.xrEliminatedPodIds ++ [slaveId] }

end GameState

/-- Every record stands under its own slave id. -/
def Keyed (pods : Pods) : Prop := ∀ id pod, pods.lookup id = some pod → pod.slaveID = id

/-- Partial<GameState> -/
structure GamePatch where
  phase : Option GamePhase := none
  session : Option (Option SessionMeta) := none
  metrics : Option (Option SessionMetrics) := none
  podsById : Option { pods : Pods // Keyed pods } := none
  selectedPodId : Option (Option String) := none
  hoveredPodId : Option (Option String) := none
  connectionMessage : Option String := none
  errorMessage : Option (Option String) := none
  actionInFlight : Option Bool := none
  xrSupported : Option Bool := none
  xrActive : Option Bool := none
  xrEliminatedPodIds : Option (List String) := none

def GameState.patch (s : GameState) (update : GamePatch) : GameState where
  phase := update.phase.getD s.phase
  session := update.session.getD s.session
  metrics := update.metrics.getD s.metrics
  podsById := (update.podsById.map Subtype.val).getD s.podsById
  selectedPodId := update.selectedPodId.getD s.selectedPodId
  hoveredPodId := update.hoveredPodId.getD s.hoveredPodId
  connectionMessage := update.connectionMessage.getD s.connectionMessage
  errorMessage := update.errorMessage.getD s.errorMessage
  actionInFlight := update.actionInFlight.getD s.actionInFlight
  xrSupported := update.xrSupported.getD s.xrSupported
  xrActive := update.xrActive.getD s.xrActive
  xrEliminatedPodIds := update.xrEliminatedPodIds.getD s.xrEliminatedPodIds

/-- The calls of the store. -/
inductive StoreOp
  | patch (update : GamePatch)
  | resetToDisconnected (message : String)
  | hydrateSnapshot (session : SessionMeta) (metrics : SessionMetrics) (pods : List SlaveState)
  | upsertPod (pod : SlaveState)
  | setSelectedPod (slaveId : Option String)
  | setHoveredPod (slaveId : Option String)
  | setMetrics (metrics : SessionMetrics)
  | setActionInFlight (actionInFlight : Bool)
  | setXRSupport (xrSupported : Bool)
  | setXRActive (xrActive : Bool)
  | markXrPodEliminated (slaveId : String)
  | log

def StoreOp.apply (s : GameState) : StoreOp → GameState
  | .patch update => s.patch update
  | .resetToDisconnected message => s.resetToDisconnected message
  | .hydrateSnapshot session metrics pods => s.hydrateSnapshot session metrics pods
  | .upsertPod pod => s.upsertPod pod
  | .setSelectedPod slaveId => s.setSelectedPod slaveId
  | .setHoveredPod slaveId => s.setHoveredPod slaveId
  | .setMetrics metrics => s.setMetrics metrics
  | .setActionInFlight actionInFlight => s.setActionInFlight actionInFlight
  | .setXRSupport xrSupported => s.setXRSupport xrSupported
  | .setXRActive xrActive => s.setXRActive xrActive
  | .markXrPodEliminated slaveId => s.markXrPodEliminated slaveId
  | .log => s

section Keyed

variable {pods : Pods} {pod : SlaveState} {s : GameState}

theorem keyed_empty : Keyed ∅ := by
  intro id pod found
  rw [AList.lookup_empty] at found
  cases found

theorem keyed_insert (keyed : Keyed pods) : Keyed (pods.insert pod.slaveID pod) := by
  intro id other found
  by_cases same : id = pod.slaveID
  · subst same
    rw [AList.lookup_insert] at found
    rw [Option.some.inj found]
  · rw [AList.lookup_insert_ne same] at found
    exact keyed id other found

theorem keyed_foldl (list : List SlaveState) (keyed : Keyed pods) :
    Keyed (list.foldl (fun byId pod => byId.insert pod.slaveID pod) pods) := by
  induction list generalizing pods with
  | nil => exact keyed
  | cons pod rest ih => exact ih (keyed_insert keyed)

theorem keyed_apply (keyed : Keyed s.podsById) (op : StoreOp) : Keyed (op.apply s).podsById := by
  cases op with
  | patch update =>
    cases replaced : update.podsById with
    | none =>
      simp only [StoreOp.apply, GameState.patch, replaced, Option.map_none, Option.getD_none]
      exact keyed
    | some pods =>
      simp only [StoreOp.apply, GameState.patch, replaced, Option.map_some, Option.getD_some]
      exact pods.property
  | resetToDisconnected message => exact keyed_empty
  | hydrateSnapshot session metrics pods => exact keyed_foldl pods keyed_empty
  | upsertPod pod => exact keyed_insert keyed
  | markXrPodEliminated slaveId =>
    simp only [StoreOp.apply, GameState.markXrPodEliminated]
    split <;> exact keyed
  | _ => exact keyed

end Keyed

/-- The state a GameStore can hold. -/
structure GameStore where
  state : GameState
  keyed : Keyed state.podsById

def GameStore.apply (store : GameStore) (op : StoreOp) : GameStore :=
  ⟨op.apply store.state, keyed_apply store.keyed op⟩

end Megalo.Frontend
