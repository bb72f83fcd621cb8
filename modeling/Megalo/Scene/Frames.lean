import Megalo.Scene.Pods
import Megalo.Library.System
import Mathlib.Algebra.Order.BigOperators.Group.List
import Mathlib.Algebra.Order.Field.Rat
import Mathlib.Algebra.Order.Field.Basic

/-! The frames of the scene. A frame of the simulation calls back while it goes through the pods,
and a callback may update the scene; everything else runs in one piece. -/
namespace Megalo.Scene

open Transition

/-- The joints of a hand that are all tracked, and what they make of its gesture. -/
structure HandJoints where
  openPalm : Bool
  pinchActive : Bool
  gustPoseActive : Bool
  deriving DecidableEq

/-- The colliders that touch those of one hand. -/
structure Touches where
  thumb : List Nat
  index : List Nat
  middle : List Nat
  palm : List Nat

/-- What one XR frame brings. -/
structure XRInput where
  /-- There are a session, a frame, a reference space and joint poses. -/
  available : Bool
  /-- The input sources with a hand, in their order. -/
  sources : List (Hand × Option HandJoints)
  touches : Hand → Touches
  /-- The midpoint of the hand's pinch is on the slider of the table's height. -/
  sliderHit : Hand → Bool
  now : Hand → Rat
  /-- A pinch begins on the button that moves the table, while the session is presented. -/
  movePressed : Bool

/-- GRAB_RELEASE_GRACE_MS -/
def grabReleaseGraceMs : Rat := 180

namespace PodScene

variable (engine : Engine) (s : PodScene)

/-- The pod has a mesh, whose status is not GONE. -/
def showsLive (slaveId : String) : Bool :=
  (s.meshById.get slaveId).any fun entry => entry.status != some .gone

def advanceCrush (delta : Rat) (e : PodPhysicsEntry) : PodPhysicsEntry :=
  if e.crushProgress > 0 && !e.crushReported then
    let crushProgress := min 1 (engine.crush e.crushProgress delta)
    { e with crushProgress, crushReported := decide (crushProgress ≥ 1) }
  else e

/-- The first loop of updateSimulation, and completedCrushes. -/
def advanceCrushes (delta : Rat) : PodScene × List String :=
  ({ s with podPhysicsById := s.podPhysicsById.mapValues fun slaveId e =>
      if s.showsLive slaveId then advanceCrush engine delta e else e },
    (s.podPhysicsById.entries.filter fun (slaveId, e) => s.showsLive slaveId &&
      !e.crushReported && (advanceCrush engine delta e).crushReported).map Prod.fst)

/-- The pod in a slot has fallen, and its fall is not reported yet. -/
def falls (i : Nat) (under : Bool) : Option String :=
  match s.podPhysicsById.slots[i]? with
  | some (some (slaveId, e)) =>
    if s.meshById.has slaveId && under && !e.fallReported then some slaveId else none
  | _ => none

def reportFall (slaveId : String) : PodScene :=
  s.setPhysics slaveId fun e => { e with fallReported := true }

/-- A pod of the empty id would not be collected. -/
def collectPodIntersections (handles : List Nat) : List String :=
  if s.physicsWorld then
    ((handles.filterMap s.podIdByColliderHandle.get).filter (· != "")).eraseDups
  else []

def findPinchCandidate (touches : Touches) : Option String :=
  let thumbHits := s.collectPodIntersections touches.thumb
  let indexHits := s.collectPodIntersections touches.index
  let middleHits := s.collectPodIntersections touches.middle
  let pinched := thumbHits.filter fun slaveId =>
    indexHits.contains slaveId && s.isPodInteractable slaveId
  (pinched.find? fun slaveId => middleHits.contains slaveId).or pinched.head?

/-- updateHandPhysicsFromJoints -/
def updateHandPhysicsFromJoints (handedness : Hand) : Option HandJoints → PodScene
  | none => s.clearHandState handedness true
  | some joints => (s.ensureHandPhysics handedness).setHand handedness fun handState =>
    { handState with
      openPalm := joints.openPalm
      pinchActive := joints.pinchActive
      pinchCandidateId := none
      gustPoseActive := joints.gustPoseActive
      palmCenterWorld := true }

def updatePinchCandidates (touches : Hand → Touches) : PodScene :=
  { s with handPhysics := s.handPhysics.mapValues fun handedness handState => { handState with
      pinchCandidateId :=
        if handState.pinchActive then s.findPinchCandidate (touches handedness) else none } }

def dropCandidate (handedness : Hand) : PodScene :=
  s.setHand handedness fun handState => { handState with pinchCandidateId := none }

def pinches (handedness : Hand) : Bool :=
  (s.handPhysics.get handedness).any HandPhysicsState.pinchActive

def updateTableHeightSliderInteraction (leftWristTracked : Bool) (trackedHands : List Hand)
    (sliderHit : Hand → Bool) : PodScene :=
  if s.tableMoveMode || !leftWristTracked then { s with hudSliderActiveHand := none }
  else
    let active := s.hudSliderActiveHand.filter trackedHands.contains
    let handOrder := match active with
      | some handedness => [handedness]
      | none => [.right, .left]
    match handOrder.find? fun handedness => s.pinches handedness && sliderHit handedness with
    | some handedness =>
      { s with hudSliderActiveHand := some handedness }.dropCandidate handedness
    | none => { s with hudSliderActiveHand := none }

def updateTableMoveInteraction (trackedHands : List Hand) : PodScene :=
  if s.tableMoveMode && trackedHands.contains .right &&
      (s.handPhysics.get .right).any HandPhysicsState.palmCenterWorld then
    let s := s.dropCandidate .right
    if !s.pinches .right then { s with tableMoveAwaitingConfirmRelease := false }
    else if s.tableMoveAwaitingConfirmRelease then s
    else { s with tableMoveMode := false, tableMoveAwaitingConfirmRelease := false }
  else s

/-- The grab of a pod that the hand pinches. -/
def grab (handedness : Hand) (targetPodId : String) (now : Rat) : PodScene :=
  if s.podPhysicsById.has targetPodId then
    let s := s.setPhysics targetPodId fun e => { e with bodyType := .kinematicPositionBased }
    let s := s.setHand handedness fun handState =>
      { handState with grabbedPodId := some targetPodId, lastGrabAt := now }
    { s with podGrabOwnerById := s.podGrabOwnerById.set targetPodId handedness }
  else s

def updateGrabInteraction (handedness : Hand) (now : Rat) : PodScene :=
  match s.handPhysics.get handedness with
  | none => s
  | some handState =>
    if s.hudSliderActiveHand = some handedness then
      if handState.grabbedPodId.isSome then s.releaseGrab handedness else s
    else match handState.grabbedPodId with
      | some activeGrabbedPodId =>
        if !s.podPhysicsById.has activeGrabbedPodId then s.releaseGrab handedness
        else if !handState.pinchActive then
          if now - handState.lastGrabAt > grabReleaseGraceMs then s.releaseGrab handedness else s
        else s.setHand handedness fun handState => { handState with lastGrabAt := now }
      | none =>
        if handState.pinchActive then match handState.pinchCandidateId with
          | none => s
          | some targetPodId => match s.podGrabOwnerById.get targetPodId with
            | some currentOwner =>
              if currentOwner ≠ handedness then s else s.grab handedness targetPodId now
            | none => s.grab handedness targetPodId now
        else s

/-- A pod that the open palm begins to touch is crushed. -/
def touchPod (handedness : Hand) (slaveId : String) : PodScene :=
  if s.showsLive slaveId && !s.activePalmContacts.contains (contactKey handedness slaveId) then
    { s with activePalmContacts :=
        s.activePalmContacts ++ [contactKey handedness slaveId] }.startPodCrush slaveId
  else s

def processOpenPalmContacts (handedness : Hand) (palm : List Nat) : PodScene :=
  match s.handPhysics.get handedness with
  | none => s.clearPalmContacts handedness []
  | some handState =>
    if !handState.openPalm || handState.grabbedPodId.isSome || handState.gustPoseActive then
      s.clearPalmContacts handedness []
    else
      let hits := s.collectPodIntersections palm
      let touched := (hits.filter s.showsLive).map (contactKey handedness)
      (hits.foldl (fun s slaveId => s.touchPod handedness slaveId) s).clearPalmContacts handedness
        touched

def startTableMoveMode : PodScene :=
  { s with
    tableMoveMode := true
    tableMoveAwaitingConfirmRelease := true
    hudSliderActiveHand := none }.releaseGrab .right

/-- The hands that are not among the input sources are cleared. -/
def clearUntracked (trackedHands : List Hand) : PodScene :=
  let s := if trackedHands.contains .left then s else s.clearHandState .left true
  if trackedHands.contains .right then s else s.clearHandState .right true

/-- updateWristHud, from the input sources to the grabs. -/
def updateHands (input : XRInput) : PodScene :=
  let trackedHands := input.sources.map Prod.fst
  let leftWristTracked := input.sources.any fun (handedness, joints) =>
    handedness = .left && joints.isSome
  let s := input.sources.foldl (fun s (handedness, joints) =>
    s.updateHandPhysicsFromJoints handedness joints) s
  let s := if leftWristTracked then s else { s with hudSliderActiveHand := none }
  let s := (s.clearUntracked trackedHands).updatePinchCandidates input.touches
  let s := s.updateTableHeightSliderInteraction leftWristTracked trackedHands input.sliderHit
  let s := s.updateTableMoveInteraction trackedHands
  let s := s.updateGrabInteraction .left (input.now .left)
  if s.tableMoveMode then s else s.updateGrabInteraction .right (input.now .right)

/-- updateWristHud, from the palms on. -/
def updatePalms (input : XRInput) : PodScene :=
  let s := s.processOpenPalmContacts .left (input.touches .left).palm
  let s := if s.tableMoveMode then s.clearPalmContacts .right []
    else s.processOpenPalmContacts .right (input.touches .right).palm
  if input.movePressed then s.startTableMoveMode else s

def updateWristHud (input : XRInput) : PodScene :=
  if input.available then (s.updateHands input).updatePalms input
  else (s.clearHandState .left true).clearHandState .right true

/-- renderFrame without an XR session, after the simulation. -/
def desktopFrame : PodScene :=
  let s := { s with tableMoveMode := false, tableMoveAwaitingConfirmRelease := false }
  let s := (s.clearPalmContacts .left []).clearPalmContacts .right []
  (s.clearHandState .left false).clearHandState .right false

def handleXREnd : PodScene :=
  let s := { s with
    hudSliderActiveHand := none
    tableMoveMode := false
    tableMoveAwaitingConfirmRelease := false }
  (s.clearHandState .left true).clearHandState .right true

/-- exitXR leaves the hands to the next frame. -/
def exitXR : PodScene :=
  { s with
    hudSliderActiveHand := none
    tableMoveMode := false
    tableMoveAwaitingConfirmRelease := false }

end PodScene

/-- Where updateSimulation is. -/
inductive Phase
  | idle
  | falls (slot : Nat) (completedCrushes : List String)
  | hits (completedCrushes : List String)

structure Field where
  scene : PodScene
  phase : Phase

inductive FieldAction
  /-- An update, from a task of its own or from a callback. -/
  | update (pods : List Frontend.SlaveState) (eliminated : List String)
  | reset
  | initializePhysics
  | startPodCrush (slaveId : String)
  | updateWristHud (input : XRInput)
  | desktopFrame
  | handleXREnd
  | exitXR
  /-- The first loop of updateSimulation; delta is the time since the last frame. -/
  | simulate (delta : Rat)
  /-- The second loop goes on to its next slot; the pod there is under the table or not. -/
  | visit (under : Bool)
  | hit

/-- A task that runs between the frames of the simulation. -/
def Field.task (f : Field) (scene : PodScene) : Option Field :=
  match f.phase with
  | .idle => some { f with scene }
  | _ => none

def field (engine : Engine) : System Field FieldAction where
  step f
    | .update pods eliminated =>
      if (pods.map Frontend.SlaveState.slaveID).Nodup then
        some { f with scene := f.scene.update engine pods eliminated }
      else none
    | .reset => f.task f.scene.reset
    | .initializePhysics => f.task (f.scene.initializePhysics engine)
    | .startPodCrush slaveId => f.task (f.scene.startPodCrush slaveId)
    | .updateWristHud input => f.task (f.scene.updateWristHud input)
    | .desktopFrame => f.task f.scene.desktopFrame
    | .handleXREnd => f.task f.scene.handleXREnd
    | .exitXR => f.task f.scene.exitXR
    | .simulate delta => match f.phase with
      | .idle =>
        if f.scene.physicsWorld && decide (0 ≤ delta) then
          let (scene, completedCrushes) := f.scene.advanceCrushes engine delta
          some ⟨scene, .falls 0 completedCrushes⟩
        else none
      | _ => none
    | .visit under => match f.phase with
      | .falls i completedCrushes =>
        if i < f.scene.podPhysicsById.slots.length then
          some ⟨((f.scene.falls i under).map f.scene.reportFall).getD f.scene,
            .falls (i + 1) completedCrushes⟩
        else some { f with phase := .hits completedCrushes }
      | _ => none
    | .hit => match f.phase with
      | .hits (_ :: rest) => some { f with phase := .hits rest }
      | .hits [] => some { f with phase := .idle }
      | _ => none

def Field.initial : Field := ⟨.initial, .idle⟩

/-- Handles that count on, and a crush without rounding. -/
def Engine.exact : Engine where
  handle _ used := used.sum + 1
  crush progress delta := progress + delta / (22 / 100)
  fresh _ used member := by
    have most := List.single_le_sum (fun _ _ => Nat.zero_le _) _ member
    omega
  crush_pos progress delta begun passes := by
    have more : 0 ≤ delta / (22 / 100) := div_nonneg passes (by decide +kernel)
    exact add_pos_of_pos_of_nonneg begun more

/-- A pod of the samples. -/
def samplePod (slaveID : String) (status : SlaveStatus) : Frontend.SlaveState where
  sessionID := "s"
  slaveID
  k8sPodName := "slave-service-0"
  k8sPodUID := "uid-1"
  podIP := "10.0.0.10"
  status
  deathReason := .unspecified
  turnsLived := 3
  remainingTurns := 7
  stress := 0
  fear := 0
  infected := false
  firewall := false
  observedAt := "2026-01-01T00:00:05Z"
  source := "slave-service"

/-- A frame with the left hand only, which closes its fingers on some colliders or shows its palm
to them. -/
def XRInput.leftHand (joints : HandJoints) (handles : List Nat) : XRInput where
  available := true
  sources := [(.left, some joints)]
  touches _ := ⟨handles, handles, handles, handles⟩
  sliderHit _ := false
  now _ := 1000
  movePressed := false

def HandJoints.pinch : HandJoints := ⟨false, true, false⟩

def HandJoints.palm : HandJoints := ⟨true, false, false⟩

end Megalo.Scene
