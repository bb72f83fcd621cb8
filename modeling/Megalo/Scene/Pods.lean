import Megalo.Frontend.Store
import Megalo.Library.JSMap
import Mathlib.Algebra.Order.Ring.Rat

/-! The pods of the scene: PodScene of scene.ts, less what only the screen and the positions
depend on. A mesh is known by the number in which it was made, and an object that the source
changes in place is the value that its key maps to. -/
namespace Megalo.Scene

inductive Hand
  | left
  | right
  deriving DecidableEq

/-- RAPIER.RigidBodyType -/
inductive BodyType
  | dynamic
  | fixed
  | kinematicPositionBased
  | kinematicVelocityBased
  deriving DecidableEq

/-- What the scene takes from outside: a collider's handle, which no existing one has, and the
double nearest to crushProgress + delta / POD_CRUSH_DURATION. -/
structure Engine where
  handle : Nat → List Nat → Nat
  crush : Rat → Rat → Rat
  fresh : ∀ n used, handle n used ∉ used
  crush_pos : ∀ progress delta, 0 < progress → 0 ≤ delta → 0 < crush progress delta

structure PodMeshEntry where
  number : Nat
  /-- userData["status"] -/
  status : Option SlaveStatus
  deriving DecidableEq

structure PodPhysicsEntry where
  /-- collider.handle -/
  handle : Nat
  bodyType : BodyType
  fallReported : Bool
  crushProgress : Rat
  crushReported : Bool
  deriving DecidableEq

/-- The midpoints of a pinch are there while it is active. -/
structure HandPhysicsState where
  openPalm : Bool
  pinchActive : Bool
  pinchCandidateId : Option String
  grabbedPodId : Option String
  lastGrabAt : Rat
  gustPoseActive : Bool
  /-- palmCenterWorld is set. -/
  palmCenterWorld : Bool
  deriving DecidableEq

structure PodScene where
  meshById : JSMap String PodMeshEntry
  podMeshCache : List PodMeshEntry
  podPhysicsById : JSMap String PodPhysicsEntry
  podIdByColliderHandle : JSMap Nat String
  podGrabOwnerById : JSMap String Hand
  handPhysics : JSMap Hand HandPhysicsState
  activePalmContacts : List String
  hudSliderActiveHand : Option Hand
  tableMoveMode : Bool
  tableMoveAwaitingConfirmRelease : Bool
  /-- physicsWorld is set. -/
  physicsWorld : Bool
  /-- The meshes and the colliders made so far. -/
  meshes : Nat
  colliders : Nat

namespace PodScene

def initial : PodScene where
  meshById := .empty
  podMeshCache := []
  podPhysicsById := .empty
  podIdByColliderHandle := .empty
  podGrabOwnerById := .empty
  handPhysics := .empty
  activePalmContacts := []
  hudSliderActiveHand := none
  tableMoveMode := false
  tableMoveAwaitingConfirmRelease := false
  physicsWorld := false
  meshes := 0
  colliders := 0

variable (engine : Engine) (s : PodScene)

/-- A change of a pod's physics entry in place. -/
def setPhysics (slaveId : String) (f : PodPhysicsEntry → PodPhysicsEntry) : PodScene :=
  match s.podPhysicsById.get slaveId with
  | some physicsEntry =>
    { s with podPhysicsById := s.podPhysicsById.set slaveId (f physicsEntry) }
  | none => s

/-- A change of a hand's state in place. -/
def setHand (handedness : Hand) (f : HandPhysicsState → HandPhysicsState) : PodScene :=
  match s.handPhysics.get handedness with
  | some handState => { s with handPhysics := s.handPhysics.set handedness (f handState) }
  | none => s

/-- The pod that the hand holds. -/
def grabbed (handedness : Hand) : Option String :=
  (s.handPhysics.get handedness).bind HandPhysicsState.grabbedPodId

/-- `${handedness}:${slaveId}` -/
def contactKey (handedness : Hand) (slaveId : String) : String :=
  (match handedness with
    | .left => "left"
    | .right => "right") ++ ":" ++ slaveId

def clearPalmContactsBySlaveId (slaveId : String) : PodScene :=
  { s with activePalmContacts := s.activePalmContacts.filter fun contactKey =>
      !(":" ++ slaveId).toList.isSuffixOf contactKey.toList }

def clearPalmContacts (handedness : Hand) (keep : List String) : PodScene :=
  { s with activePalmContacts := s.activePalmContacts.filter fun key =>
      !(contactKey handedness "").toList.isPrefixOf key.toList || keep.contains key }

def createPodPhysics (slaveId : String) : PodScene :=
  if !s.physicsWorld || s.podPhysicsById.has slaveId then s
  else
    let handle := engine.handle s.colliders (s.podPhysicsById.values.map PodPhysicsEntry.handle)
    { s with
      podPhysicsById := s.podPhysicsById.set slaveId ⟨handle, .dynamic, false, 0, false⟩
      podIdByColliderHandle := s.podIdByColliderHandle.set handle slaveId
      colliders := s.colliders + 1 }

def removePodPhysics (slaveId : String) : PodScene :=
  match s.podPhysicsById.get slaveId with
  | none => s
  | some physicsEntry =>
    { s with
      podIdByColliderHandle := s.podIdByColliderHandle.delete physicsEntry.handle
      podPhysicsById := s.podPhysicsById.delete slaveId }

def recyclePodEntry (entry : PodMeshEntry) : PodScene :=
  { s with podMeshCache := s.podMeshCache ++ [entry] }

/-- createPodMesh, and the entry's way into meshById. -/
def createPodMesh (slaveId : String) : PodScene :=
  match s.podMeshCache.getLast? with
  | some cachedEntry =>
    { s with
      podMeshCache := s.podMeshCache.dropLast
      meshById := s.meshById.set slaveId cachedEntry }
  | none =>
    { s with
      meshById := s.meshById.set slaveId ⟨s.meshes, none⟩
      meshes := s.meshes + 1 }

def releaseGrab (handedness : Hand) : PodScene :=
  match s.grabbed handedness with
  | none => s
  | some podId =>
    let s := s.setPhysics podId fun e => { e with bodyType := .dynamic }
    { s with podGrabOwnerById := s.podGrabOwnerById.delete podId }.setHand handedness
      fun handState => { handState with grabbedPodId := none, lastGrabAt := 0 }

def releaseOwner (slaveId : String) : PodScene :=
  match s.podGrabOwnerById.get slaveId with
  | some owner => s.releaseGrab owner
  | none => s

def forgetCandidate (slaveId : String) : PodScene :=
  { s with handPhysics := s.handPhysics.mapValues fun _ handState =>
      if handState.pinchCandidateId = some slaveId then { handState with pinchCandidateId := none }
      else handState }

def removePodEntry (slaveId : String) (entry : PodMeshEntry) : PodScene :=
  let s := s.releaseOwner slaveId
  let s := { s with meshById := s.meshById.delete slaveId }.removePodPhysics slaveId
  let s := { s with podGrabOwnerById := s.podGrabOwnerById.delete slaveId }
  ((s.clearPalmContactsBySlaveId slaveId).forgetCandidate slaveId).recyclePodEntry entry

/-- The pod is shown after an update. -/
def isActive (eliminated : List String) (pod : Frontend.SlaveState) : Bool :=
  pod.status != .gone && !eliminated.contains pod.slaveID

/-- The first loop of update. It deletes the entry it is at and no other, so it visits the entries
that were there when it began. -/
def removeInactive (activePodIds : List String) : PodScene :=
  s.meshById.entries.foldl (fun s e =>
    if activePodIds.contains e.1 then s else s.removePodEntry e.1 e.2) s

/-- The second loop of update, for one pod. -/
def updatePod (eliminated : List String) (pod : Frontend.SlaveState) : PodScene :=
  if isActive eliminated pod then
    let s := match s.meshById.get pod.slaveID with
      | none => (s.createPodMesh pod.slaveID).createPodPhysics engine pod.slaveID
      | some _ => s.createPodPhysics engine pod.slaveID
    match s.meshById.get pod.slaveID with
    | some entry => { s with
        meshById := s.meshById.set pod.slaveID { entry with status := some pod.status } }
    | none => s
  else match s.meshById.get pod.slaveID with
    | some existing => s.removePodEntry pod.slaveID existing
    | none => s

def update (pods : List Frontend.SlaveState) (eliminated : List String) : PodScene :=
  pods.foldl (fun s pod => s.updatePod engine eliminated pod)
    (s.removeInactive ((pods.filter (isActive eliminated)).map Frontend.SlaveState.slaveID))

/-- Only a world gives a hand its bodies. -/
def ensureHandPhysics (handedness : Hand) : PodScene :=
  if s.handPhysics.has handedness || !s.physicsWorld then s
  else
    { s with handPhysics :=
        s.handPhysics.set handedness ⟨false, false, none, none, 0, false, false⟩ }

/-- initializePhysics once RAPIER.init has succeeded. -/
def initializePhysics : PodScene :=
  if s.physicsWorld then s
  else
    let s := ({ s with physicsWorld := true }.ensureHandPhysics .left).ensureHandPhysics .right
    s.meshById.entries.foldl (fun s e => s.createPodPhysics engine e.1) s

def clearHandState (handedness : Hand) (clearContacts : Bool) : PodScene :=
  let s := (s.releaseGrab handedness).setHand handedness fun _ =>
    ⟨false, false, none, none, 0, false, false⟩
  if clearContacts then s.clearPalmContacts handedness [] else s

def reset : PodScene :=
  let s := s.meshById.values.foldl (fun s entry => s.recyclePodEntry entry) s
  let s := { s with meshById := s.meshById.clear }
  let s := s.podPhysicsById.keys.foldl (fun s podId => s.removePodPhysics podId) s
  let s := { s with
    hudSliderActiveHand := none
    tableMoveMode := false
    tableMoveAwaitingConfirmRelease := false
    activePalmContacts := [] }
  let s := (s.clearHandState .left true).clearHandState .right true
  { s with podGrabOwnerById := s.podGrabOwnerById.clear }

/-- Number.EPSILON -/
def epsilon : Rat := 1 / 4503599627370496

def isPodInteractable (slaveId : String) : Bool :=
  match s.meshById.get slaveId with
  | none => false
  | some entry =>
    if entry.status = some .gone then false
    else match s.podPhysicsById.get slaveId with
      | some physicsEntry => !(physicsEntry.crushProgress > 0 || physicsEntry.crushReported)
      | none => true

def startPodCrush (slaveId : String) : PodScene :=
  if s.podPhysicsById.has slaveId && s.isPodInteractable slaveId then
    (s.releaseOwner slaveId).setPhysics slaveId fun e => { e with
      bodyType := .kinematicPositionBased
      crushProgress := epsilon
      crushReported := false }
  else s

end PodScene

end Megalo.Scene
