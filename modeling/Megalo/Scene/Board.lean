import Megalo.Scene.Hands
import Megalo.Scene.Hold
import Megalo.Scene.Timing
import Megalo.Library.History

/-! The board of scene.ts: where it stands, its height, the mode that moves it with the right
hand, and the spatial anchor that is asked for when a move is confirmed. The flag that enables the
anchors is a parameter, and so are the functions of three.js that turn vectors. What a frame does
to the hands and the pods is in Frames. -/
namespace Megalo.Scene

open Transition

structure Quaternion where
  x : Rat
  y : Rat
  z : Rat
  w : Rat
  deriving DecidableEq

def Quaternion.identity : Quaternion := ⟨0, 0, 0, 1⟩

/-- What three.js makes of vectors, and SPATIAL_ANCHORS_ENABLED, which the source sets to false. -/
structure Surroundings where
  spatialAnchorsEnabled : Bool
  normalize : Vector3 → Vector3
  /-- lookAt from a position to a viewer, and the half turn after it. -/
  facing : Vector3 → Vector3 → Quaternion

structure Pose where
  position : Vector3
  quaternion : Quaternion
  deriving DecidableEq

inductive AnchorStatus
  | noXR
  | ready
  | locking
  | locked
  | unavailable
  | failed
  deriving DecidableEq

structure AnchorRequest where
  requestId : Nat
  transform : Pose
  deriving DecidableEq

/-- What the hands and the buttons of the HUD did, for the properties only. -/
inductive BoardMoment
  | started
  /-- The right hand does not pinch in a frame of the move mode. -/
  | released
  | confirmed
  | aborted
  | disconnected (now : Rat)
  /-- A frame or the end of a session has cleared pinchLatch. -/
  | unlatched
  | reset

structure Board where
  /-- renderer.xr.isPresenting -/
  isPresenting : Bool
  pose : Pose
  boardSurfaceHeight : Rat
  hudSliderActiveHand : Option Hand
  tableMoveMode : Bool
  tableMoveAwaitingConfirmRelease : Bool
  xrAnchorsSupported : Bool
  /-- An anchor is the number in which it was made. -/
  boardAnchor : Option Nat
  boardAnchorRequestId : Nat
  boardAnchorStatus : AnchorStatus
  pinchLatch : Bool
  lastDisconnectAt : Rat
  requests : List AnchorRequest
  anchors : Nat
  deleted : List Nat
  history : List BoardMoment

/-- What an XR frame brings to the board; a hand that is tracked has its state. -/
structure BoardInput where
  available : Bool
  enabledAnchors : Bool
  createAnchor : Bool
  anchorPose : Option Pose
  leftWristTracked : Bool
  trackedHands : List Hand
  /-- The midpoint of the hand's pinch, while it pinches. -/
  pinchMidpointWorld : Hand → Option Vector3
  /-- The right hand's. -/
  palmCenterWorld : Option Vector3
  worldToHud : Vector3 → Vector3
  viewerPosition : Vector3
  disconnectButtonTouched : Bool
  moveButtonTouched : Bool
  pinchDetected : Bool
  now : Rat

def boardTopY : Rat := Binary64.round (25 / 1000)

def minBoardSurfaceHeight : Rat := Binary64.round (22 / 100)

def maxBoardSurfaceHeight : Rat := 1

def boardForwardDistance : Rat := Binary64.round (45 / 100)

def hudTableSliderCenterX : Rat := Binary64.round (43 / 1000)

def hudTableSliderCenterY : Rat := Binary64.round (-50 / 1000)

def hudTableSliderWidth : Rat := Binary64.round (70 / 1000)

def hudTableSliderHeight : Rat := Binary64.round (26 / 1000)

def hudTableSliderDepthTolerance : Rat := Binary64.round (50 / 1000)

def hudTableSliderDragMargin : Rat := Binary64.round (18 / 1000)

def clamp (value low high : Rat) : Rat := max low (min high value)

-- A half of a double is one, so that the source's half of the slider is not rounded.
def isTableSliderHit (point : Vector3) (activeDrag : Bool) : Bool :=
  let verticalMargin := if activeDrag then hudTableSliderDragMargin else 0
  let horizontalMargin := if activeDrag then Binary64.mul hudTableSliderDragMargin (3 / 2) else 0
  let left := Binary64.sub hudTableSliderCenterX (hudTableSliderWidth * (1 / 2))
  let right := Binary64.add hudTableSliderCenterX (hudTableSliderWidth * (1 / 2))
  decide (|point.z| ≤ hudTableSliderDepthTolerance) &&
    decide (|Binary64.sub point.y hudTableSliderCenterY| ≤
      Binary64.add (hudTableSliderHeight * (1 / 2)) verticalMargin) &&
    decide (point.x ≥ Binary64.sub left horizontalMargin) &&
    decide (point.x ≤ Binary64.add right horizontalMargin)

namespace Board

/-- The board before any session, at DEFAULT_BOARD_SURFACE_HEIGHT. -/
def initial : Board where
  isPresenting := false
  pose := ⟨⟨0, 0, 0⟩, .identity⟩
  boardSurfaceHeight := Binary64.round (3 / 10)
  hudSliderActiveHand := none
  tableMoveMode := false
  tableMoveAwaitingConfirmRelease := false
  xrAnchorsSupported := false
  boardAnchor := none
  boardAnchorRequestId := 0
  boardAnchorStatus := .noXR
  pinchLatch := false
  lastDisconnectAt := 0
  requests := []
  anchors := 0
  deleted := []
  history := []

variable (three : Surroundings) (s : Board)

def tell (moment : BoardMoment) : Board := { s with history := moment :: s.history }

def placeBoardForXR (position direction : Vector3) : Board :=
  let direction := { direction with y := 0 }
  let direction :=
    if direction.lengthSq < 1 / 1000000 then ⟨0, 0, -1⟩ else three.normalize direction
  let boardPosition := { position.add (direction.multiplyScalar boardForwardDistance) with
    y := Binary64.sub s.boardSurfaceHeight boardTopY }
  { s with pose :=
      ⟨boardPosition, three.facing boardPosition { position with y := boardPosition.y }⟩ }

def resetBoardPlacement : Board := { s with pose := ⟨⟨0, 0, 0⟩, .identity⟩ }

def applyCurrentBoardHeight : Board :=
  if !s.isPresenting then s
  else { s with pose.position.y := Binary64.sub s.boardSurfaceHeight boardTopY }

def clearBoardAnchor (incrementRequestId : Bool) : Board :=
  { s with
    boardAnchorRequestId :=
      if incrementRequestId then s.boardAnchorRequestId + 1 else s.boardAnchorRequestId
    deleted := s.boardAnchor.toList ++ s.deleted
    boardAnchor := none
    boardAnchorStatus :=
      if !s.isPresenting then .noXR
      else if !s.xrAnchorsSupported then .unavailable
      else .ready }

def startTableMoveMode : Board :=
  if !s.isPresenting then s
  else { s with
    tableMoveMode := true
    tableMoveAwaitingConfirmRelease := true
    hudSliderActiveHand := none }.clearBoardAnchor true |>.tell .started

def syncBoardPoseFromAnchor (anchorPose : Option Pose) : Board :=
  if s.boardAnchor.isNone then s
  else match anchorPose with
    | none => s
    | some pose => { s with pose, boardSurfaceHeight := Binary64.add pose.position.y boardTopY }

def updateTableMovePreviewPose (targetWorld viewerPosition : Vector3) : Board :=
  let surfaceHeight := clamp targetWorld.y minBoardSurfaceHeight maxBoardSurfaceHeight
  let boardPosition := { targetWorld with y := Binary64.sub surfaceHeight boardTopY }
  { s with
    pose := ⟨boardPosition, three.facing boardPosition { viewerPosition with y := boardPosition.y }⟩
    boardSurfaceHeight := surfaceHeight }

/-- As far as the await; createAnchor was seen to be there. -/
def createBoardAnchor : Board :=
  { s with
    boardAnchorRequestId := s.boardAnchorRequestId + 1
    requests := s.requests ++ [⟨s.boardAnchorRequestId + 1, s.pose⟩] }

def confirmTableMove (createAnchor : Bool) : Board :=
  let s := { s with tableMoveMode := false, tableMoveAwaitingConfirmRelease := false }.tell
    .confirmed
  if three.spatialAnchorsEnabled && s.xrAnchorsSupported && createAnchor then
    { s with boardAnchorStatus := .locking }.createBoardAnchor
  else { s with boardAnchorStatus := .unavailable }

def updateTableMoveInteraction (input : BoardInput) : Board :=
  match input.palmCenterWorld with
  | none => s
  | some palmCenterWorld =>
    if s.tableMoveMode && input.trackedHands.contains .right then
      let s := s.updateTableMovePreviewPose three
        ((input.pinchMidpointWorld .right).getD palmCenterWorld) input.viewerPosition
      if (input.pinchMidpointWorld .right).isNone then
        { s with tableMoveAwaitingConfirmRelease := false }.tell .released
      else if s.tableMoveAwaitingConfirmRelease then s
      else s.confirmTableMove three input.createAnchor
    else s

def sliderPoint (input : BoardInput) (handedness : Hand) : Option Vector3 :=
  ((input.pinchMidpointWorld handedness).map input.worldToHud).filter fun hudPoint =>
    isTableSliderHit hudPoint (s.hudSliderActiveHand == some handedness)

/-- Where the slider is, from 0 to 1. -/
def sliderValue (hudPoint : Vector3) : Rat :=
  let left := Binary64.sub hudTableSliderCenterX (hudTableSliderWidth * (1 / 2))
  clamp (Binary64.div (Binary64.sub hudPoint.x left) hudTableSliderWidth) 0 1

def dragSlider (handedness : Hand) (hudPoint : Vector3) : Board :=
  { s with
    hudSliderActiveHand := some handedness
    boardSurfaceHeight := lerp minBoardSurfaceHeight maxBoardSurfaceHeight
      (sliderValue hudPoint) }.applyCurrentBoardHeight

def updateTableHeightSliderInteraction (input : BoardInput) : Board :=
  if s.tableMoveMode || !input.leftWristTracked then { s with hudSliderActiveHand := none }
  else
    let s := { s with
      hudSliderActiveHand := s.hudSliderActiveHand.filter input.trackedHands.contains }
    let handOrder := match s.hudSliderActiveHand with
      | some handedness => [handedness]
      | none => [.right, .left]
    match handOrder.findSome? fun handedness =>
      (s.sliderPoint input handedness).map (handedness, ·) with
    | some (handedness, hudPoint) => s.dragSlider handedness hudPoint
    | none => { s with hudSliderActiveHand := none }

def touchButtons (input : BoardInput) : Board :=
  if input.moveButtonTouched && input.pinchDetected && !s.pinchLatch then s.startTableMoveMode
  else if input.disconnectButtonTouched && input.pinchDetected && !s.pinchLatch &&
      decide (Binary64.sub input.now s.lastDisconnectAt > 1200) then
    { s with lastDisconnectAt := input.now }.tell (.disconnected input.now)
  else s

def latchPinch (input : BoardInput) : Board :=
  if (input.disconnectButtonTouched || input.moveButtonTouched) && input.pinchDetected then
    { s with pinchLatch := true }
  else { s with pinchLatch := false }.tell .unlatched

def supportAnchors (input : BoardInput) : Board :=
  { s with xrAnchorsSupported := three.spatialAnchorsEnabled &&
    (s.xrAnchorsSupported || input.enabledAnchors || input.createAnchor) }

def readFrame (input : BoardInput) : Board :=
  let s := s.supportAnchors three input
  let s := if s.tableMoveMode then s else s.syncBoardPoseFromAnchor input.anchorPose
  if input.leftWristTracked then s else { s with hudSliderActiveHand := none }

def updateWristHud (input : BoardInput) : Board :=
  if !input.available then s
  else
    let s := (s.readFrame three input).updateTableHeightSliderInteraction input
    ((s.updateTableMoveInteraction three input).touchButtons input).latchPinch input

def leaveTableMoveMode : Board :=
  if s.tableMoveMode then
    { s with tableMoveMode := false, tableMoveAwaitingConfirmRelease := false }.tell .aborted
  else { s with tableMoveMode := false, tableMoveAwaitingConfirmRelease := false }

def desktopFrame : Board := ({ s with pinchLatch := false }.tell .unlatched).leaveTableMoveMode

/-- The rest of enterXR, with a session. -/
def enterXR (enabledAnchors : Bool) (position direction : Vector3) : Board :=
  let xrAnchorsSupported := three.spatialAnchorsEnabled && enabledAnchors
  { s with
    isPresenting := true
    xrAnchorsSupported
    boardAnchorStatus :=
      if xrAnchorsSupported then .ready else .unavailable }.placeBoardForXR three position direction

/-- The rest of exitXR, with or without a session. With one, session.end() and what follows its
await are one step: what comes between the two finds the board as it was. -/
def exitXR : Board :=
  let s := { s with isPresenting := false, hudSliderActiveHand := none }
  (s.resetBoardPlacement.leaveTableMoveMode).clearBoardAnchor true

/-- handleXREnd reads isPresenting before or after the renderer's own listener clears it. -/
def handleXREnd (isPresenting : Bool) : Board :=
  let s := { s with isPresenting, pinchLatch := false, hudSliderActiveHand := none }.tell .unlatched
  { (s.leaveTableMoveMode.clearBoardAnchor true).resetBoardPlacement with isPresenting := false }

def reset : Board :=
  let s := { s.resetBoardPlacement with
    pinchLatch := false
    lastDisconnectAt := 0
    hudSliderActiveHand := none }.tell .reset
  s.leaveTableMoveMode.clearBoardAnchor true

/-- The rest of createBoardAnchor: an anchor that comes late is deleted. -/
def anchorCreated (request : AnchorRequest) : Board :=
  let anchor := s.anchors
  let s := { s with anchors := s.anchors + 1 }
  if request.requestId ≠ s.boardAnchorRequestId then { s with deleted := anchor :: s.deleted }
  else { s.clearBoardAnchor false with boardAnchor := some anchor, boardAnchorStatus := .locked }

def anchorFailed (request : AnchorRequest) : Board :=
  if request.requestId ≠ s.boardAnchorRequestId then s
  else { s with boardAnchorStatus := .failed }

end Board

section Agreement

variable {three : Surroundings} {b : Board} {s : PodScene} {input : BoardInput}

def Board.Shares (b : Board) (s : PodScene) : Prop :=
  b.tableMoveMode = s.tableMoveMode ∧
    b.tableMoveAwaitingConfirmRelease = s.tableMoveAwaitingConfirmRelease ∧
    b.hudSliderActiveHand = s.hudSliderActiveHand

structure BoardInput.Sees (input : BoardInput) (s : PodScene) : Prop where
  pinches : ∀ handedness, (input.pinchMidpointWorld handedness).isSome = s.pinches handedness
  palm : input.palmCenterWorld.isSome =
    (s.handPhysics.get .right).any HandPhysicsState.palmCenterWorld

theorem dropCandidate_shares (shares : b.Shares s) (handedness : Hand) :
    b.Shares (s.dropCandidate handedness) := by
  unfold PodScene.dropCandidate PodScene.setHand
  split <;> exact shares

theorem dropCandidate_pinches (handedness other : Hand) :
    (s.dropCandidate handedness).pinches other = s.pinches other := by
  unfold PodScene.dropCandidate PodScene.pinches
  rw [setHand_get]
  split
  · rename_i same
    rw [same]
    cases s.handPhysics.get handedness <;> rfl
  · rfl

/-- The move mode of the frames is that of the board. -/
theorem move_agrees (shares : b.Shares s) (sees : input.Sees s) :
    (b.updateTableMoveInteraction three input).Shares
      (s.updateTableMoveInteraction input.trackedHands) := by
  obtain ⟨mode, awaiting, slider⟩ := id shares
  have pinch := sees.pinches .right
  have palm := sees.palm
  unfold Board.updateTableMoveInteraction PodScene.updateTableMoveInteraction
  rw [← mode]
  cases held : input.palmCenterWorld with
  | none =>
    rw [held, Option.isSome_none] at palm
    rw [← palm, Bool.and_false]
    exact shares
  | some palmCenterWorld =>
    rw [held, Option.isSome_some] at palm
    rw [← palm, Bool.and_true]
    dsimp only
    split
    · have dropped := dropCandidate_shares shares .right
      rw [dropCandidate_pinches, ← pinch, Option.not_isSome]
      have kept (target viewer : Vector3) :
          (b.updateTableMovePreviewPose three target viewer).Shares (s.dropCandidate .right) :=
        dropped
      split
      · exact ⟨dropped.1, rfl, dropped.2.2⟩
      · rw [← (kept ((input.pinchMidpointWorld .right).getD palmCenterWorld)
          input.viewerPosition).2.1]
        split
        · exact kept _ _
        · unfold Board.confirmTableMove
          dsimp only
          split <;> exact ⟨rfl, rfl, dropped.2.2⟩
    · exact shares

theorem findSome_fst {α β : Type} (g : α → Option β) (l : List α) :
    (l.findSome? fun a => (g a).map (a, ·)).map Prod.fst = l.find? fun a => (g a).isSome := by
  induction l with
  | nil => rfl
  | cons a rest ih =>
    rw [List.findSome?_cons, List.find?_cons, ← ih]
    cases g a <;> rfl

/-- The slider of the frames is that of the board, where the HUD shows it under the pinches. -/
theorem slider_agrees (shares : b.Shares s) (sees : input.Sees s) {sliderHit : Hand → Bool}
    (hit : ∀ handedness point, input.pinchMidpointWorld handedness = some point →
      sliderHit handedness = isTableSliderHit (input.worldToHud point)
        (b.hudSliderActiveHand.filter input.trackedHands.contains == some handedness)) :
    (b.updateTableHeightSliderInteraction input).Shares
      (s.updateTableHeightSliderInteraction input.leftWristTracked input.trackedHands
        sliderHit) := by
  obtain ⟨mode, awaiting, slider⟩ := id shares
  let dragged : Board :=
    { b with hudSliderActiveHand := b.hudSliderActiveHand.filter input.trackedHands.contains }
  have sees_hit : (fun handedness => s.pinches handedness && sliderHit handedness) =
      fun handedness => (dragged.sliderPoint input handedness).isSome := by
    funext handedness
    rw [← sees.pinches handedness, Board.sliderPoint]
    cases pinch : input.pinchMidpointWorld handedness with
    | none => rfl
    | some point =>
      rw [hit handedness point pinch, Option.isSome_some, Bool.true_and, Option.map_some,
        Option.filter_some]
      split
      · assumption
      · exact Bool.eq_false_iff.mpr ‹_›
  unfold Board.updateTableHeightSliderInteraction PodScene.updateTableHeightSliderInteraction
  rw [← mode, ← slider]
  split
  · exact ⟨rfl, awaiting, rfl⟩
  · dsimp only
    rw [sees_hit]
    -- Both take the first hand of the same order, whichever it is.
    have first (order : List Hand) : Board.Shares
        (match order.findSome? fun handedness =>
            (dragged.sliderPoint input handedness).map (handedness, ·) with
          | some (handedness, hudPoint) => dragged.dragSlider handedness hudPoint
          | none => { dragged with hudSliderActiveHand := none })
        (match order.find? fun handedness => (dragged.sliderPoint input handedness).isSome with
          | some handedness =>
            { s with hudSliderActiveHand := some handedness }.dropCandidate handedness
          | none => { s with hudSliderActiveHand := none }) := by
      rw [← findSome_fst]
      cases order.findSome? fun handedness =>
          (dragged.sliderPoint input handedness).map (handedness, ·) with
      | none => exact ⟨mode, awaiting, rfl⟩
      | some pair =>
        apply dropCandidate_shares
        unfold Board.dragSlider Board.applyCurrentBoardHeight
        dsimp only
        split <;> exact ⟨mode, awaiting, rfl⟩
    cases active : b.hudSliderActiveHand.filter input.trackedHands.contains with
    | none =>
      have both := first [.right, .left]
      simp only [dragged, active, ← mode] at both ⊢
      exact both
    | some handedness =>
      have own := first [handedness]
      simp only [dragged, active, ← mode] at own ⊢
      exact own

end Agreement

inductive BoardAction
  | enterXR (enabledAnchors : Bool) (position direction : Vector3)
  | exitXR
  | handleXREnd (isPresenting : Bool)
  | updateWristHud (input : BoardInput)
  | desktopFrame
  | anchorCreated (n : Nat)
  | anchorFailed (n : Nat)
  | reset
  | dispose

/-- A browser presents one session at a time, and frames come while it does. -/
def board (three : Surroundings) : System Board BoardAction where
  step s
    | .enterXR enabledAnchors position direction =>
      if s.isPresenting then none else some (s.enterXR three enabledAnchors position direction)
    | .exitXR => some s.exitXR
    | .handleXREnd isPresenting =>
      if s.isPresenting then some (s.handleXREnd isPresenting) else none
    | .updateWristHud input => if s.isPresenting then some (s.updateWristHud three input) else none
    | .desktopFrame => if s.isPresenting then none else some s.desktopFrame
    | .anchorCreated n => s.requests[n]?.map fun request =>
      { s with requests := s.requests.eraseIdx n }.anchorCreated request
    | .anchorFailed n => s.requests[n]?.map fun request =>
      { s with requests := s.requests.eraseIdx n }.anchorFailed request
    | .reset => some s.reset
    | .dispose => some (s.clearBoardAnchor true)

section Anchors

variable {three : Surroundings} {s t : Board}

def Board.Unanchored (s : Board) : Prop :=
  s.boardAnchorStatus ≠ .locking ∧ s.boardAnchorStatus ≠ .locked

structure Anchored (three : Surroundings) (s : Board) : Prop where
  whole : Pool.Whole s.boardAnchor.toList s.deleted s.anchors
  past : ∀ request ∈ s.requests, request.requestId ≤ s.boardAnchorRequestId
  distinct : (s.requests.map AnchorRequest.requestId).Nodup
  locking : s.boardAnchorStatus = .locking ↔
    ∃ request ∈ s.requests, request.requestId = s.boardAnchorRequestId
  locked : s.boardAnchorStatus = .locked ↔ s.boardAnchor.isSome = true
  away : s.isPresenting = false → s.Unanchored
  moving : s.tableMoveMode = true → s.Unanchored
  disabled : three.spatialAnchorsEnabled = false → s.xrAnchorsSupported = false ∧
    (s.boardAnchorStatus = .noXR ∨ s.boardAnchorStatus = .unavailable) ∧
      s.requests = [] ∧ s.anchors = 0

def Board.anchoring (s : Board) := (s.isPresenting, s.xrAnchorsSupported, s.boardAnchor,
  s.boardAnchorRequestId, s.boardAnchorStatus, s.requests, s.anchors, s.deleted)

theorem Anchored.initial : Anchored three .initial where
  whole := Pool.Whole.empty
  past _ asked := absurd asked List.not_mem_nil
  distinct := List.nodup_nil
  locking := iff_of_false nofun fun ⟨_, asked, _⟩ => absurd asked List.not_mem_nil
  locked := iff_of_false nofun nofun
  away _ := ⟨nofun, nofun⟩
  moving := nofun
  disabled _ := ⟨rfl, .inl rfl, rfl, rfl⟩

theorem Anchored.aside (anchored : Anchored three s) (same : t.anchoring = s.anchoring)
    (mode : t.tableMoveMode = true → s.Unanchored) : Anchored three t := by
  simp only [Board.anchoring, Prod.mk.injEq] at same
  obtain ⟨presenting, supported, anchor, requestId, status, requests, anchors, deleted⟩ := same
  constructor
  · rw [anchor, deleted, anchors]; exact anchored.whole
  · rw [requests, requestId]; exact anchored.past
  · rw [requests]; exact anchored.distinct
  · rw [status, requests, requestId]; exact anchored.locking
  · rw [status, anchor]; exact anchored.locked
  · rw [presenting, Board.Unanchored, status]; exact anchored.away
  · rw [Board.Unanchored, status]; exact mode
  · rw [supported, status, requests, anchors]; exact anchored.disabled

/-- Whatever was asked for before is stale after it, whether there is a session or not. -/
theorem Anchored.clear (anchored : Anchored three s) (supported : t.xrAnchorsSupported =
    s.xrAnchorsSupported) (same : (t.boardAnchor, t.boardAnchorRequestId, t.requests, t.anchors,
      t.deleted) = (s.boardAnchor, s.boardAnchorRequestId, s.requests, s.anchors, s.deleted)) :
    Anchored three (t.clearBoardAnchor true) ∧ (t.clearBoardAnchor true).Unanchored := by
  simp only [Prod.mk.injEq] at same
  obtain ⟨anchor, requestId, requests, anchors, deleted⟩ := same
  have loose : (t.clearBoardAnchor true).Unanchored := by
    unfold Board.Unanchored Board.clearBoardAnchor
    dsimp only
    split
    · exact ⟨nofun, nofun⟩
    · split <;> exact ⟨nofun, nofun⟩
  refine ⟨?_, loose⟩
  have stale (request : AnchorRequest) (asked : request ∈ t.requests) :
      request.requestId < t.boardAnchorRequestId + 1 := by
    rw [requests] at asked
    rw [requestId]
    exact Nat.lt_succ_of_le (anchored.past request asked)
  constructor
  · have whole := anchored.whole
    rw [← anchor, ← deleted, ← anchors] at whole
    exact whole.perm (.refl _)
  · exact fun request asked => (stale request asked).le
  · exact (congrArg (List.map AnchorRequest.requestId) requests) ▸ anchored.distinct
  · exact iff_of_false loose.1 fun ⟨request, asked, current⟩ => (stale request asked).ne current
  · exact iff_of_false loose.2 nofun
  · exact fun _ => loose
  · exact fun _ => loose
  · intro off
    obtain ⟨unsupported, -, none, zero⟩ := anchored.disabled off
    refine ⟨supported.trans unsupported, ?_, requests.trans none, anchors.trans zero⟩
    simp only [Board.clearBoardAnchor, supported, unsupported, Bool.not_false, if_true]
    split
    · exact .inl rfl
    · exact .inr rfl

theorem sync_anchoring (s : Board) (anchorPose : Option Pose) :
    (s.syncBoardPoseFromAnchor anchorPose).anchoring = s.anchoring ∧
      (s.syncBoardPoseFromAnchor anchorPose).tableMoveMode = s.tableMoveMode := by
  unfold Board.syncBoardPoseFromAnchor
  split
  · exact ⟨rfl, rfl⟩
  · split <;> exact ⟨rfl, rfl⟩

theorem slider_anchoring (s : Board) (input : BoardInput) :
    (s.updateTableHeightSliderInteraction input).anchoring = s.anchoring ∧
      (s.updateTableHeightSliderInteraction input).tableMoveMode = s.tableMoveMode := by
  unfold Board.updateTableHeightSliderInteraction
  split
  · exact ⟨rfl, rfl⟩
  · dsimp only
    split
    · unfold Board.dragSlider Board.applyCurrentBoardHeight
      dsimp only
      split <;> exact ⟨rfl, rfl⟩
    · exact ⟨rfl, rfl⟩

theorem leave_anchoring (s : Board) : s.leaveTableMoveMode.anchoring = s.anchoring ∧
    s.leaveTableMoveMode.tableMoveMode = false := by
  unfold Board.leaveTableMoveMode
  split <;> exact ⟨rfl, rfl⟩

theorem leave_asked (s : Board) : s.leaveTableMoveMode.xrAnchorsSupported = s.xrAnchorsSupported ∧
    (s.leaveTableMoveMode.boardAnchor, s.leaveTableMoveMode.boardAnchorRequestId,
      s.leaveTableMoveMode.requests, s.leaveTableMoveMode.anchors, s.leaveTableMoveMode.deleted) =
      (s.boardAnchor, s.boardAnchorRequestId, s.requests, s.anchors, s.deleted) := by
  unfold Board.leaveTableMoveMode
  split <;> exact ⟨rfl, rfl⟩

theorem Anchored.leave (anchored : Anchored three s) : Anchored three s.leaveTableMoveMode :=
  anchored.aside (leave_anchoring s).1 fun moves => by
    rw [(leave_anchoring s).2] at moves
    cases moves

/-- A confirmation asks for an anchor when there was none, under a number of its own. -/
theorem Anchored.confirm (anchored : Anchored three s) (loose : s.Unanchored) (createAnchor : Bool)
    (presenting : s.isPresenting = true) :
    Anchored three (s.confirmTableMove three createAnchor) := by
  have none : s.boardAnchor = none := by
    rw [← Option.not_isSome_iff_eq_none]
    exact fun some => loose.2 (anchored.locked.mpr some)
  unfold Board.confirmTableMove
  dsimp only
  split
  · rename_i enabled
    simp only [Bool.and_eq_true] at enabled
    have new : s.boardAnchorRequestId + 1 ∉ s.requests.map AnchorRequest.requestId := by
      intro used
      obtain ⟨request, asked, same⟩ := List.mem_map.mp used
      have := anchored.past request asked
      omega
    constructor
    · exact anchored.whole
    · intro request asked
      rcases List.mem_append.mp asked with earlier | last
      · exact Nat.le_succ_of_le (anchored.past request earlier)
      · rw [List.mem_singleton.mp last]
        exact Nat.le_refl _
    · simp only [Board.createBoardAnchor, List.map_append, List.map_singleton]
      refine List.nodup_append.mpr ⟨anchored.distinct, List.nodup_singleton _, ?_⟩
      rintro id used last isLast rfl
      rw [List.mem_singleton.mp isLast] at used
      exact new used
    · exact iff_of_true rfl ⟨_, List.mem_append_right _ List.mem_cons_self, rfl⟩
    · refine iff_of_false nofun ?_
      show s.boardAnchor.isSome ≠ true
      rw [none]
      nofun
    · exact fun away => absurd (presenting.symm.trans away) nofun
    · nofun
    · exact fun off => absurd (enabled.1.1.symm.trans off) nofun
  · constructor
    · exact anchored.whole
    · exact anchored.past
    · exact anchored.distinct
    · exact iff_of_false nofun fun asked => loose.1 (anchored.locking.mpr asked)
    · exact iff_of_false nofun fun some => loose.2 (anchored.locked.mpr some)
    · exact fun _ => ⟨nofun, nofun⟩
    · nofun
    · exact fun off =>
        ⟨(anchored.disabled off).1, .inr rfl, (anchored.disabled off).2.2⟩

theorem Anchored.move (anchored : Anchored three s) (input : BoardInput)
    (presenting : s.isPresenting = true) :
    Anchored three (s.updateTableMoveInteraction three input) := by
  unfold Board.updateTableMoveInteraction
  split
  · exact anchored
  · dsimp only
    split
    · rename_i moves
      simp only [Bool.and_eq_true] at moves
      have preview (target viewer : Vector3) :
          Anchored three (s.updateTableMovePreviewPose three target viewer) :=
        anchored.aside rfl anchored.moving
      split
      · exact anchored.aside rfl anchored.moving
      · split
        · exact preview _ _
        · exact (preview _ _).confirm (anchored.moving moves.1) input.createAnchor presenting
    · exact anchored

theorem Anchored.start (anchored : Anchored three s) : Anchored three s.startTableMoveMode := by
  unfold Board.startTableMoveMode
  split
  · exact anchored
  · obtain ⟨cleared, loose⟩ := anchored.clear (t := s) rfl rfl
    exact cleared.aside rfl fun _ => loose

theorem Anchored.touch (anchored : Anchored three s) (input : BoardInput) :
    Anchored three (s.touchButtons input) := by
  unfold Board.touchButtons
  split
  · exact anchored.start
  · split
    · exact anchored.aside rfl anchored.moving
    · exact anchored

theorem Anchored.latch (anchored : Anchored three s) (input : BoardInput) :
    Anchored three (s.latchPinch input) := by
  unfold Board.latchPinch
  split <;> exact anchored.aside rfl anchored.moving

theorem Anchored.support (anchored : Anchored three s) (input : BoardInput) :
    Anchored three (s.supportAnchors three input) :=
  ⟨anchored.whole, anchored.past, anchored.distinct, anchored.locking, anchored.locked,
    anchored.away, anchored.moving, fun off => by
      simp only [Board.supportAnchors, off, Bool.false_and, true_and]
      exact (anchored.disabled off).2⟩

/-- What a frame reads before the slider touches the anchor's part only as far as its support. -/
theorem readFrame_anchoring (three : Surroundings) (s : Board) (input : BoardInput) :
    (s.readFrame three input).anchoring = (s.supportAnchors three input).anchoring ∧
      (s.readFrame three input).tableMoveMode = s.tableMoveMode := by
  have synced := sync_anchoring (s.supportAnchors three input) input.anchorPose
  unfold Board.readFrame
  dsimp only
  split <;> split
  · exact ⟨rfl, rfl⟩
  · exact synced
  · exact ⟨rfl, rfl⟩
  · exact synced

theorem Anchored.frame (anchored : Anchored three s) (input : BoardInput)
    (presenting : s.isPresenting = true) : Anchored three (s.updateWristHud three input) := by
  unfold Board.updateWristHud
  split
  · exact anchored
  · obtain ⟨same, mode⟩ := readFrame_anchoring three s input
    obtain ⟨same', mode'⟩ := slider_anchoring (s.readFrame three input) input
    have supported := anchored.support input
    have slid : Anchored three
        ((s.readFrame three input).updateTableHeightSliderInteraction input) := by
      apply supported.aside (same'.trans same)
      rw [mode', mode]
      exact supported.moving
    have presents := (congrArg Prod.fst (same'.trans same)).trans presenting
    exact ((slid.move input presents).touch input).latch input

/-- A request that is answered leaves the others, under their own numbers. -/
theorem answered_requests {requests : List AnchorRequest} {n : Nat} {request : AnchorRequest}
    (distinct : (requests.map AnchorRequest.requestId).Nodup)
    (found : requests[n]? = some request) : (requests.eraseIdx n).Sublist requests ∧
      ∀ other ∈ requests, other = request ∨
        other ∈ requests.eraseIdx n ∧ other.requestId ≠ request.requestId := by
  obtain ⟨bound, rfl⟩ := List.getElem?_eq_some_iff.mp found
  have taken := List.getElem_cons_eraseIdx_perm bound
  have apart := (taken.map AnchorRequest.requestId).nodup_iff.mpr distinct
  refine ⟨List.eraseIdx_sublist requests n, fun other asked => ?_⟩
  rcases List.mem_cons.mp (taken.mem_iff.mpr asked) with same | remains
  · exact .inl same
  · exact .inr ⟨remains, fun same =>
      (List.nodup_cons.mp apart).1 (same ▸ List.mem_map_of_mem remains)⟩

section Answers

variable {n : Nat} {request : AnchorRequest}

theorem Anchored.none_asked (anchored : Anchored three s)
    (off : three.spatialAnchorsEnabled = false) : s.requests[n]? ≠ some request := by
  rw [(anchored.disabled off).2.2.1]
  nofun

theorem Anchored.late (anchored : Anchored three s) (found : s.requests[n]? = some request)
    (late : request.requestId ≠ s.boardAnchorRequestId) :
    Anchored three { s with requests := s.requests.eraseIdx n } := by
  obtain ⟨fewer, others⟩ := answered_requests anchored.distinct found
  refine ⟨anchored.whole, fun other remains => anchored.past other (fewer.subset remains),
    anchored.distinct.sublist (fewer.map _), anchored.locking.trans ⟨?_, ?_⟩, anchored.locked,
    anchored.away, anchored.moving, fun off => absurd found (anchored.none_asked off)⟩
  · rintro ⟨other, asked, current⟩
    rcases others other asked with rfl | ⟨remains, -⟩
    · exact absurd current late
    · exact ⟨other, remains, current⟩
  · rintro ⟨other, remains, current⟩
    exact ⟨other, fewer.subset remains, current⟩

/-- The answer to the newest request ends the locking. -/
theorem Anchored.current (anchored : Anchored three s) (found : s.requests[n]? = some request)
    (current : request.requestId = s.boardAnchorRequestId) :
    s.boardAnchorStatus = .locking ∧ s.boardAnchor = none ∧
      ∀ other ∈ s.requests.eraseIdx n, other.requestId ≠ s.boardAnchorRequestId := by
  obtain ⟨fewer, others⟩ := answered_requests anchored.distinct found
  have locking : s.boardAnchorStatus = .locking :=
    anchored.locking.mpr ⟨request, List.mem_of_getElem? found, current⟩
  refine ⟨locking, ?_, fun other remains => ?_⟩
  · rw [← Option.not_isSome_iff_eq_none, ← anchored.locked, locking]
    nofun
  · rcases others other (fewer.subset remains) with rfl | ⟨-, apart⟩
    · obtain ⟨bound, rfl⟩ := List.getElem?_eq_some_iff.mp found
      have taken := (List.getElem_cons_eraseIdx_perm bound).map AnchorRequest.requestId
      have apart := taken.nodup_iff.mpr anchored.distinct
      exact absurd (List.mem_map_of_mem remains) (List.nodup_cons.mp apart).1
    · rwa [← current]

theorem Anchored.created (anchored : Anchored three s) (found : s.requests[n]? = some request) :
    Anchored three ({ s with requests := s.requests.eraseIdx n }.anchorCreated request) := by
  have fewer := (answered_requests anchored.distinct found).1
  unfold Board.anchorCreated
  dsimp only
  split
  · rename_i late
    have dropped := anchored.late found late
    exact ⟨anchored.whole.make.perm (by simp), dropped.past, dropped.distinct, dropped.locking,
      dropped.locked, dropped.away, dropped.moving,
      fun off => absurd found (anchored.none_asked off)⟩
  · rename_i newest
    obtain ⟨locking, none, others⟩ := anchored.current found (not_not.mp newest)
    have whole := anchored.whole
    rw [none] at whole
    constructor
    · simpa [Board.clearBoardAnchor, none] using whole.make
    · exact fun other remains => anchored.past other (fewer.subset remains)
    · exact anchored.distinct.sublist (fewer.map _)
    · exact iff_of_false nofun fun ⟨other, remains, same⟩ => others other remains same
    · exact iff_of_true rfl rfl
    · exact fun away => absurd locking (anchored.away away).1
    · exact fun moves => absurd locking (anchored.moving moves).1
    · exact fun off => absurd found (anchored.none_asked off)

theorem Anchored.refused (anchored : Anchored three s) (found : s.requests[n]? = some request) :
    Anchored three ({ s with requests := s.requests.eraseIdx n }.anchorFailed request) := by
  have fewer := (answered_requests anchored.distinct found).1
  unfold Board.anchorFailed
  split
  · rename_i late
    exact anchored.late found late
  · rename_i newest
    obtain ⟨locking, none, others⟩ := anchored.current found (not_not.mp newest)
    constructor
    · exact anchored.whole
    · exact fun other remains => anchored.past other (fewer.subset remains)
    · exact anchored.distinct.sublist (fewer.map _)
    · exact iff_of_false nofun fun ⟨other, remains, same⟩ => others other remains same
    · refine iff_of_false nofun ?_
      show ¬ s.boardAnchor.isSome = true
      rw [none]
      nofun
    · exact fun away => absurd locking (anchored.away away).1
    · exact fun moves => absurd locking (anchored.moving moves).1
    · exact fun off => absurd found (anchored.none_asked off)

end Answers

theorem Anchored.enter (anchored : Anchored three s) (away : s.isPresenting = false)
    (enabledAnchors : Bool) (position direction : Vector3) :
    Anchored three (s.enterXR three enabledAnchors position direction) := by
  obtain ⟨unasked, unlocked⟩ := anchored.away away
  have loose : (s.enterXR three enabledAnchors position direction).Unanchored := by
    unfold Board.Unanchored Board.enterXR Board.placeBoardForXR
    dsimp only
    split <;> exact ⟨nofun, nofun⟩
  constructor
  · exact anchored.whole
  · exact anchored.past
  · exact anchored.distinct
  · exact iff_of_false loose.1 fun asked => unasked (anchored.locking.mpr asked)
  · exact iff_of_false loose.2 fun some => unlocked (anchored.locked.mpr some)
  · exact fun _ => loose
  · exact fun _ => loose
  · intro off
    have unsupported : (three.spatialAnchorsEnabled && enabledAnchors) = false := by
      rw [off, Bool.false_and]
    refine ⟨unsupported, .inr ?_, (anchored.disabled off).2.2⟩
    simp only [Board.enterXR, Board.placeBoardForXR, unsupported, Bool.false_eq_true, if_false]

theorem anchored_kept {a : BoardAction} (anchored : Anchored three s)
    (taken : (board three).step s a = some t) : Anchored three t := by
  cases a with
  | enterXR enabledAnchors position direction =>
    obtain ⟨away, same⟩ := Option.ite_none_left_eq_some.mp taken
    cases same
    exact anchored.enter (Bool.eq_false_iff.mpr away) enabledAnchors position direction
  | exitXR =>
    cases taken
    obtain ⟨supported, same⟩ := leave_asked
      { s with isPresenting := false, hudSliderActiveHand := none }.resetBoardPlacement
    exact (anchored.clear supported same).1
  | handleXREnd isPresenting =>
    obtain ⟨-, same⟩ := Option.ite_none_right_eq_some.mp taken
    cases same
    obtain ⟨supported, same⟩ := leave_asked ({ s with
      isPresenting, pinchLatch := false, hudSliderActiveHand := none }.tell .unlatched)
    obtain ⟨cleared, loose⟩ := anchored.clear supported same
    exact ⟨cleared.whole, cleared.past, cleared.distinct, cleared.locking, cleared.locked,
      fun _ => loose, cleared.moving, cleared.disabled⟩
  | updateWristHud input =>
    obtain ⟨presenting, same⟩ := Option.ite_none_right_eq_some.mp taken
    cases same
    exact anchored.frame input presenting
  | desktopFrame =>
    obtain ⟨-, same⟩ := Option.ite_none_left_eq_some.mp taken
    cases same
    exact Anchored.leave (anchored.aside rfl anchored.moving)
  | anchorCreated n =>
    obtain ⟨request, found, rfl⟩ := Option.map_eq_some_iff.mp taken
    exact anchored.created found
  | anchorFailed n =>
    obtain ⟨request, found, rfl⟩ := Option.map_eq_some_iff.mp taken
    exact anchored.refused found
  | reset =>
    cases taken
    obtain ⟨supported, same⟩ := leave_asked ({ s.resetBoardPlacement with
      pinchLatch := false
      lastDisconnectAt := 0
      hudSliderActiveHand := none }.tell .reset)
    exact (anchored.clear supported same).1
  | dispose =>
    cases taken
    exact (anchored.clear rfl rfl).1

/-- A board straight ahead of its viewer, which these functions turn as three.js does. -/
def Surroundings.ahead (spatialAnchorsEnabled : Bool) : Surroundings where
  spatialAnchorsEnabled
  normalize := id
  facing _ _ := ⟨0, 1, 0, 0⟩

/-- A frame with the right hand, which pinches there or not, and may be on the move button. -/
def BoardInput.rightHand (pinch : Option Vector3) (moveButtonTouched : Bool) : BoardInput where
  available := true
  enabledAnchors := true
  createAnchor := true
  anchorPose := none
  leftWristTracked := true
  trackedHands := [.left, .right]
  pinchMidpointWorld handedness := if handedness = .right then pinch else none
  palmCenterWorld := some ⟨0, 8 / 10, -4 / 10⟩
  worldToHud := id
  viewerPosition := ⟨0, 16 / 10, 0⟩
  disconnectButtonTouched := false
  moveButtonTouched
  pinchDetected := pinch.isSome
  now := 5000

/-- The table is moved, and moved again before the anchor of the first move comes. -/
def movedTwice : List BoardAction :=
  let at_table : Option Vector3 := some ⟨0, 3 / 4, -4 / 10⟩
  let move : List BoardAction := [.updateWristHud (.rightHand at_table true),
    .updateWristHud (.rightHand none false), .updateWristHud (.rightHand at_table false)]
  .enterXR true ⟨0, 16 / 10, 0⟩ ⟨0, 0, -1⟩ :: move ++ move ++ [.anchorCreated 0, .anchorCreated 0]

/-- What a player may rely on when anchors come late, fail, or do not come at all. -/
structure AnchorsKept (three : Surroundings) (s : Board) : Prop where
  /-- Each anchor that was created is in force or deleted, and only one of these. -/
  whole : Pool.Whole s.boardAnchor.toList s.deleted s.anchors
  /-- The HUD tells when an anchor is in force, and when one is waited for. -/
  locked : s.boardAnchorStatus = .locked ↔ s.boardAnchor.isSome = true
  locking : s.boardAnchorStatus = .locking ↔
    ∃ request ∈ s.requests, request.requestId = s.boardAnchorRequestId
  /-- A table that is moved, and one without a session, follows no anchor and waits for none. -/
  loose : s.tableMoveMode = true ∨ s.isPresenting = false → s.boardAnchor = none ∧
    ∀ request ∈ s.requests, request.requestId < s.boardAnchorRequestId
  /-- An anchor that comes after that is deleted, and nothing else changes. -/
  late : ∀ (n : Nat) request, s.requests[n]? = some request →
    request.requestId < s.boardAnchorRequestId → (board three).step s (.anchorCreated n) = some
      { s with
        requests := s.requests.eraseIdx n
        anchors := s.anchors + 1
        deleted := s.anchors :: s.deleted }
  /-- With the flag as the source sets it no anchor is ever asked for. -/
  disabled : three.spatialAnchorsEnabled = false → s.requests = [] ∧ s.anchors = 0 ∧
    (s.boardAnchorStatus = .noXR ∨ s.boardAnchorStatus = .unavailable)

theorem anchored_reachable (reached : (board three).Reachable .initial s) : Anchored three s := by
  apply reached.invariant Anchored.initial
  exact fun _ _ _ anchored _ taken => anchored_kept anchored taken

theorem anchors_kept (reached : (board three).Reachable .initial s) : AnchorsKept three s := by
  have anchored := anchored_reachable reached
  constructor
  · exact anchored.whole
  · exact anchored.locked
  · exact anchored.locking
  · intro free
    obtain ⟨unasked, unlocked⟩ := free.elim anchored.moving anchored.away
    constructor
    · rw [← Option.not_isSome_iff_eq_none]
      exact fun some => unlocked (anchored.locked.mpr some)
    · intro request asked
      have newest : request.requestId ≠ s.boardAnchorRequestId :=
        fun current => unasked (anchored.locking.mpr ⟨request, asked, current⟩)
      exact lt_of_le_of_ne (anchored.past request asked) newest
  · intro n request found late
    simp only [board, found, Option.map_some, Board.anchorCreated, ne_eq, late.ne,
      not_false_eq_true, if_true]
  · intro off
    obtain ⟨-, status, none, zero⟩ := anchored.disabled off
    exact ⟨none, zero, status⟩

def secondInForce (s : Board) : Bool :=
  s.boardAnchor == some 1 && s.deleted == [0] && s.boardAnchorStatus == .locked

theorem anchors_kept_twice : ∃ s,
    (board (.ahead true)).run .initial movedTwice = some s ∧ secondInForce s = true ∧
      AnchorsKept (.ahead true) s := by
  obtain ⟨s, ran, passes⟩ := System.run_passes movedTwice secondInForce (by decide +kernel :
    ((board (.ahead true)).run .initial movedTwice).any secondInForce = true)
  exact ⟨s, ran, passes, anchors_kept (System.run_reachable ran)⟩

end Anchors

inductive MovePhase
  | idle
  /-- The pinch that started it has not been released. -/
  | held
  | free
  deriving DecidableEq

def movePhase : List BoardMoment → MovePhase
  | [] => .idle
  | .started :: _ => .held
  | .released :: _ => .free
  | .confirmed :: _ | .aborted :: _ => .idle
  | _ :: earlier => movePhase earlier

/-- A button was pressed, and no frame since then was without a pinch on one. -/
def latched : List BoardMoment → Bool
  | [] => false
  | .started :: _ | .disconnected _ :: _ => true
  | .unlatched :: _ | .reset :: _ => false
  | _ :: earlier => latched earlier

/-- The time of the last disconnect since a reset, or zero. -/
def lastDisconnect : List BoardMoment → Rat
  | [] => 0
  | .disconnected now :: _ => now
  | .reset :: _ => 0
  | _ :: earlier => lastDisconnect earlier

def BoardTold : BoardMoment → List BoardMoment → Prop
  | .started, earlier => latched earlier = false
  | .released, earlier => movePhase earlier ≠ .idle
  | .confirmed, earlier => movePhase earlier = .free
  | .aborted, earlier => movePhase earlier ≠ .idle
  | .disconnected now, earlier => latched earlier = false ∧ now - lastDisconnect earlier > 1200
  | _, _ => True

def Board.phase (s : Board) : MovePhase :=
  if s.tableMoveMode then if s.tableMoveAwaitingConfirmRelease then .held else .free else .idle

structure Moved (s : Board) : Prop where
  phase : movePhase s.history = s.phase
  latch : latched s.history = true → s.pinchLatch = true
  disconnect : lastDisconnect s.history = s.lastDisconnectAt
  told : History.Each BoardTold s.history

section Moves

variable {three : Surroundings} {s t : Board}

def Board.moving (s : Board) := (s.tableMoveMode, s.tableMoveAwaitingConfirmRelease, s.pinchLatch,
  s.lastDisconnectAt, s.history)

theorem Moved.aside (moved : Moved s) (same : t.moving = s.moving) : Moved t := by
  simp only [Board.moving, Prod.mk.injEq] at same
  obtain ⟨mode, awaiting, latch, disconnect, history⟩ := same
  constructor
  · rw [history, moved.phase, Board.phase, Board.phase, mode, awaiting]
  · rw [history, latch]; exact moved.latch
  · rw [history, disconnect]; exact moved.disconnect
  · rw [history]; exact moved.told

theorem slider_moving (s : Board) (input : BoardInput) :
    (s.updateTableHeightSliderInteraction input).moving = s.moving := by
  unfold Board.updateTableHeightSliderInteraction
  split
  · rfl
  · dsimp only
    split
    · unfold Board.dragSlider Board.applyCurrentBoardHeight
      dsimp only
      split <;> rfl
    · rfl

theorem readFrame_moving (three : Surroundings) (s : Board) (input : BoardInput) :
    (s.readFrame three input).moving = s.moving := by
  have synced (t : Board) : (t.syncBoardPoseFromAnchor input.anchorPose).moving = t.moving := by
    unfold Board.syncBoardPoseFromAnchor
    split
    · rfl
    · split <;> rfl
  unfold Board.readFrame
  dsimp only
  split <;> split
  · rfl
  · exact synced _
  · rfl
  · exact synced _

theorem Moved.move (moved : Moved s) (input : BoardInput) :
    Moved (s.updateTableMoveInteraction three input) := by
  unfold Board.updateTableMoveInteraction
  split
  · exact moved
  · dsimp only
    split
    · rename_i moves
      simp only [Bool.and_eq_true] at moves
      have phase := moved.phase
      simp only [Board.phase, moves.1, if_true] at phase
      split
      · -- The hand does not pinch.
        have begun : movePhase s.history ≠ .idle := by
          rw [phase]
          split <;> nofun
        refine ⟨?_, moved.latch, moved.disconnect, begun, moved.told⟩
        simp only [Board.phase, Board.tell, Board.updateTableMovePreviewPose, moves.1, if_true]
        rfl
      · split
        · exact moved.aside rfl
        · rename_i pinches released
          have free : movePhase s.history = .free := by
            rw [phase, if_neg]
            exact released
          unfold Board.confirmTableMove
          dsimp only
          split
          · exact ⟨rfl, moved.latch, moved.disconnect, free, moved.told⟩
          · exact ⟨rfl, moved.latch, moved.disconnect, free, moved.told⟩
    · exact moved

theorem latch_moved (phase : movePhase s.history = s.phase)
    (disconnect : lastDisconnect s.history = s.lastDisconnectAt)
    (told : History.Each BoardTold s.history) (input : BoardInput) :
    Moved (s.latchPinch input) := by
  unfold Board.latchPinch
  split
  · exact ⟨phase, fun _ => rfl, disconnect, told⟩
  · exact ⟨phase, nofun, disconnect, trivial, told⟩

/-- A button acts only when no button was pinched before. -/
theorem Moved.touch (moved : Moved s) (input : BoardInput) (presenting : s.isPresenting = true) :
    Moved ((s.touchButtons input).latchPinch input) := by
  have unlatched (pressed : s.pinchLatch = false) : latched s.history = false := by
    cases told : latched s.history with
    | false => rfl
    | true => exact absurd ((moved.latch told).symm.trans pressed) nofun
  unfold Board.touchButtons
  split
  · rename_i pressed
    simp only [Bool.and_eq_true, Bool.not_eq_true'] at pressed
    have started : s.startTableMoveMode = ({ s with
        tableMoveMode := true
        tableMoveAwaitingConfirmRelease := true
        hudSliderActiveHand := none }.clearBoardAnchor true).tell .started := by
      rw [Board.startTableMoveMode, presenting]
      rfl
    rw [started]
    apply latch_moved
    · rfl
    · exact moved.disconnect
    · exact ⟨unlatched pressed.2, moved.told⟩
  · split
    · rename_i pressed
      simp only [Bool.and_eq_true, Bool.not_eq_true', decide_eq_true_eq] at pressed
      apply latch_moved
      · exact moved.phase
      · rfl
      · refine ⟨⟨unlatched pressed.1.2, ?_⟩, moved.told⟩
        rw [moved.disconnect]
        by_contra soon
        have rounded := Binary64.round_mono (not_lt.mp soon)
        exact absurd pressed.2 (not_lt.mpr (rounded.trans (by decide +kernel)))
    · exact latch_moved moved.phase moved.disconnect moved.told input

theorem move_presenting (three : Surroundings) (s : Board) (input : BoardInput) :
    (s.updateTableMoveInteraction three input).isPresenting = s.isPresenting := by
  unfold Board.updateTableMoveInteraction
  split
  · rfl
  · dsimp only
    split
    · split
      · rfl
      · split
        · rfl
        · unfold Board.confirmTableMove
          dsimp only
          split <;> rfl
    · rfl

theorem Moved.leave (moved : Moved s) : Moved s.leaveTableMoveMode := by
  unfold Board.leaveTableMoveMode
  split
  · rename_i moves
    refine ⟨rfl, moved.latch, moved.disconnect, ?_, moved.told⟩
    show movePhase s.history ≠ .idle
    rw [moved.phase, Board.phase, if_pos moves]
    split <;> nofun
  · rename_i still
    refine ⟨?_, moved.latch, moved.disconnect, moved.told⟩
    rw [moved.phase, Board.phase, if_neg still]
    rfl

theorem Moved.frame (moved : Moved s) (input : BoardInput) (presenting : s.isPresenting = true) :
    Moved (s.updateWristHud three input) := by
  unfold Board.updateWristHud
  split
  · exact moved
  · dsimp only
    have slid : Moved ((s.readFrame three input).updateTableHeightSliderInteraction input) :=
      moved.aside ((slider_moving _ input).trans (readFrame_moving three s input))
    have presents := congrArg Prod.fst
      ((slider_anchoring _ input).1.trans (readFrame_anchoring three s input).1)
    apply (slid.move input).touch
    rw [move_presenting]
    exact presents.trans presenting

/-- The mode was started, and not left since; if it is free it was released. -/
def Begun (history : List BoardMoment) : Prop :=
  ∃ middle earlier, history = middle ++ .started :: earlier ∧ .confirmed ∉ middle ∧
    .aborted ∉ middle ∧ (movePhase history = .free → .released ∈ middle)

theorem Begun.longer {history : List BoardMoment} (begun : Begun history) {moment : BoardMoment}
    (apart : moment ≠ .confirmed ∧ moment ≠ .aborted)
    (phase : movePhase (moment :: history) = .free →
      moment = .released ∨ movePhase history = .free) : Begun (moment :: history) := by
  obtain ⟨middle, earlier, rfl, unconfirmed, unaborted, released⟩ := begun
  refine ⟨moment :: middle, earlier, rfl, ?_, ?_, fun free => ?_⟩
  · exact fun inside => (List.mem_cons.mp inside).elim (apart.1 ·.symm) unconfirmed
  · exact fun inside => (List.mem_cons.mp inside).elim (apart.2 ·.symm) unaborted
  · rcases phase free with rfl | before
    · exact List.mem_cons_self
    · exact .tail _ (released before)

section Height

variable {value : Rat}

end Height

end Moves

end Megalo.Scene
