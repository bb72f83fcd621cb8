import Megalo.Scene.Frames
import Megalo.Scene.Flights

/-! The hands of the scene, as far as their gusts go: updateHandPhysicsFromJoints, from the poses
of the joints, and tryTriggerHandGust, in the frames of scene.ts. -/
namespace Megalo.Scene

open Transition

/-- THREE.Vector3 -/
structure Vector3 where
  x : Rat
  y : Rat
  z : Rat
  deriving DecidableEq

namespace Vector3

variable (u v : Vector3)

def add : Vector3 := ⟨u.x + v.x, u.y + v.y, u.z + v.z⟩

def sub : Vector3 := ⟨u.x - v.x, u.y - v.y, u.z - v.z⟩

def multiplyScalar (scalar : Rat) : Vector3 := ⟨u.x * scalar, u.y * scalar, u.z * scalar⟩

def dot : Rat := u.x * v.x + u.y * v.y + u.z * v.z

def lengthSq : Rat := u.dot u

/-- distanceTo is more than a bound, which is positive. -/
def fartherThan (bound : Rat) : Bool := decide (bound * bound < (u.sub v).lengthSq)

/-- distanceTo is less than a bound, which is positive. -/
def nearerThan (bound : Rat) : Bool := decide ((u.sub v).lengthSq < bound * bound)

end Vector3

/-- The poses of the joints of a hand. -/
structure HandPoses where
  wrist : Vector3
  indexTip : Vector3
  middleTip : Vector3
  ringTip : Vector3
  pinkyTip : Vector3
  thumbTip : Vector3
  indexKnuckle : Vector3
  middleKnuckle : Vector3
  ringKnuckle : Vector3
  pinkyKnuckle : Vector3
  /-- (0, -1, 0), turned by the rotation of the wrist. -/
  palmNormal : Vector3

/-- PINCH_THRESHOLD -/
def pinchThreshold : Rat := 25 / 1000

/-- GUST_COOLDOWN_MS -/
def gustCooldownMs : Rat := 680

/-- GUST_SWEEP_SPEED -/
def gustSweepSpeed : Rat := 17 / 100

/-- GUST_SWEEP_RESET_SPEED -/
def gustSweepResetSpeed : Rat := 7 / 100

/-- GUST_PALM_VERTICAL_MAX_Y -/
def gustPalmVerticalMaxY : Rat := 68 / 100

/-- GUST_HAND_VERTICAL_MIN_Y -/
def gustHandVerticalMinY : Rat := 34 / 100

/-- GUST_BOARD_FACING_DOT -/
def gustBoardFacingDot : Rat := 12 / 100

namespace HandPoses

variable (normalize : Vector3 → Vector3) (poses : HandPoses)

def fingersExtended : Bool :=
  poses.indexTip.fartherThan poses.wrist (90 / 1000) &&
    poses.middleTip.fartherThan poses.wrist (85 / 1000) &&
    poses.ringTip.fartherThan poses.wrist (80 / 1000) &&
    poses.pinkyTip.fartherThan poses.wrist (78 / 1000)

def openPalm : Bool :=
  poses.fingersExtended && poses.thumbTip.fartherThan poses.wrist (70 / 1000)

def pinchActive : Bool := poses.indexTip.nearerThan poses.thumbTip pinchThreshold

def knuckleCenter : Vector3 :=
  (((poses.indexKnuckle.add poses.middleKnuckle).add poses.ringKnuckle).add
    poses.pinkyKnuckle).multiplyScalar (1 / 4)

def palmCenter : Vector3 := (poses.knuckleCenter.add poses.wrist).multiplyScalar (1 / 2)

def palmNormalWorld : Vector3 := normalize poses.palmNormal

def handUpWorld : Vector3 := normalize (poses.knuckleCenter.sub poses.wrist)

def palmLateralWorld : Vector3 := normalize (poses.pinkyKnuckle.sub poses.indexKnuckle)

/-- The board is where its top is in the world. -/
def handFacesBoard (boardTop : Vector3) : Bool :=
  let toBoard := { boardTop.sub poses.palmCenter with y := 0 }
  let facing := { poses.palmNormalWorld normalize with y := 0 }
  if toBoard.lengthSq ≤ 1 / 1000000 || facing.lengthSq ≤ 1 / 1000000 then false
  else decide ((normalize toBoard).dot (normalize facing) ≥ gustBoardFacingDot)

def isHandInGustPose (boardTop : Vector3) : Bool :=
  poses.openPalm && decide (|(poses.palmNormalWorld normalize).y| ≤ gustPalmVerticalMaxY) &&
    decide (|(poses.handUpWorld normalize).y| ≥ gustHandVerticalMinY) &&
    poses.handFacesBoard normalize boardTop

def joints (boardTop : Vector3) : HandJoints where
  openPalm := poses.openPalm
  pinchActive := poses.pinchActive
  gustPoseActive := poses.isHandInGustPose normalize boardTop

end HandPoses

/-- The fields of HandPhysicsState that only the gusts read. A hand that has no state yet is given
those that ensureHandPhysics makes. -/
structure HandTracking where
  lastPalmCenterWorld : Option Vector3
  lastPalmSampleAt : Rat
  sweepSpeed : Rat
  gustMotionLatch : Bool
  gustCooldownUntil : Rat
  deriving DecidableEq

/-- What ensureHandPhysics makes, and clearHandState leaves. -/
def HandTracking.initial : HandTracking := ⟨none, 0, 0, false, 0⟩

def HandTracking.sweepSpeedAt (tracking : HandTracking) (normalize : Vector3 → Vector3)
    (poses : HandPoses) (nowMs : Rat) : Rat :=
  match tracking.lastPalmCenterWorld with
  | some lastPalmCenterWorld =>
    if tracking.lastPalmSampleAt > 0 then
      let elapsedSeconds := max (1 / 120) ((nowMs - tracking.lastPalmSampleAt) / 1000)
      let palmVelocityWorld :=
        (poses.palmCenter.sub lastPalmCenterWorld).multiplyScalar (1 / elapsedSeconds)
      |palmVelocityWorld.dot (poses.palmLateralWorld normalize)|
    else 0
  | none => 0

/-- updateHandPhysicsFromJoints, when all joints have their pose. -/
def HandTracking.sample (tracking : HandTracking) (normalize : Vector3 → Vector3)
    (poses : HandPoses) (nowMs : Rat) : HandTracking := { tracking with
  lastPalmCenterWorld := some poses.palmCenter
  lastPalmSampleAt := nowMs
  sweepSpeed := tracking.sweepSpeedAt normalize poses nowMs }

/-- The palm that comes to rest may launch again. -/
def HandTracking.rest (tracking : HandTracking) : HandTracking :=
  if tracking.sweepSpeed ≤ gustSweepResetSpeed then { tracking with gustMotionLatch := false }
  else tracking

/-- An input source with a hand. -/
structure HandSource where
  handedness : Hand
  /-- None where a joint is missing, or its pose. -/
  poses : Option HandPoses
  sampledAt : Rat

/-- What one XR frame brings, and when it reads the clock. -/
structure XRFrame where
  available : Bool
  sources : List HandSource
  boardTop : Vector3
  touches : Hand → Touches
  sliderHit : Hand → Bool
  movePressed : Bool
  grabbedAt : Hand → Rat
  triggeredAt : Hand → Rat

namespace XRFrame

variable (frame : XRFrame)

/-- The frame as the rest of the scene sees it. -/
def input (normalize : Vector3 → Vector3) : XRInput where
  available := frame.available
  sources := frame.sources.map fun source =>
    (source.handedness, source.poses.map fun poses => poses.joints normalize frame.boardTop)
  touches := frame.touches
  sliderHit := frame.sliderHit
  now := frame.grabbedAt
  movePressed := frame.movePressed

/-- The readings of performance.now, in their order. -/
def times : List Rat :=
  frame.sources.map HandSource.sampledAt ++
    [frame.grabbedAt .left, frame.grabbedAt .right, frame.triggeredAt .left,
      frame.triggeredAt .right]

/-- The frame clears the state of the hand: there is no frame, or no such input source, or a joint
or a pose of it is missing. -/
def clears (handedness : Hand) : Bool :=
  !frame.available || !(frame.sources.map HandSource.handedness).contains handedness ||
    frame.sources.any fun source => source.handedness = handedness && source.poses.isNone

end XRFrame

/-- The scene with its hands and its gusts. -/
structure Hands where
  field : Field
  tracking : Hand → HandTracking
  gusts : Gusts
  /-- The last reading of the clock in a frame. -/
  clock : Rat
  /-- The gusts that tryTriggerHandGust has launched since the last reset or session end. -/
  launches : List (Hand × Rat)

namespace Hands

def initial : Hands := ⟨.initial, fun _ => .initial, .initial, 0, []⟩

variable (normalize : Vector3 → Vector3) (s : Hands)

def setScene (scene : PodScene) : Hands := { s with field := { s.field with scene } }

def setTracking (handedness : Hand) (tracking : HandTracking) : Hands :=
  { s with tracking := Function.update s.tracking handedness tracking }

/-- The tracking of a source: a hand without a state gets one only in a world. -/
def updateTracking (s : Hands) (source : HandSource) : Hands :=
  match source.poses with
  | none => s.setTracking source.handedness .initial
  | some poses =>
    if s.field.scene.handPhysics.has source.handedness || s.field.scene.physicsWorld then
      s.setTracking source.handedness
        ((s.tracking source.handedness).sample normalize poses source.sampledAt)
    else s

def clearUntracked (trackedHands : List Hand) : Hands :=
  let s := if trackedHands.contains .left then s else s.setTracking .left .initial
  if trackedHands.contains .right then s else s.setTracking .right .initial

/-- updateWristHud, from the input sources to the grabs. -/
def updateHands (frame : XRFrame) : Hands :=
  let tracked := (frame.sources.foldl (updateTracking normalize) s).clearUntracked
    (frame.sources.map HandSource.handedness)
  tracked.setScene (s.field.scene.updateHands (frame.input normalize))

/-- The center of the palm and its normal are set and cleared together. -/
def tryTriggerHandGust (handedness : Hand) (nowMs : Rat) : Hands :=
  match s.field.scene.handPhysics.get handedness with
  | none => s
  | some handState =>
    let tracking := s.tracking handedness
    if !handState.gustPoseActive || handState.grabbedPodId.isSome || handState.pinchActive then
      s.setTracking handedness { tracking with gustMotionLatch := false }
    else
      let tracking := tracking.rest
      if nowMs < tracking.gustCooldownUntil || tracking.gustMotionLatch ||
          tracking.sweepSpeed < gustSweepSpeed || !handState.palmCenterWorld then
        s.setTracking handedness tracking
      else match s.gusts.launchGust (.hand handedness) with
        | (none, gusts) => { s with gusts }.setTracking handedness tracking
        | (some _, gusts) =>
          { s with gusts, launches := s.launches ++ [(handedness, nowMs)] }.setTracking handedness
            { tracking with
              gustMotionLatch := true
              gustCooldownUntil := Binary64.add nowMs gustCooldownMs }

/-- updateWristHud, where it tries the gusts. -/
def tryTriggerHandGusts (frame : XRFrame) : Hands :=
  let s := s.tryTriggerHandGust .left (frame.triggeredAt .left)
  if s.field.scene.tableMoveMode then s
  else s.tryTriggerHandGust .right (frame.triggeredAt .right)

/-- Without a frame the clock is only said to go on. -/
def updateWristHud (frame : XRFrame) : Hands :=
  let s := if frame.available then
      let s := (s.updateHands normalize frame).tryTriggerHandGusts frame
      s.setScene (s.field.scene.updatePalms (frame.input normalize))
    else
      { s with tracking := fun _ => .initial }.setScene
        (s.field.scene.updateWristHud (frame.input normalize))
  { s with clock := frame.triggeredAt .right }

/-- The hands after a step of the rest of the scene: reset, handleXREnd and a frame without a
session clear them, which ends what is told of their launches. -/
def follow (field : Field) : FieldAction → Hands
  | .reset =>
    { s with field, tracking := fun _ => .initial, gusts := s.gusts.reset, launches := [] }
  | .handleXREnd | .desktopFrame =>
    { s with field, tracking := fun _ => .initial, launches := [] }
  | .initializePhysics =>
    { s with field, gusts := { s.gusts with physicsWorld := true } }
  | _ => { s with field }

end Hands

inductive HandsAction
  | updateWristHud (frame : XRFrame)
  /-- Any other step of the scene. -/
  | field (action : FieldAction)
  | advanceGusts (delta : Rat) (touching : Nat → List String)
  | triggerDesktopGust

def hands (normalize : Vector3 → Vector3) (engine : Engine) : System Hands HandsAction where
  step s
    | .updateWristHud frame => match s.field.phase with
      | .idle =>
        if (s.clock :: frame.times).Pairwise (· ≤ ·) then some (s.updateWristHud normalize frame)
        else none
      | _ => none
    | .field (.updateWristHud _) => none
    | .field action => ((field engine).step s.field action).map fun next => s.follow next action
    | .advanceGusts delta touching =>
      if 0 < delta then some { s with gusts := (s.gusts.advanceGusts delta touching).1 } else none
    | .triggerDesktopGust => some { s with gusts := (s.gusts.launchGust .desktop).2 }

section Views

variable {normalize : Vector3 → Vector3} {engine : Engine} {s t : Hands}

@[simp] theorem setTracking_self (handedness : Hand) (tracking : HandTracking) :
    (s.setTracking handedness tracking).tracking handedness = tracking :=
  Function.update_self ..

theorem setTracking_other {handedness other : Hand} (tracking : HandTracking)
    (apart : other ≠ handedness) :
    (s.setTracking handedness tracking).tracking other = s.tracking other :=
  Function.update_of_ne apart ..

theorem foldl_updateTracking_eq (sources : List HandSource) (s : Hands) :
    sources.foldl (Hands.updateTracking normalize) s =
      { s with tracking := (sources.foldl (Hands.updateTracking normalize) s).tracking } := by
  induction sources generalizing s with
  | nil => rfl
  | cons source rest ih =>
    have turn : s.updateTracking normalize source =
        { s with tracking := (s.updateTracking normalize source).tracking } := by
      unfold Hands.updateTracking
      split
      · rfl
      · split <;> rfl
    rw [List.foldl_cons, ih, turn]

/-- The hands are read into their tracking and into the scene, and nowhere else. -/
theorem updateHands_eq (normalize : Vector3 → Vector3) (s : Hands) (frame : XRFrame) :
    s.updateHands normalize frame = { s.setScene (s.field.scene.updateHands (frame.input normalize)) with
      tracking := (s.updateHands normalize frame).tracking } := by
  unfold Hands.updateHands Hands.clearUntracked
  rw [foldl_updateTracking_eq]
  dsimp only
  split <;> split <;> rfl

theorem tryTriggerHandGust_views (s : Hands) (handedness : Hand) (nowMs : Rat) :
    (s.tryTriggerHandGust handedness nowMs).field = s.field ∧
      ((s.tryTriggerHandGust handedness nowMs).gusts = s.gusts ∨
        (s.tryTriggerHandGust handedness nowMs).gusts =
          (s.gusts.launchGust (.hand handedness)).2) := by
  unfold Hands.tryTriggerHandGust
  dsimp only
  split
  · exact ⟨rfl, .inl rfl⟩
  · split
    · exact ⟨rfl, .inl rfl⟩
    · split
      · exact ⟨rfl, .inl rfl⟩
      · split
        · rename_i launch
          exact ⟨rfl, .inr (congrArg Prod.snd launch).symm⟩
        · rename_i launch
          exact ⟨rfl, .inr (congrArg Prod.snd launch).symm⟩

theorem tryTriggerHandGusts_field (s : Hands) (frame : XRFrame) :
    (s.tryTriggerHandGusts frame).field = s.field := by
  have left := (tryTriggerHandGust_views s .left (frame.triggeredAt .left)).1
  unfold Hands.tryTriggerHandGusts
  dsimp only
  split
  · exact left
  · exact (tryTriggerHandGust_views _ .right _).1.trans left

theorem updateWristHud_field (s : Hands) (frame : XRFrame) :
    (s.updateWristHud normalize frame).field =
      { s.field with scene := s.field.scene.updateWristHud (frame.input normalize) } := by
  have hands := congrArg Hands.field (updateHands_eq normalize s frame)
  cases seen : frame.available with
  | false =>
    simp only [Hands.updateWristHud, seen, Bool.false_eq_true, if_false]
    rfl
  | true =>
    have available : (frame.input normalize).available = true := seen
    simp only [Hands.updateWristHud, seen, if_true, Hands.setScene, tryTriggerHandGusts_field,
      PodScene.updateWristHud, available, hands]

theorem follow_field (s : Hands) (next : Field) (action : FieldAction) :
    (s.follow next action).field = next := by
  cases action <;> rfl

/-- What a step of the hands can be. -/
theorem hands_cases {a : HandsAction} (taken : (hands normalize engine).step s a = some t) :
    (∃ frame, a = .updateWristHud frame ∧ s.field.phase = .idle ∧
      (s.clock :: frame.times).Pairwise (· ≤ ·) ∧ t = s.updateWristHud normalize frame) ∨
    (∃ action next, a = .field action ∧ (field engine).step s.field action = some next ∧
      t = s.follow next action) ∨
    (∃ delta touching, a = .advanceGusts delta touching ∧ 0 < delta ∧
      t = { s with gusts := (s.gusts.advanceGusts delta touching).1 }) ∨
    (a = .triggerDesktopGust ∧ t = { s with gusts := (s.gusts.launchGust .desktop).2 }) := by
  cases a with
  | updateWristHud frame =>
    simp only [hands] at taken
    split at taken
    · rename_i idle
      split at taken
      · rename_i ordered
        exact .inl ⟨frame, rfl, idle, ordered, (Option.some.inj taken).symm⟩
      · cases taken
    · cases taken
  | field action =>
    have followed : ((field engine).step s.field action).map (fun next => s.follow next action) =
        some t := by
      cases action <;> first | exact taken | cases taken
    obtain ⟨next, stepped, rfl⟩ := Option.map_eq_some_iff.mp followed
    exact .inr (.inl ⟨action, next, rfl, stepped, rfl⟩)
  | advanceGusts delta touching =>
    simp only [hands] at taken
    split at taken
    · rename_i positive
      exact .inr (.inr (.inl ⟨delta, touching, rfl, positive, (Option.some.inj taken).symm⟩))
    · cases taken
  | triggerDesktopGust => exact .inr (.inr (.inr ⟨rfl, (Option.some.inj taken).symm⟩))

/-- The scene of the hands is the scene that the other modules know. -/
theorem hands_field (reached : (hands normalize engine).Reachable .initial s) :
    (field engine).Reachable .initial s.field := by
  refine reached.view (f := Hands.field) fun t a u taken => ?_
  rcases hands_cases taken with ⟨frame, -, idle, -, rfl⟩ | ⟨action, next, -, stepped, rfl⟩ |
    ⟨_, _, -, -, rfl⟩ | ⟨-, rfl⟩
  · right
    refine ⟨.updateWristHud (frame.input normalize), ?_⟩
    simp only [field, Field.task, idle, updateWristHud_field]
  · right
    refine ⟨action, ?_⟩
    rw [follow_field]
    exact stepped
  · exact .inl rfl
  · exact .inl rfl

/-- The gusts have come about by the actions of flights. -/
def Flown (gusts : Gusts) : Prop := ∃ p, flights.Reachable .initial p ∧ p.gusts = gusts

theorem Flown.act {gusts gusts' : Gusts} (flown : Flown gusts) (a : GustAction)
    (acts : ∀ p : Flights, p.gusts = gusts → ∃ q, flights.step p a = some q ∧ q.gusts = gusts') :
    Flown gusts' := by
  obtain ⟨p, reached, same⟩ := flown
  obtain ⟨q, taken, acted⟩ := acts p same
  exact ⟨q, .step reached trivial taken, acted⟩

theorem Flown.launchGust {gusts : Gusts} (flown : Flown gusts) (source : GustSource) :
    Flown (gusts.launchGust source).2 := by
  refine flown.act (.launchGust source) fun p same => ?_
  subst gusts
  simp only [flights]
  split <;> exact ⟨_, rfl, rfl⟩

theorem Flown.tryTriggerHandGust (flown : Flown s.gusts) (handedness : Hand) (nowMs : Rat) :
    Flown (s.tryTriggerHandGust handedness nowMs).gusts := by
  rcases (tryTriggerHandGust_views s handedness nowMs).2 with same | launched
  · rwa [same]
  · rw [launched]
    exact flown.launchGust _

theorem Flown.updateWristHud (flown : Flown s.gusts) (frame : XRFrame) :
    Flown (s.updateWristHud normalize frame).gusts := by
  unfold Hands.updateWristHud
  dsimp only
  split
  · have read : Flown (s.updateHands normalize frame).gusts := by
      rw [updateHands_eq]
      exact flown
    change Flown ((s.updateHands normalize frame).tryTriggerHandGusts frame).gusts
    unfold Hands.tryTriggerHandGusts
    dsimp only
    split
    · exact read.tryTriggerHandGust .left _
    · exact (read.tryTriggerHandGust .left _).tryTriggerHandGust .right _
  · exact flown

theorem Flown.follow (flown : Flown s.gusts) (next : Field) (action : FieldAction) :
    Flown (s.follow next action).gusts := by
  cases action with
  | reset => exact flown.act .reset fun p same => ⟨_, rfl, congrArg Gusts.reset same⟩
  | initializePhysics =>
    exact flown.act .initPhysics fun p same =>
      ⟨_, rfl, congrArg (fun gusts : Gusts => { gusts with physicsWorld := true }) same⟩
  | _ => exact flown

/-- The gusts of the hands, the desktop and the frames of the simulation are those of flights. -/
theorem hands_flown (reached : (hands normalize engine).Reachable .initial s) : Flown s.gusts := by
  refine reached.invariant (I := fun s => Flown s.gusts) ⟨_, .start, rfl⟩ fun t a u flown _ taken => ?_
  rcases hands_cases taken with ⟨frame, -, -, -, rfl⟩ | ⟨action, next, -, -, rfl⟩ |
    ⟨delta, touching, -, positive, rfl⟩ | ⟨-, rfl⟩
  · exact flown.updateWristHud frame
  · exact flown.follow next action
  · refine flown.act (.advanceGusts delta touching) fun p same => ?_
    simp only [flights, if_pos positive, same]
    exact ⟨_, rfl, rfl⟩
  · exact flown.launchGust .desktop

/-- So the pool is whole, and no gust flies beyond its time. -/
theorem hands_pooled (reached : (hands normalize engine).Reachable .initial s) :
    Pooled s.gusts ∧ ∀ gust ∈ s.gusts.gusts, 0 < (s.gusts.entry gust).remaining := by
  obtain ⟨p, flew, gusts⟩ := hands_flown reached
  have flying := flying_of_reachable flew
  exact gusts ▸ ⟨flying.pooled, flying.left⟩

end Views

end Megalo.Scene
