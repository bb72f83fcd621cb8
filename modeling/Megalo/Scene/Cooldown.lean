import Megalo.Scene.Hands

/-! The cooldown of a hand's gusts. It is kept in the state of the hand, which a frame clears when
it does not see the hand, and its end is a sum of doubles, so that it holds where no frame clears
the hand before it is over and none launches at a time whose sum is rounded down. -/
namespace Megalo.Scene

open Transition

/-- Any two gusts of one hand are a cooldown apart. -/
def Spaced (launches : List (Hand × Rat)) : Prop :=
  launches.Pairwise fun earlier later =>
    earlier.1 = later.1 → earlier.2 + gustCooldownMs ≤ later.2

/-- The end of the cooldown is not rounded down. -/
def cooldownFits (nowMs : Rat) : Bool :=
  decide (nowMs + gustCooldownMs ≤ Binary64.add nowMs gustCooldownMs)

/-- The hand is in the state in which tryTriggerHandGust launches. -/
def Hands.gustReady (s : Hands) (handedness : Hand) (nowMs : Rat) : Bool :=
  match s.field.scene.handPhysics.get handedness with
  | none => false
  | some handState =>
    let tracking := (s.tracking handedness).rest
    s.gusts.physicsWorld &&
      !(!handState.gustPoseActive || handState.grabbedPodId.isSome || handState.pinchActive) &&
      !(nowMs < tracking.gustCooldownUntil || tracking.gustMotionLatch ||
        tracking.sweepSpeed < gustSweepSpeed || !handState.palmCenterWorld)

/-- A frame clears the state of a hand only when the cooldown is over as it would try the hand, and
has it launch only at a time to which the cooldown can be added. The right hand is not tried while
the table is moved. -/
def cooldownKept (normalize : Vector3 → Vector3) (s : Hands) : HandsAction → Bool
  | .updateWristHud frame => [Hand.left, .right].all fun handedness =>
      (!frame.clears handedness ||
        decide ((s.tracking handedness).gustCooldownUntil ≤ frame.triggeredAt handedness)) &&
      (!frame.available ||
        handedness == .right && (s.updateHands normalize frame).field.scene.tableMoveMode ||
        !(s.updateHands normalize frame).gustReady handedness (frame.triggeredAt handedness) ||
        cooldownFits (frame.triggeredAt handedness))
  | _ => true

section Frames

variable {normalize : Vector3 → Vector3} {s t : Hands}

theorem setTracking_until {handedness : Hand} {tracking : HandTracking}
    (kept : tracking.gustCooldownUntil = (s.tracking handedness).gustCooldownUntil) (other : Hand) :
    ((s.setTracking handedness tracking).tracking other).gustCooldownUntil =
      (s.tracking other).gustCooldownUntil := by
  by_cases same : other = handedness
  · subst other
    rw [setTracking_self, kept]
  · rw [setTracking_other _ same]

theorem rest_until (tracking : HandTracking) :
    tracking.rest.gustCooldownUntil = tracking.gustCooldownUntil := by
  unfold HandTracking.rest
  split <;> rfl

theorem launchGust_world (s : Gusts) (source : GustSource) :
    (s.launchGust source).2.physicsWorld = s.physicsWorld := by
  unfold Gusts.launchGust Gusts.acquireGust
  cases world : s.physicsWorld with
  | false => exact world
  | true => cases s.gustPool.getLast? <;> simp [Gusts.setEntry]

/-- What tryTriggerHandGust can do: it tells of a launch and begins the cooldown, once the last one
is over, or leaves the cooldowns as they are. -/
theorem tryTriggerHandGust_cases (s : Hands) (handedness : Hand) (nowMs : Rat) :
    ((s.tryTriggerHandGust handedness nowMs).launches = s.launches ∧
      ∀ other, ((s.tryTriggerHandGust handedness nowMs).tracking other).gustCooldownUntil =
        (s.tracking other).gustCooldownUntil) ∨
    ((s.tryTriggerHandGust handedness nowMs).launches = s.launches ++ [(handedness, nowMs)] ∧
      s.gustReady handedness nowMs = true ∧ (s.tracking handedness).gustCooldownUntil ≤ nowMs ∧
      ((s.tryTriggerHandGust handedness nowMs).tracking handedness).gustCooldownUntil =
        Binary64.add nowMs gustCooldownMs) := by
  unfold Hands.tryTriggerHandGust
  dsimp only
  split
  · exact .inl ⟨rfl, fun _ => rfl⟩
  · rename_i handState held
    split
    · exact .inl ⟨rfl, setTracking_until rfl⟩
    · rename_i open_palm
      have rested := rest_until (s.tracking handedness)
      split
      · exact .inl ⟨rfl, setTracking_until rested⟩
      · rename_i ready
        have past : (s.tracking handedness).rest.gustCooldownUntil ≤ nowMs := by
          simp only [Bool.or_eq_true, decide_eq_true_eq, not_or, not_lt] at ready
          exact ready.1.1.1
        rw [rested] at past
        split
        · exact .inl ⟨rfl, setTracking_until rested⟩
        · rename_i launched
          refine .inr ⟨rfl, ?_, past, by rw [setTracking_self]⟩
          rcases launchGust_cases s.gusts (.hand handedness) with none | ⟨gust, t, some, made⟩
          · rw [none] at launched
            cases launched
          · rw [Hands.gustReady, held]
            have world : s.gusts.physicsWorld = true := by
              rw [← launchGust_world s.gusts (.hand handedness), some, made.world]
            simp only [world, open_palm, ready, Bool.and_self, Bool.not_false]

theorem tryTriggerHandGust_other (s : Hands) {handedness other : Hand} (nowMs : Rat)
    (apart : other ≠ handedness) :
    (s.tryTriggerHandGust handedness nowMs).tracking other = s.tracking other := by
  unfold Hands.tryTriggerHandGust
  dsimp only
  split
  · rfl
  · split
    · exact setTracking_other _ apart
    · split
      · exact setTracking_other _ apart
      · split <;> exact setTracking_other _ apart

theorem tryTriggerHandGust_world (s : Hands) (handedness : Hand) (nowMs : Rat) :
    (s.tryTriggerHandGust handedness nowMs).gusts.physicsWorld = s.gusts.physicsWorld := by
  rcases (tryTriggerHandGust_views s handedness nowMs).2 with same | launched
  · rw [same]
  · rw [launched, launchGust_world]

/-- What the left hand does leaves the right one as ready as it is. -/
theorem tryTriggerHandGust_ready (s : Hands) (nowMs later : Rat) :
    (s.tryTriggerHandGust .left nowMs).gustReady .right later = s.gustReady .right later := by
  unfold Hands.gustReady
  rw [(tryTriggerHandGust_views s .left nowMs).1, tryTriggerHandGust_world,
    tryTriggerHandGust_other s nowMs (by decide : Hand.right ≠ .left)]

theorem updateTracking_until (s : Hands) (source : HandSource) (handedness : Hand) :
    ((s.updateTracking normalize source).tracking handedness).gustCooldownUntil =
        (s.tracking handedness).gustCooldownUntil ∨
      source.handedness = handedness ∧ source.poses.isNone = true := by
  unfold Hands.updateTracking
  by_cases same : handedness = source.handedness
  · subst handedness
    split
    · rename_i none
      exact .inr ⟨rfl, by rw [none]; rfl⟩
    · split
      · exact .inl (by rw [setTracking_self]; rfl)
      · exact .inl rfl
  · left
    split
    · rw [setTracking_other _ same]
    · split
      · rw [setTracking_other _ same]
      · rfl

theorem foldl_updateTracking_until (sources : List HandSource) (s : Hands) (handedness : Hand) :
    ((sources.foldl (Hands.updateTracking normalize) s).tracking handedness).gustCooldownUntil =
        (s.tracking handedness).gustCooldownUntil ∨
      (sources.any fun source => source.handedness = handedness && source.poses.isNone) = true := by
  induction sources generalizing s with
  | nil => exact .inl rfl
  | cons source rest ih =>
    rw [List.foldl_cons, List.any_cons, Bool.or_eq_true]
    rcases ih (s.updateTracking normalize source) with same | cleared
    · rw [same]
      refine (updateTracking_until s source handedness).imp_right fun ⟨own, missing⟩ => .inl ?_
      simp [own, missing]
    · exact .inr (.inr cleared)

theorem clearUntracked_until (s : Hands) (trackedHands : List Hand) (handedness : Hand) :
    ((s.clearUntracked trackedHands).tracking handedness).gustCooldownUntil =
        (s.tracking handedness).gustCooldownUntil ∨ trackedHands.contains handedness = false := by
  by_cases tracked : trackedHands.contains handedness = true
  · left
    cases handedness <;> cases left : trackedHands.contains Hand.left <;>
      cases right : trackedHands.contains Hand.right <;>
      simp_all [Hands.clearUntracked, setTracking_other]
  · exact .inr (by simpa using tracked)

/-- Only what clears a hand ends its cooldown, before the gusts are tried. -/
theorem updateHands_until (s : Hands) (frame : XRFrame) (handedness : Hand) :
    ((s.updateHands normalize frame).tracking handedness).gustCooldownUntil =
        (s.tracking handedness).gustCooldownUntil ∨ frame.clears handedness = true := by
  let sampled := frame.sources.foldl (Hands.updateTracking normalize) s
  change ((sampled.clearUntracked (frame.sources.map HandSource.handedness)).tracking
    handedness).gustCooldownUntil = _ ∨ _
  rcases clearUntracked_until sampled (frame.sources.map HandSource.handedness) handedness
    with same | untracked
  · rw [same]
    refine (foldl_updateTracking_until frame.sources s handedness).imp_right fun missing => ?_
    simp only [XRFrame.clears, missing, Bool.or_true]
  · right
    simp only [XRFrame.clears, untracked, Bool.not_false, Bool.or_true, Bool.true_or]

/-- What the launches told of leave to the hands: the cooldown of its hand covers each, or is over
at the time that is due. -/
structure Cooled (due : Hand → Rat) (s : Hands) : Prop where
  ends : ∀ launch ∈ s.launches,
    launch.2 + gustCooldownMs ≤ max (s.tracking launch.1).gustCooldownUntil (due launch.1)
  spaced : Spaced s.launches

variable {due : Hand → Rat} {frame : XRFrame}

theorem Cooled.of_until (cooled : Cooled due s) (launches : t.launches = s.launches)
    (kept : ∀ handedness, (t.tracking handedness).gustCooldownUntil =
        (s.tracking handedness).gustCooldownUntil ∨
      (s.tracking handedness).gustCooldownUntil ≤ due handedness) : Cooled due t := by
  refine ⟨fun launch told => ?_, launches ▸ cooled.spaced⟩
  have ends := cooled.ends launch (launches ▸ told)
  rcases kept launch.1 with same | past
  · rwa [same]
  · rw [max_eq_right past] at ends
    exact ends.trans (le_max_right _ _)

theorem Cooled.later {due' : Hand → Rat} (cooled : Cooled due s)
    (later : ∀ handedness, due handedness ≤ due' handedness) : Cooled due' s :=
  ⟨fun launch told => (cooled.ends launch told).trans (max_le_max_left _ (later launch.1)),
    cooled.spaced⟩

theorem Cooled.tryTriggerHandGust (cooled : Cooled due s) (handedness : Hand)
    (fits : s.gustReady handedness (due handedness) = true →
      cooldownFits (due handedness) = true) :
    Cooled due (s.tryTriggerHandGust handedness (due handedness)) := by
  rcases tryTriggerHandGust_cases s handedness (due handedness) with
    ⟨launches, kept⟩ | ⟨launches, ready, past, cooling⟩
  · exact cooled.of_until launches fun other => .inl (kept other)
  · have ended {launch : Hand × Rat} (told : launch ∈ s.launches) (own : launch.1 = handedness) :
        launch.2 + gustCooldownMs ≤ due handedness := by
      have ends := cooled.ends launch told
      rwa [own, max_eq_right past] at ends
    refine ⟨fun launch told => ?_, ?_⟩
    · rw [launches, List.mem_append, List.mem_singleton] at told
      rcases told with told | rfl
      · by_cases own : launch.1 = handedness
        · rw [own]
          exact (ended told own).trans (le_max_right _ _)
        · rw [tryTriggerHandGust_other s _ own]
          exact cooled.ends launch told
      · rw [cooling]
        exact (of_decide_eq_true (fits ready)).trans (le_max_left _ _)
    · rw [Spaced, launches]
      refine List.pairwise_append.mpr ⟨cooled.spaced, List.pairwise_singleton _ _, ?_⟩
      intro launch told new isNew own
      rw [List.mem_singleton.mp isNew] at own ⊢
      exact ended told own

theorem Cooled.tryTriggerHandGusts (cooled : Cooled frame.triggeredAt s)
    (fits : ∀ handedness, ¬ (handedness = .right ∧ s.field.scene.tableMoveMode = true) →
      s.gustReady handedness (frame.triggeredAt handedness) = true →
        cooldownFits (frame.triggeredAt handedness) = true) :
    Cooled frame.triggeredAt (s.tryTriggerHandGusts frame) := by
  have left := cooled.tryTriggerHandGust .left (fits .left fun right => nomatch right.1)
  unfold Hands.tryTriggerHandGusts
  dsimp only
  split
  · exact left
  · rename_i still
    apply left.tryTriggerHandGust .right
    rw [tryTriggerHandGust_ready]
    rw [(tryTriggerHandGust_views s .left _).1] at still
    exact fits .right fun moving => still moving.2

/-- What a frame that keeps the cooldown does with each hand. -/
theorem cooldownKept_hand (kept : cooldownKept normalize s (.updateWristHud frame) = true)
    (handedness : Hand) :
    (frame.clears handedness = true →
      (s.tracking handedness).gustCooldownUntil ≤ frame.triggeredAt handedness) ∧
    (frame.available = true →
      ¬ (handedness = .right ∧
        (s.updateHands normalize frame).field.scene.tableMoveMode = true) →
      (s.updateHands normalize frame).gustReady handedness (frame.triggeredAt handedness) = true →
        cooldownFits (frame.triggeredAt handedness) = true) := by
  have member : handedness ∈ [Hand.left, .right] := by cases handedness <;> simp
  have each := List.all_eq_true.mp kept handedness member
  simp only [Bool.and_eq_true, Bool.or_eq_true, Bool.not_eq_true', decide_eq_true_eq,
    beq_iff_eq] at each
  refine ⟨fun clears => each.1.resolve_left (by simp [clears]), fun available tried ready => ?_⟩
  exact each.2.resolve_left (by simp only [available, tried, ready]; decide)

/-- A frame, from its first reading of the clock to its last. -/
theorem Cooled.updateWristHud (cooled : Cooled (fun _ => s.clock) s)
    (ordered : (s.clock :: frame.times).Pairwise (· ≤ ·))
    (kept : cooldownKept normalize s (.updateWristHud frame) = true) :
    Cooled (fun _ => (s.updateWristHud normalize frame).clock)
      (s.updateWristHud normalize frame) := by
  have hand := cooldownKept_hand kept
  obtain ⟨after, ordered⟩ := List.pairwise_cons.mp ordered
  have leftFirst : frame.triggeredAt .left ≤ frame.triggeredAt .right := by
    have last := (List.pairwise_append.mp ordered).2.1
    simp only [List.pairwise_cons, List.mem_cons, List.not_mem_nil, or_false, forall_eq] at last
    exact last.2.2.1
  have due : Cooled frame.triggeredAt s := by
    refine cooled.later fun handedness => after _ ?_
    cases handedness <;> simp [XRFrame.times]
  suffices tried : Cooled frame.triggeredAt (s.updateWristHud normalize frame) by
    refine tried.later fun handedness => ?_
    cases handedness with
    | left => exact leftFirst
    | right => exact le_refl _
  unfold Hands.updateWristHud
  dsimp only
  split
  · rename_i available
    have read : Cooled frame.triggeredAt (s.updateHands normalize frame) := by
      refine due.of_until (by rw [updateHands_eq]; rfl) fun handedness => ?_
      exact (updateHands_until s frame handedness).imp_right (hand handedness).1
    have tried := read.tryTriggerHandGusts fun handedness => (hand handedness).2 available
    exact ⟨tried.ends, tried.spaced⟩
  · rename_i unseen
    refine due.of_until rfl fun handedness => .inr ((hand handedness).1 ?_)
    simp [XRFrame.clears, unseen]

theorem Cooled.follow (cooled : Cooled due s) (next : Field) (action : FieldAction) :
    Cooled due (s.follow next action) := by
  have forgotten : Spaced [] := .nil
  cases action
  case reset => exact ⟨fun _ told => absurd told List.not_mem_nil, forgotten⟩
  case handleXREnd => exact ⟨fun _ told => absurd told List.not_mem_nil, forgotten⟩
  case desktopFrame => exact ⟨fun _ told => absurd told List.not_mem_nil, forgotten⟩
  all_goals exact ⟨cooled.ends, cooled.spaced⟩

end Frames

section Runs

variable {normalize : Vector3 → Vector3} {engine : Engine} {s t : Hands}

theorem Cooled.step (cooled : Cooled (fun _ => s.clock) s) {a : HandsAction}
    (kept : cooldownKept normalize s a = true)
    (taken : (hands normalize engine).step s a = some t) : Cooled (fun _ => t.clock) t := by
  rcases hands_cases taken with ⟨frame, rfl, -, ordered, rfl⟩ | ⟨action, next, -, -, rfl⟩ |
    ⟨_, _, -, -, rfl⟩ | ⟨-, rfl⟩
  · exact cooled.updateWristHud ordered kept
  · have same : (s.follow next action).clock = s.clock := by cases action <;> rfl
    rw [same]
    exact cooled.follow next action
  · exact ⟨cooled.ends, cooled.spaced⟩
  · exact ⟨cooled.ends, cooled.spaced⟩

end Runs

/-- A frame over a board ahead, with the sources that it sees. -/
def XRFrame.ahead (sources : List HandSource) (nowMs : Rat) : XRFrame where
  available := true
  sources
  boardTop := ⟨0, 9 / 10, -6 / 10⟩
  touches _ := ⟨[], [], [], []⟩
  sliderHit _ := false
  movePressed := false
  grabbedAt _ := nowMs
  triggeredAt _ := nowMs

end Megalo.Scene
