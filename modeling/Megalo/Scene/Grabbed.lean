import Megalo.Scene.Hold

/-! Grabs and crushes over whole runs. Within a frame the candidates of the hands are chosen first,
and what is done before the grabs leaves them fit to be grabbed. -/
namespace Megalo.Scene

open Transition

/-- Whatever a hand may grab can be grabbed. -/
def Candidates (s : PodScene) : Prop := ∀ h hand, s.handPhysics.get h = some hand →
  ∀ id, hand.pinchCandidateId = some id → s.isPodInteractable id = true

/-- A step that gives no hand a new candidate and no pod a new reason against it. -/
structure Calm (s t : PodScene) : Prop where
  ready : ∀ id, t.isPodInteractable id = s.isPodInteractable id
  chosen : ∀ h hand, t.handPhysics.get h = some hand → ∀ id, hand.pinchCandidateId = some id →
    ∃ was, s.handPhysics.get h = some was ∧ was.pinchCandidateId = some id

section Hands

variable {s t u : PodScene} {id : String} {h : Hand}

theorem Calm.refl (s : PodScene) : Calm s s :=
  ⟨fun _ => rfl, fun _ hand there _ chosen => ⟨hand, there, chosen⟩⟩

theorem Calm.trans (first : Calm s t) (second : Calm t u) : Calm s u := by
  refine ⟨fun id => (second.ready id).trans (first.ready id), fun h hand there id chosen => ?_⟩
  obtain ⟨was, found, before⟩ := second.chosen h hand there id chosen
  exact first.chosen h was found id before

theorem Candidates.calm (candidates : Candidates s) (calm : Calm s t) : Candidates t := by
  intro h hand there id chosen
  obtain ⟨was, found, before⟩ := calm.chosen h hand there id chosen
  rw [calm.ready]
  exact candidates h was found id before

theorem ready_congr (mesh : t.meshById = s.meshById)
    (crush : ∀ id, (t.podPhysicsById.get id).map (fun e => (e.crushProgress, e.crushReported)) =
      (s.podPhysicsById.get id).map fun e => (e.crushProgress, e.crushReported)) (id : String) :
    t.isPodInteractable id = s.isPodInteractable id := by
  have same := crush id
  unfold PodScene.isPodInteractable
  rw [mesh]
  cases s.meshById.get id with
  | none => rfl
  | some entry =>
    dsimp only
    split
    · rfl
    · cases after : t.podPhysicsById.get id with
      | none =>
        rw [after, Option.map_none, eq_comm, Option.map_eq_none_iff] at same
        rw [same]
      | some e =>
        rw [after, Option.map_some, eq_comm, Option.map_eq_some_iff] at same
        obtain ⟨before, found, equal⟩ := same
        obtain ⟨progress, reported⟩ := Prod.mk.inj equal
        rw [found]
        dsimp only
        rw [progress, reported]

theorem setHand_calm {f : HandPhysicsState → HandPhysicsState}
    (chosen : ∀ hand id, (f hand).pinchCandidateId = some id → hand.pinchCandidateId = some id) :
    Calm s (s.setHand h f) := by
  obtain ⟨_, physics, mesh⟩ := setHand_rest (s := s) (h := h) f
  refine ⟨ready_congr mesh fun id => by rw [physics], fun other hand there id picked => ?_⟩
  rw [setHand_get] at there
  split at there
  · rename_i it
    obtain ⟨was, found, rfl⟩ := Option.map_eq_some_iff.mp there
    exact ⟨was, it ▸ found, chosen was id picked⟩
  · exact ⟨hand, there, picked⟩

theorem setPhysics_calm {f : PodPhysicsEntry → PodPhysicsEntry}
    (crush : ∀ e, (f e).crushProgress = e.crushProgress ∧ (f e).crushReported = e.crushReported) :
    Calm s (s.setPhysics id f) := by
  obtain ⟨_, hands, mesh⟩ := setPhysics_rest (s := s) id f
  refine ⟨ready_congr mesh fun other => ?_, fun other hand there id picked => ?_⟩
  · rw [setPhysics_get]
    split
    · rename_i it
      rw [it, Option.map_map]
      apply congrArg fun read => Option.map read _
      funext e
      exact Prod.ext (crush e).1 (crush e).2
    · rfl
  · rw [hands] at there
    exact ⟨hand, there, picked⟩

theorem releaseGrab_calm (h : Hand) : Calm s (s.releaseGrab h) := by
  unfold PodScene.releaseGrab
  split
  · exact .refl s
  · rename_i podId _
    have lowered : Calm s (s.setPhysics podId fun e => { e with bodyType := .dynamic }) :=
      setPhysics_calm fun _ => ⟨rfl, rfl⟩
    have aside (t : PodScene) : Calm t
        { t with podGrabOwnerById := t.podGrabOwnerById.delete podId } :=
      ⟨fun _ => rfl, fun _ hand there _ chosen => ⟨hand, there, chosen⟩⟩
    exact lowered.trans ((aside _).trans (setHand_calm fun _ _ => id))

theorem grab_calm (h : Hand) (id : String) (now : Rat) : Calm s (s.grab h id now) := by
  unfold PodScene.grab
  split
  · have raised : Calm s (s.setPhysics id fun e =>
        { e with bodyType := .kinematicPositionBased }) := setPhysics_calm fun _ => ⟨rfl, rfl⟩
    have grasped (t : PodScene) : Calm t (t.setHand h fun hand =>
        { hand with grabbedPodId := some id, lastGrabAt := now }) :=
      setHand_calm fun _ _ chosen => chosen
    have aside (t : PodScene) : Calm t
        { t with podGrabOwnerById := t.podGrabOwnerById.set id h } :=
      ⟨fun _ => rfl, fun _ hand there _ chosen => ⟨hand, there, chosen⟩⟩
    exact (raised.trans (grasped _)).trans (aside _)
  · exact .refl s

theorem updateGrabInteraction_calm (h : Hand) (now : Rat) :
    Calm s (s.updateGrabInteraction h now) := by
  unfold PodScene.updateGrabInteraction
  repeat' split
  all_goals first
    | exact .refl s
    | exact releaseGrab_calm h
    | exact setHand_calm fun _ _ chosen => chosen
    | exact grab_calm h _ now

theorem updateGrabInteraction_held (held : Held s) (candidates : Candidates s) (h : Hand)
    (now : Rat) : Held (s.updateGrabInteraction h now) := by
  unfold PodScene.updateGrabInteraction
  split
  · exact held
  · rename_i hand there
    split
    · split
      · exact releaseGrab_held held h
      · exact held
    · split
      · split
        · exact releaseGrab_held held h
        · split
          · split
            · exact releaseGrab_held held h
            · exact held
          · exact held.same (setHand_hold fun _ _ => rfl)
      · rename_i idle
        split
        · split
          · exact held
          · rename_i id chosen
            have ready := candidates h hand there id chosen
            split
            · rename_i owner owned
              split
              · exact held
              · -- a pod that the hand owns would be in it
                rename_i mine
                rw [not_not] at mine
                rw [held.owner, mine, PodScene.grabbed, there, Option.bind_some, idle] at owned
                cases owned
            · rename_i free
              exact grab_held held there idle ready free now
        · exact held

theorem findPinchCandidate_ready {touches : Touches}
    (found : s.findPinchCandidate touches = some id) : s.isPodInteractable id = true := by
  unfold PodScene.findPinchCandidate at found
  extract_lets thumbHits indexHits middleHits pinched at found
  have pinches : id ∈ pinched := by
    rcases Option.or_eq_some_iff.mp found with held | ⟨_, first⟩
    · exact List.mem_of_find?_eq_some held
    · exact List.mem_of_head? first
  have passes := (List.mem_filter.mp pinches).2
  rw [Bool.and_eq_true] at passes
  exact passes.2

theorem updatePinchCandidates_ready (touches : Hand → Touches) :
    Candidates (s.updatePinchCandidates touches) := by
  intro h hand there id chosen
  simp only [PodScene.updatePinchCandidates, JSMap.get_mapValues, Option.map_eq_some_iff] at there
  obtain ⟨was, _, rfl⟩ := there
  dsimp only at chosen
  split at chosen
  · exact findPinchCandidate_ready chosen
  · cases chosen

theorem updatePinchCandidates_hold (touches : Hand → Touches) :
    SameHold s (s.updatePinchCandidates touches) := by
  refine ⟨rfl, fun h => ?_, fun _ => id, rfl⟩
  simp only [PodScene.grabbed, PodScene.updatePinchCandidates, JSMap.get_mapValues]
  cases s.handPhysics.get h with
  | none => rfl
  | some hand => rfl

theorem SameHold.refl (s : PodScene) : SameHold s s := ⟨rfl, fun _ => rfl, fun _ => id, rfl⟩

theorem SameHold.trans (first : SameHold s t) (second : SameHold t u) : SameHold s u :=
  ⟨second.owner.trans first.owner, fun h => (second.grabbed h).trans (first.grabbed h),
    fun id there => second.mesh id (first.mesh id there), second.physics.trans first.physics⟩

theorem dropCandidate_same (h : Hand) :
    SameHold s (s.dropCandidate h) ∧ Calm s (s.dropCandidate h) := by
  refine ⟨setHand_hold fun _ _ => rfl, setHand_calm fun _ _ chosen => ?_⟩
  cases chosen

/-- Only fields change that neither a hold nor a candidate depends on. -/
theorem aside_same (active : Option Hand) (move await : Bool) (contacts : List String) :
    SameHold s { s with
      hudSliderActiveHand := active
      tableMoveMode := move
      tableMoveAwaitingConfirmRelease := await
      activePalmContacts := contacts } ∧ Calm s { s with
      hudSliderActiveHand := active
      tableMoveMode := move
      tableMoveAwaitingConfirmRelease := await
      activePalmContacts := contacts } :=
  ⟨⟨rfl, fun _ => rfl, fun _ => id, rfl⟩,
    ⟨fun _ => rfl, fun _ hand there _ chosen => ⟨hand, there, chosen⟩⟩⟩

theorem slider_hold (leftWristTracked : Bool) (trackedHands : List Hand) (hit : Hand → Bool) :
    SameHold s (s.updateTableHeightSliderInteraction leftWristTracked trackedHands hit) ∧
      Calm s (s.updateTableHeightSliderInteraction leftWristTracked trackedHands hit) := by
  have aside (active : Option Hand) := aside_same (s := s) active s.tableMoveMode
    s.tableMoveAwaitingConfirmRelease s.activePalmContacts
  unfold PodScene.updateTableHeightSliderInteraction
  dsimp only
  split
  · exact aside none
  · split
    · rename_i h _
      exact ⟨(aside h).1.trans (dropCandidate_same _).1, (aside h).2.trans (dropCandidate_same _).2⟩
    · exact aside none

theorem tableMove_hold (trackedHands : List Hand) :
    SameHold s (s.updateTableMoveInteraction trackedHands) ∧
      Calm s (s.updateTableMoveInteraction trackedHands) := by
  have dropped := dropCandidate_same (s := s) .right
  have aside (move await : Bool) := aside_same (s := s.dropCandidate .right)
    (s.dropCandidate .right).hudSliderActiveHand move await
    (s.dropCandidate .right).activePalmContacts
  have both (move await : Bool) := And.intro (dropped.1.trans (aside move await).1)
    (dropped.2.trans (aside move await).2)
  unfold PodScene.updateTableMoveInteraction
  split
  · dsimp only
    split
    · exact both _ false
    · split
      · exact dropped
      · exact both false false
  · exact ⟨.refl s, .refl s⟩

theorem updateHands_held (held : Held s) (input : XRInput) : Held (s.updateHands input) := by
  unfold PodScene.updateHands
  extract_lets trackedHands leftWristTracked joined worn cleared slid moved grabbed
  have joining : Held joined := by
    apply List.foldlRecOn _ _ held
    intro t held source _
    obtain ⟨h, joints⟩ := source
    cases joints with
    | none => exact clearHandState_held held h true
    | some joints => exact (held.same (ensureHandPhysics_hold h)).same (setHand_hold fun _ _ => rfl)
  have wearing : Held worn := by
    unfold worn
    split
    · exact joining
    · exact joining.same (aside_same none _ _ _).1
  have clearing : Held (worn.clearUntracked trackedHands) := by
    have either {t : PodScene} (held : Held t) (h : Hand) :
        Held (if trackedHands.contains h then t else t.clearHandState h true) := by
      split
      · exact held
      · exact clearHandState_held held h true
    exact either (either wearing .left) .right
  have choosing : Held cleared := clearing.same (updatePinchCandidates_hold input.touches)
  have candidates : Candidates cleared := updatePinchCandidates_ready input.touches
  have slide := slider_hold (s := cleared) leftWristTracked trackedHands input.sliderHit
  have move := tableMove_hold (s := slid) trackedHands
  have moving : Held moved := (choosing.same slide.1).same move.1
  have chosen : Candidates moved := (candidates.calm slide.2).calm move.2
  have left : Held grabbed := updateGrabInteraction_held moving chosen .left _
  split
  · exact left
  · have still : Candidates grabbed := chosen.calm (updateGrabInteraction_calm .left _)
    exact updateGrabInteraction_held left still .right _

theorem contacts_held (held : Held s) (contacts : List String) :
    Held { s with activePalmContacts := contacts } :=
  held.same ⟨rfl, fun _ => rfl, fun _ => id, rfl⟩

theorem processOpenPalmContacts_held (held : Held s) (h : Hand) (palm : List Nat) :
    Held (s.processOpenPalmContacts h palm) := by
  have cleared {t : PodScene} (held : Held t) (keep : List String) :
      Held (t.clearPalmContacts h keep) := contacts_held held _
  unfold PodScene.processOpenPalmContacts
  split
  · exact cleared held []
  · split
    · exact cleared held []
    · apply cleared
      apply List.foldlRecOn _ _ held
      intro t held id _
      unfold PodScene.touchPod
      split
      · exact startPodCrush_held (contacts_held held _) id
      · exact held

theorem updatePalms_held (held : Held s) (input : XRInput) : Held (s.updatePalms input) := by
  have left := processOpenPalmContacts_held held .left (input.touches .left).palm
  have right : Held (if (s.processOpenPalmContacts .left (input.touches .left).palm).tableMoveMode
      then (s.processOpenPalmContacts .left (input.touches .left).palm).clearPalmContacts .right []
      else (s.processOpenPalmContacts .left (input.touches .left).palm).processOpenPalmContacts
        .right (input.touches .right).palm) := by
    split
    · exact contacts_held left _
    · exact processOpenPalmContacts_held left .right _
  unfold PodScene.updatePalms
  dsimp only
  split
  · exact releaseGrab_held (right.same (aside_same none true true _).1) .right
  · exact right

theorem updateWristHud_held (held : Held s) (input : XRInput) : Held (s.updateWristHud input) := by
  unfold PodScene.updateWristHud
  split
  · exact updatePalms_held (updateHands_held held input) input
  · exact clearBoth_held held true

theorem desktopFrame_held (held : Held s) : Held s.desktopFrame := by
  have aside := held.same (aside_same s.hudSliderActiveHand false false s.activePalmContacts).1
  exact clearBoth_held (contacts_held (contacts_held aside _) _) false

theorem exitXR_held (held : Held s) : Held s.exitXR :=
  held.same (aside_same none false false s.activePalmContacts).1

theorem handleXREnd_held (held : Held s) : Held s.handleXREnd :=
  clearBoth_held (exitXR_held held) true

theorem clearBoth_idle (clearContacts : Bool) (h : Hand) :
    ((s.clearHandState .left clearContacts).clearHandState .right clearContacts).grabbed h =
      none := by
  rw [clearHandState_grabbed, clearHandState_grabbed]
  cases h with
  | left => rfl
  | right => rfl

theorem reset_free : (∀ h, s.reset.grabbed h = none) ∧
    ∀ id, s.reset.podGrabOwnerById.get id = none := by
  unfold PodScene.reset
  extract_lets pooled cleared bare aside hands
  have disowned (t : PodScene) (h : Hand) :
      PodScene.grabbed { t with podGrabOwnerById := t.podGrabOwnerById.clear } h =
        t.grabbed h := rfl
  exact ⟨fun h => (disowned hands h).trans (clearBoth_idle true h), fun _ => JSMap.get_clear⟩

/-- Without pods nothing is held once both hands are cleared. -/
theorem reset_held : Held s.reset := by
  obtain ⟨idle, free⟩ := reset_free (s := s)
  constructor
  · intro id h
    simp [free, idle]
  · intro id h owned
    rw [free] at owned
    cases owned
  · intro id h owned
    rw [free] at owned
    cases owned
  · intro id e there
    rw [reset_bare] at there
    cases there
  · intro id e there
    rw [reset_bare] at there
    cases there

end Hands

section Runs

variable {engine : Engine} {f g : Field}

theorem step_held (held : Held f.scene) (action : FieldAction)
    (taken : (field engine).step f action = some g) : Held g.scene := by
  have task {scene : PodScene} (kept : Held scene) (taken : f.task scene = some g) :
      Held g.scene := by
    obtain ⟨_, rfl⟩ := Field.task_eq taken
    exact kept
  cases action with
  | update pods eliminated =>
    simp only [field] at taken
    split at taken
    · cases taken
      exact update_held held pods eliminated
    · cases taken
  | reset => exact task reset_held taken
  | initializePhysics => exact task (initializePhysics_held held) taken
  | startPodCrush id => exact task (startPodCrush_held held id) taken
  | updateWristHud input => exact task (updateWristHud_held held input) taken
  | desktopFrame => exact task (desktopFrame_held held) taken
  | handleXREnd => exact task (handleXREnd_held held) taken
  | exitXR => exact task (exitXR_held held) taken
  | simulate delta =>
    simp only [field] at taken
    split at taken
    · split at taken
      · rename_i runs
        rw [Bool.and_eq_true, decide_eq_true_eq] at runs
        cases taken
        exact advanceCrushes_held held runs.2
      · cases taken
    · cases taken
  | visit under =>
    simp only [field] at taken
    split at taken
    · split at taken
      · rename_i slot _ _ _
        cases taken
        cases f.scene.falls slot under with
        | none => exact held
        | some id => exact reportFall_held held id
      · cases taken
        exact held
    · cases taken
  | hit =>
    simp only [field] at taken
    split at taken
    · cases taken
      exact held
    · cases taken
      exact held
    · cases taken

theorem initial_held : Held Field.initial.scene := by
  constructor
  · intro id h
    simp [Field.initial, PodScene.initial, PodScene.grabbed]
  · intro id h owned
    cases owned
  · intro id h owned
    cases owned
  · intro id e there
    cases there
  · intro id e there
    cases there

theorem reachable_held (reached : (field engine).Reachable .initial f) : Held f.scene :=
  reached.invariant (I := fun f => Held f.scene) initial_held
    fun _ action _ held _ taken => step_held held action taken

end Runs

/-- A pod has the owner that holds it; it is then in the field; it is not held once it is crushed;
and its body is kinematic just while it is held or crushed. -/
theorem grabs_agree (engine : Engine) {f : Field}
    (reached : (field engine).Reachable .initial f) :
    (∀ id h, f.scene.podGrabOwnerById.get id = some h ↔ f.scene.grabbed h = some id) ∧
    (∀ id ∈ f.scene.podGrabOwnerById.keys,
      id ∈ f.scene.meshById.keys ∧ id ∈ f.scene.podPhysicsById.keys) ∧
    ∀ id e, f.scene.podPhysicsById.get id = some e →
      (0 < e.crushProgress → id ∉ f.scene.podGrabOwnerById.keys) ∧
      e.bodyType = if id ∈ f.scene.podGrabOwnerById.keys ∨ 0 < e.crushProgress
        then .kinematicPositionBased else .dynamic := by
  have held := reachable_held reached
  refine ⟨held.owner, ?_, ?_⟩
  · intro id owned
    obtain ⟨h, owner⟩ := JSMap.mem_keys.mp owned
    rw [JSMap.mem_keys, JSMap.mem_keys, ← Option.isSome_iff_exists, ← Option.isSome_iff_exists]
    exact ⟨held.mesh id h owner, held.physics id h owner⟩
  · intro id e there
    constructor
    · intro crushed owned
      obtain ⟨h, owner⟩ := JSMap.mem_keys.mp owned
      rw [held.uncrushed id e there crushed] at owner
      cases owner
    · have owned : id ∈ f.scene.podGrabOwnerById.keys ↔
          (f.scene.podGrabOwnerById.get id).isSome := by
        rw [JSMap.mem_keys, ← Option.isSome_iff_exists]
      rw [held.body id e there]
      simp only [bodyFor, owned]

/-- A pod is grabbed, the hand that let it go crushes it with its palm, and grabs another. -/
def grabsAndCrushes : List FieldAction :=
  [.update [samplePod "a" .live, samplePod "b" .live] [], .initializePhysics,
    .updateWristHud (.leftHand .pinch [1]), .handleXREnd, .updateWristHud (.leftHand .palm [1]),
    .updateWristHud (.leftHand .pinch [2]), .simulate (1 / 72)]

def crushes (f : Field) : Bool :=
  f.scene.podGrabOwnerById.get "b" == some .left && f.scene.grabbed .left == some "b" &&
    (f.scene.podPhysicsById.get "a").any fun e =>
      decide (0 < e.crushProgress) && e.bodyType == .kinematicPositionBased

theorem grabs_agree_crush : ∃ f, (field .exact).run .initial grabsAndCrushes = some f ∧
    crushes f = true ∧ ∀ id h,
      f.scene.podGrabOwnerById.get id = some h ↔ f.scene.grabbed h = some id := by
  obtain ⟨f, ran, passes⟩ := System.run_passes grabsAndCrushes crushes
    (by decide +kernel : ((field .exact).run .initial grabsAndCrushes).any crushes = true)
  exact ⟨f, ran, passes, (grabs_agree .exact (System.run_reachable ran)).1⟩

end Megalo.Scene
