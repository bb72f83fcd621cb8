import Megalo.Scene.Frames

/-! What one step of the scene does to the pods of the field: only an update, a reset and the
arrival of the world change which pods have a mesh, a collider or a place in the pool. -/
namespace Megalo.Scene

/-- A step that leaves the pods of the field, their colliders and the pool as they are. -/
structure SamePods (s t : PodScene) : Prop where
  meshById : t.meshById = s.meshById
  podMeshCache : t.podMeshCache = s.podMeshCache
  handles : ∀ id, (t.podPhysicsById.get id).map PodPhysicsEntry.handle =
    (s.podPhysicsById.get id).map PodPhysicsEntry.handle
  podIdByColliderHandle : t.podIdByColliderHandle = s.podIdByColliderHandle
  physicsWorld : t.physicsWorld = s.physicsWorld
  meshes : t.meshes = s.meshes

section Same

variable {engine : Engine} {s t u : PodScene}

theorem SamePods.refl (s : PodScene) : SamePods s s := ⟨rfl, rfl, fun _ => rfl, rfl, rfl, rfl⟩

/-- What the pods of the field do not depend on. -/
theorem SamePods.aside (owners : JSMap String Hand) (hands : JSMap Hand HandPhysicsState)
    (contacts : List String) (active : Option Hand) (move await : Bool) : SamePods s { s with
      podGrabOwnerById := owners
      handPhysics := hands
      activePalmContacts := contacts
      hudSliderActiveHand := active
      tableMoveMode := move
      tableMoveAwaitingConfirmRelease := await } := ⟨rfl, rfl, fun _ => rfl, rfl, rfl, rfl⟩

theorem SamePods.trans (first : SamePods s t) (second : SamePods t u) : SamePods s u :=
  ⟨second.meshById.trans first.meshById, second.podMeshCache.trans first.podMeshCache,
    fun id => (second.handles id).trans (first.handles id),
    second.podIdByColliderHandle.trans first.podIdByColliderHandle,
    second.physicsWorld.trans first.physicsWorld, second.meshes.trans first.meshes⟩

theorem SamePods.foldl {α : Type} {f : PodScene → α → PodScene}
    (each : ∀ s a, SamePods s (f s a)) (as : List α) (s : PodScene) :
    SamePods s (as.foldl f s) := by
  induction as generalizing s with
  | nil => exact .refl s
  | cons a rest ih => exact (each s a).trans (ih (f s a))

theorem setPhysics_same (id : String) {f : PodPhysicsEntry → PodPhysicsEntry}
    (handle : ∀ e, (f e).handle = e.handle) : SamePods s (s.setPhysics id f) := by
  unfold PodScene.setPhysics
  split
  · rename_i e found
    refine ⟨rfl, rfl, fun other => ?_, rfl, rfl, rfl⟩
    dsimp only
    rw [JSMap.get_set]
    split
    · rename_i same
      rw [same, found, Option.map_some, Option.map_some, handle]
    · rfl
  · exact .refl s

theorem setHand_same (handedness : Hand) (f : HandPhysicsState → HandPhysicsState) :
    SamePods s (s.setHand handedness f) := by
  unfold PodScene.setHand
  split
  · exact .aside ..
  · exact .refl s

theorem releaseGrab_same (handedness : Hand) : SamePods s (s.releaseGrab handedness) := by
  unfold PodScene.releaseGrab
  split
  · exact .refl s
  · rename_i podId _
    have lowered : SamePods s (s.setPhysics podId fun e => { e with bodyType := .dynamic }) :=
      setPhysics_same podId fun _ => rfl
    have freed : SamePods (s.setPhysics podId fun e => { e with bodyType := .dynamic })
        { s.setPhysics podId (fun e => { e with bodyType := .dynamic }) with
          podGrabOwnerById := (s.setPhysics podId fun e =>
            { e with bodyType := .dynamic }).podGrabOwnerById.delete podId } :=
      .aside ..
    exact lowered.trans (freed.trans (setHand_same handedness _))

theorem releaseOwner_same (id : String) : SamePods s (s.releaseOwner id) := by
  unfold PodScene.releaseOwner
  split
  · exact releaseGrab_same _
  · exact .refl s

theorem clearPalmContacts_same (handedness : Hand) (keep : List String) :
    SamePods s (s.clearPalmContacts handedness keep) := .aside ..

theorem clearHandState_same (handedness : Hand) (clearContacts : Bool) :
    SamePods s (s.clearHandState handedness clearContacts) := by
  have cleared := (releaseGrab_same (s := s) handedness).trans (setHand_same handedness fun _ =>
    ⟨false, false, none, none, 0, false, false⟩)
  unfold PodScene.clearHandState
  dsimp only
  split
  · exact cleared.trans (clearPalmContacts_same handedness [])
  · exact cleared

theorem startPodCrush_same (id : String) : SamePods s (s.startPodCrush id) := by
  unfold PodScene.startPodCrush
  split
  · exact (releaseOwner_same id).trans (setPhysics_same id fun _ => rfl)
  · exact .refl s

theorem advanceCrush_handle (delta : Rat) (e : PodPhysicsEntry) :
    (PodScene.advanceCrush engine delta e).handle = e.handle := by
  unfold PodScene.advanceCrush
  split <;> rfl

theorem advanceCrushes_same (delta : Rat) : SamePods s (s.advanceCrushes engine delta).1 := by
  refine ⟨rfl, rfl, fun id => ?_, rfl, rfl, rfl⟩
  simp only [PodScene.advanceCrushes, JSMap.get_mapValues, Option.map_map]
  cases s.podPhysicsById.get id with
  | none => rfl
  | some e =>
    simp only [Option.map_some, Function.comp_apply, Option.some.injEq]
    split
    · exact advanceCrush_handle delta e
    · rfl

theorem ensureHandPhysics_same (handedness : Hand) :
    SamePods s (s.ensureHandPhysics handedness) := by
  unfold PodScene.ensureHandPhysics
  split
  · exact .refl s
  · exact .aside ..

theorem updateHandPhysicsFromJoints_same (handedness : Hand) (joints : Option HandJoints) :
    SamePods s (s.updateHandPhysicsFromJoints handedness joints) := by
  cases joints with
  | none => exact clearHandState_same handedness true
  | some joints => exact (ensureHandPhysics_same handedness).trans (setHand_same handedness _)

theorem clearUntracked_same (trackedHands : List Hand) :
    SamePods s (s.clearUntracked trackedHands) := by
  have either (s : PodScene) (handedness : Hand) : SamePods s
      (if trackedHands.contains handedness then s else s.clearHandState handedness true) := by
    split
    · exact .refl s
    · exact clearHandState_same handedness true
  exact (either s .left).trans (either _ .right)

theorem slider_same (leftWristTracked : Bool) (trackedHands : List Hand) (hit : Hand → Bool) :
    SamePods s (s.updateTableHeightSliderInteraction leftWristTracked trackedHands hit) := by
  have aside (active : Option Hand) : SamePods s { s with hudSliderActiveHand := active } :=
    .aside ..
  unfold PodScene.updateTableHeightSliderInteraction
  dsimp only
  split
  · exact aside none
  · split
    · exact (aside _).trans (setHand_same _ _)
    · exact aside none

theorem tableMove_same (trackedHands : List Hand) :
    SamePods s (s.updateTableMoveInteraction trackedHands) := by
  have dropped : SamePods s (s.dropCandidate .right) := setHand_same .right _
  have aside (t : PodScene) (move await : Bool) : SamePods t
      { t with tableMoveMode := move, tableMoveAwaitingConfirmRelease := await } :=
    .aside ..
  unfold PodScene.updateTableMoveInteraction
  split
  · dsimp only
    split
    · exact dropped.trans (aside _ _ false)
    · split
      · exact dropped
      · exact dropped.trans (aside _ false false)
  · exact .refl s

theorem grab_same (handedness : Hand) (id : String) (now : Rat) :
    SamePods s (s.grab handedness id now) := by
  unfold PodScene.grab
  split
  · have raised : SamePods s (s.setPhysics id fun e =>
        { e with bodyType := .kinematicPositionBased }) := setPhysics_same id fun _ => rfl
    have held := raised.trans (setHand_same handedness fun handState =>
      { handState with grabbedPodId := some id, lastGrabAt := now })
    exact held.trans (.aside ..)
  · exact .refl s

theorem updateGrabInteraction_same (handedness : Hand) (now : Rat) :
    SamePods s (s.updateGrabInteraction handedness now) := by
  unfold PodScene.updateGrabInteraction
  repeat' split
  all_goals first
    | exact .refl s
    | exact releaseGrab_same handedness
    | exact setHand_same handedness _
    | exact grab_same handedness _ now

theorem touchPod_same (handedness : Hand) (id : String) :
    SamePods s (s.touchPod handedness id) := by
  unfold PodScene.touchPod
  split
  · have touched : SamePods s { s with activePalmContacts :=
        s.activePalmContacts ++ [PodScene.contactKey handedness id] } :=
      .aside ..
    exact touched.trans (startPodCrush_same id)
  · exact .refl s

theorem processOpenPalmContacts_same (handedness : Hand) (palm : List Nat) :
    SamePods s (s.processOpenPalmContacts handedness palm) := by
  unfold PodScene.processOpenPalmContacts
  split
  · exact clearPalmContacts_same handedness []
  · split
    · exact clearPalmContacts_same handedness []
    · exact (SamePods.foldl (fun s id => touchPod_same handedness id) _ s).trans
        (clearPalmContacts_same handedness _)

theorem updateHands_same (input : XRInput) : SamePods s (s.updateHands input) := by
  unfold PodScene.updateHands
  extract_lets trackedHands leftWristTracked joined worn cleared slid moved held
  have joining : SamePods s joined :=
    .foldl (fun s (source : Hand × Option HandJoints) =>
      updateHandPhysicsFromJoints_same source.1 source.2) _ s
  have wearing : SamePods joined worn := by
    unfold worn
    split
    · exact .refl joined
    · exact .aside ..
  have clearing : SamePods worn (worn.clearUntracked trackedHands) := clearUntracked_same _
  have choosing : SamePods (worn.clearUntracked trackedHands) cleared :=
    .aside ..
  have sliding : SamePods cleared slid := slider_same _ _ _
  have moving : SamePods slid moved := tableMove_same _
  have holding : SamePods moved held := updateGrabInteraction_same .left _
  have before := (joining.trans wearing).trans (clearing.trans choosing)
  have after := before.trans (sliding.trans (moving.trans holding))
  split
  · exact after
  · exact after.trans (updateGrabInteraction_same .right _)

theorem updatePalms_same (input : XRInput) : SamePods s (s.updatePalms input) := by
  have left := processOpenPalmContacts_same (s := s) .left (input.touches .left).palm
  have right (t : PodScene) : SamePods t (if t.tableMoveMode then t.clearPalmContacts .right []
      else t.processOpenPalmContacts .right (input.touches .right).palm) := by
    split
    · exact clearPalmContacts_same .right []
    · exact processOpenPalmContacts_same .right _
  have move (t : PodScene) : SamePods t t.startTableMoveMode := by
    have moving : SamePods t { t with
        tableMoveMode := true
        tableMoveAwaitingConfirmRelease := true
        hudSliderActiveHand := none } := .aside ..
    exact moving.trans (releaseGrab_same .right)
  unfold PodScene.updatePalms
  dsimp only
  split
  · exact (left.trans (right _)).trans (move _)
  · exact left.trans (right _)

theorem clearBoth_same (clearContacts : Bool) :
    SamePods s ((s.clearHandState .left clearContacts).clearHandState .right clearContacts) :=
  (clearHandState_same .left clearContacts).trans (clearHandState_same .right clearContacts)

theorem updateWristHud_same (input : XRInput) : SamePods s (s.updateWristHud input) := by
  unfold PodScene.updateWristHud
  split
  · exact (updateHands_same input).trans (updatePalms_same input)
  · exact clearBoth_same true

theorem desktopFrame_same : SamePods s s.desktopFrame := by
  have aside : SamePods s { s with
      tableMoveMode := false, tableMoveAwaitingConfirmRelease := false } :=
    .aside ..
  have palms := (aside.trans (clearPalmContacts_same .left [])).trans
    (clearPalmContacts_same .right [])
  exact palms.trans (clearBoth_same false)

theorem exitXR_same : SamePods s s.exitXR := .aside ..

theorem handleXREnd_same : SamePods s s.handleXREnd := exitXR_same.trans (clearBoth_same true)

theorem visited_same (slot : Nat) (under : Bool) :
    SamePods s (((s.falls slot under).map s.reportFall).getD s) := by
  cases s.falls slot under with
  | none => exact .refl s
  | some id => exact setPhysics_same id fun _ => rfl

end Same

section Steps

variable {engine : Engine} {f g : Field}

theorem Field.task_eq {scene : PodScene} (taken : f.task scene = some g) :
    f.phase = .idle ∧ g = ⟨scene, .idle⟩ := by
  unfold Field.task at taken
  split at taken
  · rename_i idle
    cases taken
    exact ⟨idle, by rw [idle]⟩
  · cases taken

/-- What one step does to the pods of the field. -/
theorem step_scene {action : FieldAction} (taken : (field engine).step f action = some g) :
    (∃ pods eliminated, action = .update pods eliminated ∧
      (pods.map Frontend.SlaveState.slaveID).Nodup ∧
      g = { f with scene := f.scene.update engine pods eliminated }) ∨
    g.scene = f.scene.reset ∨ g.scene = f.scene.initializePhysics engine ∨
    SamePods f.scene g.scene := by
  have task {scene : PodScene} (taken : f.task scene = some g) : g.scene = scene := by
    obtain ⟨_, rfl⟩ := Field.task_eq taken
    rfl
  have other {scene : PodScene} (same : SamePods f.scene scene) (taken : f.task scene = some g) :
      SamePods f.scene g.scene := by
    rw [task taken]
    exact same
  cases action with
  | update pods eliminated =>
    simp only [field] at taken
    split at taken
    · rename_i distinct
      exact .inl ⟨pods, eliminated, rfl, distinct, (Option.some.inj taken).symm⟩
    · cases taken
  | reset => exact .inr (.inl (task taken))
  | initializePhysics => exact .inr (.inr (.inl (task taken)))
  | startPodCrush id => exact .inr (.inr (.inr (other (startPodCrush_same id) taken)))
  | updateWristHud input => exact .inr (.inr (.inr (other (updateWristHud_same input) taken)))
  | desktopFrame => exact .inr (.inr (.inr (other desktopFrame_same taken)))
  | handleXREnd => exact .inr (.inr (.inr (other handleXREnd_same taken)))
  | exitXR => exact .inr (.inr (.inr (other exitXR_same taken)))
  | simulate delta =>
    simp only [field] at taken
    split at taken
    · split at taken
      · cases taken
        exact .inr (.inr (.inr (advanceCrushes_same delta)))
      · cases taken
    · cases taken
  | visit under =>
    simp only [field] at taken
    split at taken
    · split at taken
      · cases taken
        exact .inr (.inr (.inr (visited_same _ under)))
      · cases taken
        exact .inr (.inr (.inr (.refl _)))
    · cases taken
  | hit =>
    simp only [field] at taken
    split at taken
    · cases taken
      exact .inr (.inr (.inr (.refl _)))
    · cases taken
      exact .inr (.inr (.inr (.refl _)))
    · cases taken

end Steps

end Megalo.Scene
