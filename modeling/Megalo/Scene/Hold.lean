import Megalo.Scene.Living

/-! Who holds what. The owner of a pod is stored twice, and the type of its body is a third copy;
every operation on pods and hands keeps the three in agreement. -/
namespace Megalo.Scene

/-- The body that a pod should have. -/
def bodyFor (owner : Option Hand) (crushProgress : Rat) : BodyType :=
  if owner.isSome ∨ 0 < crushProgress then .kinematicPositionBased else .dynamic

/-- The three copies agree, and what is held is in the field and not crushed. -/
structure Held (s : PodScene) : Prop where
  owner : ∀ id h, s.podGrabOwnerById.get id = some h ↔ s.grabbed h = some id
  mesh : ∀ id h, s.podGrabOwnerById.get id = some h → (s.meshById.get id).isSome
  physics : ∀ id h, s.podGrabOwnerById.get id = some h → (s.podPhysicsById.get id).isSome
  uncrushed : ∀ id e, s.podPhysicsById.get id = some e → 0 < e.crushProgress →
    s.podGrabOwnerById.get id = none
  body : ∀ id e, s.podPhysicsById.get id = some e →
    e.bodyType = bodyFor (s.podGrabOwnerById.get id) e.crushProgress

/-- A step that takes no mesh away and leaves the rest of the hold as it is. -/
structure SameHold (s t : PodScene) : Prop where
  owner : t.podGrabOwnerById = s.podGrabOwnerById
  grabbed : ∀ h, t.grabbed h = s.grabbed h
  mesh : ∀ id, (s.meshById.get id).isSome → (t.meshById.get id).isSome
  physics : t.podPhysicsById = s.podPhysicsById

section Hold

variable {engine : Engine} {s t : PodScene} {id : String} {h : Hand}

theorem Held.same (held : Held s) (same : SameHold s t) : Held t := by
  constructor
  · intro id h
    rw [same.owner, same.grabbed]
    exact held.owner id h
  · intro id h owned
    rw [same.owner] at owned
    exact same.mesh id (held.mesh id h owned)
  · intro id h owned
    rw [same.owner] at owned
    rw [same.physics]
    exact held.physics id h owned
  · intro id e there crushed
    rw [same.physics] at there
    rw [same.owner]
    exact held.uncrushed id e there crushed
  · intro id e there
    rw [same.physics] at there
    rw [same.owner]
    exact held.body id e there

/-- One pod changes its owner, or comes or goes with none; the others stay as they are. -/
theorem Held.change (held : Held s) (owner : Option Hand)
    (owners : ∀ other, t.podGrabOwnerById.get other =
      if other = id then owner else s.podGrabOwnerById.get other)
    (grabbed : ∀ h, t.grabbed h = if owner = some h then some id
      else if s.grabbed h = some id then none else s.grabbed h)
    (idle : ∀ h, owner = some h → s.grabbed h = none)
    (mesh : ∀ other, other ≠ id → (s.meshById.get other).isSome → (t.meshById.get other).isSome)
    (physics : ∀ other, other ≠ id → t.podPhysicsById.get other = s.podPhysicsById.get other)
    (here : owner.isSome → (t.meshById.get id).isSome ∧ (t.podPhysicsById.get id).isSome)
    (body : ∀ e, t.podPhysicsById.get id = some e →
      e.bodyType = bodyFor owner e.crushProgress ∧ (0 < e.crushProgress → owner = none)) :
    Held t := by
  constructor
  · intro other h
    rw [owners, grabbed]
    by_cases it : other = id
    · rw [if_pos it, it]
      by_cases mine : owner = some h
      · simp [mine]
      · rw [if_neg mine]
        refine iff_of_false mine ?_
        split
        · simp
        · assumption
    · rw [if_neg it, held.owner]
      by_cases mine : owner = some h
      · rw [if_pos mine, idle h mine]
        simp [Ne.symm it]
      · rw [if_neg mine]
        split
        · rename_i held_it
          simp [held_it, Ne.symm it]
        · rfl
  · intro other h owned
    rw [owners] at owned
    split at owned
    · rename_i it
      rw [it]
      exact (here (owned ▸ rfl)).1
    · rename_i different
      exact mesh other different (held.mesh other h owned)
  · intro other h owned
    rw [owners] at owned
    split at owned
    · rename_i it
      rw [it]
      exact (here (owned ▸ rfl)).2
    · rename_i different
      rw [physics other different]
      exact held.physics other h owned
  · intro other e there crushed
    rw [owners]
    split
    · rename_i it
      rw [it] at there
      exact (body e there).2 crushed
    · rename_i different
      rw [physics other different] at there
      exact held.uncrushed other e there crushed
  · intro other e there
    rw [owners]
    split
    · rename_i it
      rw [it] at there
      exact (body e there).1
    · rename_i different
      rw [physics other different] at there
      exact held.body other e there

/-- A pod without an owner is in no hand. -/
theorem Held.nobody (held : Held s) (free : s.podGrabOwnerById.get id = none) (h : Hand) :
    s.grabbed h ≠ some id := by
  intro grabs
  rw [← held.owner, free] at grabs
  cases grabs

/-- A pod without an owner comes, goes or is crushed. -/
theorem Held.unowned (held : Held s) (free : s.podGrabOwnerById.get id = none)
    (owners : ∀ other, t.podGrabOwnerById.get other = s.podGrabOwnerById.get other)
    (grabbed : ∀ h, t.grabbed h = s.grabbed h)
    (mesh : ∀ other, other ≠ id → (s.meshById.get other).isSome → (t.meshById.get other).isSome)
    (physics : ∀ other, other ≠ id → t.podPhysicsById.get other = s.podPhysicsById.get other)
    (body : ∀ e, t.podPhysicsById.get id = some e → e.bodyType = bodyFor none e.crushProgress) :
    Held t := by
  apply held.change none ?_ ?_ ?_ mesh physics ?_ fun e there => ⟨body e there, fun _ => rfl⟩
  · intro other
    rw [owners]
    split
    · rename_i it
      rw [it, free]
    · rfl
  · intro h
    rw [grabbed, if_neg (held.nobody free h), if_neg (by simp)]
  · intro h impossible
    cases impossible
  · intro impossible
    cases impossible

theorem setHand_rest (f : HandPhysicsState → HandPhysicsState) :
    (s.setHand h f).podGrabOwnerById = s.podGrabOwnerById ∧
      (s.setHand h f).podPhysicsById = s.podPhysicsById ∧
      (s.setHand h f).meshById = s.meshById := by
  unfold PodScene.setHand
  split <;> exact ⟨rfl, rfl, rfl⟩

theorem setHand_get (f : HandPhysicsState → HandPhysicsState) (other : Hand) :
    (s.setHand h f).handPhysics.get other =
      if other = h then (s.handPhysics.get h).map f else s.handPhysics.get other := by
  unfold PodScene.setHand
  split
  · rename_i found
    rw [JSMap.get_set, found, Option.map_some]
  · rename_i absent
    split
    · rename_i it
      rw [it, absent, Option.map_none]
    · rfl

theorem setHand_hold {f : HandPhysicsState → HandPhysicsState}
    (kept : ∀ hand, s.handPhysics.get h = some hand → (f hand).grabbedPodId = hand.grabbedPodId) :
    SameHold s (s.setHand h f) := by
  obtain ⟨owner, physics, mesh⟩ := setHand_rest (s := s) (h := h) f
  refine ⟨owner, fun other => ?_, fun id there => mesh ▸ there, physics⟩
  rw [PodScene.grabbed, PodScene.grabbed, setHand_get]
  split
  · rename_i it
    cases found : s.handPhysics.get h with
    | none => rw [it, found, Option.map_none]
    | some hand =>
      rw [it, found, Option.map_some, Option.bind_some, Option.bind_some]
      exact kept hand found
  · rfl

theorem setPhysics_get (id : String) (f : PodPhysicsEntry → PodPhysicsEntry) (other : String) :
    (s.setPhysics id f).podPhysicsById.get other =
      if other = id then (s.podPhysicsById.get id).map f else s.podPhysicsById.get other := by
  unfold PodScene.setPhysics
  split
  · rename_i found
    rw [JSMap.get_set, found, Option.map_some]
  · rename_i absent
    split
    · rename_i it
      rw [it, absent, Option.map_none]
    · rfl

theorem setPhysics_rest (id : String) (f : PodPhysicsEntry → PodPhysicsEntry) :
    (s.setPhysics id f).podGrabOwnerById = s.podGrabOwnerById ∧
      (s.setPhysics id f).handPhysics = s.handPhysics ∧
      (s.setPhysics id f).meshById = s.meshById := by
  unfold PodScene.setPhysics
  split <;> exact ⟨rfl, rfl, rfl⟩

theorem releaseGrab_idle (free : s.grabbed h = none) : s.releaseGrab h = s := by
  rw [PodScene.releaseGrab, free]

/-- What the release of a pod changes. -/
structure Releases (s t : PodScene) (h : Hand) (id : String) : Prop where
  owner : ∀ other, t.podGrabOwnerById.get other =
    if other = id then none else s.podGrabOwnerById.get other
  grabbed : ∀ other, t.grabbed other = if other = h then none else s.grabbed other
  mesh : t.meshById = s.meshById
  physics : ∀ other, t.podPhysicsById.get other =
    if other = id then (s.podPhysicsById.get id).map fun e => { e with bodyType := .dynamic }
    else s.podPhysicsById.get other

theorem releaseGrab_releases (found : s.grabbed h = some id) :
    Releases s (s.releaseGrab h) h id := by
  rw [PodScene.releaseGrab, found]
  dsimp only
  obtain ⟨owner, hands, mesh⟩ := setPhysics_rest (s := s) id
    fun e => { e with bodyType := .dynamic }
  have physics := setPhysics_get (s := s) id fun e => { e with bodyType := .dynamic }
  generalize s.setPhysics id (fun e => { e with bodyType := .dynamic }) = lowered at *
  obtain ⟨ownerHand, physicsHand, meshHand⟩ :=
    setHand_rest (s := { lowered with podGrabOwnerById := lowered.podGrabOwnerById.delete id })
      (h := h) fun hand => { hand with grabbedPodId := none, lastGrabAt := 0 }
  constructor
  · intro other
    rw [ownerHand, JSMap.get_delete, owner]
  · intro other
    rw [PodScene.grabbed, PodScene.grabbed, setHand_get]
    split
    · dsimp only
      cases lowered.handPhysics.get h with
      | none => rfl
      | some hand => rfl
    · dsimp only
      rw [hands]
  · rw [meshHand, mesh]
  · intro other
    rw [physicsHand]
    exact physics other

theorem Held.release (held : Held s) (found : s.grabbed h = some id) (change : Releases s t h id) :
    Held t := by
  have owned := (held.owner id h).mpr found
  apply held.change none change.owner
  · intro g
    have nobody : (none : Option Hand) ≠ some g := by simp
    rw [change.grabbed, if_neg nobody]
    by_cases it : g = h
    · rw [if_pos it, it, if_pos found]
    · -- no other hand holds the pod
      rw [if_neg it, if_neg]
      intro both
      rw [← held.owner, owned] at both
      exact it (Option.some.inj both).symm
  · intro g impossible
    cases impossible
  · intro other _ there
    rwa [change.mesh]
  · intro other different
    rw [change.physics, if_neg different]
  · intro impossible
    cases impossible
  · intro e there
    rw [change.physics, if_pos rfl] at there
    obtain ⟨before, was, rfl⟩ := Option.map_eq_some_iff.mp there
    have gentle : ¬ 0 < before.crushProgress := by
      intro crushed
      rw [held.uncrushed id before was crushed] at owned
      cases owned
    exact ⟨by simp [bodyFor, gentle], fun _ => rfl⟩

theorem releaseGrab_held (held : Held s) (h : Hand) : Held (s.releaseGrab h) := by
  cases found : s.grabbed h with
  | none => rwa [releaseGrab_idle found]
  | some id => exact held.release found (releaseGrab_releases found)

theorem releaseGrab_frees (h : Hand) : (s.releaseGrab h).grabbed h = none := by
  cases found : s.grabbed h with
  | none => rwa [releaseGrab_idle found]
  | some id => rw [(releaseGrab_releases found).grabbed, if_pos rfl]

theorem releaseOwner_held (held : Held s) (id : String) : Held (s.releaseOwner id) := by
  unfold PodScene.releaseOwner
  split
  · exact releaseGrab_held held _
  · exact held

theorem releaseOwner_frees (held : Held s) (id : String) :
    (s.releaseOwner id).podGrabOwnerById.get id = none := by
  unfold PodScene.releaseOwner
  split
  · rename_i owner found
    rw [(releaseGrab_releases ((held.owner id owner).mp found)).owner, if_pos rfl]
  · assumption

theorem clearPalmContacts_hold (h : Hand) (keep : List String) :
    SameHold s (s.clearPalmContacts h keep) := ⟨rfl, fun _ => rfl, fun _ => id, rfl⟩

theorem clearHandState_held (held : Held s) (h : Hand) (clearContacts : Bool) :
    Held (s.clearHandState h clearContacts) := by
  have free := releaseGrab_frees (s := s) h
  have cleared := (releaseGrab_held held h).same (setHand_hold (f := fun _ =>
    ⟨false, false, none, none, 0, false, false⟩) fun hand found => by
      rw [PodScene.grabbed, found, Option.bind_some] at free
      exact free.symm)
  unfold PodScene.clearHandState
  dsimp only
  split
  · exact cleared.same (clearPalmContacts_hold h [])
  · exact cleared

theorem clearHandState_grabbed (h other : Hand) (clearContacts : Bool) :
    (s.clearHandState h clearContacts).grabbed other =
      if other = h then none else s.grabbed other := by
  have released : (s.releaseGrab h).grabbed other =
      if other = h then none else s.grabbed other := by
    cases found : s.grabbed h with
    | none =>
      rw [releaseGrab_idle found]
      split
      · rename_i it
        rw [it, found]
      · rfl
    | some id => exact (releaseGrab_releases found).grabbed other
  have cleared : ((s.releaseGrab h).setHand h fun _ =>
      ⟨false, false, none, none, 0, false, false⟩).grabbed other =
        if other = h then none else s.grabbed other := by
    rw [PodScene.grabbed, setHand_get]
    split
    · cases (s.releaseGrab h).handPhysics.get h with
      | none => rfl
      | some hand => rfl
    · rename_i different
      rw [if_neg different] at released
      exact released
  unfold PodScene.clearHandState
  dsimp only
  split
  · exact cleared
  · exact cleared

theorem clearBoth_held (held : Held s) (clearContacts : Bool) :
    Held ((s.clearHandState .left clearContacts).clearHandState .right clearContacts) :=
  clearHandState_held (clearHandState_held held .left clearContacts) .right clearContacts

theorem removePodPhysics_hold (id : String) :
    (s.removePodPhysics id).podGrabOwnerById = s.podGrabOwnerById ∧
    (s.removePodPhysics id).handPhysics = s.handPhysics := by
  unfold PodScene.removePodPhysics
  split <;> exact ⟨rfl, rfl⟩

theorem removePodEntry_held (held : Held s) (id : String) (entry : PodMeshEntry) :
    Held (s.removePodEntry id entry) := by
  have free := releaseOwner_frees held id
  have released := releaseOwner_held held id
  unfold PodScene.removePodEntry
  generalize s.releaseOwner id = r at free released
  obtain ⟨owner, hands⟩ := removePodPhysics_hold
    (s := { r with meshById := r.meshById.delete id }) id
  have physics (other : String) : (PodScene.removePodPhysics
      { r with meshById := r.meshById.delete id } id).podPhysicsById.get other =
        if other = id then none else r.podPhysicsById.get other := removePodPhysics_get other
  apply released.unowned free
  · intro other
    change ((PodScene.removePodPhysics { r with meshById := r.meshById.delete id }
      id).podGrabOwnerById.delete id).get other = _
    rw [owner, JSMap.get_delete]
    split
    · rename_i it
      rw [it, free]
    · rfl
  · intro h
    change (((PodScene.removePodPhysics { r with meshById := r.meshById.delete id }
      id).handPhysics.mapValues _).get h).bind _ = _
    rw [hands, JSMap.get_mapValues, PodScene.grabbed]
    cases r.handPhysics.get h with
    | none => rfl
    | some hand =>
      simp only [Option.map_some, Option.bind_some]
      split <;> rfl
  · intro other different there
    change ((PodScene.removePodPhysics { r with meshById := r.meshById.delete id }
      id).meshById.get other).isSome
    rw [removePodPhysics_meshById]
    dsimp only
    rwa [JSMap.get_delete_ne different]
  · intro other different
    exact (physics other).trans (if_neg different)
  · intro e there
    cases ((physics id).trans (if_pos rfl)).symm.trans there

/-- A pod without physics gets a dynamic body. -/
theorem createPodPhysics_held (held : Held s) : Held (s.createPodPhysics engine id) := by
  unfold PodScene.createPodPhysics
  split
  · exact held
  · rename_i made
    simp only [Bool.or_eq_true, not_or, JSMap.has, Bool.not_eq_true, Option.isSome_eq_false_iff,
      Option.isNone_iff_eq_none] at made
    have free : s.podGrabOwnerById.get id = none := by
      rw [Option.eq_none_iff_forall_ne_some]
      intro h owned
      have there := held.physics id h owned
      rw [made.2] at there
      cases there
    apply held.unowned free
    · intro other
      rfl
    · intro h
      rfl
    · intro other _ there
      exact there
    · intro other different
      exact JSMap.get_set_ne different
    · intro e there
      dsimp only at there
      rw [JSMap.get_set_self] at there
      cases there
      rfl

theorem createPodMesh_hold : SameHold s (s.createPodMesh id) := by
  have more : ∀ other, (s.meshById.get other).isSome →
      ((s.createPodMesh id).meshById.get other).isSome := by
    intro other there
    rw [createPodMesh_get, there, Bool.true_or]
  revert more
  unfold PodScene.createPodMesh
  split
  · exact fun more => ⟨rfl, fun _ => rfl, more, rfl⟩
  · exact fun more => ⟨rfl, fun _ => rfl, more, rfl⟩

theorem status_hold {entry : PodMeshEntry} (there : s.meshById.get id = some entry)
    (status : Option SlaveStatus) :
    SameHold s { s with meshById := s.meshById.set id { entry with status } } := by
  refine ⟨rfl, fun _ => rfl, fun other shown => ?_, rfl⟩
  rw [← status_mesh there status other] at shown
  exact shown

theorem updatePod_held (held : Held s) (eliminated : List String) (pod : Frontend.SlaveState) :
    Held (s.updatePod engine eliminated pod) := by
  have does := updatePod_does engine s eliminated pod
  generalize s.updatePod engine eliminated pod = t at does
  generalize PodScene.isActive eliminated pod = active at does
  cases does with
  | spawned new made there =>
    subst made
    exact (createPodPhysics_held (held.same createPodMesh_hold)).same (status_hold there _)
  | kept old made there =>
    subst made
    exact (createPodPhysics_held held).same (status_hold there _)
  | removed old => exact removePodEntry_held held _ _
  | absent new => exact held

theorem update_held (held : Held s) (pods : List Frontend.SlaveState) (eliminated : List String) :
    Held (s.update engine pods eliminated) := by
  have cleared (active : List String) : Held (s.removeInactive active) := by
    apply List.foldlRecOn _ _ held
    intro t held e _
    split
    · exact held
    · exact removePodEntry_held held e.1 e.2
  apply List.foldlRecOn _ _ (cleared _)
  intro t held pod _
  exact updatePod_held held eliminated pod

theorem ensureHandPhysics_hold (h : Hand) : SameHold s (s.ensureHandPhysics h) := by
  unfold PodScene.ensureHandPhysics
  split
  · exact ⟨rfl, fun _ => rfl, fun _ => id, rfl⟩
  · rename_i made
    simp only [Bool.or_eq_true, not_or, JSMap.has, Bool.not_eq_true, Option.isSome_eq_false_iff,
      Option.isNone_iff_eq_none] at made
    refine ⟨rfl, fun other => ?_, fun _ => id, rfl⟩
    rw [PodScene.grabbed, PodScene.grabbed, JSMap.get_set]
    split
    · rename_i it
      rw [it, made.1]
      rfl
    · rfl

theorem initializePhysics_held (held : Held s) : Held (s.initializePhysics engine) := by
  unfold PodScene.initializePhysics
  split
  · exact held
  · have world : SameHold s { s with physicsWorld := true } := ⟨rfl, fun _ => rfl, fun _ => id, rfl⟩
    have hands := ((held.same world).same (ensureHandPhysics_hold .left)).same
      (ensureHandPhysics_hold .right)
    apply List.foldlRecOn _ _ hands
    intro t held e _
    exact createPodPhysics_held held

/-- The physics entries change, but neither the bodies nor what is crushed. -/
theorem Held.remap (held : Held s) {f : String → PodPhysicsEntry → PodPhysicsEntry}
    (owner : t.podGrabOwnerById = s.podGrabOwnerById) (grabbed : ∀ h, t.grabbed h = s.grabbed h)
    (mesh : t.meshById = s.meshById)
    (physics : ∀ id, t.podPhysicsById.get id = (s.podPhysicsById.get id).map (f id))
    (body : ∀ id e, (f id e).bodyType = e.bodyType)
    (crush : ∀ id e, 0 < (f id e).crushProgress ↔ 0 < e.crushProgress) : Held t := by
  constructor
  · intro id h
    rw [owner, grabbed]
    exact held.owner id h
  · intro id h owned
    rw [owner] at owned
    rw [mesh]
    exact held.mesh id h owned
  · intro id h owned
    rw [owner] at owned
    rw [physics, Option.isSome_map]
    exact held.physics id h owned
  · intro id e there crushed
    rw [physics] at there
    obtain ⟨before, was, rfl⟩ := Option.map_eq_some_iff.mp there
    rw [owner]
    exact held.uncrushed id before was ((crush id before).mp crushed)
  · intro id e there
    rw [physics] at there
    obtain ⟨before, was, rfl⟩ := Option.map_eq_some_iff.mp there
    rw [owner, body, held.body id before was]
    simp only [bodyFor, crush]

theorem advanceCrush_crush {delta : Rat} (passes : 0 ≤ delta) (e : PodPhysicsEntry) :
    0 < (PodScene.advanceCrush engine delta e).crushProgress ↔ 0 < e.crushProgress := by
  unfold PodScene.advanceCrush
  split
  · rename_i crushed
    simp only [Bool.and_eq_true, decide_eq_true_eq] at crushed
    have more := engine.crush_pos e.crushProgress delta crushed.1 passes
    simp [crushed.1, more]
  · rfl

theorem advanceCrush_bodyType (delta : Rat) (e : PodPhysicsEntry) :
    (PodScene.advanceCrush engine delta e).bodyType = e.bodyType := by
  unfold PodScene.advanceCrush
  split <;> rfl

theorem advanceCrushes_held (held : Held s) {delta : Rat} (passes : 0 ≤ delta) :
    Held (s.advanceCrushes engine delta).1 := by
  refine held.remap rfl (fun _ => rfl) rfl (fun id => JSMap.get_mapValues _) ?_ ?_
  · intro id e
    split
    · exact advanceCrush_bodyType delta e
    · rfl
  · intro id e
    split
    · exact advanceCrush_crush passes e
    · rfl

theorem reportFall_held (held : Held s) (id : String) : Held (s.reportFall id) := by
  obtain ⟨owner, hands, mesh⟩ := setPhysics_rest (s := s) id
    fun e => { e with fallReported := true }
  unfold PodScene.reportFall
  apply held.remap (f := fun other e => if other = id then { e with fallReported := true } else e)
    owner (fun h => by rw [PodScene.grabbed, hands, PodScene.grabbed]) mesh
  · intro other
    rw [setPhysics_get]
    split
    · rename_i it
      rw [it]
    · simp only [Option.map_id']
  · intro other e
    split <;> rfl
  · intro other e
    split <;> rfl

theorem interactable {id : String} (ready : s.isPodInteractable id = true) :
    (s.meshById.get id).isSome ∧
      ∀ e, s.podPhysicsById.get id = some e → ¬ 0 < e.crushProgress := by
  unfold PodScene.isPodInteractable at ready
  split at ready
  · cases ready
  · rename_i entry there
    refine ⟨by rw [there]; rfl, fun e found => ?_⟩
    rw [found] at ready
    split at ready
    · cases ready
    · simp only [Bool.not_eq_true', Bool.or_eq_false_iff, decide_eq_false_iff_not] at ready
      exact ready.1

theorem epsilon_pos : 0 < PodScene.epsilon := by decide +kernel

theorem startPodCrush_held (held : Held s) (id : String) : Held (s.startPodCrush id) := by
  unfold PodScene.startPodCrush
  split
  · have free := releaseOwner_frees held id
    have released := releaseOwner_held held id
    generalize s.releaseOwner id = r at free released
    have crushed := setPhysics_get (s := r) id fun e => { e with
      bodyType := .kinematicPositionBased
      crushProgress := PodScene.epsilon
      crushReported := false }
    obtain ⟨owner, hands, mesh⟩ := setPhysics_rest (s := r) id fun e => { e with
      bodyType := .kinematicPositionBased
      crushProgress := PodScene.epsilon
      crushReported := false }
    apply released.unowned free
    · intro other
      rw [owner]
    · intro h
      rw [PodScene.grabbed, hands, PodScene.grabbed]
    · intro other _ there
      rwa [mesh]
    · intro other different
      rw [crushed, if_neg different]
    · intro e there
      rw [crushed, if_pos rfl] at there
      obtain ⟨before, _, rfl⟩ := Option.map_eq_some_iff.mp there
      simp [bodyFor, epsilon_pos]
  · exact held

theorem grab_held (held : Held s) {h : Hand} {hand : HandPhysicsState}
    (there : s.handPhysics.get h = some hand) (idle : hand.grabbedPodId = none) {id : String}
    (ready : s.isPodInteractable id = true) (free : s.podGrabOwnerById.get id = none) (now : Rat) :
    Held (s.grab h id now) := by
  unfold PodScene.grab
  split
  · rename_i solid
    obtain ⟨owner, hands, mesh⟩ := setPhysics_rest (s := s) id fun e =>
      { e with bodyType := .kinematicPositionBased }
    have physics := setPhysics_get (s := s) id fun e =>
      { e with bodyType := .kinematicPositionBased }
    dsimp only
    generalize s.setPhysics id (fun e => { e with bodyType := .kinematicPositionBased }) =
      raised at *
    obtain ⟨ownerHand, physicsHand, meshHand⟩ := setHand_rest (s := raised) (h := h)
      fun hand => { hand with grabbedPodId := some id, lastGrabAt := now }
    have bodies (other : String) : (raised.setHand h fun hand =>
        { hand with grabbedPodId := some id, lastGrabAt := now }).podPhysicsById.get other =
          if other = id then (s.podPhysicsById.get id).map fun e =>
            { e with bodyType := .kinematicPositionBased }
          else s.podPhysicsById.get other := by
      rw [physicsHand]
      exact physics other
    have free_hand : s.grabbed h = none := by
      rw [PodScene.grabbed, there]
      exact idle
    apply held.change (some h)
    · intro other
      dsimp only
      rw [JSMap.get_set, ownerHand, owner]
    · intro other
      change ((raised.setHand h _).handPhysics.get other).bind _ = _
      rw [setHand_get, hands, there, if_neg (held.nobody free other)]
      by_cases it : other = h
      · simp [it]
      · rw [if_neg it, if_neg (by simpa using Ne.symm it), PodScene.grabbed]
    · intro other it
      cases it
      exact free_hand
    · intro other _ before
      change ((raised.setHand h _).meshById.get other).isSome
      rwa [meshHand, mesh]
    · intro other different
      exact (bodies other).trans (if_neg different)
    · intro _
      constructor
      · change ((raised.setHand h _).meshById.get id).isSome
        rw [meshHand, mesh]
        exact (interactable ready).1
      · rw [bodies, if_pos rfl, Option.isSome_map]
        exact solid
    · intro e found
      rw [bodies, if_pos rfl] at found
      obtain ⟨before, was, rfl⟩ := Option.map_eq_some_iff.mp found
      have gentle : ¬ 0 < before.crushProgress := (interactable ready).2 before was
      exact ⟨by simp [bodyFor], fun crushed => absurd crushed gentle⟩
  · exact held

end Hold

end Megalo.Scene
