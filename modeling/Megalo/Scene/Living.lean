import Megalo.Scene.Steps

/-! The field shows the living pods. The maps of meshes, of physics and of collider handles are
changed together, and a mesh is either in the field or in the pool of those to be used again. -/
namespace Megalo.Scene

open Transition

/-- The map of handles is the inverse of the handles of the physics entries. -/
def Inverse (s : PodScene) : Prop := ∀ handle slaveId,
  s.podIdByColliderHandle.get handle = some slaveId ↔
    ∃ e, s.podPhysicsById.get slaveId = some e ∧ e.handle = handle

/-- The places of the meshes, by their numbers. -/
def PodScene.places (s : PodScene) : List Nat :=
  (s.meshById.values ++ s.podMeshCache).map PodMeshEntry.number

/-- Once there is a world the pods with a mesh are the pods with physics. -/
structure Living (s : PodScene) : Prop where
  covered : ∀ id, (s.podPhysicsById.get id).isSome = (s.physicsWorld && (s.meshById.get id).isSome)
  inverse : Inverse s
  once : s.places.Perm (List.range s.meshes)

/-- What removePodEntry changes of the field. -/
def PodScene.dropPod (s : PodScene) (slaveId : String) (entry : PodMeshEntry) : PodScene :=
  ({ s with meshById := s.meshById.delete slaveId }.removePodPhysics slaveId).recyclePodEntry entry

section Structure

variable {engine : Engine} {s t : PodScene} {id : String} {entry : PodMeshEntry}

theorem Living.same (living : Living s) (same : SamePods s t) : Living t := by
  have some_iff : ∀ id, (t.podPhysicsById.get id).isSome = (s.podPhysicsById.get id).isSome := by
    intro id
    rw [← Option.isSome_map, same.handles, Option.isSome_map]
  have has_handle (u : PodScene) (id : String) (handle : Nat) :
      (∃ e, u.podPhysicsById.get id = some e ∧ e.handle = handle) ↔
        (u.podPhysicsById.get id).map PodPhysicsEntry.handle = some handle := by
    rw [Option.map_eq_some_iff]
  constructor
  · intro id
    rw [some_iff, same.physicsWorld, same.meshById]
    exact living.covered id
  · intro handle id
    rw [same.podIdByColliderHandle, has_handle, same.handles, ← has_handle]
    exact living.inverse handle id
  · rw [PodScene.places, same.meshById, same.podMeshCache, same.meshes]
    exact living.once

@[simp] theorem removePodPhysics_meshById : (s.removePodPhysics id).meshById = s.meshById := by
  unfold PodScene.removePodPhysics
  split <;> rfl

@[simp] theorem removePodPhysics_podMeshCache :
    (s.removePodPhysics id).podMeshCache = s.podMeshCache := by
  unfold PodScene.removePodPhysics
  split <;> rfl

@[simp] theorem removePodPhysics_physicsWorld :
    (s.removePodPhysics id).physicsWorld = s.physicsWorld := by
  unfold PodScene.removePodPhysics
  split <;> rfl

@[simp] theorem removePodPhysics_meshes : (s.removePodPhysics id).meshes = s.meshes := by
  unfold PodScene.removePodPhysics
  split <;> rfl

theorem removePodPhysics_get (other : String) :
    (s.removePodPhysics id).podPhysicsById.get other =
      if other = id then none else s.podPhysicsById.get other := by
  unfold PodScene.removePodPhysics
  split
  · rename_i absent
    split
    · rename_i same
      rw [same, absent]
    · rfl
  · exact JSMap.get_delete

theorem removePodPhysics_inverse (inverse : Inverse s) : Inverse (s.removePodPhysics id) := by
  intro handle other
  rw [removePodPhysics_get]
  unfold PodScene.removePodPhysics
  split
  · rename_i absent
    rw [inverse]
    split
    · rename_i same
      rw [same, absent]
    · rfl
  · rename_i gone found
    have owned : s.podIdByColliderHandle.get gone.handle = some id :=
      (inverse gone.handle id).mpr ⟨gone, found, rfl⟩
    dsimp only
    rw [JSMap.get_delete]
    by_cases same : handle = gone.handle
    · -- the handle was that of the pod removed, and no other pod has it
      rw [if_pos same]
      by_cases it : other = id
      · simp [it]
      · rw [if_neg it, ← inverse, same, owned]
        simp [Ne.symm it]
    · rw [if_neg same, inverse]
      by_cases it : other = id
      · simp [it, found, Ne.symm same]
      · rw [if_neg it]

theorem living_drop (living : Living s) (found : s.meshById.get id = some entry) :
    Living (s.dropPod id entry) := by
  constructor
  · intro other
    simp only [PodScene.dropPod, PodScene.recyclePodEntry, removePodPhysics_get,
      removePodPhysics_physicsWorld, removePodPhysics_meshById, JSMap.get_delete]
    split
    · simp
    · exact living.covered other
  · exact removePodPhysics_inverse (s := { s with meshById := s.meshById.delete id })
      living.inverse
  · have moved : ((s.meshById.delete id).values ++ (s.podMeshCache ++ [entry])).Perm
        (s.meshById.values ++ s.podMeshCache) := by
      have taken := (JSMap.values_delete found).append_right s.podMeshCache
      rw [← List.append_assoc]
      exact (List.perm_append_singleton _ _).trans taken.symm
    simp only [PodScene.places, PodScene.dropPod, PodScene.recyclePodEntry,
      removePodPhysics_meshById, removePodPhysics_podMeshCache, removePodPhysics_meshes]
    exact (moved.map _).trans living.once

theorem removePodEntry_same : SamePods ((s.releaseOwner id).dropPod id entry)
    (s.removePodEntry id entry) := by
  have disowned (t : PodScene) : SamePods (t.recyclePodEntry entry)
      (((PodScene.clearPalmContactsBySlaveId
        { t with podGrabOwnerById := t.podGrabOwnerById.delete id } id).forgetCandidate
        id).recyclePodEntry entry) := .aside ..
  exact disowned _

theorem removePodEntry_living (living : Living s) (found : s.meshById.get id = some entry) :
    Living (s.removePodEntry id entry) := by
  have released : Living (s.releaseOwner id) := living.same (releaseOwner_same id)
  rw [← (releaseOwner_same id).meshById] at found
  exact (living_drop released found).same removePodEntry_same

theorem removePodEntry_meshById :
    (s.removePodEntry id entry).meshById = s.meshById.delete id := by
  rw [removePodEntry_same.meshById, PodScene.dropPod, PodScene.recyclePodEntry,
    removePodPhysics_meshById, (releaseOwner_same id).meshById]

@[simp] theorem createPodPhysics_meshById :
    (s.createPodPhysics engine id).meshById = s.meshById := by
  unfold PodScene.createPodPhysics
  split <;> rfl

@[simp] theorem createPodPhysics_physicsWorld :
    (s.createPodPhysics engine id).physicsWorld = s.physicsWorld := by
  unfold PodScene.createPodPhysics
  split <;> rfl

@[simp] theorem createPodPhysics_places : (s.createPodPhysics engine id).places = s.places := by
  unfold PodScene.createPodPhysics
  split <;> rfl

@[simp] theorem createPodPhysics_meshes : (s.createPodPhysics engine id).meshes = s.meshes := by
  unfold PodScene.createPodPhysics
  split <;> rfl

theorem createPodPhysics_isSome (other : String) :
    ((s.createPodPhysics engine id).podPhysicsById.get other).isSome =
      ((s.podPhysicsById.get other).isSome || s.physicsWorld && decide (other = id)) := by
  unfold PodScene.createPodPhysics
  split
  · rename_i left_out
    simp only [Bool.or_eq_true, Bool.not_eq_true', JSMap.has] at left_out
    by_cases it : other = id
    · rcases left_out with no_world | there
      · simp [no_world]
      · simp [it, there]
    · simp [it]
  · rename_i made
    simp only [Bool.or_eq_true, Bool.not_eq_true', not_or, Bool.not_eq_false] at made
    dsimp only
    rw [JSMap.get_set]
    split
    · rename_i it
      simp [it, made.1]
    · rename_i it
      simp [it]

theorem createPodPhysics_inverse (inverse : Inverse s) :
    Inverse (s.createPodPhysics engine id) := by
  unfold PodScene.createPodPhysics
  split
  · exact inverse
  · rename_i made
    simp only [Bool.or_eq_true, not_or, JSMap.has, Bool.not_eq_true, Option.isSome_eq_false_iff,
      Option.isNone_iff_eq_none] at made
    have fresh := engine.fresh s.colliders (s.podPhysicsById.values.map PodPhysicsEntry.handle)
    intro handle other
    dsimp only
    generalize engine.handle s.colliders (s.podPhysicsById.values.map PodPhysicsEntry.handle) =
      new at fresh
    -- a handle of an existing collider is not the new one
    have others : ∀ e, s.podPhysicsById.get other = some e → e.handle ≠ new := by
      rintro e found rfl
      exact fresh (List.mem_map_of_mem (List.mem_map_of_mem (JSMap.get_eq_some.mp found)))
    rw [JSMap.get_set, JSMap.get_set]
    by_cases same : handle = new
    · subst same
      by_cases it : other = id
      · simp [it]
      · rw [if_pos rfl, if_neg it]
        constructor
        · intro equal
          exact absurd (Option.some.inj equal).symm it
        · rintro ⟨e, found, equal⟩
          exact absurd equal (others e found)
    · rw [if_neg same, inverse]
      by_cases it : other = id
      · subst it
        simp [made.2, Ne.symm same]
      · rw [if_neg it]

theorem createPodMesh_get (other : String) : ((s.createPodMesh id).meshById.get other).isSome =
    ((s.meshById.get other).isSome || decide (other = id)) := by
  unfold PodScene.createPodMesh
  split
  all_goals
    dsimp only
    rw [JSMap.get_set]
    split
    · rename_i it
      simp [it]
    · rename_i it
      simp [it]

theorem createPodMesh_once (new : s.meshById.get id = none)
    (once : s.places.Perm (List.range s.meshes)) :
    (s.createPodMesh id).places.Perm (List.range (s.createPodMesh id).meshes) := by
  unfold PodScene.createPodMesh
  split
  · rename_i cached last
    have pool : s.podMeshCache.dropLast ++ [cached] = s.podMeshCache :=
      List.dropLast_append_getLast? cached last
    refine List.Perm.trans ?_ once
    rw [PodScene.places, PodScene.places, JSMap.values_set_new new, List.append_assoc]
    apply List.Perm.map
    apply List.Perm.append_left
    exact List.perm_append_comm.trans (.of_eq pool)
  · rw [PodScene.places, JSMap.values_set_new new, List.range_succ]
    have made (e : PodMeshEntry) : (s.meshById.values ++ [e] ++ s.podMeshCache).Perm
        (s.meshById.values ++ s.podMeshCache ++ [e]) := by
      rw [List.append_assoc, List.append_assoc]
      exact List.perm_append_comm.append_left _
    refine ((made _).map _).trans ?_
    rw [List.map_append]
    exact once.append_right _

theorem createPodMesh_rest (id : String) :
    (s.createPodMesh id).podPhysicsById = s.podPhysicsById ∧
    (s.createPodMesh id).podIdByColliderHandle = s.podIdByColliderHandle ∧
    (s.createPodMesh id).physicsWorld = s.physicsWorld := by
  unfold PodScene.createPodMesh
  split <;> exact ⟨rfl, rfl, rfl⟩

theorem spawn_living (living : Living s) (new : s.meshById.get id = none) :
    Living ((s.createPodMesh id).createPodPhysics engine id) := by
  obtain ⟨physics, handles, world⟩ := createPodMesh_rest (s := s) id
  constructor
  · intro other
    rw [createPodPhysics_isSome, createPodPhysics_physicsWorld, createPodPhysics_meshById,
      createPodMesh_get, physics, world, living.covered, Bool.and_or_distrib_left]
  · apply createPodPhysics_inverse
    unfold Inverse
    rw [physics, handles]
    exact living.inverse
  · rw [createPodPhysics_places, createPodPhysics_meshes]
    exact createPodMesh_once new living.once

theorem createPodPhysics_living (living : Living s) (there : s.meshById.get id = some entry) :
    Living (s.createPodPhysics engine id) := by
  constructor
  · intro other
    rw [createPodPhysics_isSome, createPodPhysics_physicsWorld, createPodPhysics_meshById,
      living.covered]
    by_cases it : other = id
    · simp [it, there]
    · simp [it]
  · exact createPodPhysics_inverse living.inverse
  · rw [createPodPhysics_places, createPodPhysics_meshes]
    exact living.once

theorem status_living (living : Living s) (there : s.meshById.get id = some entry)
    (status : Option SlaveStatus) :
    Living { s with meshById := s.meshById.set id { entry with status } } := by
  constructor
  · intro other
    dsimp only
    rw [living.covered, JSMap.get_set]
    split
    · rename_i it
      simp [it, there]
    · rfl
  · exact living.inverse
  · have numbers := JSMap.map_values_set_old (v := { entry with status }) there
      PodMeshEntry.number rfl
    rw [PodScene.places, List.map_append, numbers, ← List.map_append]
    exact living.once

variable {eliminated : List String}

/-- What the second loop of update does for one pod, by whether the pod is shown. -/
inductive PodUpdate (engine : Engine) (s : PodScene) (id : String) (status : SlaveStatus) :
    Bool → PodScene → Prop
  | spawned {t : PodScene} {entry : PodMeshEntry} (new : s.meshById.get id = none)
      (made : t = (s.createPodMesh id).createPodPhysics engine id)
      (there : t.meshById.get id = some entry) : PodUpdate engine s id status true
        { t with meshById := t.meshById.set id { entry with status := some status } }
  | kept {t : PodScene} {entry : PodMeshEntry} (old : s.meshById.get id = some entry)
      (made : t = s.createPodPhysics engine id) (there : t.meshById.get id = some entry) :
      PodUpdate engine s id status true
        { t with meshById := t.meshById.set id { entry with status := some status } }
  | removed {entry : PodMeshEntry} (old : s.meshById.get id = some entry) :
      PodUpdate engine s id status false (s.removePodEntry id entry)
  | absent (new : s.meshById.get id = none) : PodUpdate engine s id status false s

theorem updatePod_does (engine : Engine) (s : PodScene) (eliminated : List String)
    (pod : Frontend.SlaveState) : PodUpdate engine s pod.slaveID pod.status
      (PodScene.isActive eliminated pod) (s.updatePod engine eliminated pod) := by
  unfold PodScene.updatePod
  split
  · rename_i active
    rw [active]
    cases found : s.meshById.get pod.slaveID with
    | none =>
      have shown : (((s.createPodMesh pod.slaveID).createPodPhysics engine
          pod.slaveID).meshById.get pod.slaveID).isSome = true := by
        rw [createPodPhysics_meshById, createPodMesh_get]
        simp
      obtain ⟨entry, there⟩ := Option.isSome_iff_exists.mp shown
      simp only [there]
      exact .spawned found rfl there
    | some entry =>
      have there : (s.createPodPhysics engine pod.slaveID).meshById.get pod.slaveID =
          some entry := by
        rw [createPodPhysics_meshById]
        exact found
      simp only [there]
      exact .kept found rfl there
  · rename_i inactive
    rw [Bool.not_eq_true] at inactive
    rw [inactive]
    split
    · rename_i entry found
      exact .removed found
    · rename_i found
      exact .absent found

theorem updatePod_living (living : Living s) (pod : Frontend.SlaveState) :
    Living (s.updatePod engine eliminated pod) := by
  have does := updatePod_does engine s eliminated pod
  generalize s.updatePod engine eliminated pod = t at does
  generalize PodScene.isActive eliminated pod = active at does
  cases does with
  | spawned new made there =>
    subst made
    exact status_living (spawn_living living new) there _
  | kept old made there =>
    subst made
    exact status_living (createPodPhysics_living living old) there _
  | removed old => exact removePodEntry_living living old
  | absent new => exact living

theorem status_mesh (there : s.meshById.get id = some entry) (status : Option SlaveStatus)
    (other : String) : ((s.meshById.set id { entry with status }).get other).isSome =
      (s.meshById.get other).isSome := by
  rw [JSMap.get_set]
  split
  · rename_i it
    rw [it, there, Option.isSome_some, Option.isSome_some]
  · rfl

theorem updatePod_mesh (pod : Frontend.SlaveState) (other : String) :
    ((s.updatePod engine eliminated pod).meshById.get other).isSome =
      if other = pod.slaveID then PodScene.isActive eliminated pod
      else (s.meshById.get other).isSome := by
  have does := updatePod_does engine s eliminated pod
  generalize s.updatePod engine eliminated pod = t at does
  generalize PodScene.isActive eliminated pod = active at does
  cases does with
  | spawned new made there =>
    subst made
    dsimp only
    rw [status_mesh there, createPodPhysics_meshById, createPodMesh_get]
    by_cases it : other = pod.slaveID
    · simp [it]
    · simp [it]
  | kept old made there =>
    subst made
    dsimp only
    rw [status_mesh there, createPodPhysics_meshById]
    split
    · rename_i it
      rw [it, old, Option.isSome_some]
    · rfl
  | removed old =>
    rw [removePodEntry_meshById, JSMap.get_delete]
    split
    · rfl
    · rfl
  | absent new =>
    split
    · rename_i it
      rw [it, new, Option.isSome_none]
    · rfl

end Structure

section Update

variable {engine : Engine} {s : PodScene} {eliminated : List String}

/-- The entries left to visit are still there. -/
theorem removeInactive_fold (active : List String) {entries : List (String × PodMeshEntry)}
    (distinct : (entries.map Prod.fst).Nodup)
    (there : ∀ e ∈ entries, s.meshById.get e.1 = some e.2) (living : Living s) :
    let t := entries.foldl (fun s e =>
      if active.contains e.1 then s else s.removePodEntry e.1 e.2) s
    Living t ∧ ∀ id, (t.meshById.get id).isSome ↔
      (s.meshById.get id).isSome ∧ (id ∈ active ∨ id ∉ entries.map Prod.fst) := by
  induction entries generalizing s with
  | nil => exact ⟨living, fun id => by simp⟩
  | cons e rest ih =>
    rw [List.map_cons, List.nodup_cons] at distinct
    have here : s.meshById.get e.1 = some e.2 := there e List.mem_cons_self
    have later : ∀ f ∈ rest, s.meshById.get f.1 = some f.2 := fun f inside =>
      there f (List.mem_cons_of_mem e inside)
    rw [List.foldl_cons]
    by_cases kept : e.1 ∈ active
    · rw [if_pos (List.contains_iff_mem.mpr kept)]
      obtain ⟨after, shown⟩ := ih distinct.2 later living
      refine ⟨after, fun id => ?_⟩
      rw [shown, List.map_cons, List.mem_cons]
      by_cases it : id = e.1
      · simp [it, kept]
      · simp [it]
    · rw [if_neg fun active => kept (List.contains_iff_mem.mp active)]
      have others : ∀ f ∈ rest, (s.removePodEntry e.1 e.2).meshById.get f.1 = some f.2 := by
        intro f inside
        rw [removePodEntry_meshById, JSMap.get_delete_ne, later f inside]
        intro same
        exact distinct.1 (List.mem_map.mpr ⟨f, inside, same⟩)
      obtain ⟨after, shown⟩ := ih distinct.2 others (removePodEntry_living living here)
      refine ⟨after, fun id => ?_⟩
      rw [shown, removePodEntry_meshById, JSMap.get_delete, List.map_cons, List.mem_cons]
      by_cases it : id = e.1
      · simp [it, kept]
      · simp [it]

theorem removeInactive_living (active : List String) (living : Living s) :
    Living (s.removeInactive active) ∧ ∀ id, ((s.removeInactive active).meshById.get id).isSome →
      id ∈ active := by
  obtain ⟨after, shown⟩ := removeInactive_fold active s.meshById.distinct
    (fun e inside => JSMap.get_eq_some.mpr inside) living
  refine ⟨after, fun id there => ?_⟩
  obtain ⟨before, member | absent⟩ := (shown id).mp there
  · exact member
  · rw [Option.isSome_iff_ne_none] at before
    exact absurd (JSMap.get_eq_none.mpr absent) before

theorem updatePods_fold (engine : Engine) (eliminated : List String)
    {pods : List Frontend.SlaveState}
    (distinct : (pods.map Frontend.SlaveState.slaveID).Nodup) (living : Living s) :
    let t := pods.foldl (fun s pod => s.updatePod engine eliminated pod) s
    Living t ∧ ∀ id, (t.meshById.get id).isSome ↔
      (∃ pod ∈ pods, pod.slaveID = id ∧ PodScene.isActive eliminated pod) ∨
        (s.meshById.get id).isSome ∧ id ∉ pods.map Frontend.SlaveState.slaveID := by
  induction pods generalizing s with
  | nil => exact ⟨living, fun id => by simp⟩
  | cons pod rest ih =>
    rw [List.map_cons, List.nodup_cons] at distinct
    obtain ⟨after, shown⟩ := ih distinct.2 (updatePod_living living pod)
    refine ⟨after, fun id => ?_⟩
    rw [List.foldl_cons, shown, updatePod_mesh, List.map_cons, List.mem_cons]
    by_cases it : id = pod.slaveID
    · subst it
      have alone : ¬ ∃ other ∈ rest, other.slaveID = pod.slaveID ∧
          PodScene.isActive eliminated other = true := by
        rintro ⟨other, inside, same, _⟩
        exact distinct.1 (List.mem_map.mpr ⟨other, inside, same⟩)
      simp [distinct.1, alone]
    · simp [it, Ne.symm it]

theorem update_living {pods : List Frontend.SlaveState}
    (distinct : (pods.map Frontend.SlaveState.slaveID).Nodup) (living : Living s) :
    Living (s.update engine pods eliminated) ∧
      ∀ id, ((s.update engine pods eliminated).meshById.get id).isSome ↔
        ∃ pod ∈ pods, pod.slaveID = id ∧ PodScene.isActive eliminated pod := by
  obtain ⟨cleared, left⟩ := removeInactive_living
    ((pods.filter (PodScene.isActive eliminated)).map Frontend.SlaveState.slaveID) living
  obtain ⟨after, shown⟩ := updatePods_fold engine eliminated distinct cleared
  refine ⟨after, fun id => (shown id).trans (or_iff_left ?_)⟩
  rintro ⟨there, absent⟩
  obtain ⟨pod, active, rfl⟩ := List.mem_map.mp (left id there)
  exact absent (List.mem_map_of_mem (List.mem_filter.mp active).1)

theorem createPods_inverse (entries : List (String × PodMeshEntry)) (inverse : Inverse s) :
    Inverse (entries.foldl (fun s e => s.createPodPhysics engine e.1) s) := by
  induction entries generalizing s with
  | nil => exact inverse
  | cons e rest ih => exact ih (createPodPhysics_inverse inverse)

theorem createPods_rest (engine : Engine) (entries : List (String × PodMeshEntry)) :
    let t := entries.foldl (fun s e => s.createPodPhysics engine e.1) s
    t.meshById = s.meshById ∧ t.places = s.places ∧ t.meshes = s.meshes ∧
      t.physicsWorld = s.physicsWorld := by
  induction entries generalizing s with
  | nil => exact ⟨rfl, rfl, rfl, rfl⟩
  | cons e rest ih =>
    obtain ⟨meshById, places, meshes, world⟩ := ih (s := s.createPodPhysics engine e.1)
    rw [createPodPhysics_meshById] at meshById
    rw [createPodPhysics_places] at places
    rw [createPodPhysics_meshes] at meshes
    rw [createPodPhysics_physicsWorld] at world
    exact ⟨meshById, places, meshes, world⟩

theorem createPods_isSome (entries : List (String × PodMeshEntry)) (id : String) :
    ((entries.foldl (fun s e => s.createPodPhysics engine e.1) s).podPhysicsById.get id).isSome ↔
      (s.podPhysicsById.get id).isSome ∨ s.physicsWorld ∧ id ∈ entries.map Prod.fst := by
  induction entries generalizing s with
  | nil => simp
  | cons e rest ih =>
    rw [List.foldl_cons, ih, createPodPhysics_isSome, createPodPhysics_physicsWorld,
      List.map_cons, List.mem_cons, Bool.or_eq_true, Bool.and_eq_true, decide_eq_true_iff, or_assoc,
      and_or_left]

/-- What initializePhysics gives the pods their physics in. -/
def PodScene.withWorld (s : PodScene) : PodScene :=
  ({ s with physicsWorld := true }.ensureHandPhysics .left).ensureHandPhysics .right

theorem withWorld_same : SamePods { s with physicsWorld := true } s.withWorld :=
  (ensureHandPhysics_same .left).trans (ensureHandPhysics_same .right)

theorem initializePhysics_meshById : (s.initializePhysics engine).meshById = s.meshById := by
  unfold PodScene.initializePhysics
  split
  · rfl
  · exact (createPods_rest engine _).1.trans withWorld_same.meshById

theorem initializePhysics_living (living : Living s) : Living (s.initializePhysics engine) := by
  unfold PodScene.initializePhysics
  split
  · exact living
  · rename_i no_world
    rw [Bool.not_eq_true] at no_world
    have before (id : String) : s.podPhysicsById.get id = none := by
      have covered := living.covered id
      rw [no_world, Bool.false_and] at covered
      exact Option.not_isSome_iff_eq_none.mp (Bool.eq_false_iff.mp covered)
    have hands := withWorld_same (s := s)
    have bare (id : String) : s.withWorld.podPhysicsById.get id = none := by
      rw [← Option.map_eq_none_iff, hands.handles, Option.map_eq_none_iff]
      exact before id
    have begun : Inverse s.withWorld := by
      intro handle id
      rw [hands.podIdByColliderHandle, bare, ← before id]
      exact living.inverse handle id
    change Living (s.withWorld.meshById.entries.foldl
      (fun s e => s.createPodPhysics engine e.1) s.withWorld)
    generalize s.withWorld = t at hands bare begun
    obtain ⟨meshById, places, meshes, world⟩ :=
      createPods_rest (s := t) engine t.meshById.entries
    constructor
    · intro id
      have key : id ∈ t.meshById.entries.map Prod.fst ↔ (t.meshById.get id).isSome = true := by
        rw [Option.isSome_iff_exists]
        exact JSMap.mem_keys
      rw [Bool.eq_iff_iff, createPods_isSome, bare, key, world, meshById, hands.physicsWorld]
      simp
    · exact createPods_inverse _ begun
    · rw [places, meshes, PodScene.places, hands.meshById, hands.podMeshCache, hands.meshes]
      exact living.once

theorem recycle_fold (entries : List PodMeshEntry) :
    entries.foldl (fun s entry => s.recyclePodEntry entry) s =
      { s with podMeshCache := s.podMeshCache ++ entries } := by
  induction entries generalizing s with
  | nil => rw [List.append_nil, List.foldl_nil]
  | cons entry rest ih =>
    rw [List.foldl_cons, ih, PodScene.recyclePodEntry, List.append_assoc, List.singleton_append]

theorem removePods_get (ids : List String) (id : String) :
    (ids.foldl (fun s podId => s.removePodPhysics podId) s).podPhysicsById.get id =
      if id ∈ ids then none else s.podPhysicsById.get id := by
  induction ids generalizing s with
  | nil => rfl
  | cons first rest ih =>
    rw [List.foldl_cons, ih, removePodPhysics_get]
    by_cases it : id = first
    · simp [it]
    · simp [it]

theorem removePods_inverse (ids : List String) (inverse : Inverse s) :
    Inverse (ids.foldl (fun s podId => s.removePodPhysics podId) s) := by
  induction ids generalizing s with
  | nil => exact inverse
  | cons first rest ih => exact ih (removePodPhysics_inverse inverse)

theorem removePods_rest (ids : List String) :
    let t := ids.foldl (fun s podId => s.removePodPhysics podId) s
    t.meshById = s.meshById ∧ t.podMeshCache = s.podMeshCache ∧ t.meshes = s.meshes := by
  induction ids generalizing s with
  | nil => exact ⟨rfl, rfl, rfl⟩
  | cons first rest ih =>
    obtain ⟨meshById, pool, meshes⟩ := ih (s := s.removePodPhysics first)
    rw [removePodPhysics_meshById] at meshById
    rw [removePodPhysics_podMeshCache] at pool
    rw [removePodPhysics_meshes] at meshes
    exact ⟨meshById, pool, meshes⟩

theorem empty_living (pods : List PodMeshEntry) (once : (pods.map PodMeshEntry.number).Perm
    (List.range s.meshes)) (shown : s.meshById.entries = []) (pool : s.podMeshCache.Perm pods)
    (bare : ∀ id, s.podPhysicsById.get id = none) (inverse : Inverse s) : Living s := by
  constructor
  · intro id
    rw [bare, JSMap.get, shown]
    simp
  · exact inverse
  · rw [PodScene.places, JSMap.values, shown]
    exact (pool.map _).trans once

/-- reset, as far as the pods of the field. -/
def PodScene.emptied (s : PodScene) : PodScene :=
  s.podPhysicsById.keys.foldl (fun s podId => s.removePodPhysics podId) { s with
    podMeshCache := s.podMeshCache ++ s.meshById.values
    meshById := s.meshById.clear }

theorem emptied_bare (id : String) : s.emptied.podPhysicsById.get id = none := by
  rw [PodScene.emptied, removePods_get]
  split
  · rfl
  · rename_i absent
    exact JSMap.get_eq_none.mpr absent

theorem emptied_rest : s.emptied.meshById = s.meshById.clear ∧
    s.emptied.podMeshCache = s.podMeshCache ++ s.meshById.values ∧ s.emptied.meshes = s.meshes :=
  removePods_rest _

theorem emptied_living (living : Living s) : Living s.emptied := by
  obtain ⟨meshById, pool, meshes⟩ := emptied_rest (s := s)
  apply empty_living (s.meshById.values ++ s.podMeshCache)
  · rw [meshes]
    exact living.once
  · rw [meshById]
    exact JSMap.entries_clear _
  · rw [pool]
    exact List.perm_append_comm
  · exact emptied_bare
  · exact removePods_inverse _ living.inverse

theorem reset_same : SamePods s.emptied s.reset := by
  have aside (t : PodScene) : SamePods t { t with
      hudSliderActiveHand := none
      tableMoveMode := false
      tableMoveAwaitingConfirmRelease := false
      activePalmContacts := [] } := .aside ..
  have disowned (t : PodScene) : SamePods t
      { t with podGrabOwnerById := t.podGrabOwnerById.clear } :=
    .aside ..
  unfold PodScene.reset
  rw [recycle_fold]
  exact (aside _).trans ((clearBoth_same true).trans (disowned _))

theorem reset_living (living : Living s) : Living s.reset :=
  (emptied_living living).same reset_same

theorem reset_mesh (id : String) : s.reset.meshById.get id = none := by
  rw [reset_same.meshById, emptied_rest.1, JSMap.get_clear]

theorem reset_bare (id : String) : s.reset.podPhysicsById.get id = none := by
  rw [← Option.map_eq_none_iff, reset_same.handles, emptied_bare, Option.map_none]

end Update

section Runs

variable {engine : Engine} {f g : Field}

theorem step_living (living : Living f.scene) {action : FieldAction}
    (taken : (field engine).step f action = some g) : Living g.scene := by
  obtain ⟨pods, eliminated, rfl, distinct, rfl⟩ | reset | physics | same := step_scene taken
  · exact (update_living distinct living).1
  · rw [reset]
    exact reset_living living
  · rw [physics]
    exact initializePhysics_living living
  · exact living.same same

theorem initial_living : Living Field.initial.scene := by
  constructor
  · intro id
    rfl
  · intro handle id
    simp [Field.initial, PodScene.initial]
  · exact .refl _

theorem reachable_living (reached : (field engine).Reachable .initial f) : Living f.scene :=
  reached.invariant (I := fun f => Living f.scene) initial_living
    fun _ _ _ living _ taken => step_living living taken

end Runs

/-- Every update leaves a mesh to the pods that live and to no others; with a world these are the
pods with physics, whose colliders the map of handles knows; and every mesh that was made is
shown once or waits once to be used again. -/
theorem field_shows_living (engine : Engine) {f : Field}
    (reached : (field engine).Reachable .initial f) :
    (∀ pods eliminated, (pods.map Frontend.SlaveState.slaveID).Nodup →
      ∀ id, id ∈ (f.scene.update engine pods eliminated).meshById.keys ↔
        ∃ pod ∈ pods, pod.slaveID = id ∧ pod.status ≠ .gone ∧ id ∉ eliminated) ∧
    (f.scene.physicsWorld = true →
      ∀ id, id ∈ f.scene.podPhysicsById.keys ↔ id ∈ f.scene.meshById.keys) ∧
    (∀ handle id, f.scene.podIdByColliderHandle.get handle = some id ↔
      ∃ e, f.scene.podPhysicsById.get id = some e ∧ e.handle = handle) ∧
    ∀ n < f.scene.meshes,
      ((f.scene.meshById.values ++ f.scene.podMeshCache).map PodMeshEntry.number).count n = 1 := by
  have living := reachable_living reached
  refine ⟨?_, ?_, living.inverse, ?_⟩
  · intro pods eliminated distinct id
    rw [JSMap.mem_keys, ← Option.isSome_iff_exists, (update_living distinct living).2]
    apply exists_congr
    intro pod
    apply and_congr_right
    intro _
    apply and_congr_right
    rintro rfl
    simp [PodScene.isActive]
  · intro world id
    rw [JSMap.mem_keys, JSMap.mem_keys, ← Option.isSome_iff_exists, ← Option.isSome_iff_exists,
      living.covered, world, Bool.true_and]
  · intro n made
    have counted := living.once.count_eq n
    rw [PodScene.places] at counted
    rw [counted, List.nodup_range.count, if_pos (List.mem_range.mpr made)]

/-- Two pods appear before the world does; the one in the hand falls and is eliminated while the
simulation goes on to the other. -/
def fallsFromHand : List FieldAction :=
  [.update [samplePod "a" .live, samplePod "b" .live] [], .initializePhysics,
    .updateWristHud (.leftHand .pinch [1]), .simulate (1 / 72), .visit true,
    .update [samplePod "a" .gone, samplePod "b" .live] ["a"], .visit false]

def oneLeft (f : Field) : Bool :=
  f.scene.physicsWorld && f.scene.meshById.keys == ["b"] && f.scene.podMeshCache.length == 1

theorem field_shows_living_fall : ∃ f, (field .exact).run .initial fallsFromHand = some f ∧
    oneLeft f = true ∧ ∀ id, id ∈ f.scene.podPhysicsById.keys ↔ id ∈ f.scene.meshById.keys := by
  obtain ⟨f, ran, passes⟩ := System.run_passes fallsFromHand oneLeft
    (by decide +kernel : ((field .exact).run .initial fallsFromHand).any oneLeft = true)
  have world : f.scene.physicsWorld = true := by
    simp only [oneLeft, Bool.and_eq_true] at passes
    exact passes.1.1
  exact ⟨f, ran, passes, (field_shows_living .exact (System.run_reachable ran)).2.1 world⟩

end Megalo.Scene
