import Megalo.Cluster.Operations

/-! The slave an event goes to. A container that restarts registers again under a new slave id,
and its old record matches the same pod name. -/
namespace Megalo.Cluster

open Redis

/-- Every record matches the empty target. -/
def matchesTarget (target : String) (state : SlaveState) : Bool :=
  target == "" || state.slaveID == target || state.k8sPodName == target || state.podIP == target

def usable (target : String) (state : SlaveState) : Bool :=
  matchesTarget target state && state.status != .gone

/-- What is asked of the choice: a record that is not GONE where one matches, and an error exactly
where none does. -/
structure ResolvesUsable (target : String) (states : List SlaveState) : Prop where
  prefers : (∃ state ∈ states, usable target state = true) →
    ∃ state ∈ states, resolveTargetSlaveState target states = .ok state ∧
      usable target state = true
  fails : (∃ err, resolveTargetSlaveState target states = .error err) ↔
    ∀ state ∈ states, matchesTarget target state = false

/-- The first record that matches a named target is not GONE, or no usable record matches. -/
def usableFirst (target : String) (states : List SlaveState) : Bool :=
  target == "" || (states.find? (matchesTarget target)).all (fun state => state.status != .gone) ||
    !states.any (usable target)

section Targets

variable {target : String} {states : List SlaveState}

theorem resolve_empty (first : SlaveState) (rest : List SlaveState) :
    resolveTargetSlaveState "" (first :: rest) =
      .ok (((first :: rest).find? (usable "")).getD first) := rfl

theorem resolve_named (named : target ≠ "") : resolveTargetSlaveState target states =
    match states.find? (matchesTarget target) with
    | some state => .ok state
    | none => .error (if states = [] then "no active slave states" else "target slave not found") := by
  have matching : matchesTarget target = fun state =>
      state.slaveID == target || state.k8sPodName == target || state.podIP == target := by
    funext state
    rw [matchesTarget, beq_false_of_ne named, Bool.false_or]
  rw [matching]
  cases states with
  | nil => rfl
  | cons first rest =>
    cases found : (first :: rest).find? (fun state =>
        state.slaveID == target || state.k8sPodName == target || state.podIP == target) with
    | none => simp only [resolveTargetSlaveState, if_neg named, found, reduceCtorEq, if_false]
    | some state => simp only [resolveTargetSlaveState, if_neg named, found]

theorem resolve_fails : (∃ err, resolveTargetSlaveState target states = .error err) ↔
    ∀ state ∈ states, matchesTarget target state = false := by
  by_cases empty : target = ""
  · subst empty
    cases states with
    | nil => exact iff_of_true ⟨_, rfl⟩ fun _ member => absurd member List.not_mem_nil
    | cons first rest =>
      rw [resolve_empty]
      refine iff_of_false ?_ fun none => ?_
      · rintro ⟨err, failed⟩
        cases failed
      · cases none first List.mem_cons_self
  · rw [resolve_named empty]
    cases found : states.find? (matchesTarget target) with
    | none =>
      refine iff_of_true ⟨_, rfl⟩ fun state member => ?_
      simpa using List.find?_eq_none.mp found state member
    | some state =>
      refine iff_of_false ?_ fun none => ?_
      · rintro ⟨err, failed⟩
        cases failed
      · have hit : matchesTarget target state = true := List.find?_some found
        cases hit.symm.trans (none state (List.mem_of_find?_eq_some found))

theorem prefers_empty (some : ∃ state ∈ states, usable "" state = true) :
    ∃ state ∈ states, resolveTargetSlaveState "" states = .ok state ∧ usable "" state = true := by
  obtain ⟨chosen, found⟩ := Option.isSome_iff_exists.mp (List.find?_isSome.mpr some)
  refine ⟨chosen, List.mem_of_find?_eq_some found, ?_, List.find?_some found⟩
  cases states with
  | nil => cases found
  | cons first rest => rw [resolve_empty, found, Option.getD_some]

/-- The records of the controller's choice are resolved as they should be exactly where the
first record that matches a named target is usable or none is. -/
theorem resolves_usable :
    ResolvesUsable target states ↔ usableFirst target states = true := by
  by_cases empty : target = ""
  · subst empty
    exact iff_of_true ⟨prefers_empty, resolve_fails⟩ rfl
  · have other : (target == "") = false := beq_false_of_ne empty
    simp only [usableFirst, other, Bool.false_or]
    cases found : states.find? (matchesTarget target) with
    | none =>
      refine iff_of_true ⟨?_, resolve_fails⟩ rfl
      rintro ⟨state, member, hit⟩
      have miss := List.find?_eq_none.mp found state member
      rw [usable, Bool.and_eq_true] at hit
      exact absurd hit.1 miss
    | some chosen =>
      have resolved : resolveTargetSlaveState target states = .ok chosen := by
        rw [resolve_named empty, found]
      have member := List.mem_of_find?_eq_some found
      have hit : matchesTarget target chosen = true := List.find?_some found
      simp only [Option.all_some, Bool.or_eq_true, Bool.not_eq_true', List.any_eq_false]
      constructor
      · intro resolves
        rw [or_iff_not_imp_right]
        intro some
        push Not at some
        obtain ⟨state, _, same, chosen_usable⟩ := resolves.prefers some
        cases resolved.symm.trans same
        rw [usable, Bool.and_eq_true] at chosen_usable
        exact chosen_usable.2
      · rintro (live | none)
        · refine ⟨fun _ => ⟨chosen, member, resolved, ?_⟩, resolve_fails⟩
          rw [usable, hit, live]
          rfl
        · refine ⟨?_, resolve_fails⟩
          rintro ⟨state, inside, some⟩
          exact absurd some (none state inside)

/-- The records of a pod whose container has restarted, in the order of their keys. -/
def restarted : List SlaveState :=
  [{ SlaveState.sample .gone with slaveID := UUID.sample.text },
    { SlaveState.sample .live with slaveID := UUID.sampleSlave.text }]

theorem resolves_gone : ¬ ResolvesUsable "slave-service-0" restarted := by
  intro resolves
  have live : ∃ state ∈ restarted, usable "slave-service-0" state = true :=
    ⟨_, List.mem_cons_of_mem _ List.mem_cons_self, by decide⟩
  obtain ⟨state, _, resolved, alive⟩ := resolves.prefers live
  have first : resolveTargetSlaveState "slave-service-0" restarted =
      .ok { SlaveState.sample .gone with slaveID := UUID.sample.text } := rfl
  cases first.symm.trans resolved
  exact absurd alive (by decide)

end Targets

end Megalo.Cluster
