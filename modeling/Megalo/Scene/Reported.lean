import Megalo.Scene.Living
import Megalo.Frontend.Report
import Mathlib.Data.List.Dedup
import Mathlib.Data.List.Sort

/-! A death is reported at most once. The tab is the scene, the store and the socket together: a
change of the store updates the scene before the call returns, and a pod that the scene sees fall
or crushed is reported in the middle of a frame. -/
namespace Megalo.Scene

open Transition
open Frontend (StoreOp GameState GameStore ReadyState PodStateUpdate Effect reportPodGone)

/-- The order of the names by localeCompare, as far as toSorted only reorders. -/
structure Locale where
  toSorted : List Frontend.SlaveState → List Frontend.SlaveState
  perm : ∀ pods, (toSorted pods).Perm pods

def getPods (locale : Locale) (state : GameState) : List Frontend.SlaveState :=
  locale.toSorted (state.podsById.entries.map Sigma.snd)

/-- Only the elimination of a pod that is eliminated already returns without emit. -/
def emits (state : GameState) : StoreOp → Bool
  | .markXrPodEliminated slaveId => !state.xrEliminatedPodIds.contains slaveId
  | _ => true

structure Tab where
  store : GameStore
  field : Field
  socket : Option ReadyState
  /-- The messages sent so far. -/
  sent : List PodStateUpdate
  /-- The slave ids taken out of xrEliminatedPodIds so far, each as often as it was. -/
  removed : List String

namespace Tab

variable (engine : Engine) (locale : Locale) (t : Tab)

/-- The listener of the store, as far as the scene. -/
def emit : Tab :=
  { t with field := { t.field with
      scene := t.field.scene.update engine (getPods locale t.store.state)
        t.store.state.xrEliminatedPodIds } }

def call (op : StoreOp) : Tab :=
  let store := t.store.apply op
  let removed := t.store.state.xrEliminatedPodIds.dedup.filter
    (!store.state.xrEliminatedPodIds.contains ·)
  let next := { t with store, removed := t.removed ++ removed }
  if emits t.store.state op then next.emit engine locale else next

def effect : Effect → Tab
  | .store op => t.call engine locale op
  | .send (.ok payload) => { t with sent := t.sent ++ [payload] }
  | .send (.error _) => t
  | .scheduleMetricsRefresh => t

def perform (effects : List Effect) : Tab :=
  effects.foldl (fun t effect => t.effect engine locale effect) t

def initial (xrSupported : Bool) : Tab where
  store := ⟨Frontend.initialState xrSupported, Frontend.keyed_empty⟩
  field := .initial
  socket := none
  sent := []
  removed := []

end Tab

/-- The death that a step of the scene reports: onPodFall and onHit of main.ts. -/
def Field.reports (f : Field) : FieldAction → Option (DeathReason × String)
  | .visit under => match f.phase with
    | .falls i _ => (f.scene.falls i under).map fun slaveId => (.podDown, slaveId)
    | _ => none
  | .hit => match f.phase with
    | .hits (slaveId :: _) => some (.userAction, slaveId)
    | _ => none
  | _ => none

/-- An update of the scene comes with an emit only. -/
def FieldAction.isUpdate : FieldAction → Bool
  | .update _ _ => true
  | _ => false

inductive TabAction
  /-- A task calls the store: a message, a snapshot, a reset, a click in the page. -/
  | call (op : StoreOp)
  | socket (socket : Option ReadyState)
  /-- A step of the scene, and the time at which a death it sees is observed. -/
  | scene (action : FieldAction) (observedAt : String)

def tab (engine : Engine) (locale : Locale) : System Tab TabAction where
  step t
    | .call op => match t.field.phase with
      | .idle => some (t.call engine locale op)
      | _ => none
    | .socket socket => some { t with socket }
    | .scene action observedAt =>
      if action.isUpdate then none
      else ((field engine).step t.field action).map fun next =>
        match t.field.reports action with
        | none => { t with field := next }
        | some (deathReason, slaveId) => { t with field := next }.perform engine locale
            (reportPodGone t.store.state t.socket deathReason (some slaveId) observedAt)

/-- The pods whose crush is complete and not yet reported. -/
def Phase.pending : Phase → List String
  | .idle => []
  | .falls _ completedCrushes => completedCrushes
  | .hits completedCrushes => completedCrushes

/-- Nothing shown is eliminated. -/
def Hidden (t : Tab) : Prop :=
  ∀ id, (t.field.scene.meshById.get id).isSome → id ∉ t.store.state.xrEliminatedPodIds

/-- Messages and removals keep the balance: a pod is hidden while it is eliminated, and it is
eliminated before its death is sent. -/
structure Reported (t : Tab) : Prop where
  hidden : Hidden t
  pending : ∀ id ∈ t.field.phase.pending, id ∉ t.store.state.xrEliminatedPodIds ∨
    ∃ pod, t.store.state.podsById.lookup id = some pod ∧ pod.status = .gone
  once : ∀ id, (t.sent.map PodStateUpdate.slaveID).count id ≤
    t.removed.count id + if id ∈ t.store.state.xrEliminatedPodIds then 1 else 0

section Calls

variable {engine : Engine} {locale : Locale} {t u : Tab} {op : StoreOp}

theorem getPods_distinct (locale : Locale) (store : GameStore) :
    ((getPods locale store.state).map Frontend.SlaveState.slaveID).Nodup := by
  have keys : (store.state.podsById.entries.map Sigma.snd).map Frontend.SlaveState.slaveID =
      store.state.podsById.keys := by
    rw [List.map_map]
    apply List.map_congr_left
    intro e inside
    exact store.keyed e.1 e.2 (AList.mem_lookup_iff.mpr inside)
  rw [getPods, ((locale.perm _).map _).nodup_iff, keys]
  exact store.state.podsById.keys_nodup

@[simp] theorem call_store : (t.call engine locale op).store = t.store.apply op := by
  unfold Tab.call
  dsimp only
  split <;> rfl

@[simp] theorem call_sent : (t.call engine locale op).sent = t.sent := by
  unfold Tab.call
  dsimp only
  split <;> rfl

@[simp] theorem call_phase : (t.call engine locale op).field.phase = t.field.phase := by
  unfold Tab.call
  dsimp only
  split <;> rfl

theorem call_removed : (t.call engine locale op).removed = t.removed ++
    t.store.state.xrEliminatedPodIds.dedup.filter
      (!(t.store.apply op).state.xrEliminatedPodIds.contains ·) := by
  unfold Tab.call
  dsimp only
  split <;> rfl

theorem count_removed (old new : List String) (id : String) :
    (old.dedup.filter (!new.contains ·)).count id = if id ∈ old ∧ id ∉ new then 1 else 0 := by
  have distinct : (old.dedup.filter (!new.contains ·)).Nodup := (List.nodup_dedup old).filter _
  have member : id ∈ old.dedup.filter (!new.contains ·) ↔ id ∈ old ∧ id ∉ new := by
    rw [List.mem_filter, List.mem_dedup]
    simp
  rw [distinct.count]
  simp only [member]

/-- A call only updates the field. -/
theorem call_reaches :
    (field engine).Reachable t.field (t.call engine locale op).field := by
  unfold Tab.call
  dsimp only
  split
  · apply System.ReachableVia.step .start trivial
      (a := .update (getPods locale (t.store.apply op).state)
        (t.store.apply op).state.xrEliminatedPodIds)
    simp only [field, if_pos (getPods_distinct locale (t.store.apply op))]
    rfl
  · exact .start

theorem effect_reaches (effect : Effect) :
    (field engine).Reachable t.field (t.effect engine locale effect).field := by
  cases effect with
  | store op => exact call_reaches
  | send result =>
    cases result with
    | error message => exact .start
    | ok payload => exact .start
  | scheduleMetricsRefresh => exact .start

theorem perform_reaches (effects : List Effect) :
    (field engine).Reachable t.field (t.perform engine locale effects).field := by
  induction effects generalizing t with
  | nil => exact .start
  | cons effect rest ih =>
    exact (effect_reaches effect).trans (ih (t := t.effect engine locale effect))

theorem tab_cases {action : TabAction} (taken : (tab engine locale).step t action = some u) :
    (∃ op, t.field.phase = .idle ∧ u = t.call engine locale op) ∨
    (∃ socket, u = { t with socket }) ∨
    ∃ action observedAt next, action.isUpdate = false ∧
      (field engine).step t.field action = some next ∧
      (t.field.reports action = none ∧ u = { t with field := next } ∨
        ∃ deathReason slaveId, t.field.reports action = some (deathReason, slaveId) ∧
          u = { t with field := next }.perform engine locale
            (reportPodGone t.store.state t.socket deathReason (some slaveId) observedAt)) := by
  cases action with
  | call op =>
    simp only [tab] at taken
    split at taken
    · rename_i idle
      exact .inl ⟨op, idle, (Option.some.inj taken).symm⟩
    · cases taken
  | socket socket => exact .inr (.inl ⟨socket, (Option.some.inj taken).symm⟩)
  | scene action observedAt =>
    simp only [tab] at taken
    split at taken
    · cases taken
    · rename_i other
      rw [Bool.not_eq_true] at other
      obtain ⟨next, moved, same⟩ := Option.map_eq_some_iff.mp taken
      refine .inr (.inr ⟨action, observedAt, next, other, moved, ?_⟩)
      cases report : t.field.reports action with
      | none =>
        simp only [report] at same
        exact .inl ⟨rfl, same.symm⟩
      | some death =>
        simp only [report] at same
        exact .inr ⟨death.1, death.2, rfl, same.symm⟩

/-- What the scene does in the tab it can do by itself. -/
theorem tab_field {xrSupported : Bool}
    (reached : (tab engine locale).Reachable (.initial xrSupported) t) :
    (field engine).Reachable .initial t.field := by
  induction reached with
  | start => exact .start
  | @step before _ _ _ _ taken ih =>
    obtain ⟨op, -, rfl⟩ | ⟨socket, rfl⟩ | ⟨action, observedAt, next, -, moved, other⟩ :=
      tab_cases taken
    · exact ih.trans call_reaches
    · exact ih
    · have stepped := System.ReachableVia.step ih trivial moved
      obtain ⟨-, rfl⟩ | ⟨deathReason, slaveId, -, rfl⟩ := other
      · exact stepped
      · exact stepped.trans (perform_reaches (t := { before with field := next }) _)

theorem tab_living {xrSupported : Bool}
    (reached : (tab engine locale).Reachable (.initial xrSupported) t) : Living t.field.scene :=
  reachable_living (tab_field reached)

theorem call_hidden (living : Living t.field.scene) (hidden : Hidden t) :
    Hidden (t.call engine locale op) := by
  intro id shown
  rw [call_store]
  unfold Tab.call at shown
  dsimp only at shown
  split at shown
  · obtain ⟨pod, _, rfl, active⟩ := ((update_living (getPods_distinct locale (t.store.apply op))
      living).2 id).mp shown
    simp only [PodScene.isActive, Bool.and_eq_true, Bool.not_eq_true', List.contains_eq_mem,
      decide_eq_false_iff_not] at active
    exact active.2
  · rename_i silent
    -- the pod was eliminated before, and the store is what it was
    cases op with
    | markXrPodEliminated slaveId =>
      simp only [emits, Bool.not_eq_true', Bool.not_eq_false, List.contains_iff_mem] at silent
      have same : (t.store.apply (.markXrPodEliminated slaveId)).state.xrEliminatedPodIds =
          t.store.state.xrEliminatedPodIds := by
        simp only [GameStore.apply, StoreOp.apply, GameState.markXrPodEliminated, if_pos silent]
      rw [same]
      exact hidden id shown
    | _ => exact absurd rfl silent

theorem call_living (living : Living t.field.scene) :
    Living (t.call engine locale op).field.scene := by
  unfold Tab.call
  dsimp only
  split
  · exact (update_living (getPods_distinct locale (t.store.apply op)) living).1
  · exact living

theorem perform_hidden (effects : List Effect) (living : Living t.field.scene)
    (hidden : Hidden t) : Hidden (t.perform engine locale effects) := by
  induction effects generalizing t with
  | nil => exact hidden
  | cons effect rest ih =>
    cases effect with
    | store op =>
      exact ih (t := t.call engine locale op) (call_living living) (call_hidden living hidden)
    | send result =>
      cases result with
      | error message => exact ih (t := t) living hidden
      | ok payload => exact ih (t := { t with sent := t.sent ++ [payload] }) living hidden
    | scheduleMetricsRefresh => exact ih (t := t) living hidden

theorem perform_store (effects : List Effect) :
    (t.perform engine locale effects).store = t.store.after effects := by
  induction effects generalizing t with
  | nil => rfl
  | cons effect rest ih =>
    refine (ih (t := t.effect engine locale effect)).trans ?_
    cases effect with
    | store op =>
      simp only [Tab.effect, call_store]
      rfl
    | send result => cases result <;> rfl
    | scheduleMetricsRefresh => rfl

theorem perform_phase (effects : List Effect) :
    (t.perform engine locale effects).field.phase = t.field.phase := by
  induction effects generalizing t with
  | nil => rfl
  | cons effect rest ih =>
    refine (ih (t := t.effect engine locale effect)).trans ?_
    cases effect with
    | store op => exact call_phase
    | send result => cases result <;> rfl
    | scheduleMetricsRefresh => rfl

/-- The message that an effect sends. -/
def message : Effect → Option PodStateUpdate
  | .send (.ok payload) => some payload
  | _ => none

theorem perform_sent (effects : List Effect) :
    (t.perform engine locale effects).sent = t.sent ++ effects.filterMap message := by
  induction effects generalizing t with
  | nil => exact (List.append_nil _).symm
  | cons effect rest ih =>
    refine (ih (t := t.effect engine locale effect)).trans ?_
    cases effect with
    | store op =>
      simp only [Tab.effect, call_sent]
      rfl
    | send result =>
      cases result with
      | error message => rfl
      | ok payload =>
        simp only [Tab.effect, List.append_assoc]
        rfl
    | scheduleMetricsRefresh => rfl

/-- No call of the list takes a pod out of those eliminated. -/
def OnlyEliminates (effects : List Effect) : Prop := ∀ op, .store op ∈ effects →
  ∀ state : GameState, state.xrEliminatedPodIds ⊆ (op.apply state).xrEliminatedPodIds

theorem perform_removed {effects : List Effect} (grows : OnlyEliminates effects) :
    (t.perform engine locale effects).removed = t.removed := by
  induction effects generalizing t with
  | nil => rfl
  | cons effect rest ih =>
    have later : OnlyEliminates rest := fun op inside => grows op (.tail _ inside)
    refine (ih later (t := t.effect engine locale effect)).trans ?_
    cases effect with
    | store op =>
      have none_left : t.store.state.xrEliminatedPodIds.dedup.filter
          (!(t.store.apply op).state.xrEliminatedPodIds.contains ·) = [] := by
        apply List.filter_eq_nil_iff.mpr
        intro id before
        have after : id ∈ (t.store.apply op).state.xrEliminatedPodIds :=
          grows op List.mem_cons_self t.store.state (List.mem_dedup.mp before)
        simpa using after
      exact call_removed.trans (by rw [none_left, List.append_nil])
    | send result => cases result <;> rfl
    | scheduleMetricsRefresh => rfl

/-- While the scene is idle every call of the store keeps the balance. -/
theorem call_reported (living : Living t.field.scene) (reported : Reported t)
    (idle : t.field.phase = .idle) : Reported (t.call engine locale op) := by
  constructor
  · exact call_hidden living reported.hidden
  · intro id waiting
    rw [call_phase, idle] at waiting
    cases waiting
  · intro id
    have before := reported.once id
    rw [call_sent, call_removed, call_store, List.count_append, count_removed]
    -- a removal is counted when it takes the message's place
    by_cases was : id ∈ t.store.state.xrEliminatedPodIds
    · rw [if_pos was] at before
      by_cases still : id ∈ (t.store.apply op).state.xrEliminatedPodIds
      · rw [if_pos still]
        omega
      · rw [if_pos ⟨was, still⟩, if_neg still]
        exact before
    · rw [if_neg was] at before
      omega

end Calls

section Reports

variable {session : Frontend.SessionMeta} {ready : ReadyState} {targetId : String}
  {pod : Frontend.SlaveState} {deathReason : DeathReason} {observedAt : String}

theorem report_only_eliminates : OnlyEliminates
    (Frontend.report session ready targetId pod deathReason observedAt) := by
  have marks (state : GameState) : state.xrEliminatedPodIds ⊆
      (state.markXrPodEliminated targetId).xrEliminatedPodIds := fun id before =>
    Frontend.mem_markXrPodEliminated.mpr (.inl before)
  have upserts (state : GameState) : state.xrEliminatedPodIds ⊆ (state.upsertPod
      (Frontend.goneRecord pod deathReason observedAt)).xrEliminatedPodIds := by
    rw [Frontend.upsertPod_gone rfl]
    exact fun _ => id
  intro op inside state
  unfold Frontend.report at inside
  dsimp only at inside
  split at inside
  all_goals
    simp only [List.mem_append, List.mem_cons, List.not_mem_nil, or_false, reduceCtorEq,
      Effect.store.injEq] at inside
    obtain ((rfl | rfl | rfl) | rfl) | rfl := inside
    · exact fun _ => id
    · exact marks state
    · exact upserts state
    · exact fun _ => id
    · exact fun _ => id

/-- At most one message, and for the pod of the record. -/
theorem report_messages (id : String) :
    (((Frontend.report session ready targetId pod deathReason observedAt).filterMap message).map
      PodStateUpdate.slaveID).count id ≤ if id = pod.slaveID then 1 else 0 := by
  by_cases shut : ready ≠ .opened
  · have failed (payload : PodStateUpdate) : Frontend.sendPodStateUpdate ready payload =
        .error "WebSocket が開いていません。" := if_pos shut
    simp only [Frontend.report, failed, message, List.cons_append, List.nil_append,
      List.filterMap_cons, List.filterMap_nil, List.map_nil, List.count_nil, Nat.zero_le]
  · have sends (payload : PodStateUpdate) :
        Frontend.sendPodStateUpdate ready payload = .ok payload := if_neg shut
    simp only [Frontend.report, sends, message, List.cons_append, List.nil_append,
      List.filterMap_cons, List.filterMap_nil, List.map_cons, List.map_nil, List.count_cons,
      List.count_nil, beq_iff_eq]
    split
    · rename_i it
      rw [if_pos it.symm]
    · exact Nat.zero_le _

/-- A death is sent for a pod that was not eliminated, and eliminates it. -/
theorem report_reported {engine : Engine} {locale : Locale} {t : Tab}
    (living : Living t.field.scene) (reported : Reported t)
    (fresh : targetId ∉ t.store.state.xrEliminatedPodIds)
    (shown : t.store.state.podsById.lookup targetId = some pod) :
    Reported (t.perform engine locale
      (Frontend.report session ready targetId pod deathReason observedAt)) := by
  have own : pod.slaveID = targetId := t.store.keyed targetId pod shown
  obtain ⟨lookups, eliminated, -⟩ :=
    Frontend.report_leaves session ready deathReason observedAt shown
  constructor
  · exact perform_hidden _ living reported.hidden
  · intro id waiting
    rw [perform_phase] at waiting
    rw [perform_store, eliminated, lookups]
    by_cases it : id = targetId
    · right
      rw [if_pos it]
      exact ⟨_, rfl, rfl⟩
    · rw [if_neg it]
      apply (reported.pending id waiting).imp_left
      rintro before (was | same)
      · exact before was
      · exact it same
  · intro id
    have before := reported.once id
    have more : (((Frontend.report session ready targetId pod deathReason observedAt).filterMap
        message).map PodStateUpdate.slaveID).count id ≤ if id = pod.slaveID then 1 else 0 :=
      report_messages id
    rw [perform_sent, perform_removed report_only_eliminates, perform_store, List.map_append,
      List.count_append]
    simp only [eliminated]
    rw [own] at more
    by_cases it : id = targetId
    · subst it
      rw [if_neg fresh] at before
      rw [if_pos rfl] at more
      rw [if_pos (.inr rfl)]
      omega
    · rw [if_neg it] at more
      simp only [it, or_false]
      omega

end Reports

section Steps

variable {engine : Engine} {f g : Field} {action : FieldAction}

theorem step_mesh (other : action.isUpdate = false)
    (taken : (field engine).step f action = some g) (id : String)
    (after : (g.scene.meshById.get id).isSome) : (f.scene.meshById.get id).isSome := by
  obtain ⟨pods, eliminated, rfl, -, -⟩ | reset | physics | same := step_scene taken
  · cases other
  · rw [reset, reset_mesh] at after
    cases after
  · rwa [physics, initializePhysics_meshById] at after
  · rwa [same.meshById] at after

theorem completed_shown {s : PodScene} {delta : Rat} {id : String}
    (completed : id ∈ (s.advanceCrushes engine delta).2) : (s.meshById.get id).isSome := by
  simp only [PodScene.advanceCrushes, List.mem_map, List.mem_filter, Bool.and_eq_true] at completed
  obtain ⟨e, ⟨-, ⟨live, -⟩, -⟩, rfl⟩ := completed
  unfold PodScene.showsLive at live
  cases found : s.meshById.get e.1 with
  | none =>
    rw [found] at live
    cases live
  | some entry => rfl

theorem step_pending (taken : (field engine).step f action = some g) (id : String)
    (after : id ∈ g.phase.pending) :
    id ∈ f.phase.pending ∨ (f.scene.meshById.get id).isSome := by
  have task {scene : PodScene} (taken : f.task scene = some g) : id ∈ f.phase.pending := by
    obtain ⟨_, rfl⟩ := Field.task_eq taken
    cases after
  cases action with
  | update pods eliminated =>
    simp only [field] at taken
    split at taken
    · cases taken
      exact .inl after
    · cases taken
  | simulate delta =>
    simp only [field] at taken
    split at taken
    · split at taken
      · cases taken
        exact .inr (completed_shown after)
      · cases taken
    · cases taken
  | visit under =>
    simp only [field] at taken
    split at taken
    · rename_i falls
      rw [falls]
      split at taken
      · cases taken
        exact .inl after
      · cases taken
        exact .inl after
    · cases taken
  | hit =>
    simp only [field] at taken
    split at taken
    · rename_i hits
      cases taken
      rw [hits]
      exact .inl (List.mem_cons_of_mem _ after)
    · cases taken
      cases after
    · cases taken
  | _ => exact .inl (task taken)

theorem reports_shown {deathReason : DeathReason} {id : String}
    (report : f.reports action = some (deathReason, id)) :
    id ∈ f.phase.pending ∨ (f.scene.meshById.get id).isSome := by
  unfold Field.reports at report
  split at report
  · split at report
    · obtain ⟨slaveId, fallen, same⟩ := Option.map_eq_some_iff.mp report
      cases same
      unfold PodScene.falls at fallen
      split at fallen
      · rw [Option.ite_none_right_eq_some] at fallen
        obtain ⟨visible, same⟩ := fallen
        cases same
        simp only [Bool.and_eq_true] at visible
        exact .inr visible.1.1
      · cases fallen
    · cases report
  · split at report
    · rename_i hits
      cases report
      rw [hits]
      exact .inl List.mem_cons_self
    · cases report
  · cases report

end Steps

section Runs

variable {engine : Engine} {locale : Locale} {t u : Tab}

theorem step_reported (living : Living t.field.scene) (reported : Reported t)
    {action : TabAction} (taken : (tab engine locale).step t action = some u) : Reported u := by
  obtain ⟨op, idle, rfl⟩ | ⟨socket, rfl⟩ | ⟨action, observedAt, next, other, moved, outcome⟩ :=
    tab_cases taken
  · exact call_reported living reported idle
  · exact ⟨reported.hidden, reported.pending, reported.once⟩
  · have stepped : Reported { t with field := next } := by
      constructor
      · exact fun id after => reported.hidden id (step_mesh other moved id after)
      · intro id waiting
        rcases step_pending moved id waiting with before | shown
        · exact reported.pending id before
        · exact .inl (reported.hidden id shown)
      · exact reported.once
    obtain ⟨-, rfl⟩ | ⟨deathReason, slaveId, report, rfl⟩ := outcome
    · exact stepped
    · obtain nothing | ⟨targetId, session, ready, pod, target, -, record, live, effects⟩ :=
        Frontend.reportPodGone_cases t.store.state t.socket deathReason (some slaveId) observedAt
      · rw [nothing]
        exact stepped
      · cases Option.some.inj (target : some slaveId = some targetId)
        rw [effects]
        have fresh : slaveId ∉ t.store.state.xrEliminatedPodIds := by
          rcases reports_shown report with waiting | shown
          · rcases reported.pending slaveId waiting with out | ⟨gone, found, status⟩
            · exact out
            · cases Option.some.inj (record.symm.trans found)
              exact absurd status live
          · exact reported.hidden slaveId shown
        exact report_reported (step_living living moved) stepped fresh record

theorem initial_reported (xrSupported : Bool) : Reported (.initial xrSupported) := by
  constructor
  · intro id shown
    cases shown
  · intro id waiting
    cases waiting
  · intro id
    exact Nat.zero_le _

theorem reachable_reported {xrSupported : Bool}
    (reached : (tab engine locale).Reachable (.initial xrSupported) t) : Reported t :=
  reached.invariant_given (J := fun t => Living t.field.scene) (fun _ => tab_living)
    (initial_reported xrSupported) fun _ _ _ living _ reported _ taken =>
      step_reported living reported taken

end Runs

/-- A slave's death is sent at most once more than the slave was taken back. -/
theorem death_reported_once (engine : Engine) (locale : Locale) {xrSupported : Bool} {t : Tab}
    (reached : (tab engine locale).Reachable (.initial xrSupported) t) (slaveId : String) :
    (t.sent.map PodStateUpdate.slaveID).count slaveId ≤ 1 + t.removed.count slaveId := by
  have balance := (reachable_reported reached).once slaveId
  have most : (if slaveId ∈ t.store.state.xrEliminatedPodIds then 1 else 0) ≤ 1 := by
    split
    · exact Nat.le_refl 1
    · exact Nat.zero_le 1
  omega

/-- Names whose characters compare by code point. -/
def Locale.plain : Locale where
  toSorted pods := pods.insertionSort fun previous next => previous.k8sPodName ≤ next.k8sPodName
  perm pods := List.perm_insertionSort _ pods

/-- A frame in which the one pod of the field stays on the table. -/
def restingFrame : List TabAction :=
  [.scene (.simulate (1 / 20)) "", .scene (.visit false) "", .scene (.visit false) "",
    .scene .hit ""]

/-- The crush of a pod is complete in the frame in which the pod falls; a newer message takes the
pod back. -/
def fallsCrushed : List TabAction :=
  [.call (.hydrateSnapshot ⟨"s", "2026-01-01T00:00:00Z"⟩ ⟨"s", 1, 0, "2026-01-01T00:00:05Z"⟩
      [samplePod "a" .live]),
    .socket (some .opened), .scene .initializePhysics "",
    .scene (.updateWristHud (.leftHand .palm [1])) ""] ++
  restingFrame ++ restingFrame ++ restingFrame ++ restingFrame ++
  [.scene (.simulate (1 / 20)) "", .scene (.visit true) "2026-01-01T00:00:04.000Z",
    .scene (.visit false) "", .scene .hit "2026-01-01T00:00:04.000Z", .scene .hit "",
    .call (.upsertPod (samplePod "a" .live))]

def sentOnce (t : Tab) : Bool :=
  t.sent == [⟨"s", "a", .podDown⟩] && t.removed == ["a"]

theorem death_reported_once_crushed : ∃ t,
    (tab .exact .plain).run (.initial true) fallsCrushed = some t ∧ sentOnce t = true ∧
      (t.sent.map PodStateUpdate.slaveID).count "a" ≤ 1 + t.removed.count "a" := by
  obtain ⟨t, ran, passes⟩ := System.run_passes fallsCrushed sentOnce
    (by decide +kernel :
      ((tab .exact .plain).run (.initial true) fallsCrushed).any sentOnce = true)
  exact ⟨t, ran, passes, death_reported_once .exact .plain (System.run_reachable ran) "a"⟩

end Megalo.Scene
