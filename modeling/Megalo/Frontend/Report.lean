import Megalo.Frontend.Main

/-! The report of a death. The page marks the pod eliminated and its record GONE before it sends,
and a send that throws takes neither back. -/
namespace Megalo.Frontend

/-- A pod_state_update; its status is always GONE. -/
structure PodStateUpdate where
  sessionID : String
  slaveID : String
  deathReason : DeathReason
  deriving DecidableEq

def sendPodStateUpdate (socket : ReadyState) (payload : PodStateUpdate) :
    Except String PodStateUpdate :=
  if socket ≠ .opened then .error "WebSocket が開いていません。" else .ok payload

/-- What reportPodGone does, one effect after another. -/
inductive Effect
  | store (op : StoreOp)
  | send (result : Except String PodStateUpdate)
  | scheduleMetricsRefresh

/-- The record the page keeps of a pod it has seen die. -/
def goneRecord (pod : SlaveState) (deathReason : DeathReason) (observedAt : String) : SlaveState :=
  { pod with status := .gone, deathReason, observedAt, source := "frontend-webxr" }

/-- The effects of a report that gets past the guards. -/
def report (session : SessionMeta) (socket : ReadyState) (targetId : String) (pod : SlaveState)
    (deathReason : DeathReason) (observedAt : String) : List Effect :=
  let payload := ⟨session.sessionID, pod.slaveID, deathReason⟩
  [.store (.setActionInFlight true), .store (.markXrPodEliminated targetId),
    .store (.upsertPod (goneRecord pod deathReason observedAt)),
    .send (sendPodStateUpdate socket payload)] ++
  (match sendPodStateUpdate socket payload with
    | .ok _ => [.store .log, .scheduleMetricsRefresh]
    | .error message => [.store (.patch { errorMessage := some (some message) })]) ++
  [.store (.setActionInFlight false)]

/-- The state is read once, on entry; there is no await. -/
def reportPodGone (state : GameState) (socket : Option ReadyState) (deathReason : DeathReason)
    (explicitSlaveId : Option String) (observedAt : String) : List Effect :=
  match explicitSlaveId.or state.selectedPodId, state.session, socket with
  | some targetId, some session, some socket =>
    if targetId = "" then []
    else match state.podsById.lookup targetId with
      | some pod =>
        if pod.status = .gone then []
        else report session socket targetId pod deathReason observedAt
      | none => []
  | _, _, _ => []

def Effect.apply (store : GameStore) : Effect → GameStore
  | .store op => store.apply op
  | _ => store

def GameStore.after (store : GameStore) (effects : List Effect) : GameStore :=
  effects.foldl Effect.apply store

/-- The call gets as far as a send that throws. -/
def Throws (effects : List Effect) : Prop := ∃ message, .send (.error message) ∈ effects

/-- What a failed report is asked to leave. -/
structure LeftAlone (s t : GameState) : Prop where
  podsById : ∀ id, t.podsById.lookup id = s.podsById.lookup id
  selectedPodId : t.selectedPodId = s.selectedPodId
  xrEliminatedPodIds : t.xrEliminatedPodIds = s.xrEliminatedPodIds
  actionInFlight : t.actionInFlight = false

section Report

variable {store : GameStore} {socket : Option ReadyState} {deathReason : DeathReason}
  {explicitSlaveId : Option String} {observedAt : String}

/-- A call does nothing, or it reports the death of a pod that the store shows. -/
theorem reportPodGone_cases (state : GameState) (socket : Option ReadyState)
    (deathReason : DeathReason) (explicitSlaveId : Option String) (observedAt : String) :
    reportPodGone state socket deathReason explicitSlaveId observedAt = [] ∨
      ∃ targetId session ready pod, explicitSlaveId.or state.selectedPodId = some targetId ∧
        socket = some ready ∧ state.podsById.lookup targetId = some pod ∧ pod.status ≠ .gone ∧
        reportPodGone state socket deathReason explicitSlaveId observedAt =
          report session ready targetId pod deathReason observedAt := by
  unfold reportPodGone
  cases target : explicitSlaveId.or state.selectedPodId with
  | none => exact .inl rfl
  | some targetId =>
    cases state.session with
    | none => exact .inl rfl
    | some session =>
      cases socket with
      | none => exact .inl rfl
      | some ready =>
        by_cases empty : targetId = ""
        · exact .inl (if_pos empty)
        · simp only [if_neg empty]
          cases found : state.podsById.lookup targetId with
          | none => exact .inl rfl
          | some pod =>
            by_cases gone : pod.status = .gone
            · exact .inl (if_pos gone)
            · exact .inr ⟨targetId, session, ready, pod, rfl, rfl, found, gone, if_neg gone⟩

theorem mem_markXrPodEliminated {state : GameState} {id targetId : String} :
    id ∈ (state.markXrPodEliminated targetId).xrEliminatedPodIds ↔
      id ∈ state.xrEliminatedPodIds ∨ id = targetId := by
  unfold GameState.markXrPodEliminated
  split
  · rename_i marked
    constructor
    · exact .inl
    · rintro (before | rfl)
      · exact before
      · exact marked
  · simp

/-- A record that is GONE restores nothing. -/
theorem upsertPod_gone {state : GameState} {pod : SlaveState} (gone : pod.status = .gone) :
    (state.upsertPod pod).xrEliminatedPodIds = state.xrEliminatedPodIds := by
  unfold GameState.upsertPod
  exact if_neg fun restore => restore.1 gone

/-- Whether the send succeeds or throws, the pod's record is GONE and the pod is eliminated. -/
theorem report_leaves (session : SessionMeta) (ready : ReadyState) {targetId : String}
    {pod : SlaveState} (deathReason : DeathReason) (observedAt : String)
    (shown : store.state.podsById.lookup targetId = some pod) :
    let after := (store.after (report session ready targetId pod deathReason observedAt)).state
    (∀ id, after.podsById.lookup id = if id = targetId
      then some (goneRecord pod deathReason observedAt) else store.state.podsById.lookup id) ∧
    (∀ id, id ∈ after.xrEliminatedPodIds ↔ id ∈ store.state.xrEliminatedPodIds ∨ id = targetId) ∧
    after.actionInFlight = false := by
  have own : pod.slaveID = targetId := store.keyed targetId pod shown
  let marked := (store.state.setActionInFlight true).markXrPodEliminated targetId
  let upserted := marked.upsertPod (goneRecord pod deathReason observedAt)
  have lookups (id : String) : upserted.podsById.lookup id = if id = targetId
      then some (goneRecord pod deathReason observedAt) else store.state.podsById.lookup id := by
    have same : marked.podsById = store.state.podsById := by
      unfold marked GameState.markXrPodEliminated
      split <;> rfl
    rw [← own, ← same]
    split
    · rename_i it
      rw [it]
      exact AList.lookup_insert _
    · rename_i different
      exact AList.lookup_insert_ne different
  have eliminated (id : String) : id ∈ upserted.xrEliminatedPodIds ↔
      id ∈ store.state.xrEliminatedPodIds ∨ id = targetId := by
    have kept : upserted.xrEliminatedPodIds = marked.xrEliminatedPodIds := upsertPod_gone rfl
    rw [kept]
    exact mem_markXrPodEliminated
  -- what comes after the record changes neither the pods nor who is eliminated
  by_cases opened : ready ≠ .opened
  · have failed (payload : PodStateUpdate) :
        sendPodStateUpdate ready payload = .error "WebSocket が開いていません。" := if_pos opened
    simp only [report, failed, GameStore.after, List.cons_append, List.nil_append,
      List.foldl_cons, List.foldl_nil, Effect.apply, GameStore.apply, StoreOp.apply]
    exact ⟨lookups, eliminated, rfl⟩
  · have sent (payload : PodStateUpdate) : sendPodStateUpdate ready payload = .ok payload :=
      if_neg opened
    simp only [report, sent, GameStore.after, List.cons_append, List.nil_append,
      List.foldl_cons, List.foldl_nil, Effect.apply, GameStore.apply, StoreOp.apply]
    exact ⟨lookups, eliminated, rfl⟩

/-- A pod whose record is GONE is not reported. -/
theorem report_refused {state : GameState} {targetId : String} {pod : SlaveState}
    (shown : state.podsById.lookup targetId = some pod) (gone : pod.status = .gone) :
    reportPodGone state socket deathReason (some targetId) observedAt = [] := by
  obtain nothing | ⟨target, _, _, other, chosen, -, found, live, -⟩ :=
    reportPodGone_cases state socket deathReason (some targetId) observedAt
  · exact nothing
  · cases Option.some.inj (chosen : some targetId = some target)
    cases Option.some.inj (shown.symm.trans found)
    exact absurd gone live

/-- A report whose send throws never leaves the store as it was. -/
theorem failed_report_not_undone
    (throws : Throws (reportPodGone store.state socket deathReason explicitSlaveId observedAt)) :
    ¬ LeftAlone store.state (store.after
      (reportPodGone store.state socket deathReason explicitSlaveId observedAt)).state := by
  intro alone
  obtain nothing | ⟨targetId, session, ready, pod, -, -, shown, live, reported⟩ :=
    reportPodGone_cases store.state socket deathReason explicitSlaveId observedAt
  · obtain ⟨message, sent⟩ := throws
    rw [nothing] at sent
    cases sent
  · rw [reported] at alone
    have record := (report_leaves session ready deathReason observedAt shown).1 targetId
    rw [if_pos rfl, alone.podsById targetId, shown] at record
    have same := Option.some.inj record
    rw [same] at live
    exact live rfl

/-- The mark of a failed report refuses every later one, so that the death is not reported. -/
theorem failed_report_not_repeated {targetId : String}
    (throws : Throws (reportPodGone store.state socket deathReason (some targetId) observedAt))
    (socket' : Option ReadyState) (deathReason' : DeathReason) (observedAt' : String) :
    reportPodGone (store.after
      (reportPodGone store.state socket deathReason (some targetId) observedAt)).state
      socket' deathReason' (some targetId) observedAt' = [] := by
  obtain nothing | ⟨target, session, ready, pod, chosen, -, shown, -, reported⟩ :=
    reportPodGone_cases store.state socket deathReason (some targetId) observedAt
  · obtain ⟨message, sent⟩ := throws
    rw [nothing] at sent
    cases sent
  · cases Option.some.inj (chosen : some targetId = some target)
    rw [reported]
    have record := (report_leaves session ready deathReason observedAt shown).1 targetId
    rw [if_pos rfl] at record
    exact report_refused record rfl

def SlaveState.sample (status : SlaveStatus) (observedAt : String) : SlaveState where
  sessionID := UUID.sample.text
  slaveID := UUID.sampleSlave.text
  k8sPodName := "slave-service-0"
  k8sPodUID := "uid-1"
  podIP := "10.0.0.10"
  status
  deathReason := .unspecified
  turnsLived := 3
  remainingTurns := 7
  stress := 0
  fear := 0
  infected := false
  firewall := false
  observedAt
  source := "slave-service"

/-- A page that plays with one live pod. -/
def GameStore.sample : GameStore :=
  (GameStore.mk (initialState true) keyed_empty).apply
    (.hydrateSnapshot ⟨UUID.sample.text, "2026-01-01T00:00:00Z"⟩
      ⟨UUID.sample.text, 1, 0, "2026-01-01T00:00:05Z"⟩
      [.sample .live "2026-01-01T00:00:05Z"])

/-- A pod falls while the socket is closing. -/
def shutReport : List Effect :=
  reportPodGone GameStore.sample.state (some .closing) .podDown (some UUID.sampleSlave.text)
    "2026-01-01T00:00:06.000Z"

theorem shutReport_throws : Throws shutReport := ⟨_, .tail _ (.tail _ (.tail _ (.head _)))⟩

theorem failed_report_not_undone_shut :
    ¬ LeftAlone GameStore.sample.state (GameStore.sample.after shutReport).state :=
  failed_report_not_undone shutReport_throws

theorem failed_report_eliminates :
    ¬ (Throws shutReport →
      LeftAlone GameStore.sample.state (GameStore.sample.after shutReport).state) := by
  intro claimed
  have same : _ = [] := (claimed shutReport_throws).xrEliminatedPodIds
  exact absurd same (by decide +kernel)

end Report

end Megalo.Frontend
