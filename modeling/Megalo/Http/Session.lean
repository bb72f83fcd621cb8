import Megalo.Http.Handlers

/-! What the session's own threads keep for the interface: the records of the session, its meta
and its metrics, and the event that the controller is at. An event's key is no key of these. -/
namespace Megalo.Http

open Redis Cluster Slave Transition
open Auth (Gate Verifier)

/-- The event that the controller handles. -/
def handled : Handling → Option Event
  | .idle => none
  | .listing event _ | .dispatch event _ | .publishing event _ _ _ | .updating event _ _ _ =>
    some event

/-- The metrics that a thread is about to set are the session's. -/
def OwnMetrics (S : UUID) : Updating → Prop
  | .exec _ _ m => m.sessionID = S.text
  | _ => True

def OwnsMetrics (S : UUID) : Thread → Prop
  | .register _ _ (.updating _ u) | .podUpdate _ (.updating _ _ u)
  | .controller (.updating _ _ _ u) | .ending (.updating _ u) => OwnMetrics S u
  | _ => True

/-- What the interface needs of the session. -/
structure SessionKept (S : UUID) (startedAt : Time) (c : Config World Thread) : Prop where
  grounded : Grounded S [""] c
  sessionMeta : ∀ payload, c.shared.redis.store.get (sessionMetaKey S.text) = some payload →
    payload = .sessionMeta ⟨S.text, startedAt⟩
  metrics : ∀ m, c.shared.redis.store.get (sessionMetricsKey S.text) = some (.metrics m) →
    m.sessionID = S.text
  own : ∀ (n : Nat) t, c.threads[n]? = some t → OwnsMetrics S t

section Metrics

variable {S : UUID} {rand : Rand} {step : Step} {w w' : World} {t t' : Thread}

theorem OwnMetrics.attempt (attempt : Nat) : OwnMetrics S (.attempt S.text attempt) := by
  unfold Updating.attempt
  split <;> trivial

theorem completed_own (now : Time) {m : SessionMetrics} (own : m.sessionID = S.text) :
    (completed S.text now m).sessionID = S.text := by
  unfold completed
  dsimp only
  split
  · rfl
  · exact own

theorem OwnMetrics.moved {r : Server} {i : Input} {fn : SessionMetrics → SessionMetrics}
    {u : Updating} {next : Updating × Command}
    (stored : ∀ m, r.store.get (sessionMetricsKey S.text) = some (.metrics m) →
      m.sessionID = S.text)
    (kept : ∀ m, (fn m).sessionID = m.sessionID)
    (moved : Updating.Moved S.text fn r i u next) : OwnMetrics S next.1 := by
  cases moved with
  | found _ got => exact completed_own i.now ((kept _).trans (stored _ got))
  | finished => trivial
  | _ => trivial

theorem owns_next (now : Time) (count : Nat) (states : List SlaveState) :
    OwnsMetrics S (.ending (.publishNext S.text now count states)) := by
  rcases next_shape S.text now count states with ⟨_, same⟩ | same | ⟨_, _, same⟩ <;> rw [same] <;>
    trivial

theorem owns_listed (now : Time) (l : Listing) :
    OwnsMetrics S (.ending (.listed S.text now l)) := by
  rcases listed_shape S.text now l with ⟨_, same⟩ | ⟨_, same⟩ | ⟨_, _, same⟩ <;> rw [same]
  · trivial
  · trivial
  · exact owns_next ..

/-- What a thread is about to set it has made of the session's metrics. -/
theorem owns_acts (acts : t.Acts S rand step w (w', t')) (knows : t.Knows S [""] w)
    (stored : ∀ m, w.redis.store.get (sessionMetricsKey S.text) = some (.metrics m) →
      m.sessionID = S.text) : OwnsMetrics S t' := by
  have updated {fn : SessionMetrics → SessionMetrics} {session : String} {u : Updating}
      {next : Updating × Command} (ours : session = S.text)
      (moved : Updating.Moved session fn w.redis step.input u next)
      (kept : ∀ m, (fn m).sessionID = m.sessionID) : OwnMetrics S next.1 := by
    subst ours
    exact OwnMetrics.moved stored kept moved
  cases acts with
  | deliver => trivial
  | receive => trivial
  | resolved _ moved => cases moved <;> trivial
  | register _ _ moved =>
    cases moved with
    | update moved => exact updated knows.1 moved fun _ => rfl
    | _ => trivial
  | podUpdate _ moved =>
    cases moved with
    | update moved => exact updated rfl moved fun _ => rfl
    | _ => trivial
  | @call event previous _ ran =>
    subst ran
    rcases call_outcome rand w step.input event previous with same | ⟨_, _, _, _, _, _, same⟩ <;>
      rw [same] <;> trivial
  | handle moved =>
    cases moved with
    | @listing event l =>
      rcases resolved_cases event (l.step event.sessionID w.redis step.input) with
        same | ⟨_, same⟩ | ⟨_, same⟩ <;> rw [same] <;> trivial
    | update moved => exact updated knows.1 moved fun _ => rfl
    | _ => trivial
  | list moved => cases moved <;> first | exact owns_listed .. | trivial
  | ending _ _ moved =>
    cases moved with
    | update moved => exact updated rfl moved fun _ => rfl
    | publish => exact owns_next ..
    | read | list => exact owns_listed ..
    | _ => trivial

theorem pending_owns {m : SessionMetrics} {sessionID : String} (owns : OwnsMetrics S t)
    (pending : t.pending S step w = .setMetrics sessionID m) : m.sessionID = S.text := by
  have committed {own : String} {u : Updating} (mine : OwnMetrics S u)
      (pending : u.pending own w.redis = .setMetrics sessionID m) : m.sessionID = S.text := by
    cases u with
    | exec a n m' =>
      simp only [Updating.pending] at pending
      split at pending
      · cases pending
        exact mine
      · cases pending
    | _ => cases pending
  have published {state : SlaveState} {p : Publishing} :
      p.pending state ≠ .setMetrics sessionID m := by
    intro same
    cases p <;> cases same
  cases t with
  | register caller req pc =>
    cases pc with
    | updating => exact committed owns pending
    | publishing => exact absurd pending published
    | _ => cases pending
  | podUpdate message pc =>
    cases pc with
    | updating => exact committed owns pending
    | publishing => exact absurd pending published
    | _ => cases pending
  | controller pc =>
    cases pc with
    | updating => exact committed owns pending
    | publishing => exact absurd pending published
    | _ => cases pending
  | ending pc =>
    cases pc with
    | updating => exact committed owns pending
    | publishing => exact absurd pending published
    | deleting d => cases d <;> cases pending
    | _ => cases pending

/-- The controller goes on with its event, or waits, or has received one. -/
theorem handled_acts (acts : t.Acts S rand step w (w', t')) {pc' : Handling} {event : Event}
    (after : t' = .controller pc') (busy : handled pc' = some event) :
    ∃ pc, t = .controller pc ∧
      (handled pc = some event ∨ pc = .idle ∧ event = step.event) := by
  cases acts with
  | receive =>
    cases after
    cases busy
    exact ⟨.idle, rfl, .inr ⟨rfl, rfl⟩⟩
  | @call dispatched previous _ ran =>
    subst ran
    refine ⟨_, rfl, .inl ?_⟩
    rcases call_outcome rand w step.input dispatched previous with same | ⟨_, _, _, _, _, _, same⟩
    · rw [same] at after
      cases after
      cases busy
    · rw [same] at after
      cases after
      exact busy
  | handle moved =>
    refine ⟨_, rfl, .inl ?_⟩
    cases after
    cases moved with
    | @listing own l =>
      rcases resolved_cases own (l.step own.sessionID w.redis step.input) with
        same | ⟨_, same⟩ | ⟨_, same⟩
      · rw [same] at busy
        cases busy
      · rw [same] at busy
        exact busy
      · rw [same] at busy
        exact busy
    | set => exact busy
    | publish => exact busy
    | update => exact busy
    | failed => cases busy
    | uncounted => cases busy
    | abandon => cases busy
    | commit => cases busy
  | deliver => cases after
  | resolved => cases after
  | register => cases after
  | podUpdate => cases after
  | list => cases after
  | ending => cases after

end Metrics

section Kept

variable {S : UUID} {rand : Rand} {startedAt : Time} {r : Server} {c c' : Config World Thread}
  {a : Turn Thread Step Outside}

theorem sessionKept_started (vacant : Vacant S r) :
    SessionKept S startedAt (started S startedAt r) := by
  refine ⟨grounded_started [""] vacant, fun payload got => ?_, fun m got => ?_, fun n t found => ?_⟩
  · simp only [started, Command.run, Stamped.Store.get_put_of_ne (sessionMetaKey_ne_active _),
      Stamped.Store.get_put_of_ne (sessionMetaKey_ne_metrics _),
      Stamped.Store.get_put_self] at got
    exact (Option.some.inj got).symm
  · simp only [started, Command.run, Stamped.Store.get_put_of_ne (sessionMetricsKey_ne_active _),
      Stamped.Store.get_put_self] at got
    cases got
    rfl
  · rcases started_thread found with ⟨_, rfl⟩ | ⟨_, rfl⟩ <;> trivial

/-- A command of a thread leaves the meta, and sets metrics of the session. -/
theorem SessionKept.run (kept : SessionKept S startedAt c) {step : Step} {w' : World}
    {t t' : Thread} {n : Nat} (found : c.threads[n]? = some t)
    (moved : t.Moved S rand step c.shared (w', t')) :
    (∀ payload, w'.redis.store.get (sessionMetaKey S.text) = some payload →
      payload = .sessionMeta ⟨S.text, startedAt⟩) ∧
    ∀ m, w'.redis.store.get (sessionMetricsKey S.text) = some (.metrics m) →
      m.sessionID = S.text := by
  have proper := moved.proper (kept.grounded.knows n t found)
  rcases moved.redis with same | same
  · rw [same]
    exact ⟨kept.sessionMeta, kept.metrics⟩
  · rw [same]
    refine ⟨fun payload got => kept.sessionMeta payload (get_meta_run proper got), fun m got => ?_⟩
    rcases get_metrics_run proper got with ⟨m', set, made⟩ | before
    · cases made
      exact pending_owns (kept.own n t found) set
    · exact kept.metrics m before

theorem SessionKept.step (kept : SessionKept S startedAt c)
    (taken : (cluster S rand).step c a = some c') : SessionKept S startedAt c' := by
  have took := Composite.took_of_step taken
  refine ⟨grounded_kept kept.grounded taken, ?_, ?_, ?_⟩
  · cases took with
    | start => exact kept.sessionMeta
    | run found moved => exact (kept.run found (Thread.move_moved moved)).1
    | outside moved =>
      rw [(outside_redis moved).1]
      exact kept.sessionMeta
  · cases took with
    | start => exact kept.metrics
    | run found moved => exact (kept.run found (Thread.move_moved moved)).2
    | outside moved =>
      rw [(outside_redis moved).1]
      exact kept.metrics
  · refine took.each_kept (P := fun _ _ t => OwnsMetrics S t) kept.own (fun t _ ready => ?_)
      (fun n step t w' t' _ found moved _ => ?_) fun _ _ _ _ own => own
    · rcases starts_cases ready with ⟨_, _, rfl⟩ | ⟨_, rfl⟩ <;> trivial
    · have acts := (Thread.move_moved moved).acts (kept.grounded.roles.placed n t found)
      exact owns_acts acts (kept.grounded.knows n t found) kept.metrics

/-- The ids that were drawn are drawn for good. -/
theorem issued_step (taken : (cluster S rand).step c a = some c') :
    c.shared.issued ⊆ c'.shared.issued := by
  cases Composite.took_of_step taken with
  | start => exact List.Subset.refl _
  | run found moved => exact (Thread.move_moved moved).issued
  | outside moved => exact (outside_redis moved).2.1.symm ▸ List.Subset.refl _

/-- A store with the same entries of the session, and no stamp moved back. -/
structure SameEntries (S : UUID) (store store' : Stamped.Store String Payload) : Prop where
  later : Stamped.Store.Later store store'
  active : store'.get activeSessionKey = store.get activeSessionKey
  sessionMeta : store'.get (sessionMetaKey S.text) = store.get (sessionMetaKey S.text)
  metrics : store'.get (sessionMetricsKey S.text) = store.get (sessionMetricsKey S.text)
  slave : ∀ id, store'.get (sessionSlaveKey S.text id) = store.get (sessionSlaveKey S.text id)

theorem SameEntries.refl (store : Stamped.Store String Payload) : SameEntries S store store :=
  ⟨.refl, rfl, rfl, rfl, fun _ => rfl⟩

theorem key_ne_event (e : Entry) (n : Int) : e.key ≠ sessionEventKey S.text n :=
  e.key_ne_event (.ofUUID S) n

theorem SameEntries.put (store : Stamped.Store String Payload) (n : Int) (payload : Payload) :
    SameEntries S store (store.put (sessionEventKey S.text n) payload) where
  later := Stamped.Store.later_put
  active := Stamped.Store.get_put_of_ne (key_ne_event .active n)
  sessionMeta := Stamped.Store.get_put_of_ne (key_ne_event (.sessionMeta (.ofUUID S)) n)
  metrics := Stamped.Store.get_put_of_ne (key_ne_event (.metrics (.ofUUID S)) n)
  slave id := Stamped.Store.get_put_of_ne (key_ne_event (.slave (.ofUUID S) id) n)

theorem SameEntries.drop (store : Stamped.Store String Payload) (n : Int) :
    SameEntries S store (store.drop (sessionEventKey S.text n)) where
  later := Stamped.Store.later_drop
  active := Stamped.Store.get_drop_of_ne (key_ne_event .active n)
  sessionMeta := Stamped.Store.get_drop_of_ne (key_ne_event (.sessionMeta (.ofUUID S)) n)
  metrics := Stamped.Store.get_drop_of_ne (key_ne_event (.metrics (.ofUUID S)) n)
  slave id := Stamped.Store.get_drop_of_ne (key_ne_event (.slave (.ofUUID S) id) n)

/-- What an event does to the store the session does not see. -/
theorem SessionKept.setStore {s : Api} (kept : SessionKept S startedAt s.cluster)
    {store : Stamped.Store String Payload} (same : SameEntries S s.store store) :
    SessionKept S startedAt (s.setStore store).cluster := by
  obtain ⟨⟨records, knows, roles, sound⟩, sessionMeta, metrics, own⟩ := kept
  refine ⟨⟨⟨?_, ?_, ?_, records.slaves⟩, ?_, ⟨roles.1, roles.2, roles.3⟩, ?_⟩, ?_, ?_, own⟩
  · intro id payload got
    exact records.slave id payload ((same.slave id).symm.trans got)
  · intro payload got
    exact records.metrics payload (same.metrics.symm.trans got)
  · intro payload got
    exact records.active payload (same.active.symm.trans got)
  · intro n t found
    exact (knows n t found).mono (List.Subset.refl _)
  · intro n t found
    exact (sound n t found).later same.later
  · intro payload got
    exact sessionMeta payload (same.sessionMeta.symm.trans got)
  · intro m got
    exact metrics m (same.metrics.symm.trans got)

end Kept

end Megalo.Http
