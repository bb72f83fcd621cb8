import Megalo.Cluster.Records

/-! Whose record an event updates. The state is the answering process's, so it belongs to
the resolved slave exactly when the process at the record's address holds its id. -/
namespace Megalo.Cluster

open Redis Slave Transition

/-- The resolved record and the state published for it, from the answer on. -/
def Handling.publishes : Handling → Option (SlaveState × SlaveState)
  | .publishing _ previous state _ | .updating _ previous state _ => some (previous, state)
  | _ => none

def PublishesResolved (c : Config World Thread) : Prop :=
  ∀ (i : Nat) pc previous state, c.threads[i]? = some (.controller pc) →
    pc.publishes = some (previous, state) →
      state.slaveID ≠ "" ∧ state.slaveID = previous.slaveID

/-- When a dispatched event is answered, the process that handles it has the record's id:
its SetRegistration has run, and it is the process the record was written for. -/
def answersForRecord (c : Config World Thread) : Turn Thread Step Outside → Bool
  | .run i step => match c.threads[i]?, step.input.reply with
    | some (.controller (.dispatch event previous)), .answered =>
      (c.shared.answering previous.podIP).all fun answering =>
        !answering.2.accepts event.targetPod || answering.2.pod.slaveID == previous.slaveID
    | _, _ => true
  | _ => true

section Identity

variable {S : UUID} {rand : Rand} {step : Step} {w w' : World} {t t' : Thread}
  {c : Config World Thread} {i : Nat}

theorem answersForRecord_own {event : Event} {previous : SlaveState}
    (met : answersForRecord c (.run i step) = true)
    (found : c.threads[i]? = some (.controller (.dispatch event previous)))
    (answered : step.input.reply = .answered) {p : ProcessID} {s : Service}
    (holds : c.shared.answering previous.podIP = some (p, s))
    (accepts : s.accepts event.targetPod = true) : s.pod.slaveID = previous.slaveID := by
  simp only [answersForRecord, found, answered, holds, Option.all_some, accepts, Bool.not_true,
    Bool.false_or, beq_iff_eq] at met
  exact met

def Handling.Own : Handling → Prop
  | .publishing _ previous state _ | .updating _ previous state _ =>
    state.slaveID = previous.slaveID
  | _ => True

def Thread.Own : Thread → Prop
  | .controller pc => pc.Own
  | _ => True

theorem own_acts (acts : t.Acts S rand step w (w', t')) (own : t.Own)
    (answers : ∀ event previous, t = .controller (.dispatch event previous) →
      step.input.reply = .answered → ∀ p s, w.answering previous.podIP = some (p, s) →
        s.accepts event.targetPod = true → s.pod.slaveID = previous.slaveID) : t'.Own := by
  cases acts with
  | @call event previous _ ran =>
    subst ran
    rcases call_outcome rand w step.input event previous with
      same | ⟨p, s, resp, reply, found, answered, same⟩ <;> rw [same]
    · trivial
    · have held : (Handling.answeredState event resp).slaveID = s.pod.slaveID :=
        executeEvent_answer rand answered
      exact held.trans
        (answers event previous rfl reply p s found (executeEvent_accepts rand answered))
  | handle moved =>
    cases moved with
    | @listing event l =>
      rcases resolved_cases event (l.step event.sessionID w.redis step.input) with
        same | ⟨_, same⟩ | ⟨_, same⟩ <;> rw [same] <;> trivial
    | set | publish | update => exact own
    | _ => trivial
  | _ => trivial

theorem grounded_met {c' : Config World Thread} {a : Turn Thread Step Outside}
    (base : Grounded S [] c) (met : answersForRecord c a = true)
    (taken : (cluster S rand).step c a = some c') : Grounded S [] c' := by
  refine grounded_step (List.nil_subset _) base (fun i step t run found => ?_) taken
  subst run
  cases t with
  | controller pc =>
    cases pc with
    | dispatch event previous =>
      intro answered p s holds accepts
      rw [answersForRecord_own met found answered holds accepts]
      exact (base.knows i _ found).2.2
    | _ => trivial
  | _ => trivial

theorem own_met {c' : Config World Thread} {a : Turn Thread Step Outside} (roles : Roles c)
    (own : ∀ (i : Nat) t, c.threads[i]? = some t → t.Own) (met : answersForRecord c a = true)
    (taken : (cluster S rand).step c a = some c') :
    ∀ (i : Nat) t, c'.threads[i]? = some t → t.Own := by
  have took := Composite.took_of_step taken
  refine took.each_kept (P := fun _ _ t => t.Own) own (fun t _ ready => ?_)
    (fun i step t w' t' run found moved k => ?_) fun _ _ _ _ k => k
  · rcases starts_cases ready with ⟨_, _, rfl⟩ | ⟨_, rfl⟩ <;> trivial
  · subst run
    have acts := (Thread.move_moved moved).acts (roles.placed i t found)
    refine own_acts acts k fun event previous same answered p s holds accepts => ?_
    subst same
    exact answersForRecord_own met found answered holds accepts

/-- Where every answer comes from the process the resolved record names, every state an
event publishes is that record's. -/
theorem events_publish_resolved {startedAt : Time} {r : Server} (vacant : Vacant S r)
    (reached : (cluster S rand).system.ReachableVia (fun c a => answersForRecord c a = true)
      (started S startedAt r) c) : PublishesResolved c := by
  obtain ⟨base, own⟩ : Grounded S [] c ∧ ∀ (i : Nat) t, c.threads[i]? = some t → t.Own := by
    refine reached.invariant (I := fun c => Grounded S [] c ∧
      ∀ (i : Nat) t, c.threads[i]? = some t → t.Own) ⟨grounded_started [] vacant, ?_⟩
      fun _ _ _ h met taken => ⟨grounded_met h.1 met taken, own_met h.1.roles h.2 met taken⟩
    intro i t found
    rcases started_thread found with ⟨_, rfl⟩ | ⟨_, rfl⟩ <;> trivial
  intro i pc previous state found published
  have held : state.slaveID = previous.slaveID ∧ Known S [] c.shared state := by
    have mine := own i _ found
    have knows := base.knows i _ found
    cases pc with
    | publishing | updating =>
      cases published
      exact ⟨mine, knows.2.2⟩
    | _ => cases published
  refine ⟨?_, held.1⟩
  obtain ⟨_, drawn⟩ := held.2
  rcases drawn with other | ⟨u, _, same⟩
  · cases other
  · exact same ▸ u.text_ne_empty

end Identity

/-- An event without a target reaches a process that has not heard of its registration. -/
def unregistered : List (Turn Thread Step Outside) := registers ++ turns 5 0

def publishedIDs (c : Config World Thread) : Option (String × String) :=
  match (c.threads[0]? : Option Thread) with
  | some (.controller pc) => pc.publishes.map fun states => (states.1.slaveID, states.2.slaveID)
  | _ => none

/-- The event makes a record under the empty id beside the record it was resolved to. -/
theorem event_publishes_nobody : ∃ c, sampleCluster.run sampleSession unregistered = some c ∧
    publishedIDs c = some (UUID.sampleSlave.text, "") ∧
    (c.shared.redis.store.get (sessionSlaveKey UUID.sample.text "")).isSome = true ∧
    ¬ PublishesResolved c := by
  obtain ⟨c, ran, passes⟩ := System.run_passes unregistered
    (fun c => publishedIDs c == some (UUID.sampleSlave.text, "") &&
      (c.shared.redis.store.get (sessionSlaveKey UUID.sample.text "")).isSome)
    (by decide +kernel : (sampleCluster.run sampleSession unregistered).any _ = true)
  simp only [Bool.and_eq_true, beq_iff_eq] at passes
  obtain ⟨ids, stored⟩ := passes
  refine ⟨c, ran, ids, stored, fun resolved => ?_⟩
  unfold publishedIDs at ids
  split at ids
  · rename_i pc found
    obtain ⟨⟨previous, state⟩, published, same⟩ := Option.map_eq_some_iff.mp ids
    have nobody : state.slaveID = "" := congrArg Prod.snd same
    exact (resolved 0 pc previous state found published).1 nobody
  · cases ids

/-- The same event after the registration has reached the process. -/
def registeredFirst : List (Turn Thread Step Outside) := joins ++ turns 5 0

theorem events_publish_resolved_registered : ∃ c,
    sampleCluster.run sampleSession registeredFirst = some c ∧ PublishesResolved c := by
  obtain ⟨c, ran⟩ := Option.isSome_iff_exists.mp (by decide +kernel :
    (sampleCluster.run sampleSession registeredFirst).isSome = true)
  have met : sampleCluster.check answersForRecord sampleSession registeredFirst = true := by
    decide +kernel
  exact ⟨c, ran, events_publish_resolved (vacant_empty _)
    (System.run_reachableVia ran (System.meets_of_check met))⟩

end Megalo.Cluster
