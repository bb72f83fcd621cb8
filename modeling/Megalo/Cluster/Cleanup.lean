import Megalo.Cluster.Records

/-! What endSession leaves behind. DeleteSession lists the records before it deletes them,
and SET does not look whether the session is still there. -/
namespace Megalo.Cluster

open Redis Slave Transition

structure Clean (S : UUID) (r : Server) : Prop where
  sessionMeta : r.store.get (sessionMetaKey S.text) = none
  metrics : r.store.get (sessionMetricsKey S.text) = none
  slaves : ∀ id, r.store.get (sessionSlaveKey S.text id) = none

/-- The slave whose record a thread SETs in its next step. -/
def Thread.sets (step : Step) : Thread → Option String
  | .register _ _ (.resolved _) => some step.slaveID.text
  | .podUpdate _ (.publishing _ state .set) => some state.slaveID
  | .controller (.publishing _ _ state .set) => some state.slaveID
  | _ => none

/-- DeleteSession has the key of this record, or has yet to list the keys. -/
def Ending.reaches (S : UUID) (id : String) : Ending → Bool
  | .deleting (.active listed) | .deleting (.exec listed _) => sessionSlaveKey S.text id ∈ listed
  | .returned none => false
  | _ => true

/-- A record is SET while DeleteSession can still delete it, or the SET is refused. -/
def setInTime (S : UUID) (c : Config World Thread) : Turn Thread Step Outside → Bool
  | .run i step =>
    match (c.threads[i]?).bind (Thread.sets step), (c.threads[1]? : Option Thread) with
    | some id, some (.ending pc) => !step.input.reply.runs || pc.reaches S id
    | _, _ => true
  | _ => true

section Cleanup

variable {S : UUID} {rand : Rand} {step : Step} {w w' : World} {t t' : Thread}
  {c c' : Config World Thread} {a : Turn Thread Step Outside}

/-- What DeleteSession relies on, and what it leaves. -/
def Thread.Cleans (S : UUID) (r : Server) : Thread → Prop
  | .ending (.deleting (.active listed)) => Covers S r listed
  | .ending (.deleting (.exec listed active)) => Covers S r listed ∧
    ∀ payload, r.store.get activeSessionKey = some payload → active = S.text
  | .ending (.returned none) => Clean S r ∧ r.store.get activeSessionKey = none
  | _ => True

theorem cleans_marking {pc : Ending} (marking : pc.marking = true) (r : Server) :
    (Thread.ending pc).Cleans S r := by
  cases pc with
  | deleting d => cases marking
  | returned err =>
    cases err with
    | none => cases marking
    | some err => trivial
  | _ => trivial

/-- The delete transaction takes every key of the session that its listing covers. -/
theorem clean_delete {r : Server} {listed : List String} {active : String}
    (covers : Covers S r listed)
    (held : ∀ payload, r.store.get activeSessionKey = some payload → active = S.text) :
    let r' := Command.run r (.delete (deletedKeys S.text active listed))
    Clean S r' ∧ r'.store.get activeSessionKey = none := by
  have taken : ∀ {k : String}, k ∈ deletedKeys S.text active listed ∨ r.store.get k = none →
      (Command.run r (.delete (deletedKeys S.text active listed))).store.get k = none := by
    intro k gone
    rw [Command.run, Stamped.Store.get_dropAll]
    split
    · rfl
    · exact gone.resolve_left ‹_›
  refine ⟨⟨taken (.inl ?_), taken (.inl ?_), fun id => taken ?_⟩, taken ?_⟩
  · simp [deletedKeys]
  · simp [deletedKeys]
  · cases got : r.store.get (sessionSlaveKey S.text id) with
    | none => exact .inr rfl
    | some payload => exact .inl (List.mem_append_right _ (covers id payload got))
  · cases got : r.store.get activeSessionKey with
    | none => exact .inr rfl
    | some payload =>
      apply Or.inl
      simp [deletedKeys, held payload got]

theorem cleans_acts (records : Records S [""] w) (acts : t.Acts S rand step w (w', t'))
    (cleans : t.Cleans S w.redis) : t'.Cleans S w'.redis := by
  cases acts with
  | list moved => cases moved <;> exact cleans_marking (by first | exact marking_listed .. | rfl) _
  | ending _ running moved =>
    cases moved with
    | keys => exact covers_keys w.redis
    | active =>
      refine ⟨cleans, fun payload got => ?_⟩
      have held : w.redis.store.get activeSessionKey = some (.text S.text) :=
        records.active payload got ▸ got
      rw [held]
      rfl
    | delete => exact clean_delete cleans.1 cleans.2
    | finished => exact absurd rfl (running _)
    | commit => trivial
    | list => exact cleans_marking (marking_listed ..) _
    | read => exact cleans_marking (marking_listed ..) _
    | publish => exact cleans_marking (marking_next ..) _
    | _ => exact cleans_marking rfl _
  | _ => trivial

theorem pending_sets {state : SlaveState} (placed : t.placed = true) (other : t.isEnding = false)
    (pending : t.pending S step w = .set state) : t.sets step = some state.slaveID := by
  rcases pending_set placed pending with ⟨_, _, _, rfl, rfl⟩ | ⟨_, _, rfl⟩ | ⟨_, _, rfl⟩ |
    ⟨_, _, _, rfl⟩
  · rfl
  · rfl
  · rfl
  · cases other

theorem cleans_command {v : World} {d : Command} {ending : Thread} (proper : Proper S [""] v d)
    (cleans : ending.Cleans S w.redis)
    (reached : ∀ state pc, d = .set state → ending = .ending pc →
      pc.reaches S state.slaveID = true)
    (committed : ∀ m, d = .setMetrics S.text m →
      ∃ old, w.redis.store.get (sessionMetricsKey S.text) = some (.metrics old)) :
    ending.Cleans S (d.run w.redis) := by
  have covers : ∀ {listed : List String}, Covers S w.redis listed →
      (∀ state, d = .set state → sessionSlaveKey S.text state.slaveID ∈ listed) →
        Covers S (d.run w.redis) listed := by
    intro listed before member id payload got
    rcases get_slave_run proper got with ⟨state, set, rfl, _⟩ | old
    · exact member state set
    · exact before id payload old
  cases ending with
  | ending pc =>
    cases pc with
    | deleting d' =>
      cases d' with
      | active listed =>
        exact covers cleans fun state set => of_decide_eq_true (reached state _ set rfl)
      | exec listed active =>
        refine ⟨covers cleans.1 fun state set => of_decide_eq_true (reached state _ set rfl), ?_⟩
        exact fun payload got => cleans.2 payload (get_active_run proper got)
      | _ => trivial
    | returned err =>
      cases err with
      | some err => trivial
      | none =>
        obtain ⟨clean, inactive⟩ := cleans
        refine ⟨⟨?_, ?_, fun id => ?_⟩, ?_⟩ <;> refine Option.eq_none_iff_forall_ne_some.mpr ?_
        · intro payload got
          cases clean.sessionMeta.symm.trans (get_meta_run proper got)
        · intro payload got
          rcases get_metrics_run proper got with ⟨m, commit, _⟩ | old
          · obtain ⟨before, old⟩ := committed m commit
            cases clean.metrics.symm.trans old
          · cases clean.metrics.symm.trans old
        · intro payload got
          rcases get_slave_run proper got with ⟨state, set, rfl, _⟩ | old
          · cases reached state _ set rfl
          · cases (clean.slaves id).symm.trans old
        · intro payload got
          cases inactive.symm.trans (get_active_run proper got)
    | _ => trivial
  | _ => trivial

theorem cleans_step (base : Grounded S [""] c)
    (h : ∀ (i : Nat) t, c.threads[i]? = some t → t.Cleans S c.shared.redis)
    (met : setInTime S c a = true) (taken : (cluster S rand).step c a = some c') :
    ∀ (i : Nat) t, c'.threads[i]? = some t → t.Cleans S c'.shared.redis := by
  have took := Composite.took_of_step taken
  refine took.each_kept (P := fun _ w t => t.Cleans S w.redis) h (fun t _ ready => ?_)
    (fun i step t w' t' _ found moved cleans => ?_) fun i t at_i other cleans => ?_
  · rcases starts_cases ready with ⟨_, _, rfl⟩ | ⟨_, rfl⟩ <;> trivial
  · have acts := (Thread.move_moved moved).acts (base.roles.placed i t found)
    exact cleans_acts base.records acts cleans
  · cases took with
    | start => exact cleans
    | outside moved => exact (outside_redis moved).1 ▸ cleans
    | @run j step t' t'' w' found moved =>
      have moved := Thread.move_moved moved
      rcases moved.redis_runs with same | ⟨runs, same⟩ <;> rw [same]
      · exact cleans
      · refine cleans_command (moved.proper (base.knows j t' found)) cleans
          (fun state pc set ending => ?_) fun m commit => (base.sound j t' found).commits commit
        subst ending
        have first : i = 1 := base.roles.ending i _ at_i rfl
        subst first
        have apart : t'.isEnding = false := by
          by_contra ends
          apply other step
          rw [base.roles.ending j t' found (Bool.not_eq_false _ ▸ ends)]
        have sets := pending_sets (base.roles.placed j t' found) apart set
        simp only [setInTime, found, Option.bind_some, sets, at_i, runs, Bool.not_true,
          Bool.false_or] at met
        exact met

theorem cleans_reachable {startedAt : Time} {r : Server} (vacant : Vacant S r)
    (reached : (cluster S rand).system.ReachableVia (fun c a => setInTime S c a = true)
      (started S startedAt r) c) :
    ∀ (i : Nat) t, c.threads[i]? = some t → t.Cleans S c.shared.redis := by
  refine reachable_invariant
    (I := fun d => ∀ (i : Nat) t, d.threads[i]? = some t → t.Cleans S d.shared.redis) vacant
    (fun i t found => ?_) (fun _ _ _ base h met taken => cleans_step base h met taken) reached
  rcases started_thread found with ⟨_, rfl⟩ | ⟨_, rfl⟩ <;> trivial

/-- Where every record is SET while DeleteSession can still delete it, a session whose end
has succeeded has no key left. -/
theorem session_end_clean {startedAt : Time} {r : Server} (vacant : Vacant S r)
    (reached : (cluster S rand).system.ReachableVia (fun c a => setInTime S c a = true)
      (started S startedAt r) c) {i : Nat}
    (ended : c.threads[i]? = some (.ending (.returned none))) : Clean S c.shared.redis :=
  (cleans_reachable vacant reached i _ ended).1

end Cleanup

/-- RegisterSlave reads the active session, endSession runs, and then the record is SET. -/
def registersLate : List (Turn Thread Step Outside) :=
  .start (.register none sampleRequest .getActiveSessionID) :: turn 2 "" :: turns 7 1 ++ turns 4 2

theorem record_left_over : ∃ c, sampleCluster.run sampleSession registersLate = some c ∧
    c.threads[1]? = some (.ending (.returned none)) ∧ (∀ t ∈ c.threads, t.inFlight = false) ∧
    ¬ Clean .sample c.shared.redis := by
  obtain ⟨c, ran, passes⟩ := System.run_passes registersLate
    (fun c => sessionEnded c && c.threads.all (fun t => !t.inFlight) &&
      (c.shared.redis.store.get (sessionSlaveKey UUID.sample.text UUID.sampleSlave.text)).isSome)
    (by decide +kernel : (sampleCluster.run sampleSession registersLate).any _ = true)
  simp only [Bool.and_eq_true, List.all_eq_true, Bool.not_eq_true'] at passes
  obtain ⟨⟨ended, rest⟩, left⟩ := passes
  refine ⟨c, ran, sessionEnded_returned ended, rest, fun clean => ?_⟩
  rw [clean.slaves] at left
  cases left

theorem session_end_clean_joined : ∃ c,
    sampleCluster.run sampleSession (joins ++ turns 10 1) = some c ∧
      Clean .sample c.shared.redis := by
  obtain ⟨c, ran, ended⟩ := System.run_passes (joins ++ turns 10 1) sessionEnded
    (by decide +kernel : (sampleCluster.run sampleSession (joins ++ turns 10 1)).any _ = true)
  have met : sampleCluster.check (setInTime .sample) sampleSession (joins ++ turns 10 1) =
      true := by
    decide +kernel
  exact ⟨c, ran, session_end_clean (vacant_empty _)
    (System.run_reachableVia ran (System.meets_of_check met)) (sessionEnded_returned ended)⟩

end Megalo.Cluster
