import Megalo.Cluster.Records

/-! When GONE is absorbing. The frontend and the end of the session declare a slave GONE;
the controller writes whatever the process answers, and takes no look at the record. -/
namespace Megalo.Cluster

open Redis Slave Transition

def isGone (S : UUID) (r : Server) (id : String) : Bool :=
  match r.store.get (sessionSlaveKey S.text id) with
  | some (.slave state) => state.status == .gone
  | _ => false

/-- The event loop is about to write a state other than GONE over a record. -/
def Thread.revives (id : String) : Thread → Bool
  | .controller (.publishing _ _ state .set) => state.slaveID == id && state.status != .gone
  | _ => false

/-- The answer of a process whose record is GONE is GONE, or an error. -/
def answersGone (S : UUID) (rand : Rand) (w : World) (step : Step) (event : Event)
    (previous : SlaveState) : Bool :=
  (w.answering previous.podIP).all fun answering =>
    let req := ⟨event.eventID, event.seed, event.targetPod⟩
    match (executeEvent rand step.input.now req answering.2).1 with
    | .ok resp => resp.slaveState.status == .gone || !isGone S w.redis answering.2.pod.slaveID
    | .error _ => true

/-- No event is answered alive for a record that is GONE, and none that was answered
alive is still to be written when the record becomes GONE. A call that is not answered and a
SET that is refused are no matter. -/
def goneRespected (S : UUID) (rand : Rand) (c : Config World Thread) :
    Turn Thread Step Outside → Bool
  | .run i step => match c.threads[i]? with
    | some (.controller (.dispatch event previous)) =>
      step.input.reply != .answered || answersGone S rand c.shared step event previous
    | some (.podUpdate _ (.publishing _ state .set))
    | some (.ending (.publishing _ _ state .set _)) =>
      !step.input.reply.runs || c.threads.all fun t => !t.revives state.slaveID
    | _ => true
  | _ => true

section Absorbing

variable {S : UUID} {rand : Rand} {step : Step} {w w' : World} {t t' : Thread}
  {c c' : Config World Thread} {a : Turn Thread Step Outside} {id : String}

theorem isGone_iff {r : Server} : isGone S r id = true ↔
    ∃ state, r.store.get (sessionSlaveKey S.text id) = some (.slave state) ∧
      state.status = .gone := by
  unfold isGone
  constructor
  · intro gone
    split at gone
    · rename_i state found
      exact ⟨state, found, beq_iff_eq.mp gone⟩
    · cases gone
  · rintro ⟨state, found, gone⟩
    rw [found]
    exact beq_iff_eq.mpr gone

def Thread.Declares : Thread → Prop
  | .podUpdate _ (.publishing _ state _) => state.status = .gone
  | .ending (.publishing _ _ state _ _) => state.status = .gone
  | _ => True

theorem declares_next (now : Time) (count : Nat) (states : List SlaveState) :
    Thread.Declares (.ending (.publishNext S.text now count states)) := by
  rcases next_shape S.text now count states with ⟨_, same⟩ | same | ⟨_, _, same⟩ <;> rw [same]
  · trivial
  · trivial
  · exact rfl

theorem declares_listed (now : Time) (l : Listing) :
    Thread.Declares (.ending (.listed S.text now l)) := by
  rcases listed_shape S.text now l with ⟨_, same⟩ | ⟨_, same⟩ | ⟨_, _, same⟩ <;> rw [same]
  · trivial
  · trivial
  · exact declares_next ..

theorem declares_acts (acts : t.Acts S rand step w (w', t')) (declares : t.Declares) :
    t'.Declares := by
  cases acts with
  | podUpdate _ moved =>
    cases moved with
    | receive _ made => subst made; exact rfl
    | set => exact declares
    | _ => trivial
  | list moved => cases moved <;> first | exact declares_listed .. | trivial
  | ending _ _ moved =>
    cases moved with
    | set => exact declares
    | publish => exact declares_next ..
    | list | read => exact declares_listed ..
    | _ => trivial
  | _ => trivial

theorem isGone_run {others : List String} {r : Server} {d : Command}
    (proper : Proper S others w d) (gone : isGone S (d.run r) id = true) :
    isGone S r id = true ∨ ∃ state, d = .set state ∧ state.slaveID = id ∧ state.status = .gone := by
  obtain ⟨state, got, status⟩ := isGone_iff.mp gone
  rcases get_slave_run proper got with ⟨st, rfl, same, made⟩ | old
  · cases made
    exact .inr ⟨state, rfl, same, status⟩
  · exact .inl (isGone_iff.mpr ⟨state, old, status⟩)

structure Respected (S : UUID) (c : Config World Thread) : Prop where
  declares : ∀ (i : Nat) t, c.threads[i]? = some t → t.Declares
  alive : ∀ (i : Nat) t, c.threads[i]? = some t → ∀ id, t.revives id = true →
    isGone S c.shared.redis id = false

theorem revives_acts (acts : t.Acts S rand step w (w', t')) (revives : t'.revives id = true) :
    ∃ event previous p s resp, t = .controller (.dispatch event previous) ∧
      step.input.reply = .answered ∧ w'.redis = w.redis ∧ w.answering previous.podIP = some (p, s) ∧
      (executeEvent rand step.input.now ⟨event.eventID, event.seed, event.targetPod⟩ s).1 =
        .ok resp ∧ s.pod.slaveID = id ∧ resp.slaveState.status ≠ .gone := by
  cases acts with
  | @call event previous _ ran =>
    subst ran
    have redis : (call rand w step.input event previous).1.redis = w.redis := (call_frame ..).1
    rcases call_outcome rand w step.input event previous with
      same | ⟨p, s, resp, reply, found, answered, same⟩ <;> rw [same] at revives
    · cases revives
    · have held : resp.slaveState.slaveID = s.pod.slaveID := executeEvent_answer rand answered
      simp only [Thread.revives, Bool.and_eq_true, beq_iff_eq, bne_iff_ne] at revives
      exact ⟨event, previous, p, s, resp, rfl, reply, redis, found, answered,
        held.symm.trans revives.1, revives.2⟩
  | handle moved =>
    cases moved with
    | @listing event l =>
      rcases resolved_cases event (l.step event.sessionID w.redis step.input) with
        same | ⟨_, same⟩ | ⟨_, same⟩ <;> rw [same] at revives <;> cases revives
    | _ => cases revives
  | _ => cases revives

/-- While one thread is about to revive a record, no other thread declares its slave GONE. -/
theorem alive_other {i j : Nat} {u : Thread} (base : Grounded S [""] c)
    (at_i : c.threads[i]? = some u) (found : c.threads[j]? = some t) (apart : i ≠ j)
    (met : goneRespected S rand c (.run j step) = true)
    (moved : t.Moved S rand step c.shared (w', t')) (revives : u.revives id = true)
    (before : isGone S c.shared.redis id = false) : isGone S w'.redis id = false := by
  rcases moved.redis_runs with same | ⟨runs, same⟩
  · rw [same]
    exact before
  by_contra became
  rw [same] at became
  rcases isGone_run (moved.proper (base.knows j t found)) (Bool.not_eq_false _ ▸ became) with
    old | ⟨state, set, own, gone⟩
  · exact absurd (before.symm.trans old) Bool.false_ne_true
  have others : c.threads.all (fun t => !t.revives id) = true → False := by
    intro all
    have mine := List.all_eq_true.mp all u (List.mem_of_getElem? at_i)
    simp [revives] at mine
  rcases pending_set (base.roles.placed j t found) set with
    ⟨_, _, _, rfl, rfl⟩ | ⟨_, _, rfl⟩ | ⟨_, _, rfl⟩ | ⟨_, _, _, rfl⟩
  · cases gone
  · simp only [goneRespected, found, own, runs, Bool.not_true, Bool.false_or] at met
    exact others met
  · have first : j = 0 := base.roles.controller j _ found rfl
    have mine : i = 0 := by
      apply base.roles.controller i u at_i
      cases u with
      | controller => rfl
      | _ => cases revives
    exact apart (mine.trans first.symm)
  · simp only [goneRespected, found, own, runs, Bool.not_true, Bool.false_or] at met
    exact others met

theorem alive_step (base : Grounded S [""] c) (h : Respected S c)
    (met : goneRespected S rand c a = true) (taken : (cluster S rand).step c a = some c') :
    ∀ (i : Nat) t, c'.threads[i]? = some t → ∀ id, t.revives id = true →
      isGone S c'.shared.redis id = false := by
  have took := Composite.took_of_step taken
  refine took.each_kept (P := fun _ w t => ∀ id, t.revives id = true → isGone S w.redis id = false)
    h.alive (fun t _ ready => ?_) (fun i step t w' t' run found moved _ => ?_)
    fun i t found other k => ?_
  · rcases starts_cases ready with ⟨_, _, rfl⟩ | ⟨_, rfl⟩ <;> exact nofun
  · intro id revives
    subst run
    obtain ⟨event, previous, p, s, resp, rfl, reply, redis, holds, answered, own, alive⟩ :=
      revives_acts ((Thread.move_moved moved).acts (base.roles.placed i t found)) revives
    simp only [goneRespected, found, reply, bne_self_eq_false, Bool.false_or, answersGone, holds,
      Option.all_some, answered, own, Bool.or_eq_true, beq_iff_eq, alive, false_or,
      Bool.not_eq_true'] at met
    rw [redis]
    exact met
  · intro id revives
    cases took with
    | start => exact k id revives
    | outside moved => rw [(outside_redis moved).1]; exact k id revives
    | @run j step t' t'' w' found' moved =>
      refine alive_other base found found' ?_ met (Thread.move_moved moved) revives (k id revives)
      rintro rfl
      exact other step rfl

theorem respected_step (base : Grounded S [""] c) (h : Respected S c)
    (met : goneRespected S rand c a = true) (taken : (cluster S rand).step c a = some c') :
    Respected S c' := by
  refine ⟨?_, alive_step base h met taken⟩
  refine (Composite.took_of_step taken).each_kept (P := fun _ _ (t : Thread) => t.Declares)
    h.declares (fun t _ ready => ?_) (fun i step t w' t' _ found moved k => ?_) fun _ _ _ _ k => k
  · rcases starts_cases ready with ⟨_, _, rfl⟩ | ⟨_, rfl⟩ <;> trivial
  · exact declares_acts ((Thread.move_moved moved).acts (base.roles.placed i t found)) k

theorem isOpen_step (base : Grounded S [""] c) (taken : (cluster S rand).step c a = some c')
    (opened : isOpen S c'.shared.redis = true) : isOpen S c.shared.redis = true := by
  cases Composite.took_of_step taken with
  | start => exact opened
  | outside moved => exact (outside_redis moved).1 ▸ opened
  | run found moved =>
    have moved := Thread.move_moved moved
    rcases moved.redis with same | same
    · exact same ▸ opened
    · exact isOpen_run (moved.proper (base.knows _ _ found)) (same ▸ opened)

theorem isGone_step (base : Grounded S [""] c) (h : Respected S c)
    (taken : (cluster S rand).step c a = some c') (gone : isGone S c.shared.redis id = true)
    (opened : isOpen S c'.shared.redis = true) : isGone S c'.shared.redis id = true := by
  cases Composite.took_of_step taken with
  | start => exact gone
  | outside moved => exact (outside_redis moved).1.symm ▸ gone
  | @run i step t t' w' found moved =>
    have moved := Thread.move_moved moved
    have proper := moved.proper (base.knows i t found)
    rcases moved.redis with same | same
    · exact same.symm ▸ gone
    obtain ⟨old, got, status⟩ := isGone_iff.mp gone
    generalize pending : t.pending S step c.shared = d at proper same
    simp only [same] at opened ⊢
    cases d with
    | create => exact proper.elim
    | setMetrics sessionID m =>
      cases proper
      refine isGone_iff.mpr ⟨old, ?_, status⟩
      rw [Command.run, Stamped.Store.get_put_of_ne (sessionSlaveKey_ne_metrics S.text id), got]
    | delete keys =>
      have named : sessionMetaKey S.text ∈ keys := by
        obtain ⟨listed, active, _, rfl⟩ := pending_delete pending
        simp [deletedKeys]
      simp only [isOpen, Command.run, Stamped.Store.get_dropAll, named, if_true] at opened
      cases opened
    | set state =>
      by_cases own : state.slaveID = id
      · subst own
        have written : state.status = .gone := by
          rcases pending_set (base.roles.placed i t found) pending with
            ⟨_, _, _, rfl, rfl⟩ | ⟨_, _, rfl⟩ | ⟨_, _, rfl⟩ | ⟨_, _, _, rfl⟩
          · cases moved with
            | resolved _ fresh => exact absurd got (fresh_record base fresh _)
            | register _ settled _ => exact absurd rfl (settled _)
          · exact h.declares i _ found
          · by_contra alive
            have := h.alive i _ found state.slaveID (by simp [Thread.revives, alive])
            simp [gone] at this
          · exact h.declares i _ found
        refine isGone_iff.mpr ⟨state, ?_, written⟩
        rw [Command.run, proper.1, Stamped.Store.get_put_self]
      · refine isGone_iff.mpr ⟨old, ?_, status⟩
        have other : sessionSlaveKey S.text id ≠ sessionSlaveKey S.text state.slaveID :=
          fun e => own (sessionSlaveKey_injective S.text e).symm
        rw [Command.run, proper.1, Stamped.Store.get_put_of_ne other, got]
    | _ => exact gone

theorem respected_started {startedAt : Time} {r : Server} :
    Respected S (started S startedAt r) := by
  constructor
  all_goals
    intro i t found
    rcases started_thread found with ⟨_, rfl⟩ | ⟨_, rfl⟩ <;> first | trivial | exact nofun

/-- Where the events respect GONE, a record that is GONE stays GONE until the session
is deleted. -/
theorem gone_absorbing {startedAt : Time} {r : Server} (vacant : Vacant S r)
    (reached : (cluster S rand).system.ReachableVia (fun c a => goneRespected S rand c a = true)
      (started S startedAt r) c)
    (later : (cluster S rand).system.ReachableVia (fun c a => goneRespected S rand c a = true) c c')
    (gone : isGone S c.shared.redis id = true) (opened : isOpen S c'.shared.redis = true) :
    isGone S c'.shared.redis id = true := by
  have respected : ∀ d, (cluster S rand).system.ReachableVia
      (fun c a => goneRespected S rand c a = true) (started S startedAt r) d → Respected S d :=
    fun d r => reachable_invariant vacant respected_started
      (fun _ _ _ base h met taken => respected_step base h met taken) r
  have kept : isOpen S c'.shared.redis = true → isGone S c'.shared.redis id = true := by
    refine later.invariant_given (J := fun d => Grounded S [""] d ∧ Respected S d)
      (I := fun d => isOpen S d.shared.redis = true → isGone S d.shared.redis id = true)
      (fun d more => ?_) (fun _ => gone) fun d a e base _ h _ taken opened => ?_
    · have whole := reached.trans more
      exact ⟨grounded_reachable vacant whole, respected d whole⟩
    · exact isGone_step base.1 base.2 taken
        (h (isOpen_step base.1 taken opened)) opened
  exact kept opened

end Absorbing

/-- The frontend reports a slave gone, and then an event is handled from end to end. -/
theorem gone_revived : ∃ c c', sampleCluster.run sampleSession (joins ++ reports 6 3) = some c ∧
    isGone .sample c.shared.redis UUID.sampleSlave.text = true ∧
    sampleCluster.run c (turns 6 0) = some c' ∧ isOpen .sample c'.shared.redis = true ∧
    isGone .sample c'.shared.redis UUID.sampleSlave.text = false := by
  obtain ⟨c, ran, passes⟩ := System.run_passes (joins ++ reports 6 3)
    (fun c => isGone .sample c.shared.redis UUID.sampleSlave.text &&
      (sampleCluster.run c (turns 6 0)).any fun c' => isOpen .sample c'.shared.redis &&
        !isGone .sample c'.shared.redis UUID.sampleSlave.text)
    (by decide +kernel : (sampleCluster.run sampleSession (joins ++ reports 6 3)).any _ = true)
  simp only [Bool.and_eq_true] at passes
  obtain ⟨gone, after⟩ := passes
  obtain ⟨c', later, passes⟩ := System.run_passes _ _ after
  simp only [Bool.and_eq_true, Bool.not_eq_true'] at passes
  exact ⟨c, c', ran, gone, later, passes⟩

/-- An event and a report of the frontend, and a second report. -/
theorem gone_absorbing_reported : ∃ c c',
    sampleCluster.run sampleSession (joins ++ turns 6 0 ++ reports 6 3) = some c ∧
      sampleCluster.run c (reports 3 4) = some c' ∧
      isGone .sample c'.shared.redis UUID.sampleSlave.text = true := by
  let before := joins ++ turns 6 0 ++ reports 6 3
  obtain ⟨c, ran, passes⟩ := System.run_passes before
    (fun c => isGone .sample c.shared.redis UUID.sampleSlave.text &&
      sampleCluster.check (goneRespected .sample .least) c (reports 3 4) &&
      (sampleCluster.run c (reports 3 4)).any fun c' => isOpen .sample c'.shared.redis)
    (by decide +kernel : (sampleCluster.run sampleSession before).any _ = true)
  simp only [Bool.and_eq_true] at passes
  obtain ⟨⟨gone, met⟩, after⟩ := passes
  obtain ⟨c', later, opened⟩ := System.run_passes _ _ after
  have first : sampleCluster.check (goneRespected .sample .least) sampleSession before = true := by
    decide +kernel
  exact ⟨c, c', ran, later, gone_absorbing (vacant_empty _)
    (System.run_reachableVia ran (System.meets_of_check first))
    (System.run_reachableVia later (System.meets_of_check met)) gone opened⟩

end Megalo.Cluster
