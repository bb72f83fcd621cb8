import Megalo.Cluster.Records

/-! Which slaves hear of the end of their session. markAllSlavesGone lists the records once,
and a registration that runs beside it may write its record after that. -/
namespace Megalo.Cluster

open Redis Slave Transition

def Told (S : UUID) (r : Server) (id : String) : Prop :=
  ∃ state ∈ r.states, state.sessionID = S.text ∧ state.slaveID = id ∧ state.status = .gone

/-- A registration that succeeds in counting its slave after markAllSlavesGone has listed the
records had written the record before. -/
def registersListed (S : UUID) (c : Config World Thread) : Turn Thread Step Outside → Bool
  | .run i step => match c.threads[i]? with
    | some (.register _ _ (.updating state (.exec _ stamp _))) =>
      step.input.reply != .answered ||
        c.shared.redis.store.stamp (sessionMetricsKey S.text) != stamp ||
          c.shared.listed.all fun listed => sessionSlaveKey S.text state.slaveID ∈ listed
    | _ => true
  | _ => true

section Farewell

variable {S : UUID} {rand : Rand} {step : Step} {w w' : World} {t t' : Thread}
  {c c' : Config World Thread} {a : Turn Thread Step Outside} {id : String}

/-- Every listed slave has been told, or is among those still to be. -/
def Left (S : UUID) (w : World) (left : String → Prop) : Prop :=
  ∃ listed, w.listed = some listed ∧
    ∀ id, sessionSlaveKey S.text id ∈ listed → left id ∨ Told S w.redis id

/-- How far the end of the session has come with the slaves it listed. -/
def Ending.Parting (S : UUID) (w : World) : Ending → Prop
  | .listing .keys => w.listed = none
  | .listing (.get key rest states) => Left S w fun id =>
    sessionSlaveKey S.text id ∈ key :: rest ∨ ∃ st ∈ states, st.slaveID = id
  | .publishing _ _ state _ rest => state.status = .gone ∧
    Left S w fun id => ∃ st ∈ state :: rest, st.slaveID = id
  | .updating _ _ | .deleting _ | .returned none => Left S w fun _ => False
  | _ => True

/-- A registration whose record is written and not listed finds it there when the records
are listed; one that has succeeded is listed. -/
def Registering.Parting (S : UUID) (w : World) : Registering → Prop
  | .publishing state _ | .updating state _ => w.listed = none →
    (w.redis.store.get (sessionSlaveKey S.text state.slaveID)).isSome = true
  | .returned (.ok state) => match w.listed with
    | none => (w.redis.store.get (sessionSlaveKey S.text state.slaveID)).isSome = true
    | some listed => sessionSlaveKey S.text state.slaveID ∈ listed
  | _ => True

def Thread.Parting (S : UUID) (w : World) : Thread → Prop
  | .register _ _ pc => pc.Parting S w
  | .ending pc => pc.Parting S w
  | _ => True

theorem Told.mono {r r' : Server} (told : Told S r id) (more : r.states ⊆ r'.states) :
    Told S r' id := by
  obtain ⟨state, member, found⟩ := told
  exact ⟨state, more member, found⟩

theorem states_run (d : Command) (r : Server) : r.states ⊆ (d.run r).states := by
  cases d <;> first | exact List.Subset.refl _ | exact List.subset_cons_self _ _

theorem Left.mono {left left' : String → Prop} (h : Left S w left) (same : w'.listed = w.listed)
    (more : w.redis.states ⊆ w'.redis.states)
    (fewer : ∀ id, left id → left' id ∨ Told S w'.redis id) :
    Left S w' left' := by
  obtain ⟨listed, held, covers⟩ := h
  refine ⟨listed, same.trans held, fun id member => ?_⟩
  rcases covers id member with waiting | told
  · exact fewer id waiting
  · exact .inr (told.mono more)

theorem Ending.Parting.mono {pc : Ending} (h : pc.Parting S w) (same : w'.listed = w.listed)
    (more : w.redis.states ⊆ w'.redis.states) : pc.Parting S w' := by
  have left : ∀ {left : String → Prop}, Left S w left → Left S w' left :=
    fun h => h.mono same more fun _ => .inl
  cases pc with
  | listing l =>
    cases l with
    | keys => exact same.trans h
    | get => exact left h
    | returned => trivial
  | publishing => exact ⟨h.1, left h.2⟩
  | returned err => cases err <;> first | exact left h | trivial
  | _ => exact left h

theorem parting_next {now : Time} {count : Nat} {states : List SlaveState}
    (known : ∀ st ∈ states, Known S [""] w st)
    (left : Left S w fun id => ∃ st ∈ states, st.slaveID = id) :
    (Ending.publishNext S.text now count states).Parting S w := by
  rcases next_cases now count known with ⟨rfl, same⟩ | ⟨state, rest, rfl, same⟩
  · rw [same]
    exact left.mono rfl (List.Subset.refl _) fun _ ⟨st, member, _⟩ => absurd member List.not_mem_nil
  · rw [same]
    refine ⟨rfl, left.mono rfl (List.Subset.refl _) fun id ⟨st, member, own⟩ => .inl ?_⟩
    rcases List.mem_cons.mp member with rfl | later
    · exact ⟨_, List.mem_cons_self, own⟩
    · exact ⟨st, List.mem_cons_of_mem _ later, own⟩

theorem parting_listed {now : Time} {keys : List String} {states : List SlaveState}
    (known : ∀ st ∈ states, Known S [""] w st)
    (left : Left S w fun id => sessionSlaveKey S.text id ∈ keys ∨ ∃ st ∈ states, st.slaveID = id) :
    (Ending.listed S.text now (.next states keys)).Parting S w := by
  cases keys with
  | nil =>
    refine parting_next known (left.mono rfl (List.Subset.refl _) fun id waiting => .inl ?_)
    exact waiting.resolve_left List.not_mem_nil
  | cons key rest => exact left

theorem parting_ending {pc next : Ending} {d : Command} (records : Records S [""] w)
    (knows : pc.Knows S [""] w) (running : ∀ err, pc ≠ .returned err) (later : pc ≠ .listing .keys)
    (moved : Ending.Moved S.text w.redis step.input pc (next, d)) (h : pc.Parting S w) :
    next.Parting S (w.run d) := by
  have more : w.redis.states ⊆ (w.run d).redis.states := states_run d w.redis
  cases moved with
  | list => exact absurd rfl later
  | read _ got =>
    obtain ⟨named, known⟩ := read_known records knows got
    refine parting_listed known (Left.mono h rfl more fun id waiting => .inl ?_)
    rcases waiting with key | ⟨st, member, own⟩
    · rcases List.mem_cons.mp key with same | rest
      · have own := sessionSlaveKey_injective S.text (same.trans named)
        exact .inr ⟨_, List.mem_append_right _ List.mem_cons_self, own.symm⟩
      · exact .inl rest
    · exact .inr ⟨st, List.mem_append_left _ member, own⟩
  | set => exact ⟨h.1, h.2.mono rfl more fun _ => .inl⟩
  | @publish now count state rest =>
    refine parting_next (fun st member => knows st (List.mem_cons_of_mem _ member))
      (h.2.mono rfl more fun id ⟨st, member, own⟩ => ?_)
    rcases List.mem_cons.mp member with rfl | waiting
    · exact .inr ⟨st, List.mem_cons_self, (knows st member).1, own, h.1⟩
    · exact .inl ⟨st, waiting, own⟩
  | update => exact Left.mono h rfl more fun _ => .inl
  | commit => exact Left.mono h rfl more fun _ => .inl
  | keys => exact Left.mono h rfl more fun _ => .inl
  | active => exact Left.mono h rfl more fun _ => .inl
  | delete => exact Left.mono h rfl more fun _ => .inl
  | finished => exact absurd rfl (running _)
  | _ => trivial

/-- What a turn does to the records before they are listed, and to the list. -/
structure Onward (S : UUID) (w w' : World) : Prop where
  stays : ∀ listed, w.listed = some listed → w'.listed = some listed
  kept : ∀ id, w'.listed = none → (w.redis.store.get (sessionSlaveKey S.text id)).isSome = true →
    (w'.redis.store.get (sessionSlaveKey S.text id)).isSome = true
  lists : ∀ listed id, w.listed = none → w'.listed = some listed →
    (w.redis.store.get (sessionSlaveKey S.text id)).isSome = true →
      sessionSlaveKey S.text id ∈ listed

theorem Onward.same (listed : w'.listed = w.listed) (redis : w'.redis = w.redis) :
    Onward S w w' := by
  refine ⟨fun _ held => listed.trans held, fun _ _ there => redis.symm ▸ there,
    fun l _ none some => ?_⟩
  rw [listed, none] at some
  cases some

theorem Onward.none (h : Onward S w w') (unlisted : w'.listed = none) : w.listed = none := by
  cases held : w.listed with
  | none => rfl
  | some listed => cases unlisted.symm.trans (h.stays listed held)

theorem Registering.Parting.later {pc : Registering} (h : pc.Parting S w) (onward : Onward S w w') :
    pc.Parting S w' := by
  cases pc with
  | publishing => exact fun unlisted => onward.kept _ unlisted (h (onward.none unlisted))
  | updating => exact fun unlisted => onward.kept _ unlisted (h (onward.none unlisted))
  | returned result =>
    cases result with
    | error => trivial
    | ok state =>
      simp only [Registering.Parting] at h ⊢
      cases now : w'.listed with
      | none =>
        rw [onward.none now] at h
        exact onward.kept _ now h
      | some listed =>
        cases before : w.listed with
        | none =>
          rw [before] at h
          exact onward.lists listed _ before now h
        | some old =>
          rw [before] at h
          cases now.symm.trans (onward.stays old before)
          exact h
  | _ => trivial

theorem acts_listed (acts : t.Acts S rand step w (w', t')) :
    w'.listed = w.listed ∨ t = .ending (.listing .keys) ∧
      w'.listed = some (w.redis.keys (sessionSlavePattern S.text)) := by
  cases acts with
  | list moved =>
    cases step.input.reply with
    | answered => exact .inr ⟨rfl, rfl⟩
    | _ => exact .inl rfl
  | deliver => exact .inl (deliver_frame ..).2.2
  | call ran =>
    subst ran
    exact .inl (call_frame ..).2.2
  | _ => exact .inl rfl

theorem onward_run (base : Grounded S [""] c) {i : Nat} (found : c.threads[i]? = some t)
    (moved : t.Moved S rand step c.shared (w', t')) (h : t.Parting S c.shared) :
    Onward S c.shared w' := by
  have proper := moved.proper (base.knows i t found)
  rcases acts_listed (moved.acts (base.roles.placed i t found)) with same | ⟨rfl, listed⟩
  · rcases moved.redis with unchanged | changed
    · exact .same same unchanged
    · refine ⟨fun _ held => same.trans held, fun id unlisted there => ?_, fun l _ none some => ?_⟩
      · rw [changed]
        refine get_slave_kept proper (fun keys pending => ?_) there
        -- the delete transaction comes after the records have been listed
        obtain ⟨_, _, rfl, _⟩ := pending_delete pending
        obtain ⟨listed, held, _⟩ := h
        cases (same.symm.trans unlisted).symm.trans held
      · rw [same, none] at some
        cases some
  · have held : c.shared.listed = none := h
    refine ⟨fun l before => ?_, fun id unlisted _ => ?_, fun l id _ after there => ?_⟩
    · cases held.symm.trans before
    · cases unlisted.symm.trans listed
    · cases after.symm.trans listed
      obtain ⟨payload, got⟩ := Option.isSome_iff_exists.mp there
      exact covers_keys c.shared.redis id payload got

theorem parting_acts (base : Grounded S [""] c) {i : Nat} (found : c.threads[i]? = some t)
    (met : registersListed S c (.run i step) = true) (onward : Onward S c.shared w')
    (acts : t.Acts S rand step c.shared (w', t')) (h : t.Parting S c.shared) :
    t'.Parting S w' := by
  have knows := base.knows i t found
  cases acts with
  | list moved =>
    cases moved with
    | failed => trivial
    | list answered =>
      refine parting_listed (fun _ member => absurd member List.not_mem_nil) ?_
      simp only [answered]
      refine ⟨_, rfl, fun id member => .inl (.inl ?_)⟩
      exact (List.perm_insertionSort _ _).mem_iff.mpr member
  | ending later running moved => exact parting_ending base.records knows running later moved h
  | deliver => exact Registering.Parting.later h onward
  | resolved fresh moved =>
    cases moved with
    | @set _ state made =>
      intro _
      have session : state.sessionID = S.text := by rw [made]; exact knows
      simp only [World.run, Command.run, session, Stamped.Store.get_put_self, Option.isSome_some]
    | _ => trivial
  | register settled running moved =>
    cases moved with
    | publish => exact h
    | update => exact h
    | @commit state a n m answered same =>
      have session : state.sessionID = S.text := knows.1
      rw [session] at same
      simp only [registersListed, found, answered, same, bne_self_eq_false, Bool.false_or] at met
      simp only [Thread.Parting, Registering.Parting, World.run]
      cases held : c.shared.listed with
      | none => exact onward.kept state.slaveID held (h held)
      | some listed =>
        rw [held] at met
        exact of_decide_eq_true met
    | set => exact absurd rfl (settled _)
    | _ => trivial
  | _ => trivial

theorem parting_step (base : Grounded S [""] c)
    (h : ∀ (i : Nat) t, c.threads[i]? = some t → t.Parting S c.shared)
    (met : registersListed S c a = true) (taken : (cluster S rand).step c a = some c') :
    ∀ (i : Nat) t, c'.threads[i]? = some t → t.Parting S c'.shared := by
  have took := Composite.took_of_step taken
  refine took.each_kept (P := fun _ w t => t.Parting S w) h (fun t _ ready => ?_)
    (fun i step t w' t' run found moved parting => ?_) fun i t at_i other parting => ?_
  · rcases starts_cases ready with ⟨_, _, rfl⟩ | ⟨_, rfl⟩ <;> trivial
  · subst run
    have moved := Thread.move_moved moved
    exact parting_acts base found met (onward_run base found moved parting)
      (moved.acts (base.roles.placed i t found)) parting
  · have ⟨onward, listed, more⟩ : Onward S c.shared c'.shared ∧
        (t.isEnding = true → c'.shared.listed = c.shared.listed) ∧
          c.shared.redis.states ⊆ c'.shared.redis.states := by
      cases took with
      | start => exact ⟨.same rfl rfl, fun _ => rfl, List.Subset.refl _⟩
      | outside moved =>
        obtain ⟨redis, _, listed⟩ := outside_redis moved
        exact ⟨.same listed redis, fun _ => listed, redis ▸ List.Subset.refl _⟩
      | @run j step t' t'' w' found moved =>
        have moved := Thread.move_moved moved
        refine ⟨onward_run base found moved (h j t' found), fun ending => ?_, ?_⟩
        · rcases acts_listed (moved.acts (base.roles.placed j t' found)) with same | ⟨rfl, _⟩
          · exact same
          · refine absurd ?_ (other step)
            rw [base.roles.ending j _ found rfl, base.roles.ending i t at_i ending]
        · rcases moved.redis with same | same
          · exact same ▸ List.Subset.refl _
          · exact same ▸ states_run _ _
    cases t with
    | register caller req pc => exact Registering.Parting.later parting onward
    | ending pc => exact Ending.Parting.mono parting (listed rfl) more
    | _ => trivial

/-- Where every registration that is counted after the listing had its record listed, each
slave that registers is told by the time both calls have returned. -/
theorem registered_told {startedAt : Time} {r : Server} (vacant : Vacant S r)
    (reached : (cluster S rand).system.ReachableVia (fun c a => registersListed S c a = true)
      (started S startedAt r) c) {i j : Nat} {caller : Option ProcessID}
    {req : RegisterSlaveRequest} {state : SlaveState}
    (ended : c.threads[i]? = some (.ending (.returned none)))
    (registered : c.threads[j]? = some (.register caller req (.returned (.ok state)))) :
    Told S c.shared.redis state.slaveID := by
  have parting : ∀ (i : Nat) t, c.threads[i]? = some t → t.Parting S c.shared := by
    refine reachable_invariant (I := fun d => ∀ (i : Nat) t, d.threads[i]? = some t →
      t.Parting S d.shared) vacant (fun i t found => ?_)
      (fun _ _ _ base h met taken => parting_step base h met taken) reached
    rcases started_thread found with ⟨_, rfl⟩ | ⟨_, rfl⟩
    · trivial
    · exact rfl
  obtain ⟨listed, held, covers⟩ := parting i _ ended
  have member := parting j _ registered
  simp only [Thread.Parting, Registering.Parting, held] at member
  exact (covers _ member).resolve_left id

end Farewell

/-- RegisterSlave runs between the listing of markAllSlavesGone and DeleteSession. -/
def joinsLate : List (Turn Thread Step Outside) := turn 1 "" :: joins ++ turns 6 1

def registeredSample (c : Config World Thread) : Bool :=
  match (c.threads[2]? : Option Thread) with
  | some (.register _ _ (.returned (.ok state))) => state.slaveID == UUID.sampleSlave.text
  | _ => false

theorem registeredSample_returned {c : Config World Thread}
    (registered : registeredSample c = true) :
    ∃ caller req state, c.threads[2]? = some (.register caller req (.returned (.ok state))) ∧
      state.slaveID = UUID.sampleSlave.text := by
  unfold registeredSample at registered
  split at registered
  · exact ⟨_, _, _, ‹_›, beq_iff_eq.mp registered⟩
  · cases registered

/-- The slave is registered and keeps its id, and no GONE state of it was ever published. -/
theorem registered_not_told : ∃ c caller req state,
    sampleCluster.run sampleSession joinsLate = some c ∧
    c.threads[1]? = some (.ending (.returned none)) ∧
    c.threads[2]? = some (.register caller req (.returned (.ok state))) ∧
    ¬ Told .sample c.shared.redis state.slaveID := by
  obtain ⟨c, ran, passes⟩ := System.run_passes joinsLate
    (fun c => sessionEnded c && registeredSample c &&
      c.shared.redis.states.all fun state =>
        !(state.slaveID == UUID.sampleSlave.text && state.status == .gone))
    (by decide +kernel : (sampleCluster.run sampleSession joinsLate).any _ = true)
  simp only [Bool.and_eq_true, List.all_eq_true, Bool.not_eq_true', Bool.and_eq_false_iff,
    beq_eq_false_iff_ne] at passes
  obtain ⟨⟨ended, registered⟩, silent⟩ := passes
  obtain ⟨caller, req, state, found, own⟩ := registeredSample_returned registered
  refine ⟨c, caller, req, state, ran, sessionEnded_returned ended, found, ?_⟩
  rintro ⟨gone, member, _, same, status⟩
  exact (silent gone member).elim (fun other => other (same.trans own)) fun other => other status

theorem registered_told_joined : ∃ c,
    sampleCluster.run sampleSession (joins ++ turns 10 1) = some c ∧
    Told .sample c.shared.redis UUID.sampleSlave.text := by
  obtain ⟨c, ran, passes⟩ := System.run_passes (joins ++ turns 10 1)
    (fun c => sessionEnded c && registeredSample c)
    (by decide +kernel : (sampleCluster.run sampleSession (joins ++ turns 10 1)).any _ = true)
  simp only [Bool.and_eq_true] at passes
  obtain ⟨ended, registered⟩ := passes
  obtain ⟨caller, req, state, found, own⟩ := registeredSample_returned registered
  have met : sampleCluster.check (registersListed .sample) sampleSession
      (joins ++ turns 10 1) = true := by decide +kernel
  have told := registered_told (vacant_empty _)
    (System.run_reachableVia ran (System.meets_of_check met)) (sessionEnded_returned ended) found
  exact ⟨c, ran, own ▸ told⟩

end Megalo.Cluster
