import Megalo.Cluster.Commands

/-! What the records of the session and the states the threads hold have in common: they
belong to the session, under slave ids that RegisterSlave has given out. -/
namespace Megalo.Cluster

open Redis Slave Transition

/-- An id RegisterSlave has drawn, or one of the given others. -/
def World.Named (others : List String) (w : World) (id : String) : Prop :=
  id ∈ others ∨ ∃ u ∈ w.issued, u.text = id

def Known (S : UUID) (others : List String) (w : World) (state : SlaveState) : Prop :=
  state.sessionID = S.text ∧ w.Named others state.slaveID

/-- What Redis holds under the keys of the session. -/
structure Records (S : UUID) (others : List String) (w : World) : Prop where
  slave : ∀ id payload, w.redis.store.get (sessionSlaveKey S.text id) = some payload →
    ∃ state, payload = .slave state ∧ state.slaveID = id ∧ Known S others w state
  metrics : ∀ payload, w.redis.store.get (sessionMetricsKey S.text) = some payload →
    ∃ m, payload = .metrics m
  active : ∀ payload, w.redis.store.get activeSessionKey = some payload → payload = .text S.text
  slaves : ∀ p s, w.slaves p = some s → w.Named [""] s.pod.slaveID

def Listing.Knows (S : UUID) (others : List String) (w : World) : Listing → Prop
  | .keys => True
  | .get key rest states =>
    (∀ k ∈ key :: rest, ∃ id, k = sessionSlaveKey S.text id) ∧ ∀ st ∈ states, Known S others w st
  | .returned (.ok states) => ∀ st ∈ states, Known S others w st
  | .returned (.error _) => True

def Registering.Knows (S : UUID) (others : List String) (w : World) : Registering → Prop
  | .resolved sessionID => sessionID = S.text
  | .publishing state _ | .updating state _ | .returned (.ok state) => Known S others w state
  | _ => True

def PodUpdating.Knows (S : UUID) (others : List String) (w : World) : PodUpdating → Prop
  | .publishing previous state _ | .updating previous state _ =>
    Known S others w previous ∧ Known S others w state
  | _ => True

def Handling.Knows (S : UUID) (others : List String) (w : World) : Handling → Prop
  | .idle => True
  | .listing event l => event.sessionID = S.text ∧ Listing.Knows S others w l
  | .dispatch event previous => event.sessionID = S.text ∧ Known S others w previous
  | .publishing event previous state _ | .updating event previous state _ =>
    event.sessionID = S.text ∧ Known S others w previous ∧ Known S others w state

def Ending.Knows (S : UUID) (others : List String) (w : World) : Ending → Prop
  | .listing l => Listing.Knows S others w l
  | .publishing _ _ state _ rest => ∀ st ∈ state :: rest, Known S others w st
  | _ => True

def Thread.Knows (S : UUID) (others : List String) (w : World) : Thread → Prop
  | .register _ _ pc => pc.Knows S others w
  | .podUpdate _ pc => pc.Knows S others w
  | .controller pc => pc.Knows S others w
  | .ending pc => pc.Knows S others w

section Knows

variable {S : UUID} {others : List String} {w w' : World} {i : Input}

theorem Known.mono {state : SlaveState} (known : Known S others w state)
    (more : w.issued ⊆ w'.issued) : Known S others w' state :=
  ⟨known.1, known.2.imp_right fun ⟨u, member, same⟩ => ⟨u, more member, same⟩⟩

theorem Thread.Knows.mono {t : Thread} (knows : t.Knows S others w)
    (more : w.issued ⊆ w'.issued) : t.Knows S others w' := by
  have all : ∀ {states : List SlaveState}, (∀ st ∈ states, Known S others w st) →
      ∀ st ∈ states, Known S others w' st := fun h st member => (h st member).mono more
  have list : ∀ {l : Listing}, Listing.Knows S others w l → Listing.Knows S others w' l := by
    intro l h
    cases l with
    | keys => trivial
    | get key rest states => exact h.imp_right all
    | returned result => cases result with
      | ok states => exact all h
      | error err => trivial
  cases t with
  | register caller req pc =>
    cases pc with
    | publishing | updating => exact Known.mono knows more
    | returned result => cases result with
      | ok state => exact Known.mono knows more
      | error err => trivial
    | _ => exact knows
  | podUpdate message pc =>
    cases pc with
    | publishing | updating => exact ⟨knows.1.mono more, knows.2.mono more⟩
    | _ => trivial
  | controller pc =>
    cases pc with
    | idle => trivial
    | listing => exact knows.imp_right list
    | dispatch => exact knows.imp_right fun h => h.mono more
    | publishing | updating => exact ⟨knows.1, knows.2.1.mono more, knows.2.2.mono more⟩
  | ending pc =>
    cases pc with
    | listing => exact list knows
    | publishing => exact all knows
    | _ => trivial

theorem keys_slave {r : Server} {k : String} (h : k ∈ r.keys (sessionSlavePattern S.text)) :
    ∃ id, k = sessionSlaveKey S.text id :=
  (matches_slavePattern (uuid_plain S) k).mp (List.mem_filter.mp h).2

theorem Listing.Knows.next {states : List SlaveState} {keys : List String}
    (named : ∀ k ∈ keys, ∃ id, k = sessionSlaveKey S.text id)
    (known : ∀ st ∈ states, Known S others w st) :
    Listing.Knows S others w (.next states keys) := by
  cases keys with
  | nil => exact known
  | cons k rest => exact ⟨named, known⟩

theorem read_known {key : String} {rest : List String} {states : List SlaveState}
    {state : SlaveState} (records : Records S others w)
    (knows : Listing.Knows S others w (.get key rest states))
    (got : w.redis.store.get key = some (.slave state)) :
    key = sessionSlaveKey S.text state.slaveID ∧ ∀ st ∈ states ++ [state], Known S others w st := by
  obtain ⟨id, rfl⟩ := knows.1 key List.mem_cons_self
  obtain ⟨_, same, rfl, known⟩ := records.slave id _ got
  cases same
  refine ⟨rfl, fun st member => ?_⟩
  rcases List.mem_append.mp member with old | new
  · exact knows.2 st old
  · exact List.mem_singleton.mp new ▸ known

theorem Listing.Knows.read {key : String} {rest : List String} {states : List SlaveState}
    {state : SlaveState} (records : Records S others w)
    (knows : Listing.Knows S others w (.get key rest states))
    (got : w.redis.store.get key = some (.slave state)) :
    Listing.Knows S others w (.next (states ++ [state]) rest) :=
  .next (fun k member => knows.1 k (List.mem_cons_of_mem _ member)) (read_known records knows got).2

theorem Listing.Knows.listed (r : Server) : Listing.Knows S others w
    (.next [] ((r.keys (sessionSlavePattern S.text)).insertionSort (· ≤ ·))) :=
  .next (fun _ member => keys_slave ((List.perm_insertionSort _ _).mem_iff.mp member))
    fun _ member => absurd member List.not_mem_nil

theorem Listing.Knows.step (records : Records S others w) {l : Listing}
    (knows : Listing.Knows S others w l) : Listing.Knows S others w (l.step S.text w.redis i) := by
  cases l with
  | keys =>
    simp only [Listing.step]
    split
    · trivial
    · exact .listed w.redis
  | get key rest states =>
    simp only [Listing.step]
    split
    · trivial
    · split
      · trivial
      · rename_i payload got
        obtain ⟨id, rfl⟩ := knows.1 key List.mem_cons_self
        obtain ⟨state, rfl, _⟩ := records.slave id payload got
        exact knows.read records got
  | returned result => exact knows

theorem getActive_session (records : Records S others w) {sessionID : String}
    (got : getActiveSessionID w.redis i = .ok sessionID) : sessionID = S.text := by
  unfold getActiveSessionID at got
  split at got
  · cases got
  · split at got
    · cases got
    · rename_i payload found
      cases records.active payload found
      exact (Except.ok.inj got).symm

theorem getSlaveState_known (records : Records S others w) {id : String} {state : SlaveState}
    (got : getSlaveState w.redis i S.text id = .ok state) :
    w.redis.store.get (sessionSlaveKey S.text id) = some (.slave state) ∧
      state.slaveID = id ∧ Known S others w state := by
  unfold getSlaveState at got
  split at got
  · cases got
  · split at got
    · cases got
    · rename_i payload found
      obtain ⟨st, rfl, same, known⟩ := records.slave id payload found
      cases Except.ok.inj got
      exact ⟨found, same, known⟩

theorem resolveTarget_mem {target : String} {states : List SlaveState} {state : SlaveState}
    (resolved : resolveTargetSlaveState target states = .ok state) : state ∈ states := by
  unfold resolveTargetSlaveState at resolved
  split at resolved
  · cases resolved
  · rename_i first rest
    split at resolved
    · cases Except.ok.inj resolved
      cases found : (first :: rest).find? fun state => state.status != .gone with
      | none => exact List.mem_cons_self
      | some st => exact List.mem_of_find?_eq_some found
    · dsimp only at resolved
      split at resolved
      · rename_i found
        exact Except.ok.inj resolved ▸ List.mem_of_find?_eq_some found
      · cases resolved

theorem Handling.Knows.resolved {event : Event} (ours : event.sessionID = S.text) {l : Listing}
    (knows : Listing.Knows S others w l) : (Handling.resolved event l).Knows S others w := by
  cases l with
  | returned result =>
    cases result with
    | error err => trivial
    | ok states =>
      simp only [Handling.resolved]
      split
      · rename_i found
        exact ⟨ours, knows _ (resolveTarget_mem found)⟩
      · trivial
  | _ => exact ⟨ours, knows⟩

theorem Ending.Knows.publishNext {now : Time} {count : Nat} {states : List SlaveState}
    (known : ∀ st ∈ states, Known S others w st) :
    (Ending.publishNext S.text now count states).Knows S others w := by
  cases states with
  | nil => trivial
  | cons state rest =>
    simp only [Ending.publishNext]
    split
    · trivial
    · intro st member
      rcases List.mem_cons.mp member with rfl | old
      · exact known state List.mem_cons_self
      · exact known st (List.mem_cons_of_mem _ old)

theorem Ending.Knows.listed {now : Time} {l : Listing} (knows : Listing.Knows S others w l) :
    (Ending.listed S.text now l).Knows S others w := by
  cases l with
  | returned result => cases result with
    | ok states => exact Ending.Knows.publishNext knows
    | error err => trivial
  | _ => exact knows

end Knows

section Steps

variable {S : UUID} {rand : Rand} {others : List String} {step : Step} {w w' : World}
  {t t' : Thread}

/-- The process that answers for a dispatched event holds one of the ids. -/
def Answers (others : List String) (step : Step) (w : World) : Thread → Prop
  | .controller (.dispatch event previous) => step.input.reply = .answered →
    ∀ p s, w.answering previous.podIP = some (p, s) → s.accepts event.targetPod = true →
      w.Named others s.pod.slaveID
  | _ => True

theorem Thread.Moved.issued (moved : t.Moved S rand step w (w', t')) : w.issued ⊆ w'.issued := by
  cases moved with
  | resolved => exact List.subset_cons_self _ _
  | deliver => rw [(deliver_frame ..).2.1]; exact List.Subset.refl _
  | call ran =>
    subst ran
    rw [(call_frame ..).2.1]
    exact List.Subset.refl _
  | _ => exact List.Subset.refl _

theorem knows_acts (acts : t.Acts S rand step w (w', t')) (records : Records S others w)
    (knows : t.Knows S others w) (answers : Answers others step w t) : t'.Knows S others w' := by
  cases acts with
  | deliver =>
    apply Thread.Knows.mono (t := .register none _ _) knows
    rw [(deliver_frame ..).2.1]
    exact List.Subset.refl _
  | resolved fresh moved =>
    cases moved with
    | set made =>
      subst made
      exact ⟨knows, .inr ⟨_, List.mem_cons_self, rfl⟩⟩
    | _ => trivial
  | register settled _ moved =>
    cases moved with
    | resolve got => exact getActive_session records got
    | set => exact absurd rfl (settled _)
    | finished => exact knows
    | publish | update | commit => exact knows
    | _ => trivial
  | podUpdate _ moved =>
    cases moved with
    | receive got made =>
      subst made
      obtain ⟨_, _, known⟩ := getSlaveState_known records got
      exact ⟨known, known⟩
    | set | publish | update => exact knows
    | _ => trivial
  | receive ours => exact ⟨ours, trivial⟩
  | @call event previous _ ran =>
    subst ran
    refine Thread.Knows.mono (t := .controller _) (w := w) ?_ ?_
    · rcases call_outcome rand w step.input event previous with
        same | ⟨p, s, resp, reply, found, answered, same⟩ <;> rw [same]
      · trivial
      · have own : (Handling.answeredState event resp).slaveID = s.pod.slaveID :=
          executeEvent_answer rand answered
        have named := answers reply p s found (executeEvent_accepts rand answered)
        exact ⟨knows.1, knows.2, knows.1, own ▸ named⟩
    · rw [(call_frame ..).2.1]
      exact List.Subset.refl _
  | handle moved =>
    cases moved with
    | listing =>
      apply Handling.Knows.resolved knows.1
      rw [knows.1]
      exact knows.2.step records
    | set | publish | update => exact knows
    | _ => trivial
  | list moved =>
    cases moved with
    | list => exact Ending.Knows.listed (.listed w.redis)
    | failed => trivial
  | ending later _ moved =>
    cases moved with
    | list => exact absurd rfl later
    | read _ got => exact Ending.Knows.listed (Listing.Knows.read records knows got)
    | set => exact knows
    | publish =>
      exact Ending.Knows.publishNext fun st member => knows st (List.mem_cons_of_mem _ member)
    | _ => trivial

def Proper (S : UUID) (others : List String) (w : World) : Command → Prop
  | .set state => Known S others w state
  | .setMetrics sessionID _ => sessionID = S.text
  | .create _ _ => False
  | _ => True

theorem Publishing.proper {state : SlaveState} (known : Known S others w state)
    (p : Publishing) : Proper S others w (p.pending state) := by
  cases p <;> first | exact known | trivial

theorem Updating.proper (u : Updating) (r : Server) : Proper S others w (u.pending S.text r) := by
  cases u with
  | exec a n m =>
    simp only [Updating.pending]
    split
    · exact rfl
    · trivial
  | _ => trivial

theorem Thread.Moved.proper (moved : t.Moved S rand step w (w', t'))
    (knows : t.Knows S others w) : Proper S others w' (t.pending S step w) := by
  have more := moved.issued
  cases moved with
  | deliver => trivial
  | resolved _ _ => exact ⟨knows, .inr ⟨_, List.mem_cons_self, rfl⟩⟩
  | @register _ _ pc _ _ settled _ =>
    cases pc with
    | resolved sessionID => exact absurd rfl (settled sessionID)
    | publishing state p => exact Publishing.proper (knows.mono more) p
    | updating state u =>
      simp only [Thread.pending, knows.1]
      exact Updating.proper u _
    | _ => trivial
  | @podUpdate _ pc _ _ _ =>
    cases pc with
    | publishing previous state p => exact Publishing.proper (knows.2.mono more) p
    | updating previous state u => exact Updating.proper u _
    | _ => trivial
  | receive => trivial
  | call => trivial
  | @handle pc _ _ _ _ =>
    cases pc with
    | publishing event previous state p => exact Publishing.proper (knows.2.2.mono more) p
    | updating event previous state u =>
      simp only [Thread.pending, knows.1]
      exact Updating.proper u _
    | _ => trivial
  | list => trivial
  | @ending pc _ _ _ _ =>
    cases pc with
    | publishing now count state p rest =>
      exact Publishing.proper ((knows state List.mem_cons_self).mono more) p
    | updating count u => exact Updating.proper u _
    | deleting d => cases d <;> trivial
    | _ => trivial

theorem get_slave_run {c : Command} (proper : Proper S others w c) {r : Server} {id : String}
    {payload : Payload} (got : (c.run r).store.get (sessionSlaveKey S.text id) = some payload) :
    (∃ state, c = .set state ∧ state.slaveID = id ∧ payload = .slave state) ∨
      r.store.get (sessionSlaveKey S.text id) = some payload := by
  cases c with
  | create => exact proper.elim
  | set state =>
    simp only [Command.run, proper.1] at got
    by_cases same : state.slaveID = id
    · rw [same, Stamped.Store.get_put_self] at got
      exact .inl ⟨state, rfl, same, (Option.some.inj got).symm⟩
    · have other : sessionSlaveKey S.text id ≠ sessionSlaveKey S.text state.slaveID :=
        fun h => same (sessionSlaveKey_injective S.text h).symm
      rw [Stamped.Store.get_put_of_ne other] at got
      exact .inr got
  | setMetrics sessionID m =>
    cases proper
    rw [Command.run, Stamped.Store.get_put_of_ne (sessionSlaveKey_ne_metrics S.text id)] at got
    exact .inr got
  | delete keys =>
    simp only [Command.run, Stamped.Store.get_dropAll] at got
    split at got
    · cases got
    · exact .inr got
  | _ => exact .inr got

theorem get_metrics_run {c : Command} (proper : Proper S others w c) {r : Server}
    {payload : Payload} (got : (c.run r).store.get (sessionMetricsKey S.text) = some payload) :
    (∃ m, c = .setMetrics S.text m ∧ payload = .metrics m) ∨
      r.store.get (sessionMetricsKey S.text) = some payload := by
  cases c with
  | create => exact proper.elim
  | set state =>
    simp only [Command.run, proper.1] at got
    rw [Stamped.Store.get_put_of_ne (sessionSlaveKey_ne_metrics S.text _).symm] at got
    exact .inr got
  | setMetrics sessionID m =>
    cases proper
    rw [Command.run, Stamped.Store.get_put_self] at got
    exact .inl ⟨m, rfl, (Option.some.inj got).symm⟩
  | delete keys =>
    simp only [Command.run, Stamped.Store.get_dropAll] at got
    split at got
    · cases got
    · exact .inr got
  | _ => exact .inr got

theorem get_meta_run {c : Command} (proper : Proper S others w c) {r : Server}
    {payload : Payload} (got : (c.run r).store.get (sessionMetaKey S.text) = some payload) :
    r.store.get (sessionMetaKey S.text) = some payload := by
  cases c with
  | create => exact proper.elim
  | set state =>
    simp only [Command.run, proper.1] at got
    rwa [Stamped.Store.get_put_of_ne (sessionSlaveKey_ne_meta S.text _).symm] at got
  | setMetrics sessionID m =>
    cases proper
    rwa [Command.run, Stamped.Store.get_put_of_ne (sessionMetaKey_ne_metrics S.text)] at got
  | delete keys =>
    simp only [Command.run, Stamped.Store.get_dropAll] at got
    split at got
    · cases got
    · exact got
  | _ => exact got

/-- DeleteSession has not run its transaction. -/
def isOpen (S : UUID) (r : Server) : Bool := (r.store.get (sessionMetaKey S.text)).isSome

theorem isOpen_run {d : Command} {r : Server}
    (proper : Proper S others w d) (opened : isOpen S (d.run r) = true) : isOpen S r = true := by
  obtain ⟨payload, got⟩ := Option.isSome_iff_exists.mp opened
  exact Option.isSome_iff_exists.mpr ⟨payload, get_meta_run proper got⟩

theorem isOpen_kept {d : Command} {r : Server} (proper : Proper S others w d)
    (kept : ∀ keys, d ≠ .delete keys) (opened : isOpen S r = true) : isOpen S (d.run r) = true := by
  cases d with
  | create => exact proper.elim
  | set state =>
    simp only [isOpen, Command.run, proper.1]
    rwa [Stamped.Store.get_put_of_ne (sessionSlaveKey_ne_meta S.text _).symm]
  | setMetrics sessionID m =>
    cases proper
    rwa [isOpen, Command.run, Stamped.Store.get_put_of_ne (sessionMetaKey_ne_metrics S.text)]
  | delete keys => exact absurd rfl (kept keys)
  | _ => exact opened

theorem get_slave_kept {d : Command} {r : Server} {id : String}
    (proper : Proper S others w d) (kept : ∀ keys, d ≠ .delete keys)
    (there : (r.store.get (sessionSlaveKey S.text id)).isSome = true) :
    ((d.run r).store.get (sessionSlaveKey S.text id)).isSome = true := by
  cases d with
  | create => exact proper.elim
  | set state =>
    simp only [Command.run, proper.1]
    by_cases same : state.slaveID = id
    · rw [same, Stamped.Store.get_put_self]
      rfl
    · have other : sessionSlaveKey S.text id ≠ sessionSlaveKey S.text state.slaveID :=
        fun h => same (sessionSlaveKey_injective S.text h).symm
      rwa [Stamped.Store.get_put_of_ne other]
  | setMetrics sessionID m =>
    cases proper
    rwa [Command.run, Stamped.Store.get_put_of_ne (sessionSlaveKey_ne_metrics S.text id)]
  | delete keys => exact absurd rfl (kept keys)
  | _ => exact there

theorem get_active_run {c : Command} (proper : Proper S others w c) {r : Server}
    {payload : Payload} (got : (c.run r).store.get activeSessionKey = some payload) :
    r.store.get activeSessionKey = some payload := by
  cases c with
  | create => exact proper.elim
  | set state =>
    rw [Command.run, Stamped.Store.get_put_of_ne (sessionSlaveKey_ne_active _ _).symm] at got
    exact got
  | setMetrics sessionID m =>
    rw [Command.run, Stamped.Store.get_put_of_ne (sessionMetricsKey_ne_active _).symm] at got
    exact got
  | delete keys =>
    simp only [Command.run, Stamped.Store.get_dropAll] at got
    split at got
    · cases got
    · exact got
  | _ => exact got

theorem setService_named {q : ProcessID} {s' : Service} (named : w.Named [""] s'.pod.slaveID)
    (old : ∀ p s, w.slaves p = some s → w.Named [""] s.pod.slaveID) :
    ∀ p s, (w.setService q s').slaves p = some s → w.Named [""] s.pod.slaveID := by
  intro p s found
  rw [setService_slaves] at found
  rcases update_cases found with ⟨_, moved⟩ | ⟨_, before⟩
  · cases moved
    exact named
  · exact old p s before

theorem Thread.Moved.slaves (moved : t.Moved S rand step w (w', t')) (sub : others ⊆ [""])
    (records : Records S others w) (knows : t.Knows S others w) :
    ∀ p s, w'.slaves p = some s → w'.Named [""] s.pod.slaveID := by
  cases moved with
  | @deliver p _ result =>
    rcases deliver_cases w step.input.reply p result with same | ⟨state, s, rfl, _, same⟩
    · rw [same]
      exact records.slaves
    · rw [same]
      exact setService_named (knows.2.imp_left fun member => sub member) records.slaves
  | @call event previous _ ran =>
    subst ran
    rcases call_cases rand w step.input event previous with same | ⟨p, s, _, held, pc, same, _⟩
    · rw [same]
      exact records.slaves
    · rw [same]
      refine setService_named ?_ records.slaves
      rw [executeEvent_slaveID]
      exact records.slaves p s held
  | resolved _ _ =>
    intro p s found
    exact (records.slaves p s found).imp_right fun ⟨u, member, same⟩ =>
      ⟨u, List.mem_cons_of_mem _ member, same⟩
  | _ => exact records.slaves

theorem Thread.Moved.records (moved : t.Moved S rand step w (w', t')) (sub : others ⊆ [""])
    (records : Records S others w) (knows : t.Knows S others w) : Records S others w' := by
  have proper := moved.proper knows
  have more := moved.issued
  refine ⟨fun id payload got => ?_, fun payload got => ?_, fun payload got => ?_,
    moved.slaves sub records knows⟩
  · have old : w.redis.store.get (sessionSlaveKey S.text id) = some payload →
        ∃ state, payload = .slave state ∧ state.slaveID = id ∧ Known S others w' state := by
      intro got
      obtain ⟨state, made, same, known⟩ := records.slave id payload got
      exact ⟨state, made, same, known.mono more⟩
    rcases moved.redis with same | same
    · exact old (same ▸ got)
    · rcases get_slave_run proper (same ▸ got) with ⟨state, command, named, made⟩ | got
      · rw [command] at proper
        exact ⟨state, made, named, proper⟩
      · exact old got
  · rcases moved.redis with same | same
    · exact records.metrics payload (same ▸ got)
    · rcases get_metrics_run proper (same ▸ got) with ⟨m, _, made⟩ | got
      · exact ⟨m, made⟩
      · exact records.metrics payload got
  · rcases moved.redis with same | same
    · exact records.active payload (same ▸ got)
    · exact records.active payload (get_active_run proper (same ▸ got))

/-- What holds in every state of every run: of the records, of what the threads hold, of
the threads there are, and of what they have read. -/
structure Grounded (S : UUID) (others : List String) (c : Config World Thread) : Prop where
  records : Records S others c.shared
  knows : ∀ (i : Nat) t, c.threads[i]? = some t → t.Knows S others c.shared
  roles : Roles c
  sound : ∀ (i : Nat) t, c.threads[i]? = some t → t.Sound S c.shared.redis

theorem Records.outside {e : Outside} (moved : w.outside e = some w')
    (records : Records S others w) : Records S others w' := by
  obtain ⟨redis, issued, _⟩ := outside_redis moved
  refine ⟨fun id payload got => ?_, fun payload got => ?_, fun payload got => ?_, ?_⟩
  · obtain ⟨state, made, same, known⟩ := records.slave id payload (redis ▸ got)
    exact ⟨state, made, same, known.mono fun _ member => issued.symm ▸ member⟩
  · exact records.metrics payload (redis ▸ got)
  · exact records.active payload (redis ▸ got)
  · cases e with
    | start p =>
      simp only [World.outside, Option.ite_none_left_eq_some] at moved
      cases Option.some.inj moved.2
      exact setService_named (.inl List.mem_cons_self) records.slaves
    | stop =>
      cases Option.some.inj moved
      exact records.slaves

theorem grounded_step {c c' : Config World Thread} {a : Turn Thread Step Outside}
    (sub : others ⊆ [""]) (h : Grounded S others c)
    (answers : ∀ i step t, a = .run i step → c.threads[i]? = some t →
      Answers others step c.shared t)
    (taken : (cluster S rand).step c a = some c') : Grounded S others c' := by
  have took := Composite.took_of_step taken
  refine ⟨?_, ?_, roles_step h.roles taken, sound_step h.roles h.sound taken⟩
  · cases took with
    | start => exact h.records
    | run found moved => exact (Thread.move_moved moved).records sub h.records (h.knows _ _ found)
    | outside moved => exact h.records.outside moved
  · refine took.each_kept (P := fun _ w t => t.Knows S others w) h.knows (fun t _ ready => ?_)
      (fun i step t w' t' run found moved k => ?_) fun i t _ _ k => k.mono ?_
    · rcases starts_cases ready with ⟨_, _, rfl⟩ | ⟨_, rfl⟩ <;> trivial
    · have acts := (Thread.move_moved moved).acts (h.roles.placed i t found)
      exact knows_acts acts h.records k (answers i step t run found)
    · cases took with
      | start => exact List.Subset.refl _
      | run found moved => exact (Thread.move_moved moved).issued
      | outside moved => exact fun _ member => (outside_redis moved).2.1.symm ▸ member

/-- markAllSlavesGone goes on to the next record or to the metrics: every state it holds
names the session. -/
theorem next_cases (now : Time) (count : Nat) {states : List SlaveState}
    (known : ∀ st ∈ states, Known S others w st) :
    (states = [] ∧ Ending.publishNext S.text now count states = .updating count (.watch 0)) ∨
      ∃ state rest, states = state :: rest ∧ Ending.publishNext S.text now count states =
        .publishing now count (goneState now state) .set rest := by
  cases states with
  | nil => exact .inl ⟨rfl, rfl⟩
  | cons state rest =>
    have named : isBlank (goneState now state).sessionID = false := by
      rw [goneState, (known state List.mem_cons_self).1]
      exact S.not_blank
    refine .inr ⟨state, rest, rfl, ?_⟩
    simp only [Ending.publishNext, publishSlaveState, named, Bool.false_eq_true, if_false]

def Covers (S : UUID) (r : Server) (listed : List String) : Prop :=
  ∀ id payload, r.store.get (sessionSlaveKey S.text id) = some payload →
    sessionSlaveKey S.text id ∈ listed

theorem covers_keys (r : Server) : Covers S r (r.keys (sessionSlavePattern S.text)) := by
  intro id payload got
  refine List.mem_filter.mpr ⟨Stamped.Store.mem_keys.mpr ⟨payload, got⟩, ?_⟩
  exact (matches_slavePattern (uuid_plain S) _).mpr ⟨id, rfl⟩

/-- No record of the session is left over. -/
def Vacant (S : UUID) (r : Server) : Prop :=
  ∀ id, r.store.get (sessionSlaveKey S.text id) = none

theorem vacant_empty (S : UUID) : Vacant S .empty := fun _ => rfl

theorem records_started (others : List String) {startedAt : Time} {r : Server}
    (vacant : Vacant S r) : Records S others (started S startedAt r).shared := by
  refine ⟨fun id payload got => ?_, fun payload got => ?_, fun payload got => ?_, nofun⟩
  · simp only [started, Command.run, Stamped.Store.get_put_of_ne (sessionSlaveKey_ne_active _ _),
      Stamped.Store.get_put_of_ne (sessionSlaveKey_ne_metrics _ _),
      Stamped.Store.get_put_of_ne (sessionSlaveKey_ne_meta _ _), vacant id] at got
    cases got
  · simp only [started, Command.run, Stamped.Store.get_put_of_ne (sessionMetricsKey_ne_active _),
      Stamped.Store.get_put_self] at got
    exact ⟨_, (Option.some.inj got).symm⟩
  · simp only [started, Command.run, Stamped.Store.get_put_self] at got
    exact (Option.some.inj got).symm

theorem grounded_started (others : List String) {startedAt : Time} {r : Server}
    (vacant : Vacant S r) : Grounded S others (started S startedAt r) := by
  refine ⟨records_started others vacant, fun i t found => ?_, roles_started S startedAt r,
    fun i t found => ?_⟩
  all_goals rcases started_thread found with ⟨_, rfl⟩ | ⟨_, rfl⟩ <;> trivial

theorem isOpen_started (S : UUID) (startedAt : Time) (r : Server) :
    isOpen S (started S startedAt r).shared.redis = true := by
  simp only [isOpen, started, Command.run, Stamped.Store.get_put_of_ne (sessionMetaKey_ne_active _),
    Stamped.Store.get_put_of_ne (sessionMetaKey_ne_metrics _), Stamped.Store.get_put_self,
    Option.isSome_some]

theorem Records.answers (records : Records S [""] w) (t : Thread) : Answers [""] step w t := by
  cases t with
  | controller pc =>
    cases pc with
    | dispatch event previous =>
      intro _ p s found _
      exact records.slaves p s (answering_held found)
    | _ => trivial
  | _ => trivial

theorem grounded_kept {c c' : Config World Thread} {a : Turn Thread Step Outside}
    (base : Grounded S [""] c) (taken : (cluster S rand).step c a = some c') :
    Grounded S [""] c' :=
  grounded_step (List.Subset.refl _) base (fun _ _ t _ _ => base.records.answers t) taken

theorem grounded_reachable {startedAt : Time} {r : Server} {c : Config World Thread}
    {ok : Config World Thread → Turn Thread Step Outside → Prop} (vacant : Vacant S r)
    (reached : (cluster S rand).system.ReachableVia ok (started S startedAt r) c) :
    Grounded S [""] c :=
  reached.invariant (grounded_started [""] vacant) fun _ _ _ base _ taken =>
    grounded_kept base taken

/-- The run rule of the cluster: an invariant may use what holds in every state. -/
theorem reachable_invariant {startedAt : Time} {r : Server} {c : Config World Thread}
    {ok : Config World Thread → Turn Thread Step Outside → Prop}
    {I : Config World Thread → Prop} (vacant : Vacant S r) (initial : I (started S startedAt r))
    (kept : ∀ c a c', Grounded S [""] c → I c → ok c a → (cluster S rand).step c a = some c' → I c')
    (reached : (cluster S rand).system.ReachableVia ok (started S startedAt r) c) : I c :=
  reached.invariant_given (fun _ more => grounded_reachable vacant more) initial
    fun _ _ _ h _ => kept _ _ _ h

theorem fresh_record {c : Config World Thread} (base : Grounded S [""] c) {u : UUID}
    (fresh : u ∉ c.shared.issued) (payload : Payload) :
    c.shared.redis.store.get (sessionSlaveKey S.text u.text) ≠ some payload := by
  intro got
  obtain ⟨state, _, same, _, named⟩ := base.records.slave u.text payload got
  rw [same] at named
  rcases named with empty | ⟨v, drawn, text⟩
  · exact u.text_ne_empty (List.mem_singleton.mp empty)
  · exact fresh (UUID.text_injective text ▸ drawn)

end Steps

end Megalo.Cluster
