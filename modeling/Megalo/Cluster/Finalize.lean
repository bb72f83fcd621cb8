import Megalo.Cluster.Cleanup
import Megalo.Session.Server

/-! finalizeSession as a whole: endSession on Redis, and then its lock section, which runs
whether endSession failed or not. -/
namespace Megalo.Cluster

open Redis Slave Transition

def readable {α : Type} (decode : Payload → Except String α) (r : Server) (key : String) : Bool :=
  (r.store.get key).any fun payload => (decode payload).isOk

/-- The next step of an UpdateSessionMetrics call makes it return an error. -/
def Updating.fails (sessionID : String) (r : Server) (i : Input) : Updating → Bool
  | .watch _ => i.reply.error.isSome
  | .get _ _ => i.reply.error.isSome ||
    !readable decodeSessionMetrics r (sessionMetricsKey sessionID)
  | .exec attempt stamp _ => i.reply.error.isSome ||
    (r.store.stamp (sessionMetricsKey sessionID) != stamp && maxRetries ≤ attempt + 1)
  | .returned _ => false

/-- The next step of markAllSlavesGone fails: a command, reading a record that is listed,
or the update of the metrics. -/
def Ending.fails (sessionID : String) (r : Server) (i : Input) : Ending → Bool
  | .listing .keys => i.reply.error.isSome
  | .listing (.get key _ _) => i.reply.error.isSome || !readable decodeSlaveState r key
  | .publishing _ _ _ _ _ => i.reply.error.isSome
  | .updating _ u => Updating.fails sessionID r i u
  | _ => false

def marks (S : UUID) (c : Config World Thread) : Turn Thread Step Outside → Bool
  | .run i step => match c.threads[i]? with
    | some (.ending pc) => !pc.fails S.text c.shared.redis step.input
    | _ => true
  | _ => true

/-- Redis accepts the commands of DeleteSession. -/
def acceptsDelete (c : Config World Thread) : Turn Thread Step Outside → Bool
  | .run i step => match c.threads[i]? with
    | some (.ending (.deleting _)) => step.input.reply == .answered
    | _ => true
  | _ => true

structure Over (S : UUID) (r : Server) : Prop where
  clean : Clean S r
  inactive : r.store.get activeSessionKey ≠ some (.text S.text)

def Thread.aborted : Thread → Bool
  | .ending (.returned (some _)) => true
  | _ => false

def Aborted (c : Config World Thread) : Prop := ∃ t, c.threads[1]? = some t ∧ t.aborted = true

/-- finalizeSession returns when endSession has, with or without an error. -/
def finalized (S : UUID) (c : Config World Thread) (m : Session.Memory) : Option Session.Memory :=
  match (c.threads[1]? : Option Thread) with
  | some (.ending (.returned _)) => some (Session.finalizeSession S.text m)
  | _ => none

section Finalize

variable {S : UUID} {rand : Rand} {step : Step} {w w' : World} {t t' : Thread}
  {c c' : Config World Thread} {a : Turn Thread Step Outside} {r : Server} {i : Input}

theorem readable_slave {key : String} :
    readable decodeSlaveState r key = true ↔ ∃ state, r.store.get key = some (.slave state) := by
  unfold readable
  cases r.store.get key with
  | none => simp
  | some payload => cases payload <;> simp [decodeSlaveState, Except.isOk, Except.toBool]

theorem readable_metrics {key : String} :
    readable decodeSessionMetrics r key = true ↔ ∃ m, r.store.get key = some (.metrics m) := by
  unfold readable
  cases r.store.get key with
  | none => simp
  | some payload => cases payload <;> simp [decodeSessionMetrics, Except.isOk, Except.toBool]

theorem update_fails {fn : SessionMetrics → SessionMetrics} {sessionID : String} {u : Updating}
    {next : Updating × Command} (running : u.running = true)
    (moved : Updating.Moved sessionID fn r i u next) :
    (∃ err, next.1 = .returned (.error err)) ↔ Updating.fails sessionID r i u = true := by
  cases moved with
  | failed fault =>
    refine iff_of_true ⟨_, rfl⟩ ?_
    cases u with
    | returned => cases running
    | _ => simp [Updating.fails, fault]
  | lost fault _ => exact iff_of_true ⟨_, rfl⟩ (by simp [Updating.fails, fault])
  | watched answered =>
    exact iff_of_false (by simp) (by simp [Updating.fails, answered, Reply.error])
  | missing answered none =>
    have unread : readable decodeSessionMetrics r (sessionMetricsKey sessionID) = false :=
      Bool.eq_false_iff.mpr fun there => (readable_metrics.mp there).elim none
    exact iff_of_true ⟨_, rfl⟩ (by simp [Updating.fails, unread])
  | found answered got =>
    have read := readable_metrics.mpr ⟨_, got⟩
    exact iff_of_false (by simp) (by simp [Updating.fails, answered, Reply.error, read])
  | committed answered same =>
    exact iff_of_false (by simp) (by simp [Updating.fails, answered, Reply.error, same])
  | retried answered moved again =>
    exact iff_of_false (by simp) (by simp [Updating.fails, answered, Reply.error, again])
  | exhausted answered moved last =>
    exact iff_of_true ⟨_, rfl⟩ (by simp [Updating.fails, moved, last])
  | finished => cases running

/-- endSession returns an error in this step exactly when the step of markAllSlavesGone
fails, where Redis accepts the commands of DeleteSession. -/
theorem ending_fails {pc next : Ending} {d : Command} (records : Records S [""] w)
    (knows : pc.Knows S [""] w) (placed : pc.placed = true)
    (running : ∀ err, pc ≠ .returned err)
    (accepts : ∀ d, pc = .deleting d → i.reply = .answered)
    (moved : Ending.Moved S.text w.redis i pc (next, d)) :
    (∃ err, next = .returned (some err)) ↔ pc.fails S.text w.redis i = true := by
  have goes : ∀ {now : Time} {count : Nat} {states : List SlaveState},
      (∀ st ∈ states, Known S [""] w st) →
        ¬ ∃ err, Ending.publishNext S.text now count states = .returned (some err) := by
    intro now count states known
    rcases next_cases now count known with ⟨_, same⟩ | ⟨_, _, _, same⟩ <;>
      simp [same]
  have lists : ∀ {now : Time} {states : List SlaveState} {keys : List String},
      (∀ st ∈ states, Known S [""] w st) →
        ¬ ∃ err, Ending.listed S.text now (.next states keys) = .returned (some err) := by
    intro now states keys known
    cases keys with
    | nil => exact goes known
    | cons key rest => simp [Ending.listed, Listing.next]
  cases moved with
  | failed fault =>
    refine iff_of_true ⟨_, rfl⟩ ?_
    cases pc with
    | listing l =>
      cases l with
      | returned => cases placed
      | _ => simp [Ending.fails, fault]
    | publishing => exact fault
    | updating count u =>
      cases u with
      | returned => cases placed
      | _ => simp [Ending.fails, Updating.fails, fault]
    | deleting d => simp [accepts d rfl, Reply.error] at fault
    | returned err => exact absurd rfl (running err)
  | list answered =>
    refine iff_of_false (lists fun _ member => ?_) (by simp [Ending.fails, answered, Reply.error])
    exact absurd member List.not_mem_nil
  | @read key rest states state answered got =>
    have known := (read_known records knows got).2
    apply iff_of_false (lists known)
    simp [Ending.fails, answered, Reply.error, readable_slave.mpr ⟨_, got⟩]
  | unreadable answered none =>
    have unread : readable decodeSlaveState w.redis _ = false :=
      Bool.eq_false_iff.mpr fun there => (readable_slave.mp there).elim none
    exact iff_of_true ⟨_, rfl⟩ (by simp [Ending.fails, unread])
  | set answered => exact iff_of_false (by simp) (by simp [Ending.fails, answered, Reply.error])
  | publish answered =>
    refine iff_of_false (goes fun st member => ?_) (by simp [Ending.fails, answered, Reply.error])
    exact knows st (List.mem_cons_of_mem _ member)
  | update moved on =>
    rw [Ending.fails, ← update_fails placed moved]
    apply iff_of_false (by simp)
    rintro ⟨_, same⟩
    cases same
    cases on
  | abandon moved => exact iff_of_true ⟨_, rfl⟩ ((update_fails placed moved).mp ⟨_, rfl⟩)
  | commit answered same =>
    apply iff_of_false (by simp)
    simp [Ending.fails, Updating.fails, answered, Reply.error, same]
  | finished => exact absurd rfl (running _)
  | _ => exact iff_of_false (by simp) Bool.false_ne_true

theorem aborted_acts (base : Grounded S [""] c) {i : Nat}
    (found : c.threads[i]? = some t) (accepts : acceptsDelete c (.run i step) = true)
    (acts : t.Acts S rand step c.shared (w', t')) :
    t'.aborted = true ↔ t.aborted = true ∨ ¬ marks S c (.run i step) = true := by
  have ends : ∀ {pc next : Ending} {d : Command}, t = .ending pc →
      (∀ err, pc ≠ .returned err) →
      Ending.Moved S.text c.shared.redis step.input pc (next, d) →
      ((Thread.ending next).aborted = true ↔
        (Thread.ending pc).aborted = true ∨ ¬ marks S c (.run i step) = true) := by
    intro pc next d same running moved
    subst same
    have accepted : ∀ d, pc = .deleting d → step.input.reply = .answered := by
      rintro d rfl
      simpa only [acceptsDelete, found, beq_iff_eq] using accepts
    have error := ending_fails base.records (base.knows i _ found) (base.roles.placed i _ found)
      running accepted moved
    have before : (Thread.ending pc).aborted = false := by
      cases pc with
      | returned err => exact absurd rfl (running err)
      | _ => rfl
    simp only [before, Bool.false_eq_true, false_or, marks, found, Bool.not_eq_true',
      Bool.not_eq_false, ← error]
    cases next with
    | returned err => cases err <;> simp [Thread.aborted]
    | _ => simp [Thread.aborted]
  cases acts with
  | list moved => exact ends rfl (by simp) moved
  | ending _ running moved => exact ends rfl running moved
  | _ => simp [Thread.aborted, marks, found]

theorem aborted_step (base : Grounded S [""] c)
    (accepts : acceptsDelete c a = true) (taken : (cluster S rand).step c a = some c') :
    Aborted c' ↔ Aborted c ∨ ¬ marks S c a = true := by
  cases Composite.took_of_step taken with
  | outside moved => simp [Aborted, marks]
  | @start l ready =>
    have first : Aborted ⟨c.shared, c.threads ++ [l]⟩ ↔ Aborted c := by
      refine ⟨fun ⟨t, found, aborted⟩ => ?_, fun ⟨t, found, aborted⟩ => ?_⟩
      · rcases Composite.getElem?_append_one found with old | ⟨_, rfl⟩
        · exact ⟨t, old, aborted⟩
        · rcases starts_cases ready with ⟨_, _, rfl⟩ | ⟨_, rfl⟩ <;> cases aborted
      · exact ⟨t, Composite.getElem?_append_kept found, aborted⟩
    simp only [first, marks, not_true_eq_false, or_false]
  | @run i step t t' w' found moved =>
    have acts := (Thread.move_moved moved).acts (base.roles.placed i t found)
    by_cases own : i = 1
    · subst own
      have bound := (List.getElem?_eq_some_iff.mp found).1
      simp only [Aborted, List.getElem?_set_self bound, found, Option.some.injEq, exists_eq_left']
      exact aborted_acts base found accepts acts
    · have met : marks S c (.run i step) = true := by
        cases t with
        | ending pc => exact absurd (base.roles.ending i _ found rfl) own
        | _ => simp [marks, found]
      simp only [Aborted, List.getElem?_set_ne own, met, not_true_eq_false, or_false]

def Standing (S : UUID) (c : Config World Thread) : Prop :=
  isOpen S c.shared.redis = true ∨ c.threads[1]? = some (.ending (.returned none))

theorem standing_step (base : Grounded S [""] c) (h : Standing S c)
    (accepts : acceptsDelete c a = true) (taken : (cluster S rand).step c a = some c') :
    Standing S c' := by
  cases Composite.took_of_step taken with
  | outside moved => exact h.imp_left fun opened => (outside_redis moved).1.symm ▸ opened
  | start => exact h.imp_right fun found => Composite.getElem?_append_kept found
  | @run i step t t' w' found moved =>
    have acts := (Thread.move_moved moved).acts (base.roles.placed i t found)
    rcases h with opened | ended
    · have moved := Thread.move_moved moved
      have proper := moved.proper (base.knows i t found)
      rcases moved.redis with same | same
      · exact .inl (by rw [same]; exact opened)
      · by_cases deletes : ∃ keys, t.pending S step c.shared = .delete keys
        · obtain ⟨keys, pending⟩ := deletes
          obtain ⟨listed, active, rfl, _⟩ := pending_delete pending
          have answered : step.input.reply = .answered := by
            simpa only [acceptsDelete, found, beq_iff_eq] using accepts
          cases base.roles.ending i _ found rfl
          cases acts with
          | ending _ _ deleted =>
            cases deleted with
            | failed fault => simp [answered, Reply.error] at fault
            | delete =>
              exact .inr (List.getElem?_set_self (List.getElem?_eq_some_iff.mp found).1)
        · apply Or.inl
          rw [same]
          exact isOpen_kept proper (fun keys pending => deletes ⟨keys, pending⟩) opened
    · have other : i ≠ 1 := by
        rintro rfl
        cases ended.symm.trans found
        cases acts with
        | ending _ running _ => exact running none rfl
      exact .inr (by rw [List.getElem?_set_ne other, ended])

/-- Where Redis accepts the commands of DeleteSession: when finalizeSession returns, the slot
is free, and the session is over in Redis exactly when no step of markAllSlavesGone failed. -/
theorem finalized_over_iff {startedAt : Time} {as : List (Turn Thread Step Outside)}
    (vacant : Vacant S r)
    (ran : (cluster S rand).system.run (started S startedAt r) as = some c)
    (accepts : (cluster S rand).system.Meets (fun c a => acceptsDelete c a = true)
      (started S startedAt r) as)
    {m m' : Session.Memory} (current : m.server.sessionID = S.text)
    (returned : finalized S c m = some m') :
    m'.server.sessionID = "" ∧ ¬ Session.Blocked m'.server ∧
      ((cluster S rand).system.Meets (fun c a => setInTime S c a = true)
        (started S startedAt r) as →
      (Over S c.shared.redis ↔ (cluster S rand).system.Meets (fun c a => marks S c a = true)
        (started S startedAt r) as)) := by
  have reached := System.run_reachableVia ran accepts
  obtain ⟨err, ended, rfl⟩ : ∃ err, c.threads[1]? = some (.ending (.returned err)) ∧
      m' = Session.finalizeSession S.text m := by
    unfold finalized at returned
    split at returned
    · exact ⟨_, ‹_›, (Option.some.inj returned).symm⟩
    · cases returned
  have start : ¬ Aborted (started S startedAt r) := by
    rintro ⟨t, found, aborted⟩
    rcases started_thread found with ⟨_, rfl⟩ | ⟨_, rfl⟩ <;> cases aborted
  have aborted : Aborted c ↔ ¬ (cluster S rand).system.Meets (fun c a => marks S c a = true)
      (started S startedAt r) as := by
    rw [System.run_raises (J := Grounded S [""])
      (fun _ _ _ base _ taken => grounded_kept base taken)
      (fun _ _ _ base met taken => aborted_step base met taken)
      (grounded_started [""] vacant) accepts ran, or_iff_right start]
  have standing : Standing S c := by
    exact reachable_invariant vacant (.inl (isOpen_started S startedAt r))
      (fun _ _ _ base h met taken => standing_step base h met taken) reached
  rw [Session.finalize_current m current]
  refine ⟨rfl, by simp [Session.Blocked], fun inTime => ⟨fun gone => ?_, fun marked => ?_⟩⟩
  · by_contra failed
    obtain ⟨t, found, error⟩ := aborted.mpr failed
    cases found.symm.trans ended
    rcases standing with opened | finished
    · simp [isOpen, gone.clean.sessionMeta] at opened
    · cases ended.symm.trans finished
      cases error
  · cases err with
    | some err => exact absurd marked (aborted.mp ⟨_, ended, rfl⟩)
    | none =>
      obtain ⟨clean, inactive⟩ :=
        cleans_reachable vacant (System.run_reachableVia ran inTime) 1 _ ended
      exact ⟨clean, by simp [inactive]⟩

end Finalize

/-- A slave is registered, and then Redis refuses the SET of its GONE state. -/
def setRefused : List (Turn Thread Step Outside) :=
  joins ++ turns 2 1 ++ [.run 1 ⟨⟨3, .refused "connection reset"⟩, .sampleSlave, sampleEvent ""⟩]

def sampleMemory : Session.Memory :=
  ⟨⟨UUID.sample.text, ⟨UUID.sample.text, 1⟩, false, true, none⟩, fun _ => .unset⟩

/-- The slot is free, and the session is still the active one in Redis. -/
theorem session_left_active : ∃ c m', sampleCluster.run sampleSession setRefused = some c ∧
    sampleCluster.check acceptsDelete sampleSession setRefused = true ∧
    finalized .sample c sampleMemory = some m' ∧ m'.server.sessionID = "" ∧
    c.shared.redis.store.get activeSessionKey = some (.text UUID.sample.text) ∧
    ¬ Over .sample c.shared.redis := by
  obtain ⟨c, ran, passes⟩ := System.run_passes setRefused
    (fun c => c.shared.redis.store.get activeSessionKey == some (.text UUID.sample.text) &&
      (finalized .sample c sampleMemory).any fun m' => m'.server.sessionID == "")
    (by decide +kernel : (sampleCluster.run sampleSession setRefused).any _ = true)
  simp only [Bool.and_eq_true, beq_iff_eq, Option.any_eq_true] at passes
  obtain ⟨active, m', returned, free⟩ := passes
  exact ⟨c, m', ran, by decide +kernel, returned, free, active, fun gone => gone.inactive active⟩

theorem finalized_over_joined : ∃ c m',
    sampleCluster.run sampleSession (joins ++ turns 10 1) = some c ∧
    finalized .sample c sampleMemory = some m' ∧ Over .sample c.shared.redis := by
  obtain ⟨c, ran, passes⟩ := System.run_passes (joins ++ turns 10 1)
    (fun c => (finalized .sample c sampleMemory).isSome)
    (by decide +kernel : (sampleCluster.run sampleSession (joins ++ turns 10 1)).any _ = true)
  obtain ⟨m', returned⟩ := Option.isSome_iff_exists.mp passes
  have accepts : sampleCluster.check acceptsDelete sampleSession (joins ++ turns 10 1) = true := by
    decide +kernel
  have inTime : sampleCluster.check (setInTime .sample) sampleSession (joins ++ turns 10 1) =
      true := by
    decide +kernel
  have marked : sampleCluster.check (marks .sample) sampleSession (joins ++ turns 10 1) = true := by
    decide +kernel
  have result :=
    finalized_over_iff (vacant_empty _) ran (System.meets_of_check accepts) rfl returned
  exact ⟨c, m', ran, returned,
    (result.2.2 (System.meets_of_check inTime)).mpr (System.meets_of_check marked)⟩

end Megalo.Cluster
