import Megalo.Cluster.Moves
import Megalo.Cluster.World

/-! What a thread is about to run, and which threads there are. -/
namespace Megalo.Cluster

open Redis Slave Transition

def Thread.placed : Thread → Bool
  | .register _ _ pc => pc.placed
  | .podUpdate _ pc => pc.placed
  | .controller pc => pc.placed
  | .ending pc => pc.placed

/-- The command a thread is about to run, where it changes something. -/
def Thread.pending (S : UUID) (step : Step) (w : World) : Thread → Command
  | .register _ req (.resolved sessionID) =>
    .set (registeredState sessionID req step.slaveID step.input.now)
  | .register _ _ (.publishing state p) => p.pending state
  | .register _ _ (.updating state u) => u.pending state.sessionID w.redis
  | .podUpdate _ (.publishing _ state p) => p.pending state
  | .podUpdate _ (.updating _ _ u) => u.pending S.text w.redis
  | .controller (.publishing _ _ state p) => p.pending state
  | .controller (.updating event _ _ u) => u.pending event.sessionID w.redis
  | .ending (.publishing _ _ state p _) => p.pending state
  | .ending (.updating _ u) => u.pending S.text w.redis
  | .ending (.deleting (.exec listed active)) => .delete (deletedKeys S.text active listed)
  | _ => .read

section Commands

variable {S : UUID} {rand : Rand} {step : Step} {w w' : World} {t t' : Thread}

theorem deliver_frame (reply : Reply) (p : ProcessID) (result : Except String SlaveState) :
    (deliver w reply p result).redis = w.redis ∧ (deliver w reply p result).issued = w.issued ∧
      (deliver w reply p result).listed = w.listed := by
  rcases deliver_cases w reply p result with same | ⟨state, s, _, _, same⟩ <;> rw [same] <;>
    exact ⟨rfl, rfl, rfl⟩

theorem call_frame (i : Input) (event : Event) (previous : SlaveState) :
    (call rand w i event previous).1.redis = w.redis ∧
      (call rand w i event previous).1.issued = w.issued ∧
        (call rand w i event previous).1.listed = w.listed := by
  rcases call_cases rand w i event previous with same | ⟨p, s, _, _, pc, same, _⟩ <;> rw [same] <;>
    exact ⟨rfl, rfl, rfl⟩

theorem Deleting.step_command {r : Server} {i : Input} (d : Deleting) :
    (d.step S.text r i).2 = .read ∨ ∃ listed active, d = .exec listed active ∧
      (d.step S.text r i).2 = .delete (deletedKeys S.text active listed) := by
  cases d with
  | exec listed active =>
    rcases Reply.change_cases (.delete (deletedKeys S.text active listed)) i.reply with same | none
    · exact .inr ⟨listed, active, rfl, same⟩
    · exact .inl none.1
  | _ => exact .inl rfl

/-- Where Redis changes, it changes by the command the thread was about to run. -/
theorem Thread.Moved.redis (moved : t.Moved S rand step w (w', t')) :
    w'.redis = w.redis ∨ w'.redis = (t.pending S step w).run w.redis := by
  have ran : ∀ {c d : Command}, c = d ∨ c = .read →
      (w.run c).redis = w.redis ∨ (w.run c).redis = d.run w.redis := by
    rintro c d (rfl | rfl)
    · exact .inr rfl
    · exact .inl rfl
  cases moved with
  | deliver => exact .inl (deliver_frame ..).1
  | resolved ran' _ =>
    subst ran'
    apply ran
    simp only [Registering.step, publishSlaveState]
    split
    · exact .inr rfl
    · exact Publishing.step_command _ .set
  | @register _ _ pc _ ran' settled =>
    subst ran'
    cases pc with
    | publishing state p => exact ran (Publishing.step_command _ p)
    | updating state u => exact ran (Updating.step_command u)
    | resolved sessionID => exact absurd rfl (settled sessionID)
    | _ => exact .inl rfl
  | @podUpdate _ pc _ ran' =>
    subst ran'
    cases pc with
    | publishing previous state p => exact ran (Publishing.step_command _ p)
    | updating previous state u => exact ran (Updating.step_command u)
    | _ => exact .inl rfl
  | receive => exact .inl rfl
  | call ran' =>
    subst ran'
    exact .inl (call_frame ..).1
  | @handle pc _ ran' =>
    subst ran'
    cases pc with
    | publishing event previous state p => exact ran (Publishing.step_command _ p)
    | updating event previous state u => exact ran (Updating.step_command u)
    | _ => exact .inl rfl
  | list ran' =>
    subst ran'
    exact .inl rfl
  | @ending pc _ ran' =>
    subst ran'
    cases pc with
    | publishing now count state p rest => exact ran (Publishing.step_command _ p)
    | updating count u => exact ran (Updating.step_command u)
    | deleting d =>
      rcases Deleting.step_command (S := S) (r := w.redis) (i := step.input) d with none | delete
      · refine ran (.inr none)
      · obtain ⟨listed, active, rfl, same⟩ := delete
        exact ran (.inl same)
    | _ => exact .inl rfl

/-- What Redis refuses is not run. -/
theorem Thread.Moved.refused (moved : t.Moved S rand step w (w', t'))
    (refused : step.input.reply.runs = false) : w'.redis = w.redis := by
  have quiet : ∀ {c : Command}, c = .read → (w.run c).redis = w.redis := by
    rintro c rfl
    rfl
  cases moved with
  | deliver => exact (deliver_frame ..).1
  | resolved ran' _ =>
    subst ran'
    apply quiet
    simp only [Registering.step, publishSlaveState]
    split
    · rfl
    · exact Publishing.step_refused refused _ .set
  | @register _ _ pc _ ran' settled =>
    subst ran'
    cases pc with
    | publishing state p => exact quiet (Publishing.step_refused refused _ p)
    | updating state u => exact quiet (Updating.step_refused refused u)
    | resolved sessionID => exact absurd rfl (settled sessionID)
    | _ => rfl
  | @podUpdate _ pc _ ran' =>
    subst ran'
    cases pc with
    | publishing previous state p => exact quiet (Publishing.step_refused refused _ p)
    | updating previous state u => exact quiet (Updating.step_refused refused u)
    | _ => rfl
  | receive => rfl
  | call ran' =>
    subst ran'
    exact (call_frame ..).1
  | @handle pc _ ran' =>
    subst ran'
    cases pc with
    | publishing event previous state p => exact quiet (Publishing.step_refused refused _ p)
    | updating event previous state u => exact quiet (Updating.step_refused refused u)
    | _ => rfl
  | list ran' =>
    subst ran'
    rfl
  | @ending pc _ ran' =>
    subst ran'
    cases pc with
    | publishing now count state p rest => exact quiet (Publishing.step_refused refused _ p)
    | updating count u => exact quiet (Updating.step_refused refused u)
    | deleting d =>
      cases d with
      | exec listed active => exact quiet (step.input.reply.change_refused _ refused)
      | _ => rfl
    | _ => rfl

theorem Thread.Moved.redis_runs (moved : t.Moved S rand step w (w', t')) :
    w'.redis = w.redis ∨
      step.input.reply.runs = true ∧ w'.redis = (t.pending S step w).run w.redis := by
  cases runs : step.input.reply.runs with
  | false => exact .inl (moved.refused runs)
  | true => exact moved.redis.imp_right fun same => ⟨rfl, same⟩

theorem starts_cases (starts : t.starts w = true) :
    (∃ caller req, t = .register caller req .getActiveSessionID) ∨
      ∃ message, t = .podUpdate message .received := by
  cases t with
  | register caller req pc => cases pc <;> first | exact .inl ⟨_, _, rfl⟩ | cases starts
  | podUpdate message pc => cases pc <;> first | exact .inr ⟨_, rfl⟩ | cases starts
  | _ => cases starts

theorem outside_redis {e : Outside} (moved : w.outside e = some w') :
    w'.redis = w.redis ∧ w'.issued = w.issued ∧ w'.listed = w.listed := by
  cases e with
  | start =>
    simp only [World.outside, Option.ite_none_left_eq_some] at moved
    cases Option.some.inj moved.2
    exact ⟨rfl, rfl, rfl⟩
  | stop =>
    cases Option.some.inj moved
    exact ⟨rfl, rfl, rfl⟩

def Thread.isController : Thread → Bool
  | .controller _ => true
  | _ => false

def Thread.isEnding : Thread → Bool
  | .ending _ => true
  | _ => false

/-- The controller and the end of the session are one thread each. -/
structure Roles (c : Config World Thread) : Prop where
  controller : ∀ (i : Nat) t, c.threads[i]? = some t → t.isController = true → i = 0
  ending : ∀ (i : Nat) t, c.threads[i]? = some t → t.isEnding = true → i = 1
  placed : ∀ (i : Nat) t, c.threads[i]? = some t → t.placed = true

theorem placed_moved (moved : t.Moved S rand step w (w', t')) : t'.placed = true := by
  cases moved with
  | resolved ran _ =>
    subst ran
    exact Registering.step_placed _
  | register ran _ _ =>
    subst ran
    exact Registering.step_placed _
  | @podUpdate message pc _ ran running =>
    subst ran
    cases pc with
    | received =>
      simp only [PodUpdating.step]
      split
      · rfl
      · split
        · rfl
        · exact placed_reported ..
    | publishing previous state p => exact placed_reported ..
    | updating previous state u => exact placed_reporting ..
    | returned err => exact absurd rfl (running err)
  | @call event previous _ ran =>
    subst ran
    rcases call_cases rand w step.input event previous with same | ⟨p, s, _, _, pc, same, next⟩
    · rw [same]
      rfl
    · rw [same]
      rcases next with rfl | ⟨_, rfl⟩
      · rfl
      · cases (executeEvent rand step.input.now
          ⟨event.eventID, event.seed, event.targetPod⟩ s).1 with
        | error err => rfl
        | ok resp => exact placed_answered ..
  | @handle pc _ ran busy settled =>
    subst ran
    cases pc with
    | idle => exact absurd rfl busy
    | listing event l => exact placed_resolved event _
    | dispatch event previous => exact absurd rfl (settled event previous)
    | publishing event previous state p => exact placed_answered ..
    | updating event previous state u => exact placed_handling ..
  | list ran =>
    subst ran
    exact Ending.step_placed _
  | ending ran _ _ =>
    subst ran
    exact Ending.step_placed _
  | _ => rfl

theorem started_thread {startedAt : Time} {r : Server} {i : Nat}
    (found : (started S startedAt r).threads[i]? = some t) :
    i = 0 ∧ t = .controller .idle ∨ i = 1 ∧ t = .ending (.listing .keys) := by
  have named : isBlank S.text = false := S.not_blank
  match i with
  | 0 =>
    cases found
    exact .inl ⟨rfl, rfl⟩
  | 1 =>
    simp only [started, endSession, named, Bool.false_eq_true, if_false] at found
    cases found
    exact .inr ⟨rfl, rfl⟩
  | i + 2 => cases found

theorem roles_step {c c' : Config World Thread} {a : Turn Thread Step Outside} (h : Roles c)
    (taken : (cluster S rand).step c a = some c') : Roles c' := by
  have took := Composite.took_of_step taken
  refine ⟨?_, ?_, ?_⟩
  · refine took.each_kept (P := fun i _ (t : Thread) => t.isController = true → i = 0) h.controller
      (fun t _ ready => ?_) (fun i step t w' t' _ _ moved k => ?_) fun _ _ _ _ k => k
    · rcases starts_cases ready with ⟨_, _, rfl⟩ | ⟨_, rfl⟩ <;> exact Bool.noConfusion
    · cases Thread.move_moved moved <;> exact k
  · refine took.each_kept (P := fun i _ (t : Thread) => t.isEnding = true → i = 1) h.ending
      (fun t _ ready => ?_) (fun i step t w' t' _ _ moved k => ?_) fun _ _ _ _ k => k
    · rcases starts_cases ready with ⟨_, _, rfl⟩ | ⟨_, rfl⟩ <;> exact Bool.noConfusion
    · cases Thread.move_moved moved <;> exact k
  · refine took.each_kept (P := fun _ _ (t : Thread) => t.placed = true) h.placed
      (fun t _ ready => ?_) (fun i step t w' t' _ _ moved _ => ?_) fun _ _ _ _ k => k
    · rcases starts_cases ready with ⟨_, _, rfl⟩ | ⟨_, rfl⟩ <;> rfl
    · exact placed_moved (Thread.move_moved moved)

theorem roles_started (S : UUID) (startedAt : Time) (r : Server) :
    Roles (started S startedAt r) := by
  refine ⟨fun i t found role => ?_, fun i t found role => ?_, fun i t found => ?_⟩
  · rcases started_thread found with ⟨at_i, _⟩ | ⟨_, rfl⟩
    · exact at_i
    · cases role
  · rcases started_thread found with ⟨_, rfl⟩ | ⟨at_i, _⟩
    · cases role
    · exact at_i
  · rcases started_thread found with ⟨_, rfl⟩ | ⟨_, rfl⟩ <;> rfl

/-- Only DeleteSession deletes, and then the session's own keys among others. -/
theorem pending_delete {keys : List String} (pending : t.pending S step w = .delete keys) :
    ∃ listed active, t = .ending (.deleting (.exec listed active)) ∧
      keys = deletedKeys S.text active listed := by
  have updated : ∀ {sessionID : String} {u : Updating},
      u.pending sessionID w.redis ≠ .delete keys := by
    intro sessionID u same
    cases u with
    | exec a n m =>
      simp only [Updating.pending] at same
      split at same <;> cases same
    | _ => cases same
  cases t with
  | register caller req pc =>
    cases pc with
    | publishing state p => cases p <;> cases pending
    | updating state u => exact absurd pending updated
    | _ => cases pending
  | podUpdate message pc =>
    cases pc with
    | publishing previous state p => cases p <;> cases pending
    | updating previous state u => exact absurd pending updated
    | _ => cases pending
  | controller pc =>
    cases pc with
    | publishing event previous state p => cases p <;> cases pending
    | updating event previous state u => exact absurd pending updated
    | _ => cases pending
  | ending pc =>
    cases pc with
    | publishing now count state p rest => cases p <;> cases pending
    | updating count u => exact absurd pending updated
    | deleting d =>
      cases d with
      | exec listed active =>
        cases pending
        exact ⟨listed, active, rfl, rfl⟩
      | _ => cases pending
    | _ => cases pending

theorem pending_set {state : SlaveState} (placed : t.placed = true)
    (pending : t.pending S step w = .set state) :
    (∃ caller req sessionID, t = .register caller req (.resolved sessionID) ∧
      state = registeredState sessionID req step.slaveID step.input.now) ∨
    (∃ message previous, t = .podUpdate message (.publishing previous state .set)) ∨
    (∃ event previous, t = .controller (.publishing event previous state .set)) ∨
    ∃ now count rest, t = .ending (.publishing now count state .set rest) := by
  have published : ∀ {st : SlaveState} {p : Publishing}, p.pending st = .set state →
      p = .set ∧ st = state := by
    intro st p same
    cases p <;> cases same
    exact ⟨rfl, rfl⟩
  have updated : ∀ {sessionID : String} {u : Updating},
      u.pending sessionID w.redis ≠ .set state := by
    intro sessionID u same
    cases u with
    | exec a n m =>
      simp only [Updating.pending] at same
      split at same <;> cases same
    | _ => cases same
  cases t with
  | register caller req pc =>
    cases pc with
    | resolved sessionID =>
      cases pending
      exact .inl ⟨caller, req, sessionID, rfl, rfl⟩
    | publishing st p =>
      obtain ⟨rfl, rfl⟩ := published pending
      cases placed
    | updating st u => exact absurd pending updated
    | _ => cases pending
  | podUpdate message pc =>
    cases pc with
    | publishing previous st p =>
      obtain ⟨rfl, rfl⟩ := published pending
      exact .inr (.inl ⟨message, previous, rfl⟩)
    | updating previous st u => exact absurd pending updated
    | _ => cases pending
  | controller pc =>
    cases pc with
    | publishing event previous st p =>
      obtain ⟨rfl, rfl⟩ := published pending
      exact .inr (.inr (.inl ⟨event, previous, rfl⟩))
    | updating event previous st u => exact absurd pending updated
    | _ => cases pending
  | ending pc =>
    cases pc with
    | publishing now count st p rest =>
      obtain ⟨rfl, rfl⟩ := published pending
      exact .inr (.inr (.inr ⟨now, count, rest, rfl⟩))
    | updating count u => exact absurd pending updated
    | deleting d => cases d <;> cases pending
    | _ => cases pending

theorem call_outcome (rand : Rand) (w : World) (i : Input) (event : Event)
    (previous : SlaveState) :
    (call rand w i event previous).2 = .idle ∨ ∃ p s resp, i.reply = .answered ∧
      w.answering previous.podIP = some (p, s) ∧
      (executeEvent rand i.now ⟨event.eventID, event.seed, event.targetPod⟩ s).1 = .ok resp ∧
      (call rand w i event previous).2 =
        .publishing event previous (Handling.answeredState event resp) .set := by
  rcases call_cases rand w i event previous with same | ⟨p, s, found, _, pc, same, next⟩
  · exact .inl (by rw [same])
  · rw [same]
    rcases next with rfl | ⟨answered, rfl⟩
    · exact .inl rfl
    · cases outcome :
        (executeEvent rand i.now ⟨event.eventID, event.seed, event.targetPod⟩ s).1 with
      | error err => exact .inl rfl
      | ok resp =>
        simp only [Handling.answered, publishSlaveState]
        split
        · exact .inl rfl
        · exact .inr ⟨p, s, resp, answered, found, outcome, rfl⟩

theorem resolved_cases (event : Event) (l : Listing) : Handling.resolved event l = .idle ∨
    (∃ previous, Handling.resolved event l = .dispatch event previous) ∨
      ∃ l', Handling.resolved event l = .listing event l' := by
  cases l with
  | returned result =>
    cases result with
    | error err => exact .inl rfl
    | ok states =>
      simp only [Handling.resolved]
      split
      · exact .inr (.inl ⟨_, rfl⟩)
      · exact .inl rfl
  | _ => exact .inr (.inr ⟨_, rfl⟩)

/-- What a thread does that rests between two of its commands. -/
inductive Thread.Acts (S : UUID) (rand : Rand) (step : Step) (w : World) :
    Thread → World × Thread → Prop
  | deliver {caller : ProcessID} {req : RegisterSlaveRequest} {result : Except String SlaveState} :
      Acts S rand step w (.register (some caller) req (.returned result))
        (deliver w step.input.reply caller result, .register none req (.returned result))
  | resolved {caller : Option ProcessID} {req : RegisterSlaveRequest} {sessionID : String}
      {next : Registering} {c : Command} (fresh : step.slaveID ∉ w.issued)
      (moved : Registering.Moved req w.redis step.input step.slaveID (.resolved sessionID)
        (next, c)) :
      Acts S rand step w (.register caller req (.resolved sessionID))
        ({ w.run c with issued := step.slaveID :: w.issued }, .register caller req next)
  | register {caller : Option ProcessID} {req : RegisterSlaveRequest} {pc next : Registering}
      {c : Command} (settled : ∀ sessionID, pc ≠ .resolved sessionID)
      (running : ∀ result, pc ≠ .returned result)
      (moved : Registering.Moved req w.redis step.input step.slaveID pc (next, c)) :
      Acts S rand step w (.register caller req pc) (w.run c, .register caller req next)
  | podUpdate {message : Message} {pc next : PodUpdating} {c : Command}
      (running : ∀ err, pc ≠ .returned err)
      (moved : PodUpdating.Moved S.text message w.redis step.input pc (next, c)) :
      Acts S rand step w (.podUpdate message pc) (w.run c, .podUpdate message next)
  | receive (ours : step.event.sessionID = S.text) :
      Acts S rand step w (.controller .idle) (w, .controller (.listing step.event .keys))
  | call {event : Event} {previous : SlaveState} {next : World × Handling}
      (ran : call rand w step.input event previous = next) :
      Acts S rand step w (.controller (.dispatch event previous)) (next.1, .controller next.2)
  | handle {pc next : Handling} {c : Command}
      (moved : Handling.Moved w.redis step.input pc (next, c)) :
      Acts S rand step w (.controller pc) (w.run c, .controller next)
  | list {next : Ending} {c : Command}
      (moved : Ending.Moved S.text w.redis step.input (.listing .keys) (next, c)) :
      Acts S rand step w (.ending (.listing .keys))
        ({ w.run c with listed := match step.input.reply with
            | .answered => some (w.redis.keys (sessionSlavePattern S.text))
            | _ => w.listed }, .ending next)
  | ending {pc next : Ending} {c : Command} (later : pc ≠ .listing .keys)
      (running : ∀ err, pc ≠ .returned err)
      (moved : Ending.Moved S.text w.redis step.input pc (next, c)) :
      Acts S rand step w (.ending pc) (w.run c, .ending next)

theorem Thread.Moved.acts (moved : t.Moved S rand step w (w', t')) (placed : t.placed = true) :
    t.Acts S rand step w (w', t') := by
  cases moved with
  | deliver => exact .deliver
  | resolved ran fresh => exact .resolved fresh (ran ▸ Registering.step_moved rfl)
  | register ran settled running =>
    exact .register settled running (ran ▸ Registering.step_moved placed)
  | podUpdate ran running => exact .podUpdate running (ran ▸ PodUpdating.step_moved placed)
  | receive ours => exact .receive ours
  | call ran => exact .call ran
  | handle ran busy settled => exact .handle (ran ▸ Handling.step_moved placed busy settled)
  | list ran => exact .list (ran ▸ Ending.step_moved rfl)
  | ending ran later running => exact .ending later running (ran ▸ Ending.step_moved placed)

/-- What a thread between GET and EXEC has read is there if its stamp still is. -/
def Thread.Sound (S : UUID) (r : Server) : Thread → Prop
  | .register _ _ (.updating state u) => u.Sound state.sessionID countLive r
  | .podUpdate _ (.updating _ _ u) => u.Sound S.text countGone r
  | .controller (.updating event _ _ u) => u.Sound event.sessionID countGone r
  | .ending (.updating count u) => u.Sound S.text (countAllGone count) r
  | _ => True

theorem Thread.Sound.later {r r' : Server} (sound : t.Sound S r)
    (later : Stamped.Store.Later r.store r'.store) : t.Sound S r' := by
  cases t with
  | register caller req pc =>
    cases pc with
    | updating => exact Updating.Sound.later sound later
    | _ => trivial
  | podUpdate message pc =>
    cases pc with
    | updating => exact Updating.Sound.later sound later
    | _ => trivial
  | controller pc =>
    cases pc with
    | updating => exact Updating.Sound.later sound later
    | _ => trivial
  | ending pc =>
    cases pc with
    | updating => exact Updating.Sound.later sound later
    | _ => trivial

theorem Thread.Moved.later (moved : t.Moved S rand step w (w', t')) :
    Stamped.Store.Later w.redis.store w'.redis.store := by
  rcases moved.redis with same | same <;> rw [same]
  · exact .refl
  · exact Command.later _

theorem sound_next (now : Time) (count : Nat) (states : List SlaveState) :
    (Thread.ending (.publishNext S.text now count states)).Sound S w.redis := by
  rcases next_shape S.text now count states with ⟨_, same⟩ | same | ⟨_, _, same⟩ <;> rw [same] <;>
    trivial

theorem sound_listed (now : Time) (l : Listing) :
    (Thread.ending (.listed S.text now l)).Sound S w.redis := by
  rcases listed_shape S.text now l with ⟨_, same⟩ | ⟨_, same⟩ | ⟨_, _, same⟩ <;> rw [same]
  · trivial
  · trivial
  · exact sound_next ..

theorem sound_acts (acts : t.Acts S rand step w (w', t')) (sound : t.Sound S w.redis) :
    t'.Sound S w.redis := by
  cases acts with
  | deliver => trivial
  | receive => trivial
  | resolved _ moved => cases moved <;> trivial
  | register _ _ moved =>
    cases moved with
    | update moved => exact Updating.Sound.moved sound moved
    | _ => trivial
  | podUpdate _ moved =>
    cases moved with
    | update moved => exact Updating.Sound.moved sound moved
    | _ => trivial
  | @call event previous _ ran =>
    subst ran
    rcases call_outcome rand w step.input event previous with same | ⟨_, _, _, _, _, _, same⟩ <;>
      rw [same] <;> trivial
  | handle moved =>
    cases moved with
    | @listing event l =>
      rcases resolved_cases event (l.step event.sessionID w.redis step.input) with
        same | ⟨_, same⟩ | ⟨_, same⟩ <;> rw [same] <;> trivial
    | update moved => exact Updating.Sound.moved sound moved
    | _ => trivial
  | list moved => cases moved <;> first | exact sound_listed .. | trivial
  | ending _ _ moved =>
    cases moved with
    | update moved => exact Updating.Sound.moved sound moved
    | publish => exact sound_next ..
    | read | list => exact sound_listed ..
    | _ => trivial

theorem sound_step {c c' : Config World Thread} {a : Turn Thread Step Outside} (roles : Roles c)
    (h : ∀ (i : Nat) t, c.threads[i]? = some t → t.Sound S c.shared.redis)
    (taken : (cluster S rand).step c a = some c') :
    ∀ (i : Nat) t, c'.threads[i]? = some t → t.Sound S c'.shared.redis := by
  have took := Composite.took_of_step taken
  have later : Stamped.Store.Later c.shared.redis.store c'.shared.redis.store := by
    cases took with
    | start => exact .refl
    | run found moved => exact (Thread.move_moved moved).later
    | outside moved => exact (outside_redis moved).1 ▸ .refl
  refine took.each_kept (P := fun _ w t => t.Sound S w.redis) h (fun t _ ready => ?_)
    (fun i step t w' t' _ found moved sound => ?_) fun _ _ _ _ sound => sound.later later
  · rcases starts_cases ready with ⟨_, _, rfl⟩ | ⟨_, rfl⟩ <;> trivial
  · have moved := Thread.move_moved moved
    exact (sound_acts (moved.acts (roles.placed i t found)) sound).later moved.later

theorem Thread.Sound.commits {sessionID : String} {m : SessionMetrics}
    (sound : t.Sound S w.redis) (pending : t.pending S step w = .setMetrics sessionID m) :
    ∃ old, w.redis.store.get (sessionMetricsKey sessionID) = some (.metrics old) := by
  have committed : ∀ {u : Updating} {own : String} {fn : SessionMetrics → SessionMetrics},
      u.Sound own fn w.redis → u.pending own w.redis = .setMetrics sessionID m →
        ∃ old, w.redis.store.get (sessionMetricsKey sessionID) = some (.metrics old) := by
    intro u own fn sound pending
    obtain ⟨rfl, old, _, _, got⟩ := sound.commits pending
    exact ⟨old, got⟩
  have published : ∀ {state : SlaveState} {p : Publishing},
      p.pending state ≠ .setMetrics sessionID m := by
    intro state p same
    cases p <;> cases same
  cases t with
  | register caller req pc =>
    cases pc with
    | publishing => exact absurd pending published
    | updating => exact committed sound pending
    | _ => cases pending
  | podUpdate message pc =>
    cases pc with
    | publishing => exact absurd pending published
    | updating => exact committed sound pending
    | _ => cases pending
  | controller pc =>
    cases pc with
    | publishing => exact absurd pending published
    | updating => exact committed sound pending
    | _ => cases pending
  | ending pc =>
    cases pc with
    | publishing => exact absurd pending published
    | updating => exact committed sound pending
    | deleting d => cases d <;> cases pending
    | _ => cases pending

/-- Up to its DeleteSession, endSession marks the slaves gone. -/
def Ending.marking : Ending → Bool
  | .deleting _ => false
  | .returned err => err.isSome
  | _ => true

theorem marking_next (sessionID : String) (now : Time) (count : Nat) (states : List SlaveState) :
    (Ending.publishNext sessionID now count states).marking = true := by
  rcases next_shape sessionID now count states with ⟨_, same⟩ | same | ⟨_, _, same⟩ <;>
    rw [same] <;> rfl

theorem marking_listed (sessionID : String) (now : Time) (l : Listing) :
    (Ending.listed sessionID now l).marking = true := by
  rcases listed_shape sessionID now l with ⟨_, same⟩ | ⟨_, same⟩ | ⟨_, _, same⟩ <;> rw [same]
  · rfl
  · rfl
  · exact marking_next ..

end Commands

end Megalo.Cluster
