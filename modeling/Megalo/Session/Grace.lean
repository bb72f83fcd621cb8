import Megalo.Session.Lifetimes

/-! The reconnect grace period. A timer carries the session it ends and nothing
that tells a reconnect from the disconnect before it, so the period holds exactly
as long as every reconnect cancels every timer armed for its session. -/
namespace Megalo.Session

variable {w w' : World} {g : ThreadID} {t : Thread} {grace : Time}

/-- A callback that goes on to finalize does so after a whole grace period without
a client, and no client has connected since its timer was armed. -/
def GraceKept (grace : Time) (w : World) : Prop :=
  ∀ g S t, w.threads g = .finishing S t → (finishSession S w.memory).1 = true →
    w.disconnectedAt + grace ≤ w.now ∧ w.armedIn t = w.connections

/-- When a client gets the slot, Stop cancels every timer armed for the session: the
field names it, and no callback for the session waits for the mutex. -/
def NoTimerSurvives (w : World) : Action → Prop
  | .request _ => ¬ Blocked w.memory.server →
    (∀ t d, w.memory.timers t = .armed w.memory.server.sessionID d →
      w.memory.server.sessionEndTimer = some t) ∧
    ∀ g t, w.threads g ≠ .finishing w.memory.server.sessionID t
  | _ => True

/-- Timers and callbacks of the current session, which no client holds then. -/
structure Graceful (grace : Time) (w : World) : Prop where
  armed : ∀ t d, w.memory.timers t = .armed w.memory.server.sessionID d →
    w.memory.server.clientConnected = false ∧ w.disconnectedAt + grace ≤ d ∧
      w.armedIn t = w.connections
  waiting : ∀ g t, w.threads g = .finishing w.memory.server.sessionID t →
    w.memory.server.clientConnected = false ∧ w.disconnectedAt + grace ≤ w.now ∧
      w.armedIn t = w.connections
  armedFor : ∀ t S d, w.memory.timers t = .armed S d → Committed w.log S
  waitingFor : ∀ g S t, w.threads g = .finishing S t → Committed w.log S
  schedulingFor : ∀ g S, w.threads g = .scheduling S → Committed w.log S
  past : w.disconnectedAt ≤ w.now

theorem graceful_initial : Graceful grace .initial := by
  constructor <;> intros <;> first | contradiction | exact Nat.le_refl _

structure Quiet (w : World) : Prop where
  timers : ∀ t d, w.memory.timers t ≠ .armed w.memory.server.sessionID d
  callbacks : ∀ g t, w.threads g ≠ .finishing w.memory.server.sessionID t

theorem Graceful.quiet (h : Graceful grace w) (connected : w.memory.server.clientConnected = true) :
    Quiet w := by
  constructor
  · intro t d armed
    have := (h.armed t d armed).1
    simp [connected] at this
  · intro k t waiting
    have := (h.waiting k t waiting).1
    simp [connected] at this

/-- A step after which no timer is armed and no callback waits that was not before. -/
structure Fewer (w w' : World) : Prop where
  log : ∀ S, Committed w.log S → Committed w'.log S
  timers : ∀ t S d, w'.memory.timers t = .armed S d → w.memory.timers t = .armed S d
  waiting : ∀ g S t, w'.threads g = .finishing S t → w.threads g = .finishing S t
  scheduling : ∀ g S, w'.threads g = .scheduling S →
    w.threads g = .scheduling S ∨ Committed w'.log S
  past : w'.disconnectedAt ≤ w'.now

theorem Graceful.quieted (h : Graceful grace w) (fewer : Fewer w w') (quiet : Quiet w') :
    Graceful grace w' where
  armed t d armed := absurd armed (quiet.timers t d)
  waiting k t waiting := absurd waiting (quiet.callbacks k t)
  armedFor t S d armed := fewer.log S (h.armedFor t S d (fewer.timers t S d armed))
  waitingFor k S t waiting := fewer.log S (h.waitingFor k S t (fewer.waiting k S t waiting))
  schedulingFor k S scheduling := (fewer.scheduling k S scheduling).elim
    (fun old => fewer.log S (h.schedulingFor k S old)) id
  past := fewer.past

theorem Graceful.frame (h : Graceful grace w) (fewer : Fewer w w')
    (session : w'.memory.server.sessionID = w.memory.server.sessionID)
    (client : w'.memory.server.clientConnected = w.memory.server.clientConnected)
    (now : w'.now = w.now) (left : w'.disconnectedAt = w.disconnectedAt)
    (connections : w'.connections = w.connections)
    (armedIn : ∀ t, w'.armedIn t = w.armedIn t ∨ w'.armedIn t = w.connections) :
    Graceful grace w' where
  armed t d armed := by
    obtain ⟨free, late, same⟩ := h.armed t d (session ▸ fewer.timers t _ d armed)
    rw [client, left, connections]
    exact ⟨free, late, (armedIn t).elim (·.trans same) id⟩
  waiting k t waiting := by
    obtain ⟨free, late, same⟩ := h.waiting k t (session ▸ fewer.waiting k _ t waiting)
    rw [client, left, connections, now]
    exact ⟨free, late, (armedIn t).elim (·.trans same) id⟩
  armedFor t S d armed := fewer.log S (h.armedFor t S d (fewer.timers t S d armed))
  waitingFor k S t waiting := fewer.log S (h.waitingFor k S t (fewer.waiting k S t waiting))
  schedulingFor k S scheduling := (fewer.scheduling k S scheduling).elim
    (fun old => fewer.log S (h.schedulingFor k S old)) id
  past := fewer.past

/-- A goroutine moves to a place that is neither a waiting callback nor, unless the
session is committed, the way to arm a timer; at most one timer is stopped. -/
theorem Fewer.move (log : ∀ S, Committed w.log S → Committed w'.log S)
    (timers : w'.memory.timers = w.memory.timers ∨
      ∃ field, w'.memory.timers = stopTimer w.memory.timers field)
    (threads : w'.threads = Function.update w.threads g t)
    (notWaiting : ∀ S tm, t ≠ .finishing S tm)
    (scheduling : ∀ S, t = .scheduling S → Committed w'.log S)
    (past : w'.disconnectedAt ≤ w'.now) : Fewer w w' where
  log := log
  timers u S d armed := by
    rcases timers with same | ⟨field, stopped⟩
    · exact same ▸ armed
    · exact (stopTimer_armed w.memory.timers field u (stopped ▸ armed)).1
  waiting k S u waiting := by
    rcases Transition.update_cases (threads ▸ waiting) with ⟨_, moved⟩ | ⟨_, old⟩
    · exact absurd moved (notWaiting S u)
    · exact old
  scheduling k S sched := by
    rcases Transition.update_cases (threads ▸ sched) with ⟨_, moved⟩ | ⟨_, old⟩
    · exact .inr (scheduling S moved)
    · exact .inl old
  past := past

theorem Graceful.silenced (h : Graceful grace w) (fewer : Fewer w w')
    (none : ¬ Committed w.log w'.memory.server.sessionID) : Graceful grace w' :=
  h.quieted fewer
    ⟨fun t d armed => none (h.armedFor t _ d (fewer.timers t _ d armed)),
      fun k t waiting => none (h.waitingFor k _ t (fewer.waiting k _ t waiting))⟩

theorem Graceful.still_quiet (h : Graceful grace w) (quiet : Quiet w) (fewer : Fewer w w')
    (session : w'.memory.server.sessionID = w.memory.server.sessionID) : Graceful grace w' :=
  h.quieted fewer
    ⟨fun t d armed => quiet.timers t d (session ▸ fewer.timers t _ d armed),
      fun k t waiting => quiet.callbacks k t (session ▸ fewer.waiting k _ t waiting)⟩

theorem graceful_request (hs : Slot w) (h : Graceful grace w)
    (met : NoTimerSurvives w (.request g)) : Graceful grace (request w g) := by
  by_cases blocked : Blocked w.memory.server
  · simp only [request, tryBegin_blocked _ blocked, Bool.false_eq_true, if_false]
    exact h.frame (.move (fun _ => id) (.inl rfl) rfl (by simp) (by simp) h.past) rfl rfl rfl rfl
      rfl fun _ => .inl rfl
  · by_cases absent : w.memory.server.sessionID = ""
    · simp only [request, tryBegin_reserves _ blocked absent, if_true]
      exact h.silenced (.move (fun _ => id) (.inr ⟨_, rfl⟩) rfl (by simp) (by simp) h.past)
        (hs.uncommitted (.inr rfl))
    · obtain ⟨cancelled, none⟩ := met blocked
      simp only [request, tryBegin_resumes _ blocked absent, if_true]
      refine h.quieted (.move (fun _ => id) (.inr ⟨_, rfl⟩) rfl (by simp) (by simp) h.past)
        ⟨fun t d armed => ?_, fun k t waiting => ?_⟩
      · obtain ⟨before, other⟩ := stopTimer_armed _ _ t armed
        exact other (cancelled t d before)
      · rcases Transition.update_cases waiting with ⟨_, moved⟩ | ⟨_, old⟩
        · cases moved
        · exact none k t old

theorem graceful_commit (h : Graceful grace w) (serial : Serial w) {m : SessionMeta}
    (pc : w.threads g = .started m) : Graceful grace (commit w g m) := by
  refine h.silenced (.move ?_ (.inl rfl) rfl (by simp) (by simp) h.past) (serial.fresh g m pc).2
  rintro S ⟨k, member, named⟩
  exact ⟨k, List.mem_cons_of_mem _ member, named⟩

theorem graceful_abort (hs : Slot w) (h : Graceful grace w) (pc : w.threads g = .failed) :
    Graceful grace (abort w g) := by
  obtain ⟨_, _, _, pending⟩ := hs.holder pc nofun
  simp only [abort, abort_pending _ pending]
  exact h.silenced (.move (fun _ => id) (.inl rfl) rfl (by simp) (by simp) h.past)
    (hs.uncommitted (.inl rfl))

theorem graceful_release (hs : Slot w) (h : Graceful grace w) {m : SessionMeta} {explicit : Bool}
    (pc : w.threads g = .closing m explicit) : Graceful grace (release grace w g m explicit) := by
  obtain ⟨_, connected, _, _, member, _⟩ := hs.holder pc nofun
  obtain ⟨t, server, eq, same, _, _, kind⟩ := release_cases grace hs pc
  rw [eq]
  refine h.still_quiet (h.quiet connected) (.move (fun _ => id) (.inr ⟨_, rfl⟩) rfl ?_ ?_
    (Nat.le_refl _)) same
  · rcases kind with ⟨_, rfl⟩ | ⟨_, rfl⟩ <;> simp
  · rintro S rfl
    rcases kind with ⟨_, e⟩ | ⟨_, e⟩ <;> cases e
    exact ⟨m, member, rfl⟩

theorem graceful_schedule (h : Graceful grace w) {S : String}
    (pc : w.threads g = .scheduling S) : Graceful grace (schedule grace w g S) := by
  have armedIn : ∀ t, (schedule grace w g S).armedIn t = w.armedIn t ∨
      (schedule grace w g S).armedIn t = w.connections := by
    intro t
    by_cases same : t = g
    · exact .inr (same ▸ Function.update_self ..)
    · exact .inl (Function.update_of_ne same ..)
  have waiting : ∀ k R t, (schedule grace w g S).threads k = .finishing R t →
      w.threads k = .finishing R t := by
    intro k R t hk
    rcases Transition.update_cases hk with ⟨_, moved⟩ | ⟨_, old⟩
    · cases moved
    · exact old
  obtain ⟨session, _, client⟩ :
      (schedule grace w g S).memory.server.sessionID = w.memory.server.sessionID ∧ _ ∧
        (schedule grace w g S).memory.server.clientConnected = w.memory.server.clientConnected :=
    schedule_keeps w.memory
  refine ⟨fun t d ht => ?_, fun k t hk => ?_, fun t R d ht => ?_, fun k R t hk => ?_,
    fun k R hk => ?_, h.past⟩
  · rcases schedule_armed w.memory ht with old | ⟨rfl, _, rfl, free⟩
    · obtain ⟨free, late, same⟩ := h.armed t d (session ▸ old)
      exact ⟨client.trans free, late, (armedIn t).elim (·.trans same) id⟩
    · exact ⟨client.trans free, Nat.add_le_add_right h.past grace, Function.update_self ..⟩
  · obtain ⟨free, late, same⟩ := h.waiting k t (session ▸ waiting k _ t hk)
    exact ⟨client.trans free, late, (armedIn t).elim (·.trans same) id⟩
  · rcases schedule_armed w.memory ht with old | ⟨_, rfl, _⟩
    · exact h.armedFor t R d old
    · exact h.schedulingFor g R pc
  · exact h.waitingFor k R t (waiting k R t hk)
  · rcases Transition.update_cases hk with ⟨_, moved⟩ | ⟨_, old⟩
    · cases moved
    · exact h.schedulingFor k R old

theorem graceful_fire (h : Graceful grace w) {tm : TimerID} {S : String} {d : Time}
    (armed : w.memory.timers tm = .armed S d) (due : d ≤ w.now) :
    Graceful grace (fire w g tm S) := by
  have waiting : ∀ k R t, (fire w g tm S).threads k = .finishing R t →
      R = S ∧ t = tm ∨ w.threads k = .finishing R t := by
    intro k R t hk
    rcases Transition.update_cases hk with ⟨_, moved⟩ | ⟨_, old⟩
    · cases moved
      exact .inl ⟨rfl, rfl⟩
    · exact .inr old
  have timers : ∀ t R e, (fire w g tm S).memory.timers t = .armed R e →
      w.memory.timers t = .armed R e := by
    intro t R e ht
    rcases Transition.update_cases ht with ⟨_, moved⟩ | ⟨_, old⟩
    · cases moved
    · exact old
  refine ⟨fun t e ht => h.armed t e (timers t _ e ht), fun k t hk => ?_,
    fun t R e ht => h.armedFor t R e (timers t R e ht), fun k R t hk => ?_, fun k R hk => ?_,
    h.past⟩
  · rcases waiting k _ t hk with ⟨current, rfl⟩ | old
    · obtain ⟨free, late, same⟩ := h.armed t d (current.symm ▸ armed)
      exact ⟨free, Nat.le_trans late due, same⟩
    · exact h.waiting k t old
  · rcases waiting k R t hk with ⟨rfl, rfl⟩ | old
    · exact h.armedFor t R d armed
    · exact h.waitingFor k R t old
  · rcases Transition.update_cases hk with ⟨_, moved⟩ | ⟨_, old⟩
    · cases moved
    · exact h.schedulingFor k R old

theorem graceful_finish (h : Graceful grace w) {S : String} : Graceful grace (finish w g S) := by
  by_cases expires : Expires w.memory.server S
  · simp only [finish, finish_proceeds _ expires, if_true]
    exact h.frame (.move (fun _ => id) (.inr ⟨_, rfl⟩) rfl (by simp) (by simp) h.past) rfl rfl rfl
      rfl rfl fun _ => .inl rfl
  · simp only [finish, finish_skips _ expires, Bool.false_eq_true, if_false]
    exact h.frame (.move (fun _ => id) (.inl rfl) rfl (by simp) (by simp) h.past) rfl rfl rfl rfl
      rfl fun _ => .inl rfl

theorem graceful_step {a : Action} (hs : Slot w) (serial : Serial w) (h : Graceful grace w)
    (met : NoTimerSurvives w a) (taken : step grace w a = some w') : Graceful grace w' := by
  cases step_taken taken with
  | request _ => exact graceful_request hs h met
  | @upgrade g m resumed ok _ =>
    exact h.frame (.move (fun _ => id) (.inl rfl) rfl
      (by cases ok <;> cases resumed <;> simp [upgraded])
      (by cases ok <;> cases resumed <;> simp [upgraded]) h.past) rfl rfl rfl rfl rfl
      fun _ => .inl rfl
  | @startSession g uuid ok _ _ =>
    exact h.frame (.move (fun _ => (committed_cons (by simp)).mpr) (.inl rfl) rfl
      (by cases ok <;> simp) (by cases ok <;> simp) h.past) rfl rfl rfl rfl rfl fun _ => .inl rfl
  | commitSession pc => exact graceful_commit h serial pc
  | abortPendingSession pc => exact graceful_abort hs h pc
  | readError _ =>
    exact h.frame (.move (fun _ => id) (.inl rfl) rfl (by simp) (by simp) h.past) rfl rfl rfl rfl
      rfl fun _ => .inl rfl
  | handleConnectionClosed pc => exact graceful_release hs h pc
  | scheduleSessionEnd pc => exact graceful_schedule h pc
  | fire armed _ due => exact graceful_fire h armed due
  | finishSession _ => exact graceful_finish h
  | endSession _ =>
    exact h.frame (.move (fun _ => (committed_cons (by simp)).mpr) (.inl rfl) rfl (by simp)
      (by simp) h.past) rfl rfl rfl rfl rfl fun _ => .inl rfl
  | @finalizeSession g S pc =>
    have role : (w.threads g).role = .finalizing S := by rw [pc]; rfl
    simp only [finalize, finalize_current _ (finalizing_current hs serial role).1]
    exact h.silenced (.move (fun _ => (committed_cons (by simp)).mpr) (.inr ⟨_, rfl⟩) rfl
      (by simp) (by simp) h.past) (hs.uncommitted (.inl rfl))
  | tick =>
    exact ⟨h.armed, fun k t hk => (h.waiting k t hk).imp_right fun late =>
        late.imp_left fun le => Nat.le_trans le (Nat.le_add_right ..),
      h.armedFor, h.waitingFor, h.schedulingFor, Nat.le_trans h.past (Nat.le_add_right ..)⟩

/-- Where every reconnect cancels every timer armed for its session, no callback
cuts a grace period short or outlives a reconnect. -/
theorem grace_kept (reached : (machine grace).ReachableVia NoTimerSurvives .initial w) :
    GraceKept grace w := by
  have h : Graceful grace w := by
    refine reached.invariant_given (J := fun v => Slot v ∧ Serial v) (fun v r => ?_)
      graceful_initial fun _ _ _ known _ h met taken => graceful_step known.1 known.2 h met taken
    exact ⟨slot_reachable r.reachable, serial_reachable r.reachable⟩
  intro g S t pc proceeds
  have expires : Expires w.memory.server S := by
    by_contra kept
    simp [finish_skips _ kept] at proceeds
  exact (h.waiting g t (expires.2.1.symm ▸ pc)).2

/-- A client drops, the next one arms timer 1 and then the first one timer 0 over it;
a third client connects, leaves one tick before timer 1 is due, and timer 1 fires. -/
def overwrittenTimer : List Action :=
  [.request 0, .upgrade 0 true, .startSession 0 .sample true, .commitSession 0,
    .readError 0 false, .handleConnectionClosed 0,
    .request 1, .upgrade 1 true, .readError 1 false, .handleConnectionClosed 1,
    .scheduleSessionEnd 1, .scheduleSessionEnd 0,
    .request 2, .upgrade 2 true, .tick 29, .readError 2 false, .handleConnectionClosed 2,
    .scheduleSessionEnd 2, .tick 1, .fire 1 3]

/-- One tick after its last client left, a session with 30 ticks of grace is finalized
by a timer armed two connections earlier. -/
theorem grace_cut_short : ∃ w, (machine 30).run .initial overwrittenTimer = some w ∧
    w.threads 3 = .finishing UUID.sample.text 1 ∧
    (finishSession UUID.sample.text w.memory).1 = true ∧
    w.now = 30 ∧ w.disconnectedAt = 29 ∧ w.armedIn 1 ≠ w.connections ∧ ¬ GraceKept 30 w := by
  obtain ⟨w, ran, passes⟩ := Transition.System.run_passes overwrittenTimer
    (fun w => w.threads 3 == .finishing UUID.sample.text 1 &&
      (finishSession UUID.sample.text w.memory).1 && w.now == 30 && w.disconnectedAt == 29 &&
      w.armedIn 1 != w.connections)
    (by decide : ((machine 30).run .initial overwrittenTimer).any _ = true)
  simp only [Bool.and_eq_true, beq_iff_eq, bne_iff_ne] at passes
  obtain ⟨⟨⟨⟨pc, proceeds⟩, now⟩, left⟩, stale⟩ := passes
  refine ⟨w, ran, pc, proceeds, now, left, stale, fun kept => ?_⟩
  exact stale (kept 3 _ 1 pc proceeds).2

/-- A client drops, and its timer is cancelled by the reconnect. -/
def droppedOnce : List Action :=
  [.request 0, .upgrade 0 true, .startSession 0 .sample true, .commitSession 0,
    .readError 0 false, .handleConnectionClosed 0, .scheduleSessionEnd 0, .tick 5]

def droppedTwice : List Action :=
  [.upgrade 1 true, .readError 1 false, .handleConnectionClosed 1, .scheduleSessionEnd 1,
    .tick 30, .fire 1 2]

theorem dropped_cancelled {w : World} (ran : (machine 30).run .initial droppedOnce = some w) :
    NoTimerSurvives w (.request 1) := by
  cases ran
  intro _
  constructor
  · intro t d armed
    cases t with
    | zero => rfl
    | succ t => cases armed
  · intro g t waiting
    cases g with
    | zero => cases waiting
    | succ g => cases waiting

theorem grace_kept_reconnect :
    ∃ w, (machine 30).run .initial (droppedOnce ++ .request 1 :: droppedTwice) = some w ∧
      GraceKept 30 w := by
  obtain ⟨w, ran⟩ := Option.isSome_iff_exists.mp (by decide :
    ((machine 30).run .initial (droppedOnce ++ .request 1 :: droppedTwice)).isSome = true)
  refine ⟨w, ran, grace_kept ?_⟩
  rw [Transition.System.run_append] at ran
  obtain ⟨v, once, ran⟩ := Option.bind_eq_some_iff.mp ran
  refine .trans (Transition.System.run_reachableVia once ⟨fun _ => ⟨?_, ?_⟩, fun u _ => ?_⟩)
    (Transition.System.run_reachableVia ran ⟨dropped_cancelled once, fun u _ => ?_⟩)
  · simp [World.initial, Memory.initial]
  · simp [World.initial]
  · exact Transition.System.meets_of_forall (by simp [NoTimerSurvives]) u
  · exact Transition.System.meets_of_forall (by simp [droppedTwice, NoTimerSurvives]) u

end Megalo.Session
