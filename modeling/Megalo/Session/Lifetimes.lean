import Megalo.Session.Slot

/-! Session lifetimes follow one another. The log of a run shows each committed
session ended once, and a new session started only after the last one's end. -/
namespace Megalo.Session

def lastCommitted : List Entry → Option SessionMeta
  | [] => none
  | .committed m :: _ => some m
  | _ :: rest => lastCommitted rest

/-- What the log knows of the sessions, given what the fields and goroutines say. -/
structure Serial (w : World) : Prop where
  issued : ∀ S, Committed w.log S → S ∈ w.uuids
  fresh : ∀ g m, w.threads g = .started m →
    m.sessionID ∈ w.uuids ∧ ¬ Committed w.log m.sessionID
  known : ∀ S, .endSession S ∈ w.log ∨ .finalized S ∈ w.log → Committed w.log S
  done : ∀ S, Committed w.log S → .finalized S ∈ w.log ∨ S = w.memory.server.sessionID
  current : Committed w.log w.memory.server.sessionID →
    .finalized w.memory.server.sessionID ∉ w.log ∧
      lastCommitted w.log = some w.memory.server.sessionMeta
  called : ∀ S, .endSession S ∈ w.log → .finalized S ∈ w.log ∨ ∃ g, w.threads g = .ended S
  once : ∀ S, w.log.count (.endSession S) ≤ 1 ∧ w.log.count (.finalized S) ≤ 1
  returned : ∀ g S, w.threads g = .returned (some S) → .finalized S ∈ w.log

variable {w w' : World} {g : ThreadID} {t : Thread} {grace : Time}

theorem Slot.uncommitted (hs : Slot w) {S : String} (bad : S = "" ∨ S = "pending") :
    ¬ Committed w.log S := by
  rintro ⟨m, member, rfl⟩
  have named := hs.named member
  rcases bad with bad | bad
  · exact named.2.1 bad
  · exact named.2.2 bad

/-- A step that writes no entry and either keeps the session or moves between the
values of sessionID that are no session. -/
theorem Serial.frame (h : Serial w) (log : w'.log = w.log) (uuids : w'.uuids = w.uuids)
    (threads : w'.threads = Function.update w.threads g t)
    (notStarted : ∀ m, t ≠ .started m) (notReturned : ∀ S, t ≠ .returned (some S))
    (notEnded : ∀ S, w.threads g ≠ .ended S)
    (session : (w'.memory.server.sessionID = w.memory.server.sessionID ∧
        w'.memory.server.sessionMeta = w.memory.server.sessionMeta) ∨
      (¬ Committed w.log w.memory.server.sessionID ∧
        ¬ Committed w.log w'.memory.server.sessionID)) : Serial w' := by
  constructor
  · rw [log, uuids]
    exact h.issued
  · intro k m hk
    rw [log, uuids]
    rcases Transition.update_cases (threads ▸ hk) with ⟨_, moved⟩ | ⟨_, old⟩
    · exact absurd moved (notStarted m)
    · exact h.fresh k m old
  · rw [log]
    exact h.known
  · intro S committed
    rw [log] at committed ⊢
    rcases session with ⟨same, _⟩ | ⟨old, _⟩
    · exact same ▸ h.done S committed
    · refine .inl ((h.done S committed).resolve_right ?_)
      rintro rfl
      exact old committed
  · intro committed
    rw [log] at committed ⊢
    rcases session with ⟨same, sameMeta⟩ | ⟨_, new⟩
    · rw [same] at committed ⊢
      exact sameMeta ▸ h.current committed
    · exact absurd committed new
  · intro S member
    rw [log] at member ⊢
    apply (h.called S member).imp_right
    rintro ⟨k, hk⟩
    exact ⟨k, threads ▸ Transition.update_kept hk (notEnded S)⟩
  · rw [log]
    exact h.once
  · intro k S hk
    rw [log]
    rcases Transition.update_cases (threads ▸ hk) with ⟨_, moved⟩ | ⟨_, old⟩
    · exact absurd moved (notReturned S)
    · exact h.returned k S old

theorem serial_initial : Serial .initial := by
  constructor
  · rintro S ⟨m, member, _⟩
    cases member
  · intro g m hm
    cases hm
  · intro S member
    rcases member with member | member <;> cases member
  · rintro S ⟨m, member, _⟩
    cases member
  · rintro ⟨m, member, _⟩
    cases member
  · intro S member
    cases member
  · exact fun S => ⟨Nat.zero_le _, Nat.zero_le _⟩
  · intro g S hg
    cases hg

theorem committed_cons {e : Entry} {log : List Entry} {S : String}
    (other : ∀ m, e ≠ .committed m) : Committed (e :: log) S ↔ Committed log S := by
  refine exists_congr fun m => and_congr_left fun _ => ?_
  simp only [List.mem_cons, (other m).symm, false_or]

theorem serial_start (h : Serial w) {uuid : UUID} {ok : Bool} (fresh : uuid.text ∉ w.uuids)
    (pc : w.threads g = .starting) : Serial (startSession w g uuid ok) := by
  have keep : ∀ S, Committed (.startSession uuid.text :: w.log) S ↔ Committed w.log S :=
    fun S => committed_cons (by simp)
  constructor <;> simp only [startSession, World.goto, keep, List.mem_cons, reduceCtorEq, false_or]
  · exact fun S hS => .inr (h.issued S hS)
  · intro k m hk
    rcases Transition.update_cases hk with ⟨_, moved⟩ | ⟨_, old⟩
    · cases ok <;> cases moved
      exact ⟨.inl rfl, fun hS => fresh (h.issued _ hS)⟩
    · exact (h.fresh k m old).imp_left .inr
  · exact h.known
  · exact h.done
  · exact h.current
  · intro S member
    apply (h.called S member).imp_right
    rintro ⟨k, hk⟩
    exact ⟨k, Transition.update_kept hk (by simp [pc])⟩
  · intro S
    simpa using h.once S
  · intro k S hk
    rcases Transition.update_cases hk with ⟨_, moved⟩ | ⟨_, old⟩
    · cases ok <;> cases moved
    · exact h.returned k S old

theorem serial_commit (hs : Slot w) (h : Serial w) {m : SessionMeta}
    (pc : w.threads g = .started m) : Serial (commit w g m) := by
  obtain ⟨alone, _, _, pending⟩ := hs.holder pc nofun
  obtain ⟨issued, fresh⟩ := h.fresh g m pc
  have either : ∀ S, Committed (.committed m :: w.log) S → S = m.sessionID ∨ Committed w.log S := by
    rintro S ⟨k, member, rfl⟩
    rcases List.mem_cons.mp member with e | member
    · cases e
      exact .inl rfl
    · exact .inr ⟨k, member, rfl⟩
  constructor <;>
    simp only [commit, commitSession, World.goto, List.mem_cons, reduceCtorEq, false_or]
  · intro S committed
    rcases either S committed with rfl | old
    · exact issued
    · exact h.issued S old
  · intro k n hk
    rcases Transition.update_cases hk with ⟨_, moved⟩ | ⟨other, old⟩
    · cases moved
    · have outside := alone k other
      rw [old] at outside
      cases outside
  · intro S member
    obtain ⟨k, old, named⟩ := h.known S member
    exact ⟨k, List.mem_cons_of_mem _ old, named⟩
  · intro S committed
    rcases either S committed with rfl | old
    · exact .inr rfl
    · refine .inl ((h.done S old).resolve_right ?_)
      rintro rfl
      exact hs.uncommitted (.inr pending) old
  · exact fun _ => ⟨fun member => fresh (h.known _ (.inr member)), rfl⟩
  · intro S member
    apply (h.called S member).imp_right
    rintro ⟨k, hk⟩
    exact ⟨k, Transition.update_kept hk (by simp [pc])⟩
  · intro S
    simpa using h.once S
  · intro k S hk
    rcases Transition.update_cases hk with ⟨_, moved⟩ | ⟨_, old⟩
    · cases moved
    · exact h.returned k S old

theorem finalizing_current (hs : Slot w) (h : Serial w) {S : String}
    (role : (w.threads g).role = .finalizing S) :
    w.memory.server.sessionID = S ∧ Committed w.log S ∧ .finalized S ∉ w.log := by
  have fits := hs.busy g (by rw [role]; nofun)
  rw [role] at fits
  obtain ⟨_, _, same, member, named⟩ := fits
  have committed : Committed w.log S := ⟨_, member, named⟩
  exact ⟨same, committed, same ▸ (h.current (same.symm ▸ committed)).1⟩

theorem end_not_called (hs : Slot w) (h : Serial w) {S : String}
    (pc : w.threads g = .finalizing S) : .endSession S ∉ w.log := by
  intro member
  have role : (w.threads g).role = .finalizing S := by rw [pc]; rfl
  rcases h.called S member with finalized | ⟨k, hk⟩
  · exact (finalizing_current hs h role).2.2 finalized
  · have same := hs.solo k g (by rw [hk]; nofun) (by rw [pc]; nofun)
    rw [same, pc] at hk
    cases hk

theorem serial_end (hs : Slot w) (h : Serial w) {S : String} (pc : w.threads g = .finalizing S) :
    Serial (endSession w g S) := by
  have role : (w.threads g).role = .finalizing S := by rw [pc]; rfl
  obtain ⟨_, committed, _⟩ := finalizing_current hs h role
  have keep : ∀ R, Committed (.endSession S :: w.log) R ↔ Committed w.log R :=
    fun R => committed_cons (by simp)
  constructor <;> simp only [endSession, World.goto, keep, List.mem_cons, reduceCtorEq, false_or]
  · exact h.issued
  · intro k m hk
    rcases Transition.update_cases hk with ⟨_, moved⟩ | ⟨_, old⟩
    · cases moved
    · exact h.fresh k m old
  · rintro R ((e | member) | member)
    · cases e
      exact committed
    · exact h.known R (.inl member)
    · exact h.known R (.inr member)
  · exact h.done
  · exact h.current
  · rintro R (e | member)
    · cases e
      exact .inr ⟨g, Function.update_self ..⟩
    · apply (h.called R member).imp_right
      rintro ⟨k, hk⟩
      exact ⟨k, Transition.update_kept hk (by simp [pc])⟩
  · intro R
    by_cases same : S = R
    · subst same
      have zero := List.count_eq_zero.mpr (end_not_called hs h pc)
      simpa [zero] using (h.once S).2
    · simpa [List.count_cons, same] using h.once R
  · intro k R hk
    rcases Transition.update_cases hk with ⟨_, moved⟩ | ⟨_, old⟩
    · cases moved
    · exact h.returned k R old

theorem serial_finalize (hs : Slot w) (h : Serial w) {S : String} (pc : w.threads g = .ended S) :
    Serial (finalize w g S) := by
  have role : (w.threads g).role = .finalizing S := by rw [pc]; rfl
  obtain ⟨same, committed, unfinalized⟩ := finalizing_current hs h role
  have keep : ∀ R, Committed (.finalized S :: w.log) R ↔ Committed w.log R :=
    fun R => committed_cons (by simp)
  constructor <;> simp only [finalize, finalize_current _ same, World.goto, keep, List.mem_cons,
    reduceCtorEq, false_or]
  · exact h.issued
  · intro k m hk
    rcases Transition.update_cases hk with ⟨_, moved⟩ | ⟨_, old⟩
    · cases moved
    · exact h.fresh k m old
  · rintro R (member | e | member)
    · exact h.known R (.inl member)
    · cases e
      exact committed
    · exact h.known R (.inr member)
  · intro R hR
    rcases h.done R hR with finalized | rfl
    · exact .inl (.inr finalized)
    · exact .inl (.inl (congrArg _ same))
  · exact fun absent => absurd absent (hs.uncommitted (.inl rfl))
  · intro R member
    rcases h.called R member with finalized | ⟨k, hk⟩
    · exact .inl (.inr finalized)
    · by_cases mine : k = g
      · rw [mine, pc] at hk
        cases hk
        exact .inl (.inl rfl)
      · exact .inr ⟨k, (Function.update_of_ne mine ..).trans hk⟩
  · intro R
    by_cases mine : S = R
    · subst mine
      have zero := List.count_eq_zero.mpr unfinalized
      simpa [zero] using (h.once S).1
    · simpa [List.count_cons, mine] using h.once R
  · intro k R hk
    rcases Transition.update_cases hk with ⟨_, moved⟩ | ⟨_, old⟩
    · cases moved
      exact .inl rfl
    · exact .inr (h.returned k R old)

theorem serial_request (hs : Slot w) (h : Serial w) (idle : w.threads g = .idle) :
    Serial (request w g) := by
  by_cases blocked : Blocked w.memory.server
  · simp only [request, tryBegin_blocked _ blocked, Bool.false_eq_true, if_false]
    exact h.frame rfl rfl rfl (by simp) (by simp) (by simp [idle]) (.inl ⟨rfl, rfl⟩)
  · by_cases absent : w.memory.server.sessionID = ""
    · simp only [request, tryBegin_reserves _ blocked absent, if_true]
      exact h.frame rfl rfl rfl (by simp) (by simp) (by simp [idle])
        (.inr ⟨hs.uncommitted (.inl absent), hs.uncommitted (.inr rfl)⟩)
    · simp only [request, tryBegin_resumes _ blocked absent, if_true]
      exact h.frame rfl rfl rfl (by simp) (by simp) (by simp [idle]) (.inl ⟨rfl, rfl⟩)

theorem serial_abort (hs : Slot w) (h : Serial w) (pc : w.threads g = .failed) :
    Serial (abort w g) := by
  obtain ⟨_, _, _, pending⟩ := hs.holder pc nofun
  simp only [abort, abort_pending _ pending]
  exact h.frame rfl rfl rfl (by simp) (by simp) (by simp [pc])
    (.inr ⟨hs.uncommitted (.inr pending), hs.uncommitted (.inl rfl)⟩)

theorem release_cases (grace : Time) (hs : Slot w) {m : SessionMeta} {explicit : Bool}
    (pc : w.threads g = .closing m explicit) :
    ∃ t server, release grace w g m explicit =
        { w with memory := ⟨server, stopTimer w.memory.timers w.memory.server.sessionEndTimer⟩
                 disconnectedAt := w.now }.goto g t ∧
      server.sessionID = w.memory.server.sessionID ∧
      server.sessionMeta = w.memory.server.sessionMeta ∧ server.clientConnected = false ∧
      ((explicit = true ∨ grace = 0) ∧ t = .finalizing m.sessionID ∨
        ¬ (explicit = true ∨ grace = 0) ∧ t = .scheduling m.sessionID) := by
  obtain ⟨_, _, opened, _, member, current⟩ := hs.holder pc nofun
  have named := (hs.named member).1
  by_cases now : explicit = true ∨ grace = 0
  · simp only [release, closed_finalizes _ named current.symm opened now]
    exact ⟨_, _, rfl, rfl, rfl, rfl, .inl ⟨now, rfl⟩⟩
  · simp only [release, closed_schedules _ named current.symm opened now]
    exact ⟨_, _, rfl, rfl, rfl, rfl, .inr ⟨now, rfl⟩⟩

theorem serial_step {a : Action} (hs : Slot w) (h : Serial w)
    (taken : step grace w a = some w') : Serial w' := by
  cases step_taken taken with
  | request idle => exact serial_request hs h idle
  | @upgrade g m resumed ok pc =>
    exact h.frame rfl rfl rfl (by cases ok <;> cases resumed <;> simp [upgraded])
      (by cases ok <;> cases resumed <;> simp [upgraded]) (by simp [pc]) (.inl ⟨rfl, rfl⟩)
  | startSession pc fresh => exact serial_start h fresh pc
  | commitSession pc => exact serial_commit hs h pc
  | abortPendingSession pc => exact serial_abort hs h pc
  | readError pc =>
    exact h.frame rfl rfl rfl (by simp) (by simp) (by simp [pc]) (.inl ⟨rfl, rfl⟩)
  | handleConnectionClosed pc =>
    obtain ⟨t, server, eq, id, sessionMeta, _, kind⟩ := release_cases grace hs pc
    rw [eq]
    refine h.frame rfl rfl rfl ?_ ?_ (by simp [pc]) (.inl ⟨id, sessionMeta⟩) <;>
      rcases kind with ⟨_, rfl⟩ | ⟨_, rfl⟩ <;> simp
  | scheduleSessionEnd pc =>
    obtain ⟨session, sessionMeta, _⟩ := schedule_keeps w.memory
    exact h.frame rfl rfl rfl (by simp) (by simp) (by simp [pc]) (.inl ⟨session, sessionMeta⟩)
  | fire _ idle =>
    exact h.frame rfl rfl rfl (by simp) (by simp) (by simp [idle]) (.inl ⟨rfl, rfl⟩)
  | @finishSession g S tm pc =>
    by_cases expires : Expires w.memory.server S
    · simp only [finish, finish_proceeds _ expires, if_true]
      exact h.frame rfl rfl rfl (by simp) (by simp) (by simp [pc]) (.inl ⟨rfl, rfl⟩)
    · simp only [finish, finish_skips _ expires, Bool.false_eq_true, if_false]
      exact h.frame rfl rfl rfl (by simp) (by simp) (by simp [pc]) (.inl ⟨rfl, rfl⟩)
  | endSession pc => exact serial_end hs h pc
  | finalizeSession pc => exact serial_finalize hs h pc
  | tick =>
    exact ⟨h.issued, h.fresh, h.known, h.done, h.current, h.called, h.once, h.returned⟩

theorem serial_reachable (reached : (machine grace).Reachable .initial w) : Serial w :=
  reached.invariant_given (fun _ => slot_reachable) serial_initial
    fun _ _ _ hs _ h _ taken => serial_step hs h taken

def Action.thread : Action → Option ThreadID
  | .request g | .upgrade g _ | .startSession g _ _ | .commitSession g | .abortPendingSession g
  | .readError g _ | .handleConnectionClosed g | .scheduleSessionEnd g | .fire _ g
  | .finishSession g | .endSession g | .finalizeSession g => some g
  | .tick _ => none

theorem step_threads {a : Action} (taken : step grace w a = some w') (own : a.thread = some g) :
    ∃ t, w'.threads = Function.update w.threads g t := by
  cases step_taken taken <;> cases own
  case request =>
    simp only [request]
    split <;> exact ⟨_, rfl⟩
  case handleConnectionClosed =>
    simp only [release]
    split <;> exact ⟨_, rfl⟩
  all_goals exact ⟨_, rfl⟩

theorem step_other {a : Action} (taken : step grace w a = some w') (other : a.thread ≠ some g) :
    w'.threads g = w.threads g := by
  cases own : a.thread with
  | none =>
    cases a <;> simp only [Action.thread, reduceCtorEq] at own
    cases Option.some.inj taken
    rfl
  | some h =>
    obtain ⟨t, eq⟩ := step_threads taken own
    rw [eq, Function.update_of_ne]
    rintro rfl
    exact other own

/-- What one action makes of sessionID. -/
inductive Names (w : World) : Action → String → Prop
  | kept {a : Action} : Names w a w.memory.server.sessionID
  | reserved {g : ThreadID} (absent : w.memory.server.sessionID = "") :
      Names w (.request g) "pending"
  | committed {g : ThreadID} {m : SessionMeta} (pc : w.threads g = .started m) :
      Names w (.commitSession g) m.sessionID
  | aborted {a : Action} (pending : w.memory.server.sessionID = "pending") : Names w a ""
  | finalized {g : ThreadID} {S : String} (pc : w.threads g = .ended S) :
      Names w (.finalizeSession g) ""

theorem abort_names (w : World) (a : Action) :
    Names w a (abortPendingSession w.memory).server.sessionID := by
  unfold abortPendingSession
  split
  · rename_i pending
    exact .aborted pending
  · exact .kept

theorem step_names {a : Action} (taken : step grace w a = some w') :
    Names w a w'.memory.server.sessionID := by
  cases step_taken taken with
  | request idle =>
    by_cases blocked : Blocked w.memory.server
    · simp only [request, tryBegin_blocked _ blocked, Bool.false_eq_true, if_false]
      exact .kept
    · by_cases absent : w.memory.server.sessionID = ""
      · simp only [request, tryBegin_reserves _ blocked absent, if_true]
        exact .reserved absent
      · simp only [request, tryBegin_resumes _ blocked absent, if_true]
        exact .kept
  | commitSession pc => exact .committed pc
  | abortPendingSession pc => exact abort_names w _
  | @handleConnectionClosed g m explicit pc =>
    simp only [release, handleConnectionClosed, stopSessionEndTimer]
    split_ifs
    · exact abort_names w _
    · exact .kept
    · exact .kept
    · exact .kept
  | @scheduleSessionEnd g S pc =>
    have kept : (schedule grace w g S).memory.server.sessionID = w.memory.server.sessionID :=
      (schedule_keeps w.memory).1
    exact kept ▸ .kept
  | @finishSession g S t pc =>
    simp only [finish, finishSession, stopSessionEndTimer]
    split_ifs <;> exact .kept
  | @finalizeSession g S pc =>
    by_cases current : w.memory.server.sessionID = S
    · simp only [finalize, finalize_current _ current]
      exact .finalized pc
    · have kept : (finalize w g S).memory.server.sessionID = w.memory.server.sessionID :=
        finalize_other w.memory current
      exact kept ▸ .kept
  | _ => exact .kept

theorem step_committed {a : Action} {S : String} (taken : step grace w a = some w')
    (committed : Committed w'.log S) : Committed w.log S ∨
      ∃ g m, a = .commitSession g ∧ w.threads g = .started m ∧ S = m.sessionID := by
  cases step_taken taken with
  | commitSession pc =>
    obtain ⟨m, member, rfl⟩ := committed
    rcases List.mem_cons.mp member with new | old
    · cases new
      exact .inr ⟨_, _, rfl, pc, rfl⟩
    · exact .inl ⟨m, old, rfl⟩
  | request =>
    simp only [request] at committed
    split at committed <;> exact .inl committed
  | handleConnectionClosed =>
    simp only [release] at committed
    split at committed <;> exact .inl committed
  | startSession | endSession | finalizeSession =>
    exact .inl ((committed_cons (by simp)).mp committed)
  | _ => exact .inl committed

theorem step_finalized {a : Action} {S : String} (taken : step grace w a = some w')
    (finalized : .finalized S ∈ w'.log) : .finalized S ∈ w.log ∨
      ∃ g, a = .finalizeSession g ∧ w.threads g = .ended S := by
  cases step_taken taken with
  | finalizeSession pc =>
    rcases List.mem_cons.mp finalized with new | old
    · cases new
      exact .inr ⟨_, rfl, pc⟩
    · exact .inl old
  | request =>
    simp only [request] at finalized
    split at finalized <;> exact .inl finalized
  | handleConnectionClosed =>
    simp only [release] at finalized
    split at finalized <;> exact .inl finalized
  | startSession | endSession | commitSession =>
    rcases List.mem_cons.mp finalized with new | old
    · cases new
    · exact .inl old
  | _ => exact .inl finalized

/-- Where a handler can be from its explicit close of session S on. -/
def OnExplicitClose (m : SessionMeta) (t : Thread) : Prop :=
  t = .closing m true ∨ t = .finalizing m.sessionID ∨ t = .ended m.sessionID ∨
    t = .returned (some m.sessionID)

theorem explicit_close_step {a : Action} {m : SessionMeta} (hs : Slot w)
    (on : OnExplicitClose m (w.threads g)) (taken : step grace w a = some w') :
    OnExplicitClose m (w'.threads g) := by
  by_cases own : a.thread = some g
  · cases step_taken taken <;> first | obtain rfl := Option.some.inj own | cases own
    case handleConnectionClosed k explicit pc =>
      rw [pc] at on
      simp only [OnExplicitClose, Thread.closing.injEq, reduceCtorEq, or_false] at on
      obtain ⟨rfl, rfl⟩ := on
      obtain ⟨t, server, eq, _, _, _, kind⟩ := release_cases grace hs pc
      rw [eq]
      rcases kind with ⟨_, rfl⟩ | ⟨later, _⟩
      · exact .inr (.inl (Function.update_self ..))
      · exact absurd (.inl rfl) later
    case endSession S pc =>
      rw [pc] at on
      simp only [OnExplicitClose, Thread.finalizing.injEq, reduceCtorEq, or_false, false_or] at on
      subst on
      exact .inr (.inr (.inl (Function.update_self ..)))
    case finalizeSession S pc =>
      rw [pc] at on
      simp only [OnExplicitClose, Thread.ended.injEq, reduceCtorEq, or_false, false_or] at on
      subst on
      exact .inr (.inr (.inr (Function.update_self ..)))
    all_goals
      rename_i pc
      simp_all [OnExplicitClose]
  · rw [step_other taken own]
    exact on

/-- What a run says of the lifetimes of its sessions. -/
structure OneAfterAnother (grace : Time) (w : World) : Prop where
  endedOnce : ∀ S, w.log.count (.endSession S) ≤ 1
  finalizedOnce : ∀ S, w.log.count (.finalized S) ≤ 1
  exclusive : ∀ g S, (w.threads g).role = .finalizing S →
    (∀ h, ¬ (w.threads h).Holds) ∧ (tryBeginSessionConnection w.memory).1.ok = false
  startsAlone : ∀ g, w.threads g = .starting →
    ∀ m, .committed m ∈ w.log → .finalized m.sessionID ∈ w.log
  resumes : ∀ g m, w.threads g = .reserved m true →
    lastCommitted w.log = some m ∧ .finalized m.sessionID ∉ w.log
  ends : ∀ g m w', w.threads g = .closing m true → (machine grace).Reachable w w' →
    (∃ S, w'.threads g = .returned S) → w'.memory.server.sessionID ≠ m.sessionID

theorem returned_not_current (h : Serial w) {S : String}
    (pc : w.threads g = .returned (some S)) : w.memory.server.sessionID ≠ S := by
  rintro rfl
  have finalized := h.returned g _ pc
  exact (h.current (h.known _ (.inr finalized))).1 finalized

/-- In every interleaving, stale callbacks included, lifetimes are serial, each
session is ended once and a resumed connection gets the session it resumes. -/
theorem lifetimes_serial (reached : (machine grace).Reachable .initial w) :
    OneAfterAnother grace w := by
  have hs := slot_reachable reached
  have h := serial_reachable reached
  constructor
  · exact fun S => (h.once S).1
  · exact fun S => (h.once S).2
  · intro g S role
    have busy : (w.threads g).role ≠ .outside := by rw [role]; nofun
    refine ⟨fun k holds => ?_, ?_⟩
    · exact holds.not_finalizing (hs.only busy holds.busy ▸ role)
    · rw [tryBegin_blocked _ ((hs.busy g busy).blocked busy)]
  · intro g pc m member
    obtain ⟨_, _, _, pending⟩ := hs.holder pc nofun
    refine (h.done m.sessionID ⟨m, member, rfl⟩).resolve_right ?_
    intro current
    exact hs.uncommitted (.inr pending) ⟨m, member, current⟩
  · intro g m pc
    obtain ⟨_, _, _, same, member, named⟩ := hs.holder pc nofun
    obtain ⟨unfinalized, last⟩ := h.current ⟨m, member, named⟩
    exact ⟨same ▸ last, named ▸ unfinalized⟩
  · rintro g m w' pc later ⟨S, back⟩
    have on : OnExplicitClose m (w'.threads g) :=
      later.invariant_given (I := fun v => OnExplicitClose m (v.threads g))
        (fun _ r => slot_reachable (reached.trans r)) (.inl pc)
        fun _ _ _ hs _ on _ taken => explicit_close_step hs on taken
    have own : w'.threads g = .returned (some m.sessionID) := by
      rw [back] at on ⊢
      simpa [OnExplicitClose] using on
    exact returned_not_current (serial_reachable (reached.trans later)) own

theorem lifetimes_serial_resumption :
    ∃ w, (machine 30).run .initial resumption = some w ∧ OneAfterAnother 30 w := by
  obtain ⟨w, ran⟩ := Option.isSome_iff_exists.mp
    (by decide : ((machine 30).run .initial resumption).isSome = true)
  exact ⟨w, ran, lifetimes_serial (Transition.System.run_reachable ran)⟩

end Megalo.Session
