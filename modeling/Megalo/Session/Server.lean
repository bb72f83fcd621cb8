import Megalo.Domain
import Megalo.Library.System

/-! masterServer of apps/master-service/cmd/server/main.go: the fields its mutex
guards and one function for each critical section. The timers are the runtime's;
a section reaches one only through sessionEndTimer. -/
namespace Megalo.Session

abbrev TimerID := Nat

/-- A timer of time.AfterFunc whose callback is finishSession(sessionID). -/
inductive Timer
  | unset
  | armed (sessionID : String) (deadline : Time)
  | stopped
  | fired
  deriving DecidableEq

/-- Timer.Stop: a timer that has fired keeps its callback. -/
def Timer.stop : Timer → Timer
  | .armed _ _ => .stopped
  | t => t

structure MasterServer where
  sessionID : String
  sessionMeta : SessionMeta
  clientConnected : Bool
  sessionClosing : Bool
  sessionEndTimer : Option TimerID
  deriving DecidableEq

structure Memory where
  server : MasterServer
  timers : TimerID → Timer

def Memory.initial : Memory :=
  ⟨⟨"", .zero, false, false, none⟩, fun _ => .unset⟩

def stopTimer (timers : TimerID → Timer) : Option TimerID → TimerID → Timer
  | none => timers
  | some t => Function.update timers t (timers t).stop

/-- if s.sessionEndTimer != nil { s.sessionEndTimer.Stop(); s.sessionEndTimer = nil } -/
def stopSessionEndTimer (m : Memory) : Memory :=
  { server := { m.server with sessionEndTimer := none }
    timers := stopTimer m.timers m.server.sessionEndTimer }

structure Begun where
  sessionMeta : SessionMeta
  resumed : Bool
  ok : Bool
  deriving DecidableEq

def tryBeginSessionConnection (m : Memory) : Begun × Memory :=
  let s := m.server
  if s.sessionID = "pending" ∨ s.clientConnected = true ∨ s.sessionClosing = true then
    (⟨.zero, false, false⟩, m)
  else
    let m := stopSessionEndTimer m
    if s.sessionID ≠ "" then
      (⟨s.sessionMeta, true, true⟩, { m with server := { m.server with clientConnected := true } })
    else
      (⟨.zero, false, true⟩,
        { m with server := { m.server with sessionID := "pending", clientConnected := true } })

def commitSession (sessionMeta : SessionMeta) (m : Memory) : Memory :=
  { m with server :=
    { m.server with
      sessionID := sessionMeta.sessionID
      sessionMeta := sessionMeta
      clientConnected := true
      sessionClosing := false } }

def abortPendingSession (m : Memory) : Memory :=
  if m.server.sessionID = "pending" then
    { m with server :=
      { m.server with sessionID := "", sessionMeta := .zero, clientConnected := false } }
  else m

/-- How handleConnectionClosed goes on after its first section. -/
inductive Closed
  | returned
  | finalize
  | schedule
  deriving DecidableEq

/-- The first lock section of handleConnectionClosed. -/
def handleConnectionClosed (grace : Time) (sessionID : String) (explicit : Bool) (m : Memory) :
    Closed × Memory :=
  if isBlank sessionID then (.returned, abortPendingSession m)
  else if m.server.sessionID ≠ sessionID ∨ m.server.sessionClosing = true then (.returned, m)
  else
    let m := stopSessionEndTimer
      { m with server := { m.server with clientConnected := false } }
    if explicit = true ∨ grace = 0 then
      (.finalize, { m with server := { m.server with sessionClosing := true } })
    else (.schedule, m)

/-- The second lock section of handleConnectionClosed, which arms timer t. An
armed timer that the field still names is overwritten and not stopped. -/
def scheduleSessionEnd (sessionID : String) (t : TimerID) (deadline : Time) (m : Memory) :
    Memory :=
  if m.server.sessionID ≠ sessionID ∨ m.server.sessionClosing = true ∨
      m.server.clientConnected = true then m
  else
    { server := { m.server with sessionEndTimer := some t }
      timers := Function.update m.timers t (.armed sessionID deadline) }

/-- The lock section of finishSession and whether it goes on to finalizeSession. -/
def finishSession (sessionID : String) (m : Memory) : Bool × Memory :=
  if isBlank sessionID = true ∨ m.server.sessionID ≠ sessionID ∨
      m.server.clientConnected = true ∨ m.server.sessionClosing = true then (false, m)
  else
    (true, stopSessionEndTimer { m with server := { m.server with sessionClosing := true } })

/-- The lock section of finalizeSession, after endSession. -/
def finalizeSession (sessionID : String) (m : Memory) : Memory :=
  let m := stopSessionEndTimer m
  let m :=
    if m.server.sessionID = sessionID then
      { m with server := { m.server with sessionID := "", sessionMeta := .zero } }
    else m
  { m with server := { m.server with clientConnected := false, sessionClosing := false } }

/-- The test on which tryBeginSessionConnection refuses a connection. -/
def Blocked (s : MasterServer) : Prop :=
  s.sessionID = "pending" ∨ s.clientConnected = true ∨ s.sessionClosing = true

section Sections

variable (m : Memory) {grace deadline : Time} {S : String} {t : TimerID} {explicit : Bool}

theorem stopTimer_armed (timers : TimerID → Timer) (field : Option TimerID) (t : TimerID)
    {S : String} {d : Time} (h : stopTimer timers field t = .armed S d) :
    timers t = .armed S d ∧ field ≠ some t := by
  cases field with
  | none => exact ⟨h, nofun⟩
  | some u =>
    rcases Transition.update_cases h with ⟨_, stopped⟩ | ⟨other, old⟩
    · cases held : timers u <;> simp only [held, Timer.stop, reduceCtorEq] at stopped
    · exact ⟨old, fun e => other (Option.some.inj e).symm⟩

theorem tryBegin_blocked (blocked : Blocked m.server) :
    tryBeginSessionConnection m = (⟨.zero, false, false⟩, m) := if_pos blocked

theorem tryBegin_resumes (free : ¬ Blocked m.server) (present : m.server.sessionID ≠ "") :
    tryBeginSessionConnection m = (⟨m.server.sessionMeta, true, true⟩,
      { server := { m.server with clientConnected := true, sessionEndTimer := none }
        timers := stopTimer m.timers m.server.sessionEndTimer }) := by
  unfold Blocked at free
  rw [tryBeginSessionConnection, if_neg free]
  exact if_pos present

theorem tryBegin_reserves (free : ¬ Blocked m.server) (absent : m.server.sessionID = "") :
    tryBeginSessionConnection m = (⟨.zero, false, true⟩,
      { server := { m.server with
          sessionID := "pending", clientConnected := true, sessionEndTimer := none }
        timers := stopTimer m.timers m.server.sessionEndTimer }) := by
  unfold Blocked at free
  rw [tryBeginSessionConnection, if_neg free]
  exact if_neg (not_not_intro absent)

theorem abort_pending (pending : m.server.sessionID = "pending") :
    abortPendingSession m = { m with server :=
      { m.server with sessionID := "", sessionMeta := .zero, clientConnected := false } } :=
  if_pos pending

theorem closed_finalizes (named : isBlank S = false) (current : m.server.sessionID = S)
    (opened : m.server.sessionClosing = false) (now : explicit = true ∨ grace = 0) :
    handleConnectionClosed grace S explicit m = (.finalize,
      { server := { m.server with
          clientConnected := false, sessionClosing := true, sessionEndTimer := none }
        timers := stopTimer m.timers m.server.sessionEndTimer }) := by
  have mine : ¬ (m.server.sessionID ≠ S ∨ m.server.sessionClosing = true) := by
    simp only [current, opened, ne_eq, not_true_eq_false, Bool.false_eq_true, or_self,
      not_false_eq_true]
  simp only [handleConnectionClosed, named, Bool.false_eq_true, if_false, if_neg mine, if_pos now,
    stopSessionEndTimer]

theorem closed_schedules (named : isBlank S = false) (current : m.server.sessionID = S)
    (opened : m.server.sessionClosing = false) (later : ¬ (explicit = true ∨ grace = 0)) :
    handleConnectionClosed grace S explicit m = (.schedule,
      { server := { m.server with clientConnected := false, sessionEndTimer := none }
        timers := stopTimer m.timers m.server.sessionEndTimer }) := by
  have mine : ¬ (m.server.sessionID ≠ S ∨ m.server.sessionClosing = true) := by
    simp only [current, opened, ne_eq, not_true_eq_false, Bool.false_eq_true, or_self,
      not_false_eq_true]
  simp only [handleConnectionClosed, named, Bool.false_eq_true, if_false, if_neg mine,
    if_neg later, stopSessionEndTimer]

theorem schedule_server : (scheduleSessionEnd S t deadline m).server = { m.server with
    sessionEndTimer := (scheduleSessionEnd S t deadline m).server.sessionEndTimer } := by
  unfold scheduleSessionEnd
  split <;> rfl

theorem schedule_keeps :
    (scheduleSessionEnd S t deadline m).server.sessionID = m.server.sessionID ∧
      (scheduleSessionEnd S t deadline m).server.sessionMeta = m.server.sessionMeta ∧
        (scheduleSessionEnd S t deadline m).server.clientConnected = m.server.clientConnected := by
  rw [schedule_server]
  exact ⟨rfl, rfl, rfl⟩

/-- A timer that is armed after the second section was armed before it, or is the one it arms
for a session that no client holds. -/
theorem schedule_armed {u : TimerID} {R : String} {d : Time}
    (armed : (scheduleSessionEnd S t deadline m).timers u = .armed R d) :
    m.timers u = .armed R d ∨
      u = t ∧ R = S ∧ d = deadline ∧ m.server.clientConnected = false := by
  unfold scheduleSessionEnd at armed
  split at armed
  · exact .inl armed
  · rename_i arms
    simp only [not_or, Bool.not_eq_true] at arms
    rcases Transition.update_cases armed with ⟨same, new⟩ | ⟨_, old⟩
    · cases new
      exact .inr ⟨same, rfl, rfl, arms.2.2⟩
    · exact .inl old

def Expires (s : MasterServer) (S : String) : Prop :=
  isBlank S = false ∧ s.sessionID = S ∧ s.clientConnected = false ∧ s.sessionClosing = false

theorem finish_skips (kept : ¬ Expires m.server S) : finishSession S m = (false, m) := by
  apply if_pos
  unfold Expires at kept
  by_contra none
  simp only [not_or, Bool.not_eq_true, ne_eq, not_not] at none
  exact kept none

theorem finish_proceeds (expires : Expires m.server S) : finishSession S m = (true,
    { server := { m.server with sessionClosing := true, sessionEndTimer := none }
      timers := stopTimer m.timers m.server.sessionEndTimer }) := by
  obtain ⟨named, current, left, opened⟩ := expires
  apply if_neg
  simp only [named, current, left, opened, ne_eq, not_true_eq_false, Bool.false_eq_true, or_self,
    not_false_eq_true]

theorem finalize_current (current : m.server.sessionID = S) : finalizeSession S m =
    { server := ⟨"", .zero, false, false, none⟩
      timers := stopTimer m.timers m.server.sessionEndTimer } := by
  simp only [finalizeSession, stopSessionEndTimer, current, if_true]

theorem finalize_other (other : m.server.sessionID ≠ S) :
    (finalizeSession S m).server.sessionID = m.server.sessionID := by
  have kept : ¬ (stopSessionEndTimer m).server.sessionID = S := other
  simp only [finalizeSession, if_neg kept]
  rfl

end Sections

end Megalo.Session
