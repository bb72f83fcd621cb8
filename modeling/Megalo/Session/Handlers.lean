import Megalo.Session.Server

/-! The goroutines around masterServer: any number of /ws handlers and grace-timer
callbacks, interleaved critical section by critical section under one clock. -/
namespace Megalo.Session

abbrev ThreadID := Nat

/-- Where a goroutine is. A handler runs from reserved to returned; a callback
enters at finishing; both run finalizeSession as finalizing, then ended. -/
inductive Thread
  | idle
  | refused
  | reserved (sessionMeta : SessionMeta) (resumed : Bool)
  | starting
  | started (sessionMeta : SessionMeta)
  | failed
  | connected (sessionMeta : SessionMeta)
  | closing (sessionMeta : SessionMeta) (explicit : Bool)
  | scheduling (sessionID : String)
  | finishing (sessionID : String) (timer : TimerID)
  | finalizing (sessionID : String)
  | ended (sessionID : String)
  | returned (finalized : Option String)
  deriving DecidableEq

inductive Entry
  | startSession (sessionID : String)
  | committed (sessionMeta : SessionMeta)
  | endSession (sessionID : String)
  | finalized (sessionID : String)
  deriving DecidableEq

/-- The fields after threads and now are history; no step of the code reads them:
the identifiers issued, the log, how many connections have begun, how many had when
each timer was armed, and when the session last lost its client. -/
structure World where
  memory : Memory
  threads : ThreadID → Thread
  now : Time
  uuids : List String
  log : List Entry
  connections : Nat
  armedIn : TimerID → Nat
  disconnectedAt : Time

def World.initial : World :=
  ⟨.initial, fun _ => .idle, 0, [], [], 0, fun _ => 0, 0⟩

def World.goto (w : World) (g : ThreadID) (t : Thread) : World :=
  { w with threads := Function.update w.threads g t }

inductive Action
  | request (g : ThreadID)
  | upgrade (g : ThreadID) (ok : Bool)
  | startSession (g : ThreadID) (uuid : UUID) (ok : Bool)
  | commitSession (g : ThreadID)
  | abortPendingSession (g : ThreadID)
  | readError (g : ThreadID) (explicit : Bool)
  | handleConnectionClosed (g : ThreadID)
  | scheduleSessionEnd (g : ThreadID)
  | fire (t : TimerID) (g : ThreadID)
  | finishSession (g : ThreadID)
  | endSession (g : ThreadID)
  | finalizeSession (g : ThreadID)
  | tick (elapsed : Time)

section Steps

variable (grace : Time) (w : World) (g : ThreadID)

def request : World :=
  let (begun, memory) := tryBeginSessionConnection w.memory
  if begun.ok then
    { w with memory, connections := w.connections + 1 }.goto g
      (.reserved begun.sessionMeta begun.resumed)
  else { w with memory }.goto g .refused

/-- A failed upgrade of a resumed session takes the path of a closed connection. -/
def upgraded (sessionMeta : SessionMeta) (resumed ok : Bool) : Thread :=
  match ok, resumed with
  | true, true => .connected sessionMeta
  | true, false => .starting
  | false, true => .closing sessionMeta false
  | false, false => .failed

def startSession (uuid : UUID) (ok : Bool) : World :=
  { w with
    uuids := uuid.text :: w.uuids
    log := .startSession uuid.text :: w.log }.goto g
      (if ok then .started ⟨uuid.text, w.now⟩ else .failed)

def commit (sessionMeta : SessionMeta) : World :=
  { w with
    memory := commitSession sessionMeta w.memory
    log := .committed sessionMeta :: w.log }.goto g (.connected sessionMeta)

def abort : World := { w with memory := abortPendingSession w.memory }.goto g (.returned none)

def release (sessionMeta : SessionMeta) (explicit : Bool) : World :=
  let (next, memory) := handleConnectionClosed grace sessionMeta.sessionID explicit w.memory
  match next with
  | .returned => { w with memory }.goto g (.returned none)
  | .finalize =>
    { w with memory, disconnectedAt := w.now }.goto g (.finalizing sessionMeta.sessionID)
  | .schedule =>
    { w with memory, disconnectedAt := w.now }.goto g (.scheduling sessionMeta.sessionID)

/-- A handler arms at most one timer, so the timer carries the handler's number. -/
def schedule (sessionID : String) : World :=
  { w with
    memory := scheduleSessionEnd sessionID g (w.now + grace) w.memory
    armedIn := Function.update w.armedIn g w.connections }.goto g (.returned none)

def fire (t : TimerID) (sessionID : String) : World :=
  { w with memory := { w.memory with
    timers := Function.update w.memory.timers t .fired } }.goto g (.finishing sessionID t)

def finish (sessionID : String) : World :=
  let (proceeds, memory) := finishSession sessionID w.memory
  { w with memory }.goto g (if proceeds then .finalizing sessionID else .returned none)

def endSession (sessionID : String) : World :=
  { w with log := .endSession sessionID :: w.log }.goto g (.ended sessionID)

def finalize (sessionID : String) : World :=
  { w with
    memory := finalizeSession sessionID w.memory
    log := .finalized sessionID :: w.log }.goto g (.returned (some sessionID))

/-- One atomic step. uuid.NewString never repeats an identifier. -/
def step : Action → Option World
  | .request g =>
    match w.threads g with
    | .idle => some (request w g)
    | _ => none
  | .upgrade g ok =>
    match w.threads g with
    | .reserved sessionMeta resumed => some (w.goto g (upgraded sessionMeta resumed ok))
    | _ => none
  | .startSession g uuid ok =>
    match w.threads g with
    | .starting => if uuid.text ∈ w.uuids then none else some (startSession w g uuid ok)
    | _ => none
  | .commitSession g =>
    match w.threads g with
    | .started sessionMeta => some (commit w g sessionMeta)
    | _ => none
  | .abortPendingSession g =>
    match w.threads g with
    | .failed => some (abort w g)
    | _ => none
  | .readError g explicit =>
    match w.threads g with
    | .connected sessionMeta => some (w.goto g (.closing sessionMeta explicit))
    | _ => none
  | .handleConnectionClosed g =>
    match w.threads g with
    | .closing sessionMeta explicit => some (release grace w g sessionMeta explicit)
    | _ => none
  | .scheduleSessionEnd g =>
    match w.threads g with
    | .scheduling sessionID => some (schedule grace w g sessionID)
    | _ => none
  | .fire t g =>
    match w.memory.timers t, w.threads g with
    | .armed sessionID deadline, .idle =>
      if deadline ≤ w.now then some (fire w g t sessionID) else none
    | _, _ => none
  | .finishSession g =>
    match w.threads g with
    | .finishing sessionID _ => some (finish w g sessionID)
    | _ => none
  | .endSession g =>
    match w.threads g with
    | .finalizing sessionID => some (endSession w g sessionID)
    | _ => none
  | .finalizeSession g =>
    match w.threads g with
    | .ended sessionID => some (finalize w g sessionID)
    | _ => none
  | .tick elapsed => some { w with now := w.now + elapsed }

def machine : Transition.System World Action := ⟨step grace⟩

inductive Taken : Action → World → Prop where
  | request {g : ThreadID} (idle : w.threads g = .idle) : Taken (.request g) (request w g)
  | upgrade {g : ThreadID} {m : SessionMeta} {resumed ok : Bool}
      (pc : w.threads g = .reserved m resumed) :
      Taken (.upgrade g ok) (w.goto g (upgraded m resumed ok))
  | startSession {g : ThreadID} {uuid : UUID} {ok : Bool} (pc : w.threads g = .starting)
      (fresh : uuid.text ∉ w.uuids) :
      Taken (.startSession g uuid ok) (startSession w g uuid ok)
  | commitSession {g : ThreadID} {m : SessionMeta} (pc : w.threads g = .started m) :
      Taken (.commitSession g) (commit w g m)
  | abortPendingSession {g : ThreadID} (pc : w.threads g = .failed) :
      Taken (.abortPendingSession g) (abort w g)
  | readError {g : ThreadID} {m : SessionMeta} {explicit : Bool}
      (pc : w.threads g = .connected m) :
      Taken (.readError g explicit) (w.goto g (.closing m explicit))
  | handleConnectionClosed {g : ThreadID} {m : SessionMeta} {explicit : Bool}
      (pc : w.threads g = .closing m explicit) :
      Taken (.handleConnectionClosed g) (release grace w g m explicit)
  | scheduleSessionEnd {g : ThreadID} {S : String} (pc : w.threads g = .scheduling S) :
      Taken (.scheduleSessionEnd g) (schedule grace w g S)
  | fire {t : TimerID} {g : ThreadID} {S : String} {deadline : Time}
      (armed : w.memory.timers t = .armed S deadline) (idle : w.threads g = .idle)
      (due : deadline ≤ w.now) : Taken (.fire t g) (fire w g t S)
  | finishSession {g : ThreadID} {S : String} {t : TimerID} (pc : w.threads g = .finishing S t) :
      Taken (.finishSession g) (finish w g S)
  | endSession {g : ThreadID} {S : String} (pc : w.threads g = .finalizing S) :
      Taken (.endSession g) (endSession w g S)
  | finalizeSession {g : ThreadID} {S : String} (pc : w.threads g = .ended S) :
      Taken (.finalizeSession g) (finalize w g S)
  | tick {elapsed : Time} : Taken (.tick elapsed) { w with now := w.now + elapsed }

variable {grace w} in
theorem step_taken {a : Action} {w' : World} (taken : step grace w a = some w') :
    Taken grace w a w' := by
  cases a <;> simp only [step] at taken
  case tick elapsed => exact Option.some.inj taken ▸ .tick
  case fire t g =>
    split at taken
    · rename_i S deadline armed idle
      split at taken
      · rename_i due
        exact Option.some.inj taken ▸ .fire armed idle due
      · contradiction
    · contradiction
  case startSession g uuid ok =>
    split at taken
    · rename_i pc
      split at taken
      · contradiction
      · rename_i fresh
        exact Option.some.inj taken ▸ .startSession pc fresh
    · contradiction
  all_goals
    split at taken
    · rename_i pc
      cases Option.some.inj taken
      constructor
      exact pc
    · contradiction

/-- Where one action leads the goroutine it is of. -/
inductive Thread.Next (g : ThreadID) : Action → Thread → Thread → Prop
  | refuse : Next g (.request g) .idle .refused
  | reserve {m : SessionMeta} {resumed : Bool} : Next g (.request g) .idle (.reserved m resumed)
  | resume {m : SessionMeta} : Next g (.upgrade g true) (.reserved m true) (.connected m)
  | create {m : SessionMeta} : Next g (.upgrade g true) (.reserved m false) .starting
  | leave {m : SessionMeta} : Next g (.upgrade g false) (.reserved m true) (.closing m false)
  | reject {m : SessionMeta} : Next g (.upgrade g false) (.reserved m false) .failed
  | start {uuid : UUID} {m : SessionMeta} (named : m.sessionID = uuid.text) :
      Next g (.startSession g uuid true) .starting (.started m)
  | fail {uuid : UUID} : Next g (.startSession g uuid false) .starting .failed
  | commit {m : SessionMeta} : Next g (.commitSession g) (.started m) (.connected m)
  | abort : Next g (.abortPendingSession g) .failed (.returned none)
  | drop {m : SessionMeta} {explicit : Bool} :
      Next g (.readError g explicit) (.connected m) (.closing m explicit)
  | release {m : SessionMeta} {explicit : Bool} :
      Next g (.handleConnectionClosed g) (.closing m explicit) (.returned none)
  | finalize {m : SessionMeta} {explicit : Bool} :
      Next g (.handleConnectionClosed g) (.closing m explicit) (.finalizing m.sessionID)
  | linger {m : SessionMeta} {explicit : Bool} :
      Next g (.handleConnectionClosed g) (.closing m explicit) (.scheduling m.sessionID)
  | schedule {S : String} : Next g (.scheduleSessionEnd g) (.scheduling S) (.returned none)
  | fire {t : TimerID} {S : String} : Next g (.fire t g) .idle (.finishing S t)
  | expire {S : String} {t : TimerID} : Next g (.finishSession g) (.finishing S t) (.finalizing S)
  | skip {S : String} {t : TimerID} : Next g (.finishSession g) (.finishing S t) (.returned none)
  | ends {S : String} : Next g (.endSession g) (.finalizing S) (.ended S)
  | finalized {S : String} : Next g (.finalizeSession g) (.ended S) (.returned (some S))

variable {grace w} in
/-- An action leaves every goroutine where it is but its own. -/
theorem step_next {a : Action} {w' : World} (taken : step grace w a = some w') (h : ThreadID) :
    w'.threads h = w.threads h ∨ Thread.Next h a (w.threads h) (w'.threads h) := by
  have moves : ∀ {v : World} {g : ThreadID} {t u : Thread}, w.threads g = u →
      v.threads = Function.update w.threads g t → Thread.Next g a u t →
        v.threads h = w.threads h ∨ Thread.Next h a (w.threads h) (v.threads h) := by
    intro v g t u pc threads next
    by_cases same : h = g
    · subst same
      rw [threads, Function.update_self, pc]
      exact .inr next
    · rw [threads, Function.update_of_ne same]
      exact .inl rfl
  cases step_taken taken with
  | request idle =>
    simp only [request]
    split
    · exact moves idle rfl .reserve
    · exact moves idle rfl .refuse
  | @upgrade g m resumed ok pc =>
    cases ok with
    | true =>
      cases resumed with
      | true => exact moves pc rfl .resume
      | false => exact moves pc rfl .create
    | false =>
      cases resumed with
      | true => exact moves pc rfl .leave
      | false => exact moves pc rfl .reject
  | @startSession g uuid ok pc fresh =>
    cases ok with
    | true => exact moves pc rfl (.start rfl)
    | false => exact moves pc rfl .fail
  | commitSession pc => exact moves pc rfl .commit
  | abortPendingSession pc => exact moves pc rfl .abort
  | readError pc => exact moves pc rfl .drop
  | handleConnectionClosed pc =>
    simp only [release]
    split
    · exact moves pc rfl .release
    · exact moves pc rfl .finalize
    · exact moves pc rfl .linger
  | scheduleSessionEnd pc => exact moves pc rfl .schedule
  | fire _ idle => exact moves idle rfl .fire
  | finishSession pc =>
    refine moves pc rfl ?_
    split
    · exact .expire
    · exact .skip
  | endSession pc => exact moves pc rfl .ends
  | finalizeSession pc => exact moves pc rfl .finalized
  | tick => exact .inl rfl

end Steps

end Megalo.Session
