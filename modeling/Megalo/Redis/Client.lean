import Megalo.Library.Store
import Megalo.Redis.Keys
import Mathlib.Data.List.Sort
import Mathlib.Data.String.Basic

/-! The client of libs/infra/redis/redis.go. A call is a small machine that stands
between two of its Redis commands; a step runs the next command, and says which
change of the server it made. A payload is the value its JSON text encodes. -/
namespace Megalo.Redis

inductive Payload
  | text (raw : String)
  | sessionMeta (m : SessionMeta)
  | metrics (m : SessionMetrics)
  | slave (state : SlaveState)
  | event (event : Event)
  deriving DecidableEq

/-- The string GET returns; the text of a JSON object is never a session id. -/
def Payload.raw : Payload → String
  | .text raw => raw
  | _ => "\x7b\x7d"

def decodeSlaveState : Payload → Except String SlaveState
  | .slave state => .ok state
  | _ => .error "decode slave state: invalid payload"

def decodeSessionMetrics : Payload → Except String SessionMetrics
  | .metrics m => .ok m
  | _ => .error "decode session metrics: invalid payload"

/-- The server: its keys, and what was published on the states channel, latest first. -/
structure Server where
  store : Stamped.Store String Payload
  states : List SlaveState

def Server.empty : Server := ⟨⟨∅, fun _ => 0⟩, []⟩

def Server.keys (r : Server) (pattern : String) : List String :=
  r.store.keys.filter fun k => glob pattern.toList k.toList

/-- The change a command makes; the transactions are one command each. -/
inductive Command
  | read
  | create (m : SessionMeta) (metrics : SessionMetrics)
  | set (state : SlaveState)
  | publish (state : SlaveState)
  | setMetrics (sessionID : String) (metrics : SessionMetrics)
  | delete (keys : List String)
  deriving DecidableEq

def Command.run (r : Server) : Command → Server
  | .read => r
  | .create m metrics =>
    let store := r.store.put (sessionMetaKey m.sessionID) (.sessionMeta m)
    let store := store.put (sessionMetricsKey m.sessionID) (.metrics metrics)
    { r with store := store.put activeSessionKey (.text m.sessionID) }
  | .set state =>
    { r with store := r.store.put (sessionSlaveKey state.sessionID state.slaveID) (.slave state) }
  | .publish state => { r with states := state :: r.states }
  | .setMetrics sessionID metrics =>
    { r with store := r.store.put (sessionMetricsKey sessionID) (.metrics metrics) }
  | .delete keys => { r with store := r.store.dropAll keys }

/-- What becomes of a command: it is answered, it fails before it runs, or it runs and
the answer is lost. -/
inductive Reply
  | answered
  | refused (err : String)
  | lost (err : String)
  deriving DecidableEq

def Reply.error : Reply → Option String
  | .answered => none
  | .refused err => some err
  | .lost err => some err

/-- The command has been run, answered or not. -/
def Reply.runs : Reply → Bool
  | .refused _ => false
  | _ => true

def Reply.change (c : Command) : Reply → Command
  | .refused _ => .read
  | _ => c

/-- What a step takes from outside: the clock and the fate of its command. -/
structure Input where
  now : Time
  reply : Reply

def createSession (now : Time) (m : SessionMeta) : Except String Command :=
  if isBlank m.sessionID then .error "session_id is required"
  else
    let m := if m.startedAt = 0 then { m with startedAt := now } else m
    .ok (.create m ⟨m.sessionID, 0, 0, m.startedAt⟩)

def getActiveSessionID (r : Server) (i : Input) : Except String String :=
  match i.reply.error with
  | some err => .error ("get active session: " ++ err)
  | none => match r.store.get activeSessionKey with
    | none => .error "active session not found"
    | some payload => .ok payload.raw

def getSlaveState (r : Server) (i : Input) (sessionID slaveID : String) :
    Except String SlaveState :=
  match i.reply.error with
  | some err => .error ("get slave state: " ++ err)
  | none => match r.store.get (sessionSlaveKey sessionID slaveID) with
    | none => .error ("slave state not found: " ++ slaveID)
    | some payload => decodeSlaveState payload

/-- PublishSlaveState between two of its commands. -/
inductive Publishing
  | set
  | publish
  | returned (err : Option String)
  deriving DecidableEq

def publishSlaveState (state : SlaveState) : Publishing :=
  if isBlank state.sessionID then .returned (some "session_id is required") else .set

def Publishing.step (state : SlaveState) (i : Input) : Publishing → Publishing × Command
  | .set => (match i.reply.error with
      | some err => .returned (some ("set slave state: " ++ err))
      | none => .publish, i.reply.change (.set state))
  | .publish => (match i.reply.error with
      | some err => .returned (some ("publish slave state: " ++ err))
      | none => .returned none, i.reply.change (.publish state))
  | .returned err => (.returned err, .read)

/-- ListSlaveStates between two of its commands. -/
inductive Listing
  | keys
  | get (key : String) (rest : List String) (states : List SlaveState)
  | returned (result : Except String (List SlaveState))

def Listing.next (states : List SlaveState) : List String → Listing
  | [] => .returned (.ok states)
  | key :: rest => .get key rest states

def Listing.step (sessionID : String) (r : Server) (i : Input) : Listing → Listing
  | .keys => match i.reply.error with
    | some err => .returned (.error ("list slave state keys: " ++ err))
    | none => .next [] ((r.keys (sessionSlavePattern sessionID)).insertionSort (· ≤ ·))
  | .get key rest states => match i.reply.error with
    | some err => .returned (.error ("get slave state from " ++ key ++ ": " ++ err))
    | none => match r.store.get key with
      | none => .returned (.error ("get slave state from " ++ key ++ ": redis: nil"))
      | some payload => match decodeSlaveState payload with
        | .error err => .returned (.error err)
        | .ok state => .next (states ++ [state]) rest
  | .returned result => .returned result

def maxRetries : Nat := 8

/-- UpdateSessionMetrics between two of its commands: WATCH, GET and MULTI/EXEC. -/
inductive Updating
  | watch (attempt : Nat)
  | get (attempt stamp : Nat)
  | exec (attempt stamp : Nat) (metrics : SessionMetrics)
  | returned (result : Except String SessionMetrics)

/-- What UpdateSessionMetrics sets after fn. -/
def completed (sessionID : String) (now : Time) (metrics : SessionMetrics) : SessionMetrics :=
  { metrics with
    sessionID := if metrics.sessionID = "" then sessionID else metrics.sessionID
    updatedAt := now }

def retryLimit (sessionID : String) : String :=
  "update session metrics: retry limit exceeded for session " ++ sessionID

/-- The loop head of UpdateSessionMetrics. -/
def Updating.attempt (sessionID : String) (attempt : Nat) : Updating :=
  if attempt < maxRetries then .watch attempt else .returned (.error (retryLimit sessionID))

def Updating.step (sessionID : String) (fn : SessionMetrics → SessionMetrics) (r : Server)
    (i : Input) : Updating → Updating × Command
  | .watch attempt => (match i.reply.error with
      | some err => .returned (.error err)
      | none => .get attempt (r.store.stamp (sessionMetricsKey sessionID)), .read)
  | .get attempt stamp => (match i.reply.error with
      | some err => .returned (.error ("get session metrics: " ++ err))
      | none => match r.store.get (sessionMetricsKey sessionID) with
        | none => .returned (.error ("session metrics not found: " ++ sessionID))
        | some payload => match decodeSessionMetrics payload with
          | .error err => .returned (.error err)
          | .ok metrics => .exec attempt stamp (completed sessionID i.now (fn metrics)), .read)
  | .exec attempt stamp metrics =>
    -- EXEC runs when nothing wrote or deleted the key after WATCH
    if r.store.stamp (sessionMetricsKey sessionID) = stamp then
      (match i.reply.error with
        | some err => .returned (.error ("set session metrics: " ++ err))
        | none => .returned (.ok metrics), i.reply.change (.setMetrics sessionID metrics))
    else
      (match i.reply.error with
        | some err => .returned (.error ("set session metrics: " ++ err))
        | none => .attempt sessionID (attempt + 1), .read)
  | .returned result => (.returned result, .read)

/-- DeleteSession between two of its commands. -/
inductive Deleting
  | keys
  | active (listed : List String)
  | exec (listed : List String) (activeSessionID : String)
  | returned (err : Option String)
  deriving DecidableEq

def deletedKeys (sessionID activeSessionID : String) (listed : List String) : List String :=
  (if activeSessionID = sessionID then [activeSessionKey] else []) ++
    [sessionMetaKey sessionID, sessionMetricsKey sessionID] ++ listed

def Deleting.step (sessionID : String) (r : Server) (i : Input) :
    Deleting → Deleting × Command
  | .keys => (match i.reply.error with
      | some err => .returned (some ("list session slave keys: " ++ err))
      | none => .active (r.keys (sessionSlavePattern sessionID)), .read)
  | .active listed => (match i.reply.error with
      | some err => .returned (some ("get active session before delete: " ++ err))
      | none => .exec listed (((r.store.get activeSessionKey).map Payload.raw).getD ""), .read)
  | .exec listed activeSessionID => (match i.reply.error with
      | some err => .returned (some ("delete session: " ++ err))
      | none => .returned none,
        i.reply.change (.delete (deletedKeys sessionID activeSessionID listed)))
  | .returned err => (.returned err, .read)

/-! A call that has returned runs no further command. -/

def Publishing.running : Publishing → Bool
  | .returned _ => false
  | _ => true

def Listing.running : Listing → Bool
  | .returned _ => false
  | _ => true

def Updating.running : Updating → Bool
  | .returned _ => false
  | _ => true

def Deleting.running : Deleting → Bool
  | .returned _ => false
  | _ => true

section Calls

variable {r : Server} {i : Input} {S : String} {fn : SessionMetrics → SessionMetrics}

theorem Reply.change_cases (c : Command) (reply : Reply) :
    reply.change c = c ∨ reply.change c = .read ∧ reply.error.isSome = true := by
  cases reply with
  | answered => exact .inl rfl
  | refused err => exact .inr ⟨rfl, rfl⟩
  | lost err => exact .inl rfl

theorem Reply.change_refused (c : Command) {reply : Reply} (refused : reply.runs = false) :
    reply.change c = .read := by
  cases reply <;> first | rfl | cases refused

theorem Reply.answered_of_error {reply : Reply} (h : reply.error = none) : reply = .answered := by
  cases reply <;> first | rfl | cases h

def Publishing.pending (state : SlaveState) : Publishing → Command
  | .set => .set state
  | .publish => .publish state
  | .returned _ => .read

inductive Publishing.Moved (state : SlaveState) (i : Input) :
    Publishing → Publishing × Command → Prop
  | failed {p : Publishing} {c : Command} {err : String} (fault : i.reply.error.isSome = true)
      (ran : c = p.pending state ∨ c = .read) :
      Moved state i p (.returned (some err), c)
  | set (answered : i.reply = .answered) : Moved state i .set (.publish, .set state)
  | publish (answered : i.reply = .answered) :
      Moved state i .publish (.returned none, .publish state)
  | finished {err : Option String} : Moved state i (.returned err) (.returned err, .read)

theorem Publishing.step_moved (state : SlaveState) (p : Publishing) :
    Publishing.Moved state i p (p.step state i) := by
  cases p with
  | returned err => exact .finished
  | set =>
    cases reply : i.reply with
    | answered =>
      simp only [step, reply, Reply.error, Reply.change]
      exact .set reply
    | refused err =>
      simp only [step, reply, Reply.error, Reply.change]
      exact .failed (by rw [reply]; rfl) (.inr rfl)
    | lost err =>
      simp only [step, reply, Reply.error, Reply.change]
      exact .failed (by rw [reply]; rfl) (.inl rfl)
  | publish =>
    cases reply : i.reply with
    | answered =>
      simp only [step, reply, Reply.error, Reply.change]
      exact .publish reply
    | refused err =>
      simp only [step, reply, Reply.error, Reply.change]
      exact .failed (by rw [reply]; rfl) (.inr rfl)
    | lost err =>
      simp only [step, reply, Reply.error, Reply.change]
      exact .failed (by rw [reply]; rfl) (.inl rfl)

theorem Publishing.step_refused (refused : i.reply.runs = false) (state : SlaveState)
    (p : Publishing) : (p.step state i).2 = .read := by
  cases p with
  | returned err => rfl
  | set | publish => exact i.reply.change_refused _ refused

theorem Updating.step_refused (refused : i.reply.runs = false) (u : Updating) :
    (u.step S fn r i).2 = .read := by
  cases u with
  | exec a n m =>
    simp only [step]
    split
    · exact i.reply.change_refused _ refused
    · rfl
  | _ => rfl

theorem Publishing.step_command (state : SlaveState) (p : Publishing) :
    (p.step state i).2 = p.pending state ∨ (p.step state i).2 = .read := by
  generalize h : p.step state i = next
  have moved := h ▸ p.step_moved (i := i) state
  cases moved with
  | failed _ ran => exact ran
  | set => exact .inl rfl
  | publish => exact .inl rfl
  | finished => exact .inl rfl

theorem Publishing.step_ne_set (state : SlaveState) (p : Publishing) :
    (p.step state i).1 ≠ .set := by
  generalize h : p.step state i = next
  have moved := h ▸ p.step_moved (i := i) state
  cases moved <;> exact nofun

def Updating.pending (S : String) (r : Server) : Updating → Command
  | .exec _ stamp m =>
    if r.store.stamp (sessionMetricsKey S) = stamp then .setMetrics S m else .read
  | _ => .read

inductive Updating.Moved (S : String) (fn : SessionMetrics → SessionMetrics) (r : Server)
    (i : Input) : Updating → Updating × Command → Prop
  | failed {u : Updating} {err : String} (fault : i.reply.error.isSome = true) :
      Moved S fn r i u (.returned (.error err), .read)
  | lost {a n : Nat} {m : SessionMetrics} {err : String} (fault : i.reply.error.isSome = true)
      (same : r.store.stamp (sessionMetricsKey S) = n) :
      Moved S fn r i (.exec a n m) (.returned (.error err), .setMetrics S m)
  | watched {a : Nat} (answered : i.reply = .answered) : Moved S fn r i (.watch a)
      (.get a (r.store.stamp (sessionMetricsKey S)), .read)
  | missing {a n : Nat} {err : String} (answered : i.reply = .answered)
      (none : ∀ m, r.store.get (sessionMetricsKey S) ≠ some (.metrics m))
      (other : err ≠ retryLimit S) :
      Moved S fn r i (.get a n) (.returned (.error err), .read)
  | found {a n : Nat} {m : SessionMetrics} (answered : i.reply = .answered)
      (got : r.store.get (sessionMetricsKey S) = some (.metrics m)) :
      Moved S fn r i (.get a n) (.exec a n (completed S i.now (fn m)), .read)
  | committed {a n : Nat} {m : SessionMetrics} (answered : i.reply = .answered)
      (same : r.store.stamp (sessionMetricsKey S) = n) :
      Moved S fn r i (.exec a n m) (.returned (.ok m), .setMetrics S m)
  | retried {a n : Nat} {m : SessionMetrics} (answered : i.reply = .answered)
      (moved : r.store.stamp (sessionMetricsKey S) ≠ n) (again : a + 1 < maxRetries) :
      Moved S fn r i (.exec a n m) (.watch (a + 1), .read)
  | exhausted {a n : Nat} {m : SessionMetrics} (answered : i.reply = .answered)
      (moved : r.store.stamp (sessionMetricsKey S) ≠ n) (last : maxRetries ≤ a + 1) :
      Moved S fn r i (.exec a n m) (.returned (.error (retryLimit S)), .read)
  | finished {result : Except String SessionMetrics} :
      Moved S fn r i (.returned result) (.returned result, .read)

theorem head_append {s : String} {c : Char} (first : s.toList.head? = some c) (t : String) :
    (s ++ t).toList.head? = some c := by
  rw [String.toList_append, List.head?_append, first, Option.some_or]

/-- The error texts of one call start with different letters. -/
theorem ne_retryLimit {err : String} {c : Char} (first : err.toList.head? = some c)
    (other : c ≠ 'u') : err ≠ retryLimit S := by
  intro same
  have limit : err.toList.head? = some 'u' := same ▸ head_append (by decide) S
  exact other (Option.some.inj (first.symm.trans limit))

theorem Updating.step_moved (u : Updating) :
    Updating.Moved S fn r i u (Updating.step S fn r i u) := by
  cases u with
  | watch a =>
    cases fault : i.reply.error with
    | none =>
      simp only [step, fault]
      exact .watched (Reply.answered_of_error fault)
    | some err =>
      simp only [step, fault]
      exact .failed (by rw [fault]; rfl)
  | get a n =>
    cases fault : i.reply.error with
    | some err =>
      simp only [step, fault]
      exact .failed (by rw [fault]; rfl)
    | none =>
      have answered := Reply.answered_of_error fault
      cases got : r.store.get (sessionMetricsKey S) with
      | none =>
        simp only [step, fault, got]
        exact .missing answered (by simp [got])
          (ne_retryLimit (head_append (by decide) S) (by decide : 's' ≠ 'u'))
      | some payload =>
        cases payload with
        | metrics m =>
          simp only [step, fault, got, decodeSessionMetrics]
          exact .found answered got
        | _ =>
          simp only [step, fault, got, decodeSessionMetrics]
          exact .missing answered (by simp [got])
            (ne_retryLimit (by decide) (by decide : 'd' ≠ 'u'))
  | exec a n m =>
    by_cases same : r.store.stamp (sessionMetricsKey S) = n
    · cases reply : i.reply with
      | answered =>
        simp only [step, reply, if_pos same, Reply.error, Reply.change]
        exact .committed reply same
      | refused err =>
        simp only [step, reply, if_pos same, Reply.error, Reply.change]
        exact .failed (by rw [reply]; rfl)
      | lost err =>
        simp only [step, reply, if_pos same, Reply.error, Reply.change]
        exact .lost (by rw [reply]; rfl) same
    · cases fault : i.reply.error with
      | none =>
        simp only [step, fault, if_neg same, attempt]
        split
        · exact .retried (Reply.answered_of_error fault) same ‹_›
        · exact .exhausted (Reply.answered_of_error fault) same (Nat.le_of_not_lt ‹_›)
      | some err =>
        simp only [step, fault, if_neg same]
        exact .failed (by rw [fault]; rfl)
  | returned result => exact .finished

theorem Updating.step_command (u : Updating) :
    (u.step S fn r i).2 = u.pending S r ∨ (u.step S fn r i).2 = .read := by
  generalize h : u.step S fn r i = next
  have moved : Updating.Moved S fn r i u next := h ▸ u.step_moved
  cases moved with
  | lost _ same => exact .inl (if_pos same).symm
  | committed _ same => exact .inl (if_pos same).symm
  | _ => exact .inr rfl

/-- A call of UpdateSessionMetrics goes on, gives up or commits. -/
theorem Updating.step_cases {P : Updating × Command → Prop} {u : Updating}
    (running : u.running = true)
    (goes : ∀ next, next.running = true → Updating.Moved S fn r i u (next, .read) → P (next, .read))
    (stops : ∀ cause c, Updating.Moved S fn r i u (.returned (.error cause), c) →
      P (.returned (.error cause), c))
    (commits : ∀ a n m, u = .exec a n m → i.reply = .answered →
      r.store.stamp (sessionMetricsKey S) = n → P (.returned (.ok m), .setMetrics S m)) :
    P (u.step S fn r i) := by
  generalize ran : u.step S fn r i = next
  have moved : Updating.Moved S fn r i u next := ran ▸ u.step_moved
  cases moved with
  | watched answered => exact goes _ rfl (.watched answered)
  | found answered got => exact goes _ rfl (.found answered got)
  | retried answered same again => exact goes _ rfl (.retried answered same again)
  | committed answered same => exact commits _ _ _ rfl answered same
  | failed fault => exact stops _ _ (.failed fault)
  | lost fault same => exact stops _ _ (.lost fault same)
  | missing answered none other => exact stops _ _ (.missing answered none other)
  | exhausted answered same last => exact stops _ _ (.exhausted answered same last)
  | finished => cases running

/-- What a call between GET and EXEC knows: what it read is there if its stamp still is. -/
def Updating.Sound (S : String) (fn : SessionMetrics → SessionMetrics) (r : Server) :
    Updating → Prop
  | .get _ stamp => stamp ≤ r.store.stamp (sessionMetricsKey S)
  | .exec _ stamp m => ∃ old now, m = completed S now (fn old) ∧
      r.store.Saw (sessionMetricsKey S) stamp (.metrics old)
  | _ => True

theorem Updating.Sound.later {u : Updating} {r' : Server} (sound : u.Sound S fn r)
    (later : Stamped.Store.Later r.store r'.store) : u.Sound S fn r' := by
  cases u with
  | get a n => exact Nat.le_trans sound (later _).1
  | exec a n m =>
    obtain ⟨old, now, made, saw⟩ := sound
    exact ⟨old, now, made, saw.later later⟩
  | _ => trivial

theorem Updating.Sound.moved {u : Updating} {next : Updating × Command} (sound : u.Sound S fn r)
    (moved : Updating.Moved S fn r i u next) : next.1.Sound S fn r := by
  cases moved with
  | watched => exact Nat.le_refl _
  | found _ got => exact ⟨_, _, rfl, Stamped.Store.saw_of_get sound got⟩
  | _ => trivial

theorem Updating.Sound.commits {u : Updating} {sessionID : String} {m : SessionMetrics}
    (sound : u.Sound S fn r) (pending : u.pending S r = .setMetrics sessionID m) :
    sessionID = S ∧ ∃ old now, m = completed S now (fn old) ∧
      r.store.get (sessionMetricsKey S) = some (.metrics old) := by
  cases u with
  | exec a n m' =>
    simp only [Updating.pending] at pending
    split at pending
    · rename_i same
      cases pending
      obtain ⟨old, now, made, saw⟩ := sound
      exact ⟨rfl, old, now, made, saw.2 same⟩
    · cases pending
  | _ => cases pending

theorem Command.later (c : Command) : Stamped.Store.Later r.store (c.run r).store := by
  cases c with
  | create =>
    refine Stamped.Store.Later.trans ?_ Stamped.Store.later_put
    exact Stamped.Store.later_put.trans Stamped.Store.later_put
  | set => exact Stamped.Store.later_put
  | setMetrics => exact Stamped.Store.later_put
  | delete keys => exact Stamped.Store.later_dropAll keys
  | _ => exact Stamped.Store.Later.refl

end Calls

end Megalo.Redis
