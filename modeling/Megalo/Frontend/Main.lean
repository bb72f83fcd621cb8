import Megalo.Frontend.Store
import Megalo.Library.System

/-! The page of main.ts and api.ts: the store, the module variables, every WebSocket with the
startSession that waits on it, and one handler for each event. An event runs its handler
and the continuations it resumes, up to their next await. -/
namespace Megalo.Frontend

open Transition

inductive ReadyState
  | connecting
  | opened
  | closing
  | closed
  deriving DecidableEq

inductive Awaiting
  | socket
  | snapshot
  | nothing
  deriving DecidableEq

/-- A startSession that has got past its guards, and its WebSocket. -/
structure Attempt where
  attemptId : Nat
  readyState : ReadyState
  opened : Bool
  closeDelivered : Bool
  awaits : Awaiting
  deriving DecidableEq

structure Page where
  store : GameState
  socket : Option Nat
  connectionAttemptId : Nat
  attempts : List Attempt
  /-- The disconnectSession calls that await scene.exitXR. -/
  exiting : Nat
  metricsRefreshTimer : Bool
  refreshing : Nat

structure Snapshot where
  session : SessionMeta
  metrics : SessionMetrics
  states : List SlaveState

inductive PageEvent
  | start
  | socketOpen (i : Nat)
  | socketMessage (i : Nat) (pod : SlaveState)
  | malformed (i : Nat)
  | socketError (i : Nat)
  | socketClose (i : Nat)
  | snapshot (i : Nat) (result : Except String Snapshot)
  /-- disconnectSession, with what scene.isXRPresenting says. -/
  | disconnect (presenting : Bool)
  | exited (failed : Bool)
  | refresh
  | refreshed (metrics : Option SessionMetrics)
  | xrStateChange (active : Bool)

namespace Page

variable (s : Page)

def loaded (xrSupported : Bool) : Page :=
  ⟨initialState xrSupported, none, 0, [], 0, false, 0⟩

def setAttempt (i : Nat) (f : Attempt → Attempt) : Page :=
  { s with attempts := s.attempts.modify i f }

def closeSocket (i : Nat) : Page :=
  s.setAttempt i fun a => { a with
    readyState := if a.readyState = .closed then .closed else .closing }

def isCurrent (a : Attempt) : Bool := a.attemptId == s.connectionAttemptId

def prepareSessionInitialization : Page :=
  { s with
    metricsRefreshTimer := false
    store := { s.store with
      phase := .connecting
      session := none
      metrics := none
      podsById := ∅
      selectedPodId := none
      hoveredPodId := none
      errorMessage := none
      actionInFlight := false
      xrActive := false
      xrEliminatedPodIds := []
      connectionMessage := "Starting session..." } }

/-- startSession up to its first await. -/
def startSession : Page :=
  let isOpen := (s.socket.bind fun i => s.attempts[i]?).any fun a => a.readyState == .opened
  if s.store.phase = .connecting ∨ isOpen = true then s
  else
    let t := { s with connectionAttemptId := s.connectionAttemptId + 1 }.prepareSessionInitialization
    { t with attempts := t.attempts ++ [⟨t.connectionAttemptId, .connecting, false, false, .socket⟩] }

/-- The module variable is emptied and the socket it held is closed. -/
def dropSocket : Page :=
  match s.socket with
  | none => s
  | some j => { s with socket := none }.closeSocket j

def failSession (i : Nat) (a : Attempt) (message : String) : Page :=
  let s := s.setAttempt i fun a => { a with awaits := .nothing }
  if s.isCurrent a then
    let s := s.dropSocket
    { s with store := { s.store with
      phase := .error
      errorMessage := some "セッション開始に失敗しました。"
      connectionMessage := message } }
  else s

/-- The promise of openSocket is rejected, which does nothing when it is settled. -/
def rejectSocket (i : Nat) (a : Attempt) (message : String) : Page :=
  if a.awaits = .socket then s.failSession i a message else s

def patchMessage (message : String) : Page :=
  { s with store := { s.store with connectionMessage := message } }

/-- onOpen, and startSession up to its second await. -/
def onOpen (i : Nat) (a : Attempt) : Page :=
  if s.isCurrent a then
    let s := s.setAttempt i fun a => { a with opened := true, awaits := .snapshot }
    ({ s with socket := some i }.patchMessage "Connected").patchMessage "Initial sync..."
  else (s.closeSocket i).rejectSocket i a "stale socket attempt"

def scheduleMetricsRefresh : Page := { s with metricsRefreshTimer := true }

def handlePodUpdate (pod : SlaveState) : Page :=
  { s with store := s.store.upsertPod pod }.scheduleMetricsRefresh

def onMessage (i : Nat) (a : Attempt) (pod : SlaveState) : Page :=
  if s.isCurrent a ∧ s.socket = some i then s.handlePodUpdate pod else s

def onError (i : Nat) (a : Attempt) : Page :=
  if s.isCurrent a = false then s
  else if a.opened = false then s.rejectSocket i a "socket error"
  else if s.socket ≠ some i then s
  else s.patchMessage "Connection issue"

def onClose (i : Nat) (a : Attempt) : Page :=
  if s.isCurrent a = false then s
  else if a.opened = false then s.rejectSocket i a "socket closed before session start"
  else if s.socket ≠ some i then s
  else { s with store := s.store.resetToDisconnected "Session ended", socket := none }

def onSnapshot (i : Nat) (a : Attempt) : Except String Snapshot → Page
  | .ok snapshot =>
    let s := s.setAttempt i fun a => { a with awaits := .nothing }
    if s.isCurrent a then
      { s with store := s.store.hydrateSnapshot snapshot.session snapshot.metrics snapshot.states }
    else s
  | .error message => s.failSession i a message

def finishDisconnect : Page :=
  let s := s.dropSocket
  { s with store := s.store.resetToDisconnected "セッション開始待機中" }

/-- disconnectSession up to its await. -/
def disconnectSession (presenting : Bool) : Page :=
  let s := { s with
    connectionAttemptId := s.connectionAttemptId + 1
    metricsRefreshTimer := false }
  if presenting then { s with exiting := s.exiting + 1 } else s.finishDisconnect

def exitXR (failed : Bool) : Page :=
  let s := { s with exiting := s.exiting - 1 }
  if failed then s else s.finishDisconnect

def finishRefresh (metrics : Option SessionMetrics) : Page :=
  let s := { s with refreshing := s.refreshing - 1 }
  match metrics with
  | some m => { s with store := s.store.setMetrics m }
  | none => s

def onAttempt (i : Nat) (fires : Attempt → Bool) (handler : Attempt → Page) : Option Page :=
  s.attempts[i]?.bind fun a => if fires a then some (handler a) else none

end Page

/-- A socket opens once and closes once, and its messages come while it is open. -/
def page : System Page PageEvent where
  step s
    | .start => some s.startSession
    | .socketOpen i => s.onAttempt i (fun a => a.readyState == .connecting) fun a =>
        (s.setAttempt i fun a => { a with readyState := .opened }).onOpen i a
    | .socketMessage i pod =>
      s.onAttempt i (fun a => a.readyState == .opened) fun a => s.onMessage i a pod
    | .malformed i => s.onAttempt i (fun a => a.readyState == .opened) fun a => s.onError i a
    | .socketError i => s.onAttempt i (fun a => a.readyState != .closed) fun a =>
        (s.setAttempt i fun a => { a with readyState := .closed }).onError i a
    | .socketClose i => s.onAttempt i (fun a => !a.closeDelivered) fun a =>
        (s.setAttempt i fun a => { a with readyState := .closed, closeDelivered := true }).onClose
          i a
    | .snapshot i result =>
      s.onAttempt i (fun a => a.awaits == .snapshot) fun a => s.onSnapshot i a result
    | .disconnect presenting => some (s.disconnectSession presenting)
    | .exited failed =>
      if s.exiting = 0 then none
      else some (s.exitXR failed)
    | .refresh => if s.metricsRefreshTimer then
        some { s with metricsRefreshTimer := false, refreshing := s.refreshing + 1 }
      else none
    | .refreshed metrics =>
      if s.refreshing = 0 then none
      else some (s.finishRefresh metrics)
    | .xrStateChange active => some { s with store := s.store.setXRActive active }

end Megalo.Frontend
