import Megalo.Frontend.Playing
import Megalo.Frontend.Report

/-! The counters on the screen. Requests are answered by the server when it gets to them, and the
answers come back in any order; a refresh that has left its timer writes what it is told. -/
namespace Megalo.Frontend

open Transition

/-- The answers so far to the reads of one attempt's snapshot. -/
structure Reads where
  session : Option SessionMeta
  metrics : Option SessionMetrics

/-- The page and the server: the session that is active, and the requests on their way. -/
structure Served where
  page : Page
  active : Option String
  /-- The metrics refreshes on their way, each with its answer once the server has given it. -/
  refreshes : List (Option (Option SessionMetrics))
  reads : Nat → Reads

inductive ServedEvent
  | page (e : PageEvent)
  | activate (session : Option String)
  /-- The server answers a refresh; without an active session it fails. -/
  | answerRefresh (k : Nat) (liveSlaves goneSlaves : Int) (updatedAt : String)
  | failRefresh (k : Nat)
  | refreshed (k : Nat)
  | answerSession (i : Nat) (startedAt : String)
  | answerMetrics (i : Nat) (liveSlaves goneSlaves : Int) (updatedAt : String)
  /-- A read fails, and all of them are made again. -/
  | retry (i : Nat)
  | snapshot (i : Nat) (states : List SlaveState)
  | snapshotFailed (i : Nat) (message : String)

/-- The page's own events; a request leaves with the timer that sends it. -/
def Served.onPage (s : Served) : PageEvent → Option Served
  | .refreshed _ | .snapshot _ _ => none
  | .refresh => (Frontend.page.step s.page .refresh).map fun page =>
      { s with page, refreshes := s.refreshes ++ [none] }
  | e => (Frontend.page.step s.page e).map fun page => { s with page }

/-- The server answers a refresh, once. -/
def Served.answer (s : Served) (k : Nat) (metrics : Option SessionMetrics) : Option Served :=
  match s.refreshes[k]? with
  | some none => some { s with refreshes := s.refreshes.set k (some metrics) }
  | _ => none

/-- The startSession of the i-th attempt waits for its snapshot. -/
def Served.waits (s : Served) (i : Nat) : Bool :=
  s.page.attempts[i]?.any fun a => a.awaits == .snapshot

def Served.read (s : Served) (i : Nat) (reads : Reads) : Served :=
  { s with reads := Function.update s.reads i reads }

def served : System Served ServedEvent where
  step s
    | .page e => s.onPage e
    | .activate active => some { s with active }
    | .answerRefresh k liveSlaves goneSlaves updatedAt =>
      s.answer k (s.active.map fun sessionID => ⟨sessionID, liveSlaves, goneSlaves, updatedAt⟩)
    | .failRefresh k => s.answer k none
    | .refreshed k => match s.refreshes[k]? with
      | some (some answer) => (Frontend.page.step s.page (.refreshed answer)).map fun page =>
          { s with page, refreshes := s.refreshes.eraseIdx k }
      | _ => none
    | .answerSession i startedAt => match s.active, s.reads i with
      | some sessionID, ⟨none, metrics⟩ =>
        if s.waits i then some (s.read i ⟨some ⟨sessionID, startedAt⟩, metrics⟩) else none
      | _, _ => none
    | .answerMetrics i liveSlaves goneSlaves updatedAt => match s.active, s.reads i with
      | some sessionID, ⟨session, none⟩ =>
        if s.waits i then
          some (s.read i ⟨session, some ⟨sessionID, liveSlaves, goneSlaves, updatedAt⟩⟩)
        else none
      | _, _ => none
    | .retry i => if s.waits i then some (s.read i ⟨none, none⟩) else none
    | .snapshot i states => match s.reads i with
      | ⟨some session, some metrics⟩ =>
        (Frontend.page.step s.page (.snapshot i (.ok ⟨session, metrics, states⟩))).map fun page =>
          { s with page }
      | _ => none
    | .snapshotFailed i message =>
      (Frontend.page.step s.page (.snapshot i (.error message))).map fun page => { s with page }

def Served.loaded (xrSupported : Bool) : Served :=
  ⟨.loaded xrSupported, none, [], fun _ => ⟨none, none⟩⟩

/-- The counters that the page shows are those of the session it shows. -/
def ShowsOwn (store : GameState) : Prop :=
  ∀ metrics, store.metrics = some metrics →
    ∃ session, store.session = some session ∧ metrics.sessionID = session.sessionID

/-- A refresh comes back to the session it was answered for, and the latest attempt's snapshot
was answered for one session. -/
def comesHome (s : Served) : ServedEvent → Bool
  | .refreshed k => match s.refreshes[k]? with
    | some (some (some metrics)) =>
      s.page.store.session.any fun session => metrics.sessionID == session.sessionID
    | _ => true
  | .snapshot i _ => match s.page.attempts[i]?, s.reads i with
    | some a, ⟨some session, some metrics⟩ =>
      !s.page.isCurrent a || metrics.sessionID == session.sessionID
    | _, _ => true
  | _ => true

section Metrics

variable {s t : Page} {i : Nat}

/-- The counters are cleared, or they and the session are left alone. -/
def Clears (s t : Page) : Prop :=
  t.store.metrics = none ∨ t.store.metrics = s.store.metrics ∧ t.store.session = s.store.session

theorem Clears.showsOwn (clears : Clears s t) (own : ShowsOwn s.store) : ShowsOwn t.store := by
  intro metrics shown
  rcases clears with none | ⟨same, session⟩
  · cases none.symm.trans shown
  · rw [session]
    exact own metrics (same ▸ shown)

theorem clears_same (metrics : t.store.metrics = s.store.metrics)
    (session : t.store.session = s.store.session) : Clears s t := .inr ⟨metrics, session⟩

theorem failSession_clears (i : Nat) (a : Attempt) (message : String) :
    Clears s (s.failSession i a message) := by
  simp only [Page.failSession]
  split
  · apply clears_same <;> simp only [dropSocket_store] <;> rfl
  · exact clears_same rfl rfl

theorem rejectSocket_clears (i : Nat) (a : Attempt) (message : String) :
    Clears s (s.rejectSocket i a message) := by
  unfold Page.rejectSocket
  split
  · exact failSession_clears i a message
  · exact clears_same rfl rfl

theorem onError_clears (a : Attempt) : Clears s (s.onError i a) := by
  unfold Page.onError
  split
  · exact clears_same rfl rfl
  · split
    · exact rejectSocket_clears i a _
    · split <;> exact clears_same rfl rfl

theorem onClose_clears (a : Attempt) : Clears s (s.onClose i a) := by
  unfold Page.onClose
  split
  · exact clears_same rfl rfl
  · split
    · exact rejectSocket_clears i a _
    · split
      · exact clears_same rfl rfl
      · exact .inl rfl

theorem onOpen_clears (a : Attempt) : Clears s (s.onOpen i a) := by
  unfold Page.onOpen
  split
  · exact clears_same rfl rfl
  · exact rejectSocket_clears (s := s.closeSocket i) i a _

theorem onMessage_clears (a : Attempt) (pod : SlaveState) : Clears s (s.onMessage i a pod) := by
  unfold Page.onMessage
  split <;> exact clears_same rfl rfl

theorem startSession_clears : Clears s s.startSession := by
  simp only [Page.startSession]
  split
  · exact clears_same rfl rfl
  · exact .inl rfl

theorem disconnectSession_clears (presenting : Bool) :
    Clears s (s.disconnectSession presenting) := by
  cases presenting with
  | true => exact clears_same rfl rfl
  | false => exact .inl rfl

/-- The answers that bring counters. -/
def bringsCounters : PageEvent → Bool
  | .refreshed (some _) => true
  | .snapshot _ (.ok _) => true
  | _ => false

/-- Every other event of the page clears the counters or leaves them alone. -/
theorem step_clears {e : PageEvent} (other : bringsCounters e = false)
    (taken : page.step s e = some t) : Clears s t := by
  cases e with
  | start =>
    cases Option.some.inj taken
    exact startSession_clears
  | socketOpen i =>
    obtain ⟨a, _, _, rfl⟩ := onAttempt_some taken
    exact onOpen_clears (s := s.setAttempt i _) a
  | socketMessage i pod =>
    obtain ⟨a, _, _, rfl⟩ := onAttempt_some taken
    exact onMessage_clears a pod
  | malformed i =>
    obtain ⟨a, _, _, rfl⟩ := onAttempt_some taken
    exact onError_clears a
  | socketError i =>
    obtain ⟨a, _, _, rfl⟩ := onAttempt_some taken
    exact onError_clears (s := s.setAttempt i _) a
  | socketClose i =>
    obtain ⟨a, _, _, rfl⟩ := onAttempt_some taken
    exact onClose_clears (s := s.setAttempt i _) a
  | snapshot i result =>
    cases result with
    | ok snapshot => cases other
    | error message =>
      obtain ⟨a, _, _, rfl⟩ := onAttempt_some taken
      exact failSession_clears i a message
  | disconnect presenting =>
    cases Option.some.inj taken
    exact disconnectSession_clears presenting
  | exited failed =>
    simp only [page, Option.ite_none_left_eq_some] at taken
    cases Option.some.inj taken.2
    cases failed with
    | true => exact clears_same rfl rfl
    | false => exact .inl rfl
  | refresh =>
    simp only [page, Option.ite_none_right_eq_some] at taken
    cases Option.some.inj taken.2
    exact clears_same rfl rfl
  | refreshed metrics =>
    cases metrics with
    | some metrics => cases other
    | none =>
      simp only [page, Option.ite_none_left_eq_some] at taken
      cases Option.some.inj taken.2
      exact clears_same rfl rfl
  | xrStateChange active =>
    cases Option.some.inj taken
    exact clears_same rfl rfl

theorem showsOwn_set {store : GameState} {metrics : SessionMetrics}
    (shown : store.metrics = some metrics) : ShowsOwn store ↔
      (store.session.any fun session => metrics.sessionID == session.sessionID) = true := by
  simp only [ShowsOwn, shown, Option.some.injEq, forall_eq', Option.any_eq_true, beq_iff_eq]

/-- The answer of a refresh is shown whatever session the page shows by then. -/
theorem refreshed_showsOwn {metrics : SessionMetrics}
    (taken : page.step s (.refreshed (some metrics)) = some t) : ShowsOwn t.store ↔
      (s.store.session.any fun session => metrics.sessionID == session.sessionID) = true := by
  simp only [page, Option.ite_none_left_eq_some] at taken
  cases Option.some.inj taken.2
  exact showsOwn_set rfl

theorem snapshot_showsOwn {snapshot : Snapshot} (own : ShowsOwn s.store)
    (taken : page.step s (.snapshot i (.ok snapshot)) = some t) : ShowsOwn t.store ↔
      ∀ a, s.attempts[i]? = some a → s.isCurrent a = true →
        snapshot.metrics.sessionID = snapshot.session.sessionID := by
  obtain ⟨a, found, -, rfl⟩ := onAttempt_some taken
  simp only [found, Option.some.injEq, forall_eq', Page.onSnapshot]
  by_cases current : s.isCurrent a = true
  · have moved : (s.setAttempt i fun a => { a with awaits := .nothing }).isCurrent a = true :=
      current
    rw [if_pos moved, showsOwn_set rfl]
    simp [GameState.hydrateSnapshot, current]
  · have moved : ¬ (s.setAttempt i fun a => { a with awaits := .nothing }).isCurrent a = true :=
      current
    rw [if_neg moved]
    exact iff_of_true own fun now => absurd now current

variable {u v : Served}

theorem other_showsOwn {e : PageEvent} (other : bringsCounters e = false)
    (own : ShowsOwn s.store) (taken : page.step s e = some t) : ShowsOwn t.store :=
  (step_clears other taken).showsOwn own

theorem onPage_showsOwn {e : PageEvent} (own : ShowsOwn u.page.store)
    (taken : u.onPage e = some v) : ShowsOwn v.page.store := by
  unfold Served.onPage at taken
  split at taken
  · cases taken
  · cases taken
  · obtain ⟨t, stepped, rfl⟩ := Option.map_eq_some_iff.mp taken
    exact other_showsOwn rfl own stepped
  · rename_i refreshed snapshot _
    obtain ⟨t, stepped, rfl⟩ := Option.map_eq_some_iff.mp taken
    refine other_showsOwn ?_ own stepped
    cases e with
    | refreshed metrics => exact absurd rfl (refreshed metrics)
    | snapshot i result => exact absurd rfl (snapshot i result)
    | _ => rfl

/-- A step shows the counters of the session that is shown exactly when it passes the test. -/
theorem step_showsOwn {e : ServedEvent} (own : ShowsOwn u.page.store)
    (taken : served.step u e = some v) : ShowsOwn v.page.store ↔ comesHome u e = true := by
  cases e with
  | page e => exact iff_of_true (onPage_showsOwn own taken) rfl
  | activate active =>
    cases Option.some.inj taken
    exact iff_of_true own rfl
  | answerRefresh k liveSlaves goneSlaves updatedAt =>
    simp only [served, Served.answer] at taken
    split at taken
    · cases Option.some.inj taken
      exact iff_of_true own rfl
    · cases taken
  | failRefresh k =>
    simp only [served, Served.answer] at taken
    split at taken
    · cases Option.some.inj taken
      exact iff_of_true own rfl
    · cases taken
  | refreshed k =>
    simp only [served] at taken
    split at taken
    · rename_i answer found
      obtain ⟨t, stepped, rfl⟩ := Option.map_eq_some_iff.mp taken
      cases answer with
      | none =>
        refine iff_of_true (other_showsOwn rfl own stepped) ?_
        simp only [comesHome, found]
      | some metrics =>
        simp only [comesHome, found]
        exact refreshed_showsOwn stepped
    · cases taken
  | answerSession i startedAt =>
    simp only [served] at taken
    split at taken
    · rw [Option.ite_none_right_eq_some] at taken
      cases Option.some.inj taken.2
      exact iff_of_true own rfl
    · cases taken
  | answerMetrics i liveSlaves goneSlaves updatedAt =>
    simp only [served] at taken
    split at taken
    · rw [Option.ite_none_right_eq_some] at taken
      cases Option.some.inj taken.2
      exact iff_of_true own rfl
    · cases taken
  | retry i =>
    simp only [served, Option.ite_none_right_eq_some] at taken
    cases Option.some.inj taken.2
    exact iff_of_true own rfl
  | snapshot i states =>
    simp only [served] at taken
    split at taken
    · rename_i session metrics answered
      obtain ⟨t, stepped, rfl⟩ := Option.map_eq_some_iff.mp taken
      refine (snapshot_showsOwn own stepped).trans ?_
      obtain ⟨a, found, -, -⟩ := onAttempt_some stepped
      simp only [comesHome, found, answered, Option.some.injEq, forall_eq', Bool.or_eq_true,
        Bool.not_eq_true', beq_iff_eq]
      rw [imp_iff_not_or, Bool.not_eq_true]
    · cases taken
  | snapshotFailed i message =>
    obtain ⟨t, stepped, rfl⟩ := Option.map_eq_some_iff.mp taken
    exact iff_of_true (other_showsOwn rfl own stepped) rfl

end Metrics

def ServedOwn (s : Served) : Prop := ShowsOwn s.page.store

/-- The counters belong to the session that is shown throughout a run exactly when every refresh
comes back to its session, and every snapshot was answered for one. -/
theorem metrics_shown_own {xrSupported : Bool} {events : List ServedEvent} {t : Served}
    (ran : served.run (.loaded xrSupported) events = some t) :
    served.Throughout ServedOwn (.loaded xrSupported) events ↔
      served.Meets (fun s e => comesHome s e = true) (.loaded xrSupported) events := by
  have none_shown : ServedOwn (.loaded xrSupported) := nofun
  exact System.throughout_iff (J := fun _ => True)
    (fun _ _ _ _ own taken => ⟨trivial, step_showsOwn own taken⟩) trivial none_shown ran

/-- A page that plays, and gets a message of a pod. -/
def plays : List ServedEvent :=
  [.activate (some UUID.sample.text), .page .start, .page (.socketOpen 0),
    .answerSession 0 "2026-01-01T00:00:00Z", .answerMetrics 0 0 0 "2026-01-01T00:00:00Z",
    .snapshot 0 [], .page (.socketMessage 0 (.sample .live "2026-01-01T00:00:05Z")),
    .page .refresh, .answerRefresh 0 1 0 "2026-01-01T00:00:05Z"]

theorem metrics_shown_own_plays :
    served.Throughout ServedOwn (.loaded false) (plays ++ [.refreshed 0]) := by
  obtain ⟨t, ran, _⟩ := System.run_passes (plays ++ [.refreshed 0]) (fun _ => true)
    (by decide +kernel : (served.run (.loaded false) (plays ++ [.refreshed 0])).any _ = true)
  exact (metrics_shown_own ran).mpr (System.meets_of_check (by decide +kernel))

/-- The session ends between the answer and its arrival. -/
theorem metrics_outlive_session :
    ∃ t, served.run (.loaded false) (plays ++ [.page (.disconnect false), .refreshed 0]) = some t ∧
      ¬ ServedOwn t := by
  obtain ⟨t, ran, passes⟩ := System.run_passes
    (plays ++ [.page (.disconnect false), .refreshed 0])
    (fun t => t.page.store.session == none && t.page.store.metrics.isSome)
    (by decide +kernel : (served.run (.loaded false)
      (plays ++ [.page (.disconnect false), .refreshed 0])).any _ = true)
  simp only [Bool.and_eq_true, beq_iff_eq] at passes
  refine ⟨t, ran, fun own => ?_⟩
  obtain ⟨metrics, shown⟩ := Option.isSome_iff_exists.mp passes.2
  obtain ⟨session, some, _⟩ := own metrics shown
  cases passes.1.symm.trans some

end Megalo.Frontend
