import Megalo.Frontend.Main
import Megalo.Library.Interleave

/-! When the page plays over a live socket. A page that plays shows its latest attempt's
socket; the two steps that can break this are a snapshot that comes after its socket has
gone, and an exit from XR that fails. -/
namespace Megalo.Frontend

open Transition

/-- While the page plays and no disconnectSession is under way, socket is the latest attempt's
and its close event has not come. -/
def PlaysLive (s : Page) : Prop :=
  s.store.phase = .playing → s.exiting = 0 → ∃ i a, s.socket = some i ∧
    s.attempts[i]? = some a ∧ s.isCurrent a = true ∧ a.closeDelivered = false

/-- The socket is the latest attempt's. -/
def Page.onLatest (s : Page) : Bool :=
  (s.socket.bind fun i => s.attempts[i]?).any s.isCurrent

/-- The latest attempt's snapshot comes while socket is its own, and an exit from XR that
fails ends the last disconnectSession with the latest socket or out of play. -/
def staysLive (s : Page) : PageEvent → Bool
  | .snapshot i (.ok _) => match s.attempts[i]? with
    | some a => !s.isCurrent a || s.socket == some i || s.exiting != 0
    | none => true
  | .exited true => s.exiting != 1 || s.store.phase != .playing || s.onLatest
  | _ => true

/-- Attempts have ids of their own, and the socket has opened and not closed since. -/
structure Sound (s : Page) : Prop where
  bounded : ∀ (i : Nat) a, s.attempts[i]? = some a → a.attemptId ≤ s.connectionAttemptId
  distinct : ∀ (i j : Nat) a b, s.attempts[i]? = some a → s.attempts[j]? = some b →
    a.attemptId = b.attemptId → i = j
  held : ∀ i, s.socket = some i → ∃ a, s.attempts[i]? = some a ∧ a.opened = true
  fresh : ∀ i a, s.socket = some i → s.attempts[i]? = some a → s.isCurrent a = true →
    a.closeDelivered = false
  closed : ∀ (i : Nat) a, s.attempts[i]? = some a → a.closeDelivered = true →
    a.readyState = .closed

section Kept

variable {s : Page} {i : Nat} {f : Attempt → Attempt}

theorem setAttempt_some {j : Nat} {b : Attempt} (found : (s.setAttempt i f).attempts[j]? = some b) :
    ∃ a, s.attempts[j]? = some a ∧ (i = j ∧ b = f a ∨ i ≠ j ∧ b = a) := by
  simp only [Page.setAttempt, List.getElem?_modify, Option.map_eq_map, Option.map_eq_some_iff]
    at found
  obtain ⟨a, old, same⟩ := found
  refine ⟨a, old, ?_⟩
  split at same
  · exact .inl ⟨‹_›, same.symm⟩
  · exact .inr ⟨‹_›, same.symm⟩

theorem Sound.setAttempt (sound : Sound s) (ids : ∀ a, (f a).attemptId = a.attemptId)
    (opened : ∀ a, a.opened = true → (f a).opened = true)
    (closed : ∀ a, s.attempts[i]? = some a → (f a).closeDelivered = true →
      (f a).readyState = .closed)
    (fresh : s.socket = some i → ∀ a, s.attempts[i]? = some a → s.isCurrent a = true →
      (f a).closeDelivered = false) : Sound (s.setAttempt i f) := by
  have named : ∀ (j : Nat) b, (s.setAttempt i f).attempts[j]? = some b →
      ∃ a, s.attempts[j]? = some a ∧ b.attemptId = a.attemptId := by
    intro j b found
    obtain ⟨a, old, ⟨_, rfl⟩ | ⟨_, rfl⟩⟩ := setAttempt_some found
    · exact ⟨a, old, ids a⟩
    · exact ⟨b, old, rfl⟩
  refine ⟨fun j b found => ?_, fun j k b c at_j at_k same => ?_, fun j socket => ?_,
    fun j b socket found current => ?_, fun j b found delivered => ?_⟩
  · obtain ⟨a, old, id⟩ := named j b found
    exact id ▸ sound.bounded j a old
  · obtain ⟨a, old, id⟩ := named j b at_j
    obtain ⟨a', old', id'⟩ := named k c at_k
    exact sound.distinct j k a a' old old' (id ▸ id' ▸ same)
  · obtain ⟨a, old, is_open⟩ := sound.held j socket
    by_cases same : i = j
    · exact ⟨f a, by simp [Page.setAttempt, old, same], opened a is_open⟩
    · exact ⟨a, by simp [Page.setAttempt, old, same], is_open⟩
  · obtain ⟨a, old, ⟨rfl, rfl⟩ | ⟨_, rfl⟩⟩ := setAttempt_some found
    · refine fresh socket a old ?_
      simpa only [Page.isCurrent, Page.setAttempt, ids] using current
    · exact sound.fresh j b socket old current
  · obtain ⟨a, old, ⟨rfl, rfl⟩ | ⟨_, rfl⟩⟩ := setAttempt_some found
    · exact closed a old delivered
    · exact sound.closed j b old delivered

theorem Sound.awaits (sound : Sound s) (i : Nat) (awaits : Awaiting) :
    Sound (s.setAttempt i fun a => { a with awaits := awaits }) :=
  sound.setAttempt (fun _ => rfl) (fun _ => id) (sound.closed i)
    fun socket a found current => sound.fresh i a socket found current

/-- A change beside the sockets. -/
theorem Sound.aside {t : Page} (sound : Sound s) (attempts : t.attempts = s.attempts)
    (socket : t.socket = s.socket) (id : t.connectionAttemptId = s.connectionAttemptId) :
    Sound t := by
  constructor
  · rw [attempts, id]
    exact sound.bounded
  · rw [attempts]
    exact sound.distinct
  · rw [attempts, socket]
    exact sound.held
  · simp only [attempts, socket, Page.isCurrent, id]
    exact sound.fresh
  · rw [attempts]
    exact sound.closed

theorem Sound.noSocket (sound : Sound s) : Sound { s with socket := none } :=
  ⟨sound.bounded, sound.distinct, nofun, nofun, sound.closed⟩

theorem Sound.closeSocket (sound : Sound s) (i : Nat) : Sound (s.closeSocket i) :=
  sound.setAttempt (fun _ => rfl) (fun _ => id)
    (fun a found delivered => if_pos (sound.closed i a found delivered))
    fun socket a found current => sound.fresh i a socket found current

theorem Sound.dropSocket (sound : Sound s) : Sound s.dropSocket := by
  unfold Page.dropSocket
  split
  · exact sound
  · exact sound.noSocket.closeSocket _

theorem onLatest_iff : s.onLatest = true ↔
    ∃ i a, s.socket = some i ∧ s.attempts[i]? = some a ∧ s.isCurrent a = true := by
  simp only [Page.onLatest, Option.any_eq_true, Option.bind_eq_some_iff]
  exact ⟨fun ⟨a, ⟨i, socket, found⟩, current⟩ => ⟨i, a, socket, found, current⟩,
    fun ⟨i, a, socket, found, current⟩ => ⟨a, ⟨i, socket, found⟩, current⟩⟩

theorem Sound.plays_iff (sound : Sound s) :
    PlaysLive s ↔ (s.store.phase = .playing → s.exiting = 0 → s.onLatest = true) := by
  simp only [PlaysLive, onLatest_iff]
  refine imp_congr_right fun _ => imp_congr_right fun _ => ⟨?_, ?_⟩
  · exact fun ⟨i, a, socket, found, current, _⟩ => ⟨i, a, socket, found, current⟩
  · exact fun ⟨i, a, socket, found, current⟩ =>
      ⟨i, a, socket, found, current, sound.fresh i a socket found current⟩

/-- The latest attempt's socket is the module variable or none is. -/
theorem Sound.onLatest_current (sound : Sound s) {a : Attempt} (found : s.attempts[i]? = some a)
    (current : s.isCurrent a = true) : s.onLatest = true ↔ s.socket = some i := by
  rw [onLatest_iff]
  constructor
  · rintro ⟨j, b, socket, found', current'⟩
    have same : b.attemptId = a.attemptId :=
      (beq_iff_eq.mp current').trans (beq_iff_eq.mp current).symm
    rw [socket, sound.distinct j i b a found' found same]
  · exact fun socket => ⟨i, a, socket, found, current⟩

theorem onLatest_setAttempt (ids : ∀ a, (f a).attemptId = a.attemptId) :
    (s.setAttempt i f).onLatest = s.onLatest := by
  simp only [Page.onLatest, Page.setAttempt]
  cases s.socket with
  | none => rfl
  | some j =>
    simp only [Option.bind_some, List.getElem?_modify]
    cases s.attempts[j]? with
    | none => rfl
    | some a =>
      by_cases same : i = j <;> simp [Page.isCurrent, same, ids]

theorem dropSocket_store (s : Page) : s.dropSocket.store = s.store := by
  unfold Page.dropSocket
  split <;> rfl

theorem onLatest_closeSocket : (s.closeSocket i).onLatest = s.onLatest :=
  onLatest_setAttempt fun _ => rfl

/-- A step that an invariant of the page survives, and its play. -/
structure Plays (s t : Page) : Prop where
  sound : Sound t
  live : PlaysLive s → PlaysLive t

theorem Plays.trans {t u : Page} (first : Plays s t) (second : Plays t u) : Plays s u :=
  ⟨second.sound, fun live => second.live (first.live live)⟩

theorem Plays.stopped {t : Page} (sound : Sound t) (stopped : t.store.phase ≠ .playing) :
    Plays s t := ⟨sound, fun _ playing => absurd playing stopped⟩

theorem Plays.same {t : Page} (before : Sound s) (sound : Sound t)
    (phase : t.store.phase = s.store.phase) (exiting : t.exiting = s.exiting)
    (latest : t.onLatest = s.onLatest) : Plays s t :=
  ⟨sound, fun live => sound.plays_iff.mpr (by
    rw [phase, exiting, latest]
    exact before.plays_iff.mp live)⟩

theorem Sound.failSession (sound : Sound s) (i : Nat) (a : Attempt) (message : String) :
    Plays s (s.failSession i a message) := by
  have awaits := sound.awaits i .nothing
  simp only [Page.failSession]
  split
  · have dropped := awaits.dropSocket
    exact .stopped (dropped.aside rfl rfl rfl) nofun
  · exact .same sound awaits rfl rfl (onLatest_setAttempt fun _ => rfl)

theorem Sound.rejectSocket (sound : Sound s) (i : Nat) (a : Attempt) (message : String) :
    Plays s (s.rejectSocket i a message) := by
  unfold Page.rejectSocket
  split
  · exact sound.failSession i a message
  · exact ⟨sound, id⟩

theorem Sound.startSession (sound : Sound s) : Plays s s.startSession := by
  simp only [Page.startSession]
  split
  · exact ⟨sound, id⟩
  · have split : ∀ (j : Nat) b, (s.attempts ++ [(⟨s.connectionAttemptId + 1, .connecting, false,
        false, .socket⟩ : Attempt)])[j]? = some b → s.attempts[j]? = some b ∨
          j = s.attempts.length ∧ b = ⟨s.connectionAttemptId + 1, .connecting, false, false, .socket⟩ :=
      fun j b found => Composite.getElem?_append_one found
    refine .stopped ⟨fun j b found => ?_, fun j k b c at_j at_k same => ?_, fun j socket => ?_,
      fun j b socket found current => ?_, fun j b found delivered => ?_⟩ nofun
    · rcases split j b found with old | ⟨_, rfl⟩
      · exact Nat.le_succ_of_le (sound.bounded j b old)
      · exact Nat.le_refl _
    · rcases split j b at_j with old | ⟨last, rfl⟩ <;> rcases split k c at_k with old' | ⟨last', rfl⟩
      · exact sound.distinct j k b c old old' same
      · exact absurd (sound.bounded j b old) (by simp [same])
      · exact absurd (sound.bounded k c old') (by simp [← same])
      · exact last.trans last'.symm
    · obtain ⟨a, old, is_open⟩ := sound.held j socket
      exact ⟨a, Composite.getElem?_append_kept old, is_open⟩
    · rcases split j b found with old | ⟨_, rfl⟩
      · have same : b.attemptId = s.connectionAttemptId + 1 := beq_iff_eq.mp current
        exact absurd (sound.bounded j b old) (by simp [same])
      · rfl
    · rcases split j b found with old | ⟨_, rfl⟩
      · exact sound.closed j b old delivered
      · cases delivered

theorem Sound.patchMessage (sound : Sound s) (message : String) :
    Plays s (s.patchMessage message) :=
  .same sound (sound.aside rfl rfl rfl) rfl rfl rfl

theorem Sound.onOpen (sound : Sound s) {a : Attempt} (found : s.attempts[i]? = some a)
    (connecting : a.readyState = .connecting) :
    Plays s ((s.setAttempt i fun a => { a with readyState := .opened }).onOpen i a) := by
  have undelivered : a.closeDelivered = false := by
    rw [Bool.eq_false_iff]
    intro delivered
    cases connecting.symm.trans (sound.closed i a found delivered)
  have opened : Sound (s.setAttempt i fun a => { a with readyState := .opened }) := by
    refine sound.setAttempt (fun _ => rfl) (fun _ => id) (fun b found' delivered => ?_)
      fun socket b found' current => sound.fresh i b socket found' current
    cases found.symm.trans found'
    exact absurd delivered (by simp [undelivered])
  unfold Page.onOpen
  split
  · rename_i current
    have synced : Sound ((s.setAttempt i fun a => { a with readyState := .opened }).setAttempt i
        fun a => { a with opened := true, awaits := .snapshot }) :=
      opened.setAttempt (fun _ => rfl) (fun _ _ => rfl) (opened.closed i)
        fun socket b found' current => opened.fresh i b socket found' current
    have there : ((s.setAttempt i fun a => { a with readyState := .opened }).setAttempt i
        fun a => { a with opened := true, awaits := .snapshot }).attempts[i]? =
          some { a with readyState := .opened, opened := true, awaits := .snapshot } := by
      simp [Page.setAttempt, found]
    refine ⟨⟨synced.bounded, synced.distinct, fun j socket => ?_, fun j b socket found' _ => ?_,
      synced.closed⟩, fun _ _ _ => ?_⟩
    · cases socket
      exact ⟨_, there, rfl⟩
    · cases socket
      cases there.symm.trans found'
      exact undelivered
    · exact ⟨i, _, rfl, there, current, undelivered⟩
  · have closing := opened.closeSocket i
    refine (Plays.same sound closing rfl rfl ?_).trans (closing.rejectSocket i a _)
    exact onLatest_closeSocket.trans (onLatest_setAttempt fun _ => rfl)

theorem Sound.onMessage (sound : Sound s) (a : Attempt) (pod : SlaveState) :
    Plays s (s.onMessage i a pod) := by
  unfold Page.onMessage
  split
  · exact .same sound (sound.aside rfl rfl rfl) rfl rfl rfl
  · exact ⟨sound, id⟩

theorem Sound.onError (sound : Sound s) (a : Attempt) : Plays s (s.onError i a) := by
  unfold Page.onError
  split
  · exact ⟨sound, id⟩
  · split
    · exact sound.rejectSocket i a _
    · split
      · exact ⟨sound, id⟩
      · exact sound.patchMessage _

theorem Sound.socketClose (sound : Sound s) {a : Attempt} (found : s.attempts[i]? = some a) :
    Plays s ((s.setAttempt i fun a =>
      { a with readyState := .closed, closeDelivered := true }).onClose i a) := by
  have delivered : (s.isCurrent a = true → s.socket ≠ some i) →
      Plays s (s.setAttempt i fun a => { a with readyState := .closed, closeDelivered := true }) := by
    intro apart
    refine .same sound (sound.setAttempt (fun _ => rfl) (fun _ => id) (fun _ _ _ => rfl) ?_) rfl rfl
      (onLatest_setAttempt fun _ => rfl)
    intro socket b found' current
    cases found.symm.trans found'
    exact absurd socket (apart current)
  unfold Page.onClose
  split
  · rename_i stale
    exact delivered fun current => absurd (current.symm.trans stale) nofun
  · split
    · rename_i unopened
      have apart : s.socket ≠ some i := by
        intro socket
        obtain ⟨b, found', is_open⟩ := sound.held i socket
        cases found.symm.trans found'
        cases unopened.symm.trans is_open
      exact (delivered fun _ => apart).trans ((delivered fun _ => apart).sound.rejectSocket i a _)
    · split
      · rename_i apart
        exact delivered fun _ => apart
      · have closed : Sound (({ s with socket := none } : Page).setAttempt i fun a =>
            { a with readyState := .closed, closeDelivered := true }) :=
          sound.noSocket.setAttempt (fun _ => rfl) (fun _ => id) (fun _ _ _ => rfl) nofun
        exact .stopped (closed.aside rfl rfl rfl) nofun

theorem Sound.finishDisconnect (sound : Sound s) : Plays s s.finishDisconnect := by
  have dropped := sound.dropSocket
  exact .stopped (dropped.aside rfl rfl rfl) nofun

theorem Sound.disconnectSession (sound : Sound s) (presenting : Bool) :
    Plays s (s.disconnectSession presenting) := by
  have later : Sound { s with
      connectionAttemptId := s.connectionAttemptId + 1, metricsRefreshTimer := false } := by
    refine ⟨fun j b found => Nat.le_succ_of_le (sound.bounded j b found), sound.distinct, sound.held,
      fun j b socket found current => ?_, sound.closed⟩
    have same : b.attemptId = s.connectionAttemptId + 1 := beq_iff_eq.mp current
    exact absurd (sound.bounded j b found) (by simp [same])
  cases presenting with
  | true =>
    exact ⟨later.aside rfl rfl rfl, fun _ _ apart => absurd apart (Nat.succ_ne_zero _)⟩
  | false => exact ⟨later.finishDisconnect.sound, fun _ => nofun⟩

theorem Sound.socketError (sound : Sound s) (a : Attempt) :
    Plays s ((s.setAttempt i fun a => { a with readyState := .closed }).onError i a) := by
  have closed : Sound (s.setAttempt i fun a => { a with readyState := .closed }) :=
    sound.setAttempt (fun _ => rfl) (fun _ => id) (fun _ _ _ => rfl)
      fun socket b found current => sound.fresh i b socket found current
  exact (Plays.same sound closed rfl rfl (onLatest_setAttempt fun _ => rfl)).trans
    (closed.onError a)

theorem onAttempt_some {t : Page} {fires : Attempt → Bool} {handler : Attempt → Page}
    (taken : s.onAttempt i fires handler = some t) :
    ∃ a, s.attempts[i]? = some a ∧ fires a = true ∧ handler a = t := by
  obtain ⟨a, found, taken⟩ := Option.bind_eq_some_iff.mp taken
  rw [Option.ite_none_right_eq_some] at taken
  exact ⟨a, found, taken.1, Option.some.inj taken.2⟩

/-- A snapshot of the latest attempt sets the page playing, whatever became of its socket. -/
theorem Sound.onSnapshot (sound : Sound s) (live : PlaysLive s) {a : Attempt}
    (found : s.attempts[i]? = some a) (snapshot : Snapshot) :
    Sound (s.onSnapshot i a (.ok snapshot)) ∧
      (PlaysLive (s.onSnapshot i a (.ok snapshot)) ↔
        staysLive s (.snapshot i (.ok snapshot)) = true) := by
  have awaits := sound.awaits i .nothing
  have latest : (s.setAttempt i fun a => { a with awaits := .nothing }).onLatest = s.onLatest :=
    onLatest_setAttempt fun _ => rfl
  simp only [staysLive, found, Page.onSnapshot]
  by_cases current : s.isCurrent a = true
  · have moved : (s.setAttempt i fun a => { a with awaits := .nothing }).isCurrent a = true := current
    rw [if_pos moved]
    have after : Sound { (s.setAttempt i fun a => { a with awaits := .nothing }) with
        store := s.store.hydrateSnapshot snapshot.session snapshot.metrics snapshot.states } :=
      awaits.aside rfl rfl rfl
    refine ⟨after, after.plays_iff.trans ?_⟩
    have own := latest ▸ sound.onLatest_current found current
    simp only [current, Bool.not_true, Bool.false_or, Bool.or_eq_true, beq_iff_eq, bne_iff_ne]
    constructor
    · intro plays
      exact or_iff_not_imp_right.mpr fun none => own.mp (plays rfl (not_not.mp none))
    · rintro (socket | some) _ none
      · exact own.mpr socket
      · exact absurd none some
  · have stale : s.isCurrent a = false := Bool.not_eq_true _ ▸ current
    have moved : (s.setAttempt i fun a => { a with awaits := .nothing }).isCurrent a ≠ true := current
    rw [if_neg moved]
    exact ⟨awaits, iff_of_true ((Plays.same sound awaits rfl rfl latest).live live) (by simp [stale])⟩

/-- An exit from XR that fails leaves the page as it is, with one disconnectSession less. -/
theorem Sound.exitFails (sound : Sound s) (awaits : s.exiting ≠ 0) :
    Sound (s.exitXR true) ∧
      (PlaysLive (s.exitXR true) ↔ staysLive s (.exited true) = true) := by
  have exited : Sound (s.exitXR true) := sound.aside rfl rfl rfl
  refine ⟨exited, exited.plays_iff.trans ?_⟩
  have last : s.exiting - 1 = 0 ↔ s.exiting = 1 := by omega
  show (s.store.phase = .playing → s.exiting - 1 = 0 → s.onLatest = true) ↔ _
  simp only [staysLive, last, Bool.or_eq_true, bne_iff_ne]
  tauto

theorem loaded_attempts (xrSupported : Bool) (i : Nat) :
    (Page.loaded xrSupported).attempts[i]? = none := rfl

theorem sound_loaded (xrSupported : Bool) : Sound (.loaded xrSupported) := by
  constructor
  · intro i a found
    cases (loaded_attempts xrSupported i).symm.trans found
  · intro i j a b found
    cases (loaded_attempts xrSupported i).symm.trans found
  · intro i held
    cases held
  · intro i a held
    cases held
  · intro i a found
    cases (loaded_attempts xrSupported i).symm.trans found

/-- A step keeps the invariant, and keeps the page live exactly when it passes the test. -/
theorem step_plays {t : Page} {e : PageEvent} (sound : Sound s) (live : PlaysLive s)
    (taken : page.step s e = some t) : Sound t ∧ (PlaysLive t ↔ staysLive s e = true) := by
  have kept : ∀ {t : Page}, Plays s t → staysLive s e = true →
      Sound t ∧ (PlaysLive t ↔ staysLive s e = true) :=
    fun plays always => ⟨plays.sound, iff_of_true (plays.live live) always⟩
  cases e with
  | start =>
    cases Option.some.inj taken
    exact kept sound.startSession rfl
  | socketOpen i =>
    obtain ⟨a, found, connecting, rfl⟩ := onAttempt_some taken
    exact kept (sound.onOpen found (beq_iff_eq.mp connecting)) rfl
  | socketMessage i pod =>
    obtain ⟨a, _, _, rfl⟩ := onAttempt_some taken
    exact kept (sound.onMessage a pod) rfl
  | malformed i =>
    obtain ⟨a, _, _, rfl⟩ := onAttempt_some taken
    exact kept (sound.onError a) rfl
  | socketError i =>
    obtain ⟨a, _, _, rfl⟩ := onAttempt_some taken
    exact kept (sound.socketError a) rfl
  | socketClose i =>
    obtain ⟨a, found, _, rfl⟩ := onAttempt_some taken
    exact kept (sound.socketClose found) rfl
  | snapshot i result =>
    obtain ⟨a, found, _, rfl⟩ := onAttempt_some taken
    cases result with
    | error message => exact kept (sound.failSession i a message) rfl
    | ok snapshot => exact sound.onSnapshot live found snapshot
  | disconnect presenting =>
    cases Option.some.inj taken
    exact kept (sound.disconnectSession presenting) rfl
  | exited failed =>
    simp only [page, Option.ite_none_left_eq_some] at taken
    obtain ⟨awaits, taken⟩ := taken
    cases Option.some.inj taken
    cases failed with
    | true => exact sound.exitFails awaits
    | false =>
      have exited : Sound { s with exiting := s.exiting - 1 } := sound.aside rfl rfl rfl
      exact kept ⟨exited.finishDisconnect.sound, fun _ => nofun⟩ rfl
  | refresh =>
    simp only [page, Option.ite_none_right_eq_some] at taken
    cases Option.some.inj taken.2
    exact kept (.same sound (sound.aside rfl rfl rfl) rfl rfl rfl) rfl
  | refreshed metrics =>
    simp only [page, Option.ite_none_left_eq_some] at taken
    cases Option.some.inj taken.2
    cases metrics <;> exact kept (.same sound (sound.aside rfl rfl rfl) rfl rfl rfl) rfl
  | xrStateChange active =>
    cases Option.some.inj taken
    exact kept (.same sound (sound.aside rfl rfl rfl) rfl rfl rfl) rfl

end Kept

/-- The page is live throughout a run exactly when its snapshots find their sockets and its
exits from XR go through. -/
theorem plays_live {xrSupported : Bool} {events : List PageEvent} {t : Page}
    (ran : page.run (.loaded xrSupported) events = some t) :
    page.Throughout PlaysLive (.loaded xrSupported) events ↔
      page.Meets (fun s e => staysLive s e = true) (.loaded xrSupported) events := by
  have idle : PlaysLive (.loaded xrSupported) := nofun
  exact System.throughout_iff (fun _ _ _ sound live taken => step_plays sound live taken)
    (sound_loaded _) idle ran

def sampleSnapshot : Snapshot :=
  ⟨⟨UUID.sample.text, "2026-01-01T00:00:00Z"⟩,
    ⟨UUID.sample.text, 0, 0, "2026-01-01T00:00:00Z"⟩, []⟩

def connects : List PageEvent := [.start, .socketOpen 0, .snapshot 0 (.ok sampleSnapshot)]

theorem plays_live_connected : page.Throughout PlaysLive (.loaded false) connects := by
  obtain ⟨t, ran, _⟩ := System.run_passes connects (fun _ => true)
    (by decide : (page.run (.loaded false) connects).any _ = true)
  exact (plays_live ran).mpr (System.meets_of_check (by decide))

/-- The socket closes while the snapshot is on its way. -/
def closesEarly : List PageEvent :=
  [.start, .socketOpen 0, .socketClose 0, .snapshot 0 (.ok sampleSnapshot)]

theorem plays_without_socket : ∃ t, page.run (.loaded false) closesEarly = some t ∧
    ¬ PlaysLive t := by
  obtain ⟨t, ran, passes⟩ := System.run_passes closesEarly
    (fun t => t.store.phase == .playing && t.exiting == 0 && t.socket == none)
    (by decide : (page.run (.loaded false) closesEarly).any _ = true)
  simp only [Bool.and_eq_true, beq_iff_eq] at passes
  obtain ⟨⟨playing, alive⟩, none⟩ := passes
  refine ⟨t, ran, fun live => ?_⟩
  obtain ⟨i, a, socket, _⟩ := live playing alive
  cases none.symm.trans socket

end Megalo.Frontend
