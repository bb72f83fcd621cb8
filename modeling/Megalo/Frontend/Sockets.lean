import Megalo.Frontend.Playing

/-! The sockets of abandoned attempts. A socket opens as the module variable or is closed as it
opens, and the module variable gives up no socket without closing it. -/
namespace Megalo.Frontend

open Transition

/-- Every open socket is the module variable. -/
def NoneLeaks (s : Page) : Prop :=
  ∀ (i : Nat) a, s.attempts[i]? = some a → a.readyState = .opened → s.socket = some i

/-- A message, readable or not, on a socket that is not the module variable or not the latest
attempt's changes no pod. -/
def Inert (s : Page) : Prop :=
  ∀ (i : Nat) a, s.attempts[i]? = some a → (s.socket ≠ some i ∨ s.isCurrent a = false) →
    (∀ pod, (s.onMessage i a pod).store.podsById = s.store.podsById) ∧
      (s.onError i a).store.podsById = s.store.podsById

/-- Attempts have ids of their own, and no socket is open while the latest one's is to come. -/
structure Owned (s : Page) : Prop where
  bounded : ∀ (i : Nat) a, s.attempts[i]? = some a → a.attemptId ≤ s.connectionAttemptId
  distinct : ∀ (i j : Nat) a b, s.attempts[i]? = some a → s.attempts[j]? = some b →
    a.attemptId = b.attemptId → i = j
  owns : NoneLeaks s
  alone : ∀ (i : Nat) a, s.attempts[i]? = some a → s.isCurrent a = true →
    a.readyState = .connecting → ∀ (j : Nat) b, s.attempts[j]? = some b → b.readyState ≠ .opened

section Owned

variable {s : Page} {i : Nat} {f : Attempt → Attempt}

theorem setAttempt_twice (g : Attempt → Attempt) :
    (s.setAttempt i f).setAttempt i g = s.setAttempt i (g ∘ f) := by
  simp only [Page.setAttempt, List.modify_modify_eq]

/-- A change of one attempt that neither opens a socket nor sets one connecting. -/
theorem Owned.setAttempt (owned : Owned s) (ids : ∀ a, (f a).attemptId = a.attemptId)
    (opened : ∀ a, s.attempts[i]? = some a → (f a).readyState = .opened → a.readyState = .opened)
    (connecting : ∀ a, (f a).readyState = .connecting → a.readyState = .connecting) :
    Owned (s.setAttempt i f) := by
  have before : ∀ (j : Nat) b, (s.setAttempt i f).attempts[j]? = some b →
      ∃ a, s.attempts[j]? = some a ∧ b.attemptId = a.attemptId ∧
        (b.readyState = .opened → a.readyState = .opened) ∧
        (b.readyState = .connecting → a.readyState = .connecting) := by
    intro j b found
    obtain ⟨a, old, ⟨rfl, rfl⟩ | ⟨_, rfl⟩⟩ := setAttempt_some found
    · exact ⟨a, old, ids a, opened a old, connecting a⟩
    · exact ⟨b, old, rfl, id, id⟩
  constructor
  · intro j b found
    obtain ⟨a, old, same, -, -⟩ := before j b found
    exact same ▸ owned.bounded j a old
  · intro j k b c at_j at_k equal
    obtain ⟨a, old, same, -, -⟩ := before j b at_j
    obtain ⟨a', old', same', -, -⟩ := before k c at_k
    exact owned.distinct j k a a' old old' (same ▸ same' ▸ equal)
  · intro j b found is_open
    obtain ⟨a, old, -, was, -⟩ := before j b found
    exact owned.owns j a old (was is_open)
  · intro j b found current waits k c at_k is_open
    obtain ⟨a, old, same, -, waited⟩ := before j b found
    obtain ⟨a', old', -, was, -⟩ := before k c at_k
    have latest : s.isCurrent a = true := by
      simpa only [Page.isCurrent, Page.setAttempt, same] using current
    exact owned.alone j a old latest (waited waits) k a' old' (was is_open)

/-- A change beside the sockets. -/
theorem Owned.aside {t : Page} (owned : Owned s) (attempts : t.attempts = s.attempts)
    (socket : t.socket = s.socket) (id : t.connectionAttemptId = s.connectionAttemptId) :
    Owned t := by
  constructor
  · rw [attempts, id]
    exact owned.bounded
  · rw [attempts]
    exact owned.distinct
  · rw [NoneLeaks, attempts, socket]
    exact owned.owns
  · simp only [attempts, Page.isCurrent, id]
    exact owned.alone

theorem Owned.awaits (owned : Owned s) (i : Nat) (awaits : Awaiting) :
    Owned (s.setAttempt i fun a => { a with awaits := awaits }) :=
  owned.setAttempt (fun _ => rfl) (fun _ _ => id) (fun _ => id)

theorem Owned.closeSocket (owned : Owned s) (i : Nat) : Owned (s.closeSocket i) := by
  refine owned.setAttempt (fun _ => rfl) ?_ ?_
  · intro a _ is_open
    dsimp only at is_open
    split at is_open <;> cases is_open
  · intro a waits
    dsimp only at waits
    split at waits <;> cases waits

/-- The module variable may be emptied where its socket is not open. -/
theorem Owned.noSocket (owned : Owned s)
    (shut : ∀ (i : Nat) a, s.attempts[i]? = some a → a.readyState ≠ .opened) :
    Owned { s with socket := none } :=
  ⟨owned.bounded, owned.distinct, fun i a found is_open => absurd is_open (shut i a found),
    owned.alone⟩

theorem dropSocket_shut (owned : Owned s) :
    ∀ (i : Nat) a, s.dropSocket.attempts[i]? = some a → a.readyState ≠ .opened := by
  intro i a found is_open
  unfold Page.dropSocket at found
  split at found
  · rename_i none
    cases none.symm.trans (owned.owns i a found is_open)
  · rename_i j held
    obtain ⟨b, old, ⟨-, rfl⟩ | ⟨apart, rfl⟩⟩ := setAttempt_some found
    · dsimp only at is_open
      split at is_open <;> cases is_open
    · cases held.symm.trans (owned.owns i a old is_open)
      exact apart rfl

theorem Owned.dropSocket (owned : Owned s) : Owned s.dropSocket := by
  have shut := dropSocket_shut owned
  unfold Page.dropSocket at shut ⊢
  split
  · exact owned
  · rename_i j held
    have closed : Owned (s.closeSocket j) := owned.closeSocket j
    simp only [held] at shut
    exact closed.noSocket shut

theorem Owned.failSession (owned : Owned s) (i : Nat) (a : Attempt) (message : String) :
    Owned (s.failSession i a message) := by
  have awaits := owned.awaits i .nothing
  simp only [Page.failSession]
  split
  · exact awaits.dropSocket.aside rfl rfl rfl
  · exact awaits

theorem Owned.rejectSocket (owned : Owned s) (i : Nat) (a : Attempt) (message : String) :
    Owned (s.rejectSocket i a message) := by
  unfold Page.rejectSocket
  split
  · exact owned.failSession i a message
  · exact owned

/-- A session starts only where the socket it may leave behind is not open. -/
theorem Owned.startSession (owned : Owned s) : Owned s.startSession := by
  simp only [Page.startSession]
  split
  · exact owned
  · rename_i starts
    have shut : ∀ (i : Nat) a, s.attempts[i]? = some a → a.readyState ≠ .opened := by
      intro i a found is_open
      refine starts (.inr ?_)
      simp only [owned.owns i a found is_open, Option.bind_some, found, Option.any_some, is_open,
        beq_self_eq_true]
    have split : ∀ (j : Nat) b, (s.attempts ++ [(⟨s.connectionAttemptId + 1, .connecting, false,
        false, .socket⟩ : Attempt)])[j]? = some b → s.attempts[j]? = some b ∨
          j = s.attempts.length ∧ b = ⟨s.connectionAttemptId + 1, .connecting, false, false, .socket⟩ :=
      fun j b found => Composite.getElem?_append_one found
    have still : ∀ (j : Nat) b, (s.attempts ++ [(⟨s.connectionAttemptId + 1, .connecting, false,
        false, .socket⟩ : Attempt)])[j]? = some b → b.readyState ≠ .opened := by
      intro j b found
      rcases split j b found with old | ⟨-, rfl⟩
      · exact shut j b old
      · intro is_open
        cases is_open
    constructor
    · intro j b found
      rcases split j b found with old | ⟨-, rfl⟩
      · exact Nat.le_succ_of_le (owned.bounded j b old)
      · exact Nat.le_refl _
    · intro j k b c at_j at_k same
      rcases split j b at_j with old | ⟨last, rfl⟩ <;> rcases split k c at_k with old' | ⟨last', rfl⟩
      · exact owned.distinct j k b c old old' same
      · exact absurd (owned.bounded j b old) (by simp [same])
      · exact absurd (owned.bounded k c old') (by simp [← same])
      · exact last.trans last'.symm
    · exact fun j b found is_open => absurd is_open (still j b found)
    · exact fun _ _ _ _ _ j b found => still j b found

/-- A socket that opens for the latest attempt is the only open one; any other is closed as it
opens. -/
theorem Owned.onOpen (owned : Owned s) {a : Attempt} (found : s.attempts[i]? = some a)
    (connecting : a.readyState = .connecting) :
    Owned ((s.setAttempt i fun a => { a with readyState := .opened }).onOpen i a) := by
  unfold Page.onOpen
  split
  · rename_i current
    have latest : s.isCurrent a = true := current
    have others := owned.alone i a found latest connecting
    have before : ∀ (j : Nat) b, ((s.setAttempt i fun a => { a with readyState := .opened }).setAttempt
        i fun a => { a with opened := true, awaits := .snapshot }).attempts[j]? = some b →
          ∃ c, s.attempts[j]? = some c ∧ b.attemptId = c.attemptId ∧
            (i = j ∧ b.readyState = .opened ∨ i ≠ j ∧ b = c) := by
      intro j b found'
      rw [setAttempt_twice] at found'
      obtain ⟨c, old, ⟨same, rfl⟩ | ⟨apart, rfl⟩⟩ := setAttempt_some found'
      · exact ⟨c, old, rfl, .inl ⟨same, rfl⟩⟩
      · exact ⟨b, old, rfl, .inr ⟨apart, rfl⟩⟩
    constructor
    · intro j b found'
      obtain ⟨c, old, same, -⟩ := before j b found'
      exact same ▸ owned.bounded j c old
    · intro j k b c at_j at_k equal
      obtain ⟨d, old, same, -⟩ := before j b at_j
      obtain ⟨d', old', same', -⟩ := before k c at_k
      exact owned.distinct j k d d' old old' (same ▸ same' ▸ equal)
    · intro j b found' is_open
      obtain ⟨c, old, -, ⟨rfl, -⟩ | ⟨-, rfl⟩⟩ := before j b found'
      · rfl
      · exact absurd is_open (others j b old)
    · intro j b found' current' waits
      obtain ⟨c, old, same, ⟨rfl, is_open⟩ | ⟨apart, rfl⟩⟩ := before j b found'
      · cases waits.symm.trans is_open
      · have own : b.attemptId = a.attemptId :=
          (beq_iff_eq.mp current').trans (beq_iff_eq.mp latest).symm
        exact absurd (owned.distinct i j a b found old own.symm) apart
  · have closing : Owned ((s.setAttempt i fun a => { a with readyState := .opened }).closeSocket
        i) := by
      rw [Page.closeSocket, setAttempt_twice]
      exact owned.setAttempt (fun _ => rfl) (fun _ _ => nofun) (fun _ => nofun)
    exact closing.rejectSocket i a _

theorem Owned.onError (owned : Owned s) (a : Attempt) : Owned (s.onError i a) := by
  unfold Page.onError
  split
  · exact owned
  · split
    · exact owned.rejectSocket i a _
    · split
      · exact owned
      · exact owned.aside rfl rfl rfl

theorem Owned.onClose (owned : Owned s) {a : Attempt} :
    Owned ((s.setAttempt i fun a =>
      { a with readyState := .closed, closeDelivered := true }).onClose i a) := by
  have closed : Owned (s.setAttempt i fun a =>
      { a with readyState := .closed, closeDelivered := true }) :=
    owned.setAttempt (fun _ => rfl) (fun _ _ => nofun) (fun _ => nofun)
  unfold Page.onClose
  split
  · exact closed
  · split
    · exact closed.rejectSocket i a _
    · split
      · exact closed
      · rename_i own
        have held : s.socket = some i := not_not.mp own
        have shut : ∀ (j : Nat) b, (s.setAttempt i fun a =>
            { a with readyState := .closed, closeDelivered := true }).attempts[j]? = some b →
              b.readyState ≠ .opened := by
          intro j b found is_open
          obtain ⟨c, old, ⟨-, rfl⟩ | ⟨apart, rfl⟩⟩ := setAttempt_some found
          · cases is_open
          · cases held.symm.trans (owned.owns j b old is_open)
            exact apart rfl
        exact (closed.noSocket shut).aside rfl rfl rfl

theorem Owned.disconnectSession (owned : Owned s) (presenting : Bool) :
    Owned (s.disconnectSession presenting) := by
  have later : Owned { s with
      connectionAttemptId := s.connectionAttemptId + 1, metricsRefreshTimer := false } := by
    refine ⟨fun j b found => Nat.le_succ_of_le (owned.bounded j b found), owned.distinct, owned.owns,
      fun j b found current => ?_⟩
    have same : b.attemptId = s.connectionAttemptId + 1 := beq_iff_eq.mp current
    exact absurd (owned.bounded j b found) (by simp [same])
  cases presenting with
  | true => exact later.aside rfl rfl rfl
  | false => exact later.dropSocket.aside rfl rfl rfl

theorem owned_loaded (xrSupported : Bool) : Owned (.loaded xrSupported) := by
  constructor
  · intro i a found
    cases (loaded_attempts xrSupported i).symm.trans found
  · intro i j a b found
    cases (loaded_attempts xrSupported i).symm.trans found
  · intro i a found
    cases (loaded_attempts xrSupported i).symm.trans found
  · intro i a found
    cases (loaded_attempts xrSupported i).symm.trans found

theorem step_owned {t : Page} {e : PageEvent} (owned : Owned s)
    (taken : page.step s e = some t) : Owned t := by
  cases e with
  | start =>
    cases Option.some.inj taken
    exact owned.startSession
  | socketOpen i =>
    obtain ⟨a, found, connecting, rfl⟩ := onAttempt_some taken
    exact owned.onOpen found (beq_iff_eq.mp connecting)
  | socketMessage i pod =>
    obtain ⟨a, _, _, rfl⟩ := onAttempt_some taken
    unfold Page.onMessage
    split
    · exact owned.aside rfl rfl rfl
    · exact owned
  | malformed i =>
    obtain ⟨a, _, _, rfl⟩ := onAttempt_some taken
    exact owned.onError a
  | socketError i =>
    obtain ⟨a, _, _, rfl⟩ := onAttempt_some taken
    have closed : Owned (s.setAttempt i fun a => { a with readyState := .closed }) :=
      owned.setAttempt (fun _ => rfl) (fun _ _ => nofun) (fun _ => nofun)
    exact closed.onError a
  | socketClose i =>
    obtain ⟨a, _, _, rfl⟩ := onAttempt_some taken
    exact owned.onClose
  | snapshot i result =>
    obtain ⟨a, _, _, rfl⟩ := onAttempt_some taken
    cases result with
    | error message => exact owned.failSession i a message
    | ok snapshot =>
      have awaits : Owned (s.setAttempt i fun a => { a with awaits := .nothing }) :=
        owned.awaits i .nothing
      simp only [Page.onSnapshot]
      split
      · exact awaits.aside rfl rfl rfl
      · exact awaits
  | disconnect presenting =>
    cases Option.some.inj taken
    exact owned.disconnectSession presenting
  | exited failed =>
    simp only [page, Option.ite_none_left_eq_some] at taken
    cases Option.some.inj taken.2
    have exited : Owned { s with exiting := s.exiting - 1 } := owned.aside rfl rfl rfl
    cases failed with
    | true => exact exited
    | false => exact exited.dropSocket.aside rfl rfl rfl
  | refresh =>
    simp only [page, Option.ite_none_right_eq_some] at taken
    cases Option.some.inj taken.2
    exact owned.aside rfl rfl rfl
  | refreshed metrics =>
    simp only [page, Option.ite_none_left_eq_some] at taken
    cases Option.some.inj taken.2
    cases metrics <;> exact owned.aside rfl rfl rfl
  | xrStateChange active =>
    cases Option.some.inj taken
    exact owned.aside rfl rfl rfl

/-- No handler of a socket's error touches the pods. -/
theorem onError_pods (a : Attempt) : (s.onError i a).store.podsById = s.store.podsById := by
  unfold Page.onError
  split
  · rfl
  · split
    · unfold Page.rejectSocket
      split
      · simp only [Page.failSession]
        split
        · simp only [dropSocket_store]
          rfl
        · rfl
      · rfl
    · split <;> rfl

theorem inert (s : Page) : Inert s := by
  intro i a _ stale
  refine ⟨fun pod => ?_, onError_pods a⟩
  unfold Page.onMessage
  split
  · rename_i fresh
    rcases stale with other | old
    · exact absurd fresh.2 other
    · exact absurd (fresh.1.symm.trans old) nofun
  · rfl

end Owned

/-- In every state of the page, what comes on a stale socket is dropped, and every open socket is
the module variable. -/
theorem sockets_owned {xrSupported : Bool} {s : Page}
    (reached : page.Reachable (.loaded xrSupported) s) : Inert s ∧ NoneLeaks s := by
  have owned : Owned s :=
    reached.invariant (owned_loaded xrSupported) fun _ _ _ before _ taken => step_owned before taken
  exact ⟨inert s, owned.owns⟩

/-- A session is disconnected while its socket connects, and another is started; the first socket
opens after that. -/
def reconnects : List PageEvent :=
  [.start, .disconnect false, .start, .socketOpen 0, .socketOpen 1]

theorem sockets_owned_reconnects : ∃ s, page.run (.loaded false) reconnects = some s ∧
    s.socket = some 1 ∧ Inert s ∧ NoneLeaks s := by
  obtain ⟨s, ran, passes⟩ := System.run_passes reconnects (fun s => s.socket == some 1)
    (by decide : (page.run (.loaded false) reconnects).any _ = true)
  exact ⟨s, ran, beq_iff_eq.mp passes, sockets_owned (System.run_reachable ran)⟩

end Megalo.Frontend
