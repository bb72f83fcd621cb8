import Megalo.Session.Handlers

/-! The session slot. At most one goroutine is busy with the slot or with the end
of the session, and the guarded fields say which one it can be. -/
namespace Megalo.Session

/-- What a goroutine is to the slot: a holder that has not committed a session, a
holder attached to one, the finalizer of one, or none of these. -/
inductive Role
  | outside
  | pending
  | attached (sessionMeta : SessionMeta)
  | finalizing (sessionID : String)
  deriving DecidableEq

def Thread.role : Thread → Role
  | .reserved sessionMeta true | .connected sessionMeta | .closing sessionMeta _ =>
    .attached sessionMeta
  | .reserved _ false | .starting | .started _ | .failed => .pending
  | .finalizing S | .ended S => .finalizing S
  | .idle | .refused | .scheduling _ | .finishing _ _ | .returned _ => .outside

/-- Between a successful tryBeginSessionConnection and the release of the slot. -/
def Thread.Holds (t : Thread) : Prop := t.role = .pending ∨ ∃ m, t.role = .attached m

def Committed (log : List Entry) (S : String) : Prop :=
  ∃ m, .committed m ∈ log ∧ m.sessionID = S

/-- The fields while the busy goroutine, if any, has the role. -/
def Fits (s : MasterServer) (log : List Entry) : Role → Prop
  | .outside => s.clientConnected = false ∧ s.sessionClosing = false ∧
      (s.sessionID = "" ∨ .committed s.sessionMeta ∈ log ∧ s.sessionMeta.sessionID = s.sessionID)
  | .pending => s.clientConnected = true ∧ s.sessionClosing = false ∧ s.sessionID = "pending"
  | .attached m => s.clientConnected = true ∧ s.sessionClosing = false ∧
      s.sessionMeta = m ∧ .committed m ∈ log ∧ m.sessionID = s.sessionID
  | .finalizing S => s.clientConnected = false ∧ s.sessionClosing = true ∧ s.sessionID = S ∧
      .committed s.sessionMeta ∈ log ∧ s.sessionMeta.sessionID = S

structure Slot (w : World) : Prop where
  solo : ∀ g h, (w.threads g).role ≠ .outside → (w.threads h).role ≠ .outside → g = h
  busy : ∀ g, (w.threads g).role ≠ .outside →
    Fits w.memory.server w.log (w.threads g).role
  free : (∀ g, (w.threads g).role = .outside) → Fits w.memory.server w.log .outside
  issued : ∀ m, .committed m ∈ w.log → ∃ u : UUID, u.text = m.sessionID
  started : ∀ g m, w.threads g = .started m → ∃ u : UUID, u.text = m.sessionID

variable {w w' : World} {g : ThreadID} {t : Thread} {grace : Time}

theorem Slot.alone (hs : Slot w) (busy : (w.threads g).role ≠ .outside) :
    ∀ h, h ≠ g → (w.threads h).role = .outside := by
  intro h ne
  by_contra other
  exact ne (hs.solo h g other busy)

theorem Slot.holder (hs : Slot w) (pc : w.threads g = t) (busy : t.role ≠ .outside) :
    (∀ h, h ≠ g → (w.threads h).role = .outside) ∧ Fits w.memory.server w.log t.role := by
  subst pc
  exact ⟨hs.alone busy, hs.busy g busy⟩

theorem Fits.blocked {s : MasterServer} {log : List Entry} {r : Role} (fits : Fits s log r)
    (busy : r ≠ .outside) : Blocked s := by
  cases r with
  | outside => exact absurd rfl busy
  | pending => exact .inr (.inl fits.1)
  | attached m => exact .inr (.inl fits.1)
  | finalizing S => exact .inr (.inr fits.2.1)

theorem Slot.all_outside (hs : Slot w) (free : ¬ Blocked w.memory.server) :
    ∀ g, (w.threads g).role = .outside := by
  intro g
  by_contra busy
  exact free ((hs.busy g busy).blocked busy)

/-- A step of one goroutine while every other one is outside. -/
theorem Slot.move (hs : Slot w) (alone : ∀ h, h ≠ g → (w.threads h).role = .outside)
    (threads : w'.threads = Function.update w.threads g t)
    (fits : Fits w'.memory.server w'.log t.role)
    (issued : ∀ m, .committed m ∈ w'.log → ∃ u : UUID, u.text = m.sessionID)
    (started : ∀ m, t = .started m → ∃ u : UUID, u.text = m.sessionID) : Slot w' := by
  have self : w'.threads g = t := by rw [threads, Function.update_self]
  have rest : ∀ h, h ≠ g → w'.threads h = w.threads h := fun h ne => by
    rw [threads, Function.update_of_ne ne]
  have only : ∀ h, (w'.threads h).role ≠ .outside → h = g := by
    intro h busy
    by_contra ne
    exact busy (rest h ne ▸ alone h ne)
  constructor
  · intro a b ha hb
    rw [only a ha, only b hb]
  · intro a ha
    obtain rfl := only a ha
    exact self.symm ▸ fits
  · intro outside
    exact outside g ▸ self.symm ▸ fits
  · exact issued
  · intro a m ha
    rcases Transition.update_cases (threads ▸ ha) with ⟨_, moved⟩ | ⟨_, old⟩
    · exact started m moved
    · exact hs.started a m old

/-- A step that changes neither the fields nor the role of any goroutine. -/
theorem Slot.stay (hs : Slot w) (server : w'.memory.server = { w.memory.server with
      sessionEndTimer := w'.memory.server.sessionEndTimer })
    (log : ∀ m, Entry.committed m ∈ w'.log ↔ .committed m ∈ w.log)
    (threads : w'.threads = Function.update w.threads g t)
    (role : t.role = (w.threads g).role) (notStarted : ∀ m, t ≠ .started m) : Slot w' := by
  have roles : ∀ h, (w'.threads h).role = (w.threads h).role := by
    intro h
    rw [threads]
    by_cases same : h = g
    · rw [same, Function.update_self, role]
    · rw [Function.update_of_ne same]
  have fits : ∀ r, Fits w.memory.server w.log r → Fits w'.memory.server w'.log r := by
    intro r hr
    cases r <;> simp only [Fits, log] at hr ⊢ <;> rw [server] <;> exact hr
  constructor
  · intro a b ha hb
    exact hs.solo a b (roles a ▸ ha) (roles b ▸ hb)
  · intro a ha
    rw [roles a] at ha ⊢
    exact fits _ (hs.busy a ha)
  · intro outside
    exact fits _ (hs.free fun a => roles a ▸ outside a)
  · exact fun m hm => hs.issued m ((log m).mp hm)
  · intro a m ha
    rw [threads] at ha
    rcases Transition.update_cases ha with ⟨_, moved⟩ | ⟨_, old⟩
    · exact absurd moved (notStarted m)
    · exact hs.started a m old

theorem slot_initial : Slot .initial := by
  constructor
  · intro g h busy
    exact absurd rfl busy
  · intro g busy
    exact absurd rfl busy
  · exact fun _ => ⟨rfl, rfl, .inl rfl⟩
  · intro m hm
    cases hm
  · intro g m hm
    cases hm

theorem slot_request (hs : Slot w) (idle : w.threads g = .idle) : Slot (request w g) := by
  by_cases blocked : Blocked w.memory.server
  · simp only [request, tryBegin_blocked _ blocked, Bool.false_eq_true, if_false]
    exact hs.stay rfl (fun _ => Iff.rfl) rfl (by rw [idle]; rfl) (by simp)
  · have outside := hs.all_outside blocked
    obtain ⟨_, opened, current⟩ := hs.free outside
    by_cases absent : w.memory.server.sessionID = ""
    · simp only [request, tryBegin_reserves _ blocked absent, if_true]
      exact hs.move (fun h _ => outside h) rfl ⟨rfl, opened, rfl⟩ hs.issued (by simp)
    · obtain ⟨member, named⟩ := current.resolve_left absent
      simp only [request, tryBegin_resumes _ blocked absent, if_true]
      exact hs.move (fun h _ => outside h) rfl ⟨rfl, opened, rfl, member, named⟩ hs.issued
        (by simp)

theorem slot_upgrade (hs : Slot w) {m : SessionMeta} {resumed ok : Bool}
    (pc : w.threads g = .reserved m resumed) : Slot (w.goto g (upgraded m resumed ok)) := by
  refine hs.stay rfl (fun _ => Iff.rfl) rfl ?_ ?_
  · rw [pc]
    cases ok <;> cases resumed <;> rfl
  · cases ok <;> cases resumed <;> simp [upgraded]

theorem slot_start (hs : Slot w) {uuid : UUID} {ok : Bool} (pc : w.threads g = .starting) :
    Slot (startSession w g uuid ok) := by
  obtain ⟨alone, fits⟩ := hs.holder pc nofun
  refine hs.move alone rfl ?_ (fun m hm => hs.issued m ?_) ?_
  · cases ok <;> exact fits
  · simpa [startSession, World.goto] using hm
  · intro m hm
    cases ok
    · cases hm
    · cases hm
      exact ⟨uuid, rfl⟩

theorem slot_commit (hs : Slot w) {m : SessionMeta} (pc : w.threads g = .started m) :
    Slot (commit w g m) := by
  obtain ⟨alone, _⟩ := hs.holder pc nofun
  refine hs.move alone rfl ⟨rfl, rfl, rfl, List.mem_cons_self, rfl⟩ ?_ (by simp)
  intro k hk
  rcases List.mem_cons.mp hk with hk | hk
  · cases hk
    exact hs.started g m pc
  · exact hs.issued k hk

theorem slot_abort (hs : Slot w) (pc : w.threads g = .failed) : Slot (abort w g) := by
  obtain ⟨alone, _, opened, pending⟩ := hs.holder pc nofun
  simp only [abort, abort_pending _ pending]
  exact hs.move alone rfl ⟨rfl, opened, .inl rfl⟩ hs.issued (by simp)

theorem Slot.named (hs : Slot w) {m : SessionMeta} (member : .committed m ∈ w.log) :
    isBlank m.sessionID = false ∧ m.sessionID ≠ "" ∧ m.sessionID ≠ "pending" := by
  obtain ⟨u, hu⟩ := hs.issued m member
  exact hu ▸ ⟨u.not_blank, u.text_ne_empty, u.ne_of_length (by decide)⟩

theorem slot_release (hs : Slot w) {m : SessionMeta} {explicit : Bool}
    (pc : w.threads g = .closing m explicit) : Slot (release grace w g m explicit) := by
  obtain ⟨alone, _, opened, same, member, current⟩ := hs.holder pc nofun
  have named := (hs.named member).1
  by_cases now : explicit = true ∨ grace = 0
  · simp only [release, closed_finalizes _ named current.symm opened now]
    refine hs.move alone rfl ⟨rfl, rfl, current.symm, ?_, ?_⟩ hs.issued (by simp)
    · exact same ▸ member
    · exact congrArg _ same
  · simp only [release, closed_schedules _ named current.symm opened now]
    exact hs.move alone rfl ⟨rfl, opened, .inr ⟨same ▸ member, same ▸ current⟩⟩ hs.issued
      (by simp)

theorem slot_schedule (hs : Slot w) {S : String} (pc : w.threads g = .scheduling S) :
    Slot (schedule grace w g S) :=
  hs.stay (schedule_server w.memory) (fun _ => Iff.rfl) rfl (by rw [pc]; rfl) (by simp)

theorem slot_fire (hs : Slot w) {tm : TimerID} {S : String} (idle : w.threads g = .idle) :
    Slot (fire w g tm S) :=
  hs.stay rfl (fun _ => Iff.rfl) rfl (by rw [idle]; rfl) (by simp)

theorem slot_finish (hs : Slot w) {S : String} {tm : TimerID}
    (pc : w.threads g = .finishing S tm) : Slot (finish w g S) := by
  by_cases expires : Expires w.memory.server S
  · simp only [finish, finish_proceeds _ expires, if_true]
    obtain ⟨named, current, left, opened⟩ := expires
    have outside : ∀ h, (w.threads h).role = .outside := by
      intro h
      by_contra busy
      have := hs.busy h busy
      cases role : (w.threads h).role <;> simp [role, Fits, left, opened] at this busy
    obtain ⟨_, _, kept⟩ := hs.free outside
    have present : w.memory.server.sessionID ≠ "" := by
      intro absent
      rw [← current, absent] at named
      cases named
    obtain ⟨member, same⟩ := kept.resolve_left present
    exact hs.move (fun h _ => outside h) rfl ⟨left, rfl, current, member, same.trans current⟩
      hs.issued (by simp)
  · simp only [finish, finish_skips _ expires, Bool.false_eq_true, if_false]
    exact hs.stay rfl (fun _ => Iff.rfl) rfl (by rw [pc]; rfl) (by simp)

theorem slot_end (hs : Slot w) {S : String} (pc : w.threads g = .finalizing S) :
    Slot (endSession w g S) := by
  refine hs.stay rfl (fun m => ?_) rfl (by rw [pc]; rfl) (by simp)
  simp [endSession, World.goto]

theorem slot_finalize (hs : Slot w) {S : String} (pc : w.threads g = .ended S) :
    Slot (finalize w g S) := by
  obtain ⟨alone, _, _, current, _⟩ := hs.holder pc nofun
  simp only [finalize, finalize_current _ current]
  refine hs.move alone rfl ⟨rfl, rfl, .inl rfl⟩ (fun m hm => hs.issued m ?_) (by simp)
  simpa [World.goto] using hm

theorem slot_step {a : Action} (hs : Slot w) (taken : step grace w a = some w') : Slot w' := by
  cases step_taken taken with
  | request idle => exact slot_request hs idle
  | upgrade pc => exact slot_upgrade hs pc
  | startSession pc => exact slot_start hs pc
  | commitSession pc => exact slot_commit hs pc
  | abortPendingSession pc => exact slot_abort hs pc
  | readError pc => exact hs.stay rfl (fun _ => Iff.rfl) rfl (by rw [pc]; rfl) (by simp)
  | handleConnectionClosed pc => exact slot_release hs pc
  | scheduleSessionEnd pc => exact slot_schedule hs pc
  | fire _ idle => exact slot_fire hs idle
  | finishSession pc => exact slot_finish hs pc
  | endSession pc => exact slot_end hs pc
  | finalizeSession pc => exact slot_finalize hs pc
  | tick => exact ⟨hs.solo, hs.busy, hs.free, hs.issued, hs.started⟩

theorem slot_reachable (reached : (machine grace).Reachable .initial w) : Slot w :=
  reached.invariant slot_initial fun _ _ _ hs _ taken => slot_step hs taken

structure Exclusive (w : World) : Prop where
  atMostOne : ∀ g h, (w.threads g).Holds → (w.threads h).Holds → g = h
  connected : w.memory.server.clientConnected = true ↔ ∃ g, (w.threads g).Holds
  pending : w.memory.server.sessionID = "pending" →
    w.memory.server.clientConnected = true ∧ w.memory.server.sessionClosing = false ∧
      ∀ g, (w.threads g).Holds → (w.threads g).role = .pending
  closing : w.memory.server.sessionClosing = true →
    Committed w.log w.memory.server.sessionID ∧ w.memory.server.clientConnected = false ∧
      ∃ g, (w.threads g).role = .finalizing w.memory.server.sessionID ∧
        ∀ h S, (w.threads h).role = .finalizing S → h = g
  finalizer : ∀ g S, (w.threads g).role = .finalizing S →
    w.memory.server.sessionClosing = true ∧ w.memory.server.sessionID = S
  vacant : w.memory.server.sessionID = "" →
    w.memory.server.clientConnected = false ∧ w.memory.server.sessionClosing = false

theorem Thread.Holds.busy (holds : t.Holds) : t.role ≠ .outside := by
  rcases holds with h | ⟨m, h⟩ <;> rw [h] <;> nofun

theorem exclusive_of_outside (hs : Slot w) (outside : ∀ g, (w.threads g).role = .outside) :
    Exclusive w := by
  obtain ⟨left, opened, current⟩ := hs.free outside
  have none : ∀ g, ¬ (w.threads g).Holds := fun g h => h.busy (outside g)
  refine ⟨fun g _ h => absurd h (none g), ?_, ?_, ?_, ?_, fun _ => ⟨left, opened⟩⟩
  · simp only [left, Bool.false_eq_true, none, exists_false]
  · intro pending
    rcases current with absent | ⟨member, same⟩
    · rw [absent] at pending
      contradiction
    · exact absurd (same.trans pending) (hs.named member).2.2
  · simp only [opened, Bool.false_eq_true, false_implies]
  · intro g S role
    rw [outside g] at role
    contradiction

theorem Slot.held (hs : Slot w) (holds : (w.threads g).Holds) :
    w.memory.server.clientConnected = true ∧ w.memory.server.sessionClosing = false ∧
      ((w.threads g).role = .pending ∧ w.memory.server.sessionID = "pending" ∨
        ∃ m, .committed m ∈ w.log ∧ m.sessionID = w.memory.server.sessionID) := by
  have fits := hs.busy g holds.busy
  rcases holds with role | ⟨m, role⟩ <;> rw [role] at fits
  · exact ⟨fits.1, fits.2.1, .inl ⟨role, fits.2.2⟩⟩
  · exact ⟨fits.1, fits.2.1, .inr ⟨m, fits.2.2.2⟩⟩

theorem Slot.only (hs : Slot w) (busy : (w.threads g).role ≠ .outside) {h : ThreadID}
    (other : (w.threads h).role ≠ .outside) : h = g := hs.solo h g other busy

theorem Thread.Holds.not_finalizing (holds : t.Holds) {S : String} : t.role ≠ .finalizing S := by
  rcases holds with own | ⟨m, own⟩ <;> rw [own] <;> nofun

theorem exclusive_of_holder (hs : Slot w) (holds : (w.threads g).Holds) : Exclusive w := by
  obtain ⟨connected, opened, current⟩ := hs.held holds
  constructor
  · exact fun a b ha hb => hs.solo a b ha.busy hb.busy
  · exact iff_of_true connected ⟨g, holds⟩
  · intro pending
    rcases current with ⟨role, _⟩ | ⟨m, member, same⟩
    · refine ⟨connected, opened, fun h other => ?_⟩
      exact hs.only holds.busy other.busy ▸ role
    · exact absurd (same.trans pending) (hs.named member).2.2
  · simp only [opened, Bool.false_eq_true, false_implies]
  · intro h S role
    have mine : h = g := hs.only holds.busy (by rw [role]; nofun)
    exact absurd (mine ▸ role) holds.not_finalizing
  · intro vacant
    rcases current with ⟨_, pending⟩ | ⟨m, member, same⟩
    · exact absurd (vacant.symm.trans pending) (by decide)
    · exact absurd (same.trans vacant) (hs.named member).2.1

theorem exclusive_of_finalizer (hs : Slot w) {S : String}
    (role : (w.threads g).role = .finalizing S) : Exclusive w := by
  have busy : (w.threads g).role ≠ .outside := by rw [role]; nofun
  have fits := hs.busy g busy
  rw [role] at fits
  obtain ⟨left, closing, current, member, named⟩ := fits
  have none : ∀ h, ¬ (w.threads h).Holds := by
    intro h holds
    exact holds.not_finalizing (hs.only busy holds.busy ▸ role)
  constructor
  · exact fun a _ ha _ => absurd ha (none a)
  · simp only [left, Bool.false_eq_true, none, exists_false]
  · intro pending
    exact absurd (named.trans (current.symm.trans pending)) (hs.named member).2.2
  · intro _
    refine ⟨⟨_, member, named.trans current.symm⟩, left, g, by rw [role, current], ?_⟩
    exact fun h R other => hs.only busy (by rw [other]; nofun)
  · intro h R other
    obtain rfl := hs.only busy (h := h) (by rw [other]; nofun)
    cases role.symm.trans other
    exact ⟨closing, current⟩
  · intro vacant
    exact absurd (named.trans (current.symm.trans vacant)) (hs.named member).2.1

/-- In every interleaving of handlers and grace-timer callbacks the slot has at most
one holder, and the guarded fields say who holds it and who finalizes. -/
theorem slot_exclusive (reached : (machine grace).Reachable .initial w) : Exclusive w := by
  have hs := slot_reachable reached
  by_cases outside : ∀ g, (w.threads g).role = .outside
  · exact exclusive_of_outside hs outside
  · obtain ⟨g, busy⟩ := not_forall.mp outside
    cases role : (w.threads g).role with
    | outside => exact absurd role busy
    | pending => exact exclusive_of_holder hs (.inl role)
    | attached m => exact exclusive_of_holder hs (.inr ⟨m, role⟩)
    | finalizing S => exact exclusive_of_finalizer hs role

/-- One client connects, drops and is scheduled to end; a second one resumes. -/
def resumption : List Action :=
  [.request 0, .upgrade 0 true, .startSession 0 .sample true, .commitSession 0,
    .readError 0 false, .handleConnectionClosed 0, .scheduleSessionEnd 0, .request 1]

theorem slot_exclusive_resumption :
    ∃ w, (machine 30).run .initial resumption = some w ∧ Exclusive w := by
  obtain ⟨w, ran⟩ := Option.isSome_iff_exists.mp
    (by decide : ((machine 30).run .initial resumption).isSome = true)
  exact ⟨w, ran, slot_exclusive (Transition.System.run_reachable ran)⟩

end Megalo.Session
