import Megalo.Master.Moves

/-! Whose states a client sees. The connections in the hub are those of the session in memory;
a state was of that session when it was checked, and may be of an earlier one when it is
written. -/
namespace Megalo.Master

open Redis Cluster Transition
open Session (ThreadID Slot)

def OwnStates (c : Config World Call) : Prop :=
  ∀ e ∈ c.shared.written, c.shared.attached e.conn = some e.update.state.sessionID

/-- A state that is written to a connection is of the session that is in memory. -/
def stillCurrent (c : Config World Call) : Turn Call Step Outside → Bool
  | .outside (.broadcast broken) => match c.shared.subscriber with
    | .checked u => c.shared.conns.all (fun g => broken.contains g) ||
      c.shared.session.memory.server.sessionID == u.state.sessionID
    | _ => true
  | _ => true

/-- The handler reads from its connection, or has just stopped. -/
def Reads (s : Session.World) (g : ThreadID) (m : SessionMeta) : Prop :=
  s.threads g = .connected m ∨ ∃ explicit, s.threads g = .closing m explicit

/-- The connections in the hub are those of handlers that hold the slot. -/
structure Hub (w : World) : Prop where
  joined : ∀ g, w.link g = .joined →
    ∃ m, Reads w.session g m ∧ w.attached g = some m.sessionID
  inside : ∀ g, g ∈ w.conns → w.link g = .joined
  wrote : ∀ e, e ∈ w.written → w.link e.conn ≠ .apart

section Hub

variable {grace : Time} {w : World} {s : Session.World} {a : Session.Action} {g : ThreadID}

theorem reads_step {m : SessionMeta} (reads : Reads w.session g m)
    (stays : a ≠ .handleConnectionClosed g)
    (taken : Session.step grace w.session a = some s) : Reads s g m := by
  rcases Session.step_next taken g with same | next
  · rw [Reads, same]
    exact reads
  · generalize after : s.threads g = t at next
    rcases reads with connected | ⟨explicit, closing⟩
    · rw [connected] at next
      cases next with
      | drop => exact .inr ⟨_, after⟩
    · rw [closing] at next
      cases next <;> exact absurd rfl stays

theorem hub_session (hub : Hub w) (stays : ∀ g, w.link g = .joined → a ≠ .handleConnectionClosed g)
    (taken : Session.step grace w.session a = some s) : Hub { w with session := s } := by
  refine ⟨fun g joined => ?_, hub.inside, hub.wrote⟩
  obtain ⟨m, reads, attached⟩ := hub.joined g joined
  exact ⟨m, reads_step reads (stays g joined) taken, attached⟩

theorem hub_added (hub : Hub w) {m : SessionMeta} (pc : w.session.threads g = .connected m)
    (apart : w.link g = .apart) :
    Hub { w with
      link := Function.update w.link g .joined
      conns := g :: w.conns
      attached := Function.update w.attached g (some m.sessionID) } := by
  refine ⟨fun k joined => ?_, fun k member => ?_, fun e wrote => ?_⟩
  · rcases update_cases joined with ⟨rfl, _⟩ | ⟨other, before⟩
    · exact ⟨m, .inl pc, Function.update_self ..⟩
    · dsimp only
      rw [Function.update_of_ne other]
      exact hub.joined k before
  · rcases List.mem_cons.mp member with rfl | old
    · exact Function.update_self ..
    · exact update_kept (hub.inside k old) (by simp [apart])
  · have other : e.conn ≠ g := by
      rintro rfl
      exact hub.wrote e wrote apart
    dsimp only
    rw [Function.update_of_ne other]
    exact hub.wrote e wrote

theorem hub_removed (hub : Hub w) :
    Hub { w with
      link := Function.update w.link g .left
      conns := w.conns.filter (· != g) } := by
  refine ⟨fun k inside => ?_, fun k member => ?_, fun e wrote => ?_⟩
  · rcases update_cases inside with ⟨_, left⟩ | ⟨_, before⟩
    · cases left
    · exact hub.joined k before
  · obtain ⟨old, other⟩ := List.mem_filter.mp member
    dsimp only
    rw [Function.update_of_ne (by simpa using other)]
    exact hub.inside k old
  · intro apart
    rcases update_cases apart with ⟨_, left⟩ | ⟨_, before⟩
    · cases left
    · exact hub.wrote e wrote before

theorem hub_broadcast (hub : Hub w) (u : Update) (broken : List ThreadID) :
    Hub { w with
      subscriber := .waiting
      conns := w.conns.filter fun g => !broken.contains g
      written := w.written ++
        (w.conns.filter fun g => !broken.contains g).map fun g => ⟨g, u⟩ } := by
  refine ⟨hub.joined, fun k member => ?_, fun e wrote => ?_⟩
  · exact hub.inside k (List.mem_filter.mp member).1
  · rcases List.mem_append.mp wrote with old | new
    · exact hub.wrote e old
    · obtain ⟨k, member, rfl⟩ := List.mem_map.mp new
      have joined : w.link k = .joined := hub.inside k (List.mem_filter.mp member).1
      simp [joined]

/-- What a connection in the hub is attached to is the session in memory. -/
theorem Hub.current (hub : Hub w) (hs : Slot w.session) (member : g ∈ w.conns) :
    w.attached g = some w.session.memory.server.sessionID := by
  obtain ⟨m, reads, attached⟩ := hub.joined g (hub.inside g member)
  have role : (w.session.threads g).role = .attached m := by
    rcases reads with connected | ⟨explicit, closing⟩
    · rw [connected]
      rfl
    · rw [closing]
      rfl
  have fits := hs.busy g (by rw [role]; nofun)
  rw [role] at fits
  rw [attached, fits.2.2.2.2]

/-- What a broadcast writes is its clients' own exactly if it reaches none of them or is of the
session in memory. -/
theorem own_broadcast (hub : Hub w) (hs : Slot w.session)
    (own : ∀ e ∈ w.written, w.attached e.conn = some e.update.state.sessionID) (u : Update)
    (broken : List ThreadID) :
    (∀ e ∈ w.written ++ (w.conns.filter fun g => !broken.contains g).map fun g => ⟨g, u⟩,
      w.attached e.conn = some e.update.state.sessionID) ↔
    (w.conns.all (fun g => broken.contains g) ||
      w.session.memory.server.sessionID == u.state.sessionID) = true := by
  have reached : ∀ g, g ∈ w.conns.filter (fun g => !broken.contains g) →
      w.attached g = some w.session.memory.server.sessionID ∧ broken.contains g = false := by
    intro g member
    obtain ⟨inside, alive⟩ := List.mem_filter.mp member
    exact ⟨hub.current hs inside, by simpa using alive⟩
  rw [Bool.or_eq_true, beq_iff_eq]
  constructor
  · intro after
    cases alive : w.conns.filter (fun g => !broken.contains g) with
    | nil =>
      refine .inl (List.all_eq_true.mpr fun g inside => ?_)
      simpa using List.filter_eq_nil_iff.mp alive g inside
    | cons g rest =>
      have member : g ∈ w.conns.filter (fun g => !broken.contains g) := by
        rw [alive]
        exact List.mem_cons_self
      have mine : w.attached g = some u.state.sessionID := after ⟨g, u⟩
        (List.mem_append_right _ (List.mem_map_of_mem member))
      exact .inr (Option.some.inj ((reached g member).1.symm.trans mine))
  · intro passes e wrote
    rcases List.mem_append.mp wrote with old | new
    · exact own e old
    · obtain ⟨g, member, rfl⟩ := List.mem_map.mp new
      obtain ⟨attached, alive⟩ := reached g member
      rcases passes with broke | current
      · have gone := List.all_eq_true.mp broke g (List.mem_filter.mp member).1
        cases alive.symm.trans gone
      · exact current ▸ attached

end Hub

section Runs

variable {grace : Time} {c c' : Config World Call} {a : Turn Call Step Outside} {r : Server}

theorem hub_boot (r : Server) : Hub (boot r).shared := by
  constructor
  · intro g joined
    cases joined
  · intro g member
    cases member
  · intro e member
    cases member

theorem hub_step (hub : Hub c.shared) (taken : (master grace).step c a = some c') :
    Hub c'.shared := by
  cases Composite.took_of_step taken with
  | start => exact hub
  | @run n step call call' w' found moved =>
    obtain rfl := congrArg Prod.fst (Option.some.inj moved)
    dsimp only
    rw [move_frame]
    exact ⟨hub.joined, hub.inside, hub.wrote⟩
  | outside moved =>
    cases goes_of_outside moved with
    | session allowed entered =>
      refine hub_session hub ?_ entered
      rintro g joined rfl
      simp [World.allows, joined] at allowed
    | fails _ entered =>
      have kept := hub_session hub (by simp) entered
      exact ⟨kept.joined, kept.inside, kept.wrote⟩
    | starts _ _ entered =>
      have kept := hub_session hub (by simp) entered
      exact ⟨kept.joined, kept.inside, kept.wrote⟩
    | hubAdd pc apart => exact hub_added hub pc apart
    | hubRemove => exact hub_removed hub
    | broadcast => exact hub_broadcast hub _ _
    | _ => exact ⟨hub.joined, hub.inside, hub.wrote⟩

theorem slot_kept (hs : Slot c.shared.session) (taken : (master grace).step c a = some c') :
    Slot c'.shared.session := by
  rcases session_step taken with same | ⟨_, entered⟩
  · exact same ▸ hs
  · exact Session.slot_step hs entered

/-- The hub keeps every client to its own session exactly in the steps that do. -/
theorem own_step (hs : Slot c.shared.session) (hub : Hub c.shared) (own : OwnStates c)
    (taken : (master grace).step c a = some c') :
    OwnStates c' ↔ stillCurrent c a = true := by
  cases Composite.took_of_step taken with
  | start => exact iff_of_true own rfl
  | @run n step call call' w' found moved =>
    obtain rfl := congrArg Prod.fst (Option.some.inj moved)
    refine iff_of_true ?_ rfl
    unfold OwnStates
    dsimp only
    rw [move_frame]
    exact own
  | outside moved =>
    cases goes_of_outside moved with
    | @hubAdd g m pc apart =>
      refine iff_of_true (fun e wrote => ?_) rfl
      have other : e.conn ≠ g := by
        rintro rfl
        exact hub.wrote e wrote apart
      dsimp only
      rw [Function.update_of_ne other]
      exact own e wrote
    | @broadcast u broken checked =>
      simp only [stillCurrent, checked]
      exact own_broadcast hub hs own u broken
    | _ => exact iff_of_true own rfl

/-- The hub writes only states of the session a connection is attached to, in the runs where a
state it writes is still of the session in memory and in no others. -/
theorem sees_own_session {as : List (Turn Call Step Outside)}
    (ran : (master grace).system.run (boot r) as = some c) :
    (master grace).system.Throughout OwnStates (boot r) as ↔
      (master grace).system.Meets (fun c a => stillCurrent c a = true) (boot r) as := by
  have none : OwnStates (boot r) := by
    intro e member
    cases member
  refine System.throughout_iff (J := fun d => Slot d.shared.session ∧ Hub d.shared) ?_
    ⟨Session.slot_initial, hub_boot r⟩ none ran
  rintro d a d' ⟨hs, hub⟩ own taken
  exact ⟨⟨slot_kept hs taken, hub_step hub taken⟩, own_step hs hub own taken⟩

/-- A state of the sample session. -/
def sampleState : SlaveState :=
  registeredState UUID.sample.text ⟨"slave-service-0", "uid-1", "10.0.0.10", 3⟩ .sampleSlave 3

/-- A state of the first client's session is checked. -/
def checks : List (Turn Call Step Outside) :=
  connects 0 .sample ++
    [.outside (.publish (.slave sampleState)), .outside .receive, .outside .check]

def broadcasts : List (Turn Call Step Outside) := [.outside (.broadcast [])]

def foreign (c : Config World Call) : Bool := c.shared.written.any fun e =>
  c.shared.attached e.conn != some e.update.state.sessionID

theorem sees_own_session_live : ∃ c,
    (master 30).system.run (boot .empty) (checks ++ broadcasts) = some c ∧
      (master 30).system.Throughout OwnStates (boot .empty) (checks ++ broadcasts) := by
  obtain ⟨c, ran⟩ := Option.isSome_iff_exists.mp
    (by decide +kernel : ((master 30).system.run (boot .empty) (checks ++ broadcasts)).isSome)
  have met : (master 30).system.Meets (fun c a => stillCurrent c a = true) (boot .empty)
      (checks ++ broadcasts) := System.meets_of_check (by decide +kernel)
  exact ⟨c, ran, (sees_own_session ran).mpr met⟩

/-- The first session ends and the next one begins between the check of a state and its
broadcast: the second client gets the state of a pod of the first. -/
def late : List (Turn Call Step Outside) :=
  checks ++ disconnects 0 ++ connects 1 .sampleSlave ++ broadcasts

theorem sees_ended_session : ∃ c,
    (master 30).system.run (boot .empty) late = some c ∧ ¬ OwnStates c := by
  obtain ⟨c, ran, some⟩ := System.run_passes late foreign
    (by decide +kernel : ((master 30).system.run (boot .empty) late).any foreign)
  refine ⟨c, ran, fun own => ?_⟩
  obtain ⟨e, wrote, other⟩ := List.any_eq_true.mp some
  simp [own e wrote] at other

end Runs

end Megalo.Master
