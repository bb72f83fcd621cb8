import Megalo.Master.Broadcast

/-! The snapshot and the stream of one client. What is SET after its snapshot is on its way to
it until the hub writes it, unless the loop meets it before the session is committed or before
the client is in the hub. -/
namespace Megalo.Master

open Redis Cluster Transition
open Session (ThreadID Slot)

/-- The state that the operation has SET and is about to publish. -/
def Operation.publishes : Operation → Option SlaveState
  | .registerSlave _ (.publishing state .publish)
  | .handlePodStateUpdate _ _ (.publishing _ state .publish)
  | .handleEvent (.publishing _ _ state .publish) => some state
  | _ => none

/-- The client of a handler that has created its session is still connected. -/
def World.online (w : World) (g : ThreadID) : Bool :=
  match w.session.threads g with
  | .started _ => true
  | .connected _ => w.link g == .apart || w.conns.contains g
  | _ => false

/-- The client is to get the update: it tells of a SET in its own session after the snapshot. -/
def World.awaits (w : World) (g : ThreadID) (u : Update) : Bool :=
  w.online g && w.created g == some u.state.sessionID &&
    match w.listed g, u.set with
    | some k, some n => decide (k ≤ n)
    | _, _ => false

/-- The update is with its publisher, in the channel or with the loop. -/
def OnItsWay (c : Config World Call) (u : Update) : Prop :=
  (∃ (n : Nat) (call : Call), c.threads[n]? = some call ∧
      call.operation.publishes = some u.state ∧ u.set = some call.set) ∨
    ⟨.slave u.state, u.set⟩ ∈ c.shared.channel ∨
      c.shared.subscriber = .decoded u ∨ c.shared.subscriber = .checked u

def Complete (g : ThreadID) (c : Config World Call) : Prop :=
  ∀ n state, c.shared.sets[n]? = some state → c.shared.awaits g ⟨state, some n⟩ = true →
    OnItsWay c ⟨state, some n⟩ ∨ ⟨g, state, some n⟩ ∈ c.shared.written

def delivers : Turn Call Step Outside → Bool
  | .outside .lose => false
  | _ => true

/-- An update that the client awaits is checked after commitSession and written after hub.add,
and no failure of Redis comes between its SET and its PUBLISH. -/
def inTime (g : ThreadID) (c : Config World Call) : Turn Call Step Outside → Bool
  | .run n step => match c.threads[n]?, step.input.reply with
    | some call, .refused _ => call.operation.publishes.all fun state =>
      !c.shared.awaits g ⟨state, some call.set⟩
    | some call, .lost _ => (stored (call.operation.step step c.shared.redis).2).all fun state =>
      !c.shared.awaits g ⟨state, some c.shared.sets.length⟩
    | _, _ => true
  | .outside .check => match c.shared.subscriber with
    | .decoded u => !c.shared.awaits g u ||
      c.shared.session.memory.server.sessionID == u.state.sessionID
    | _ => true
  | .outside (.broadcast _) => match c.shared.subscriber with
    | .checked u => !c.shared.awaits g u || c.shared.conns.contains g
    | _ => true
  | _ => true

/-- Nothing is on its way. -/
def settled (c : Config World Call) : Bool :=
  c.threads.all (fun call => call.operation.publishes.isNone) && c.shared.channel.isEmpty &&
    c.shared.subscriber == .waiting

/-- What is left to do for the updates on their way. -/
def backlog (c : Config World Call) : Nat :=
  8 * c.threads.countP (fun call => call.operation.publishes.isSome) +
    4 * c.shared.channel.length + match c.shared.subscriber with
      | .waiting => 0
      | .decoded _ => 2
      | .checked _ => 1

/-- A handler that has created its session serves that one and does not come to another, and
only then can its client have a snapshot of it. -/
structure Made (w : World) : Prop where
  named : ∀ g S, w.created g = some S → ∃ u : UUID, u.text = S
  serves : ∀ g S, w.created g = some S →
    ∀ m, w.session.threads g = .started m ∨ Reads w.session g m → m.sessionID = S
  past : ∀ g, (w.created g).isSome = true → w.session.threads g ≠ .idle ∧
    (∀ m resumed, w.session.threads g ≠ .reserved m resumed) ∧ w.session.threads g ≠ .starting
  listed : ∀ g, (w.listed g).isSome = true → (w.created g).isSome = true

section Operations

variable {step : Step} {r : Server} {op : Operation} {state : SlaveState} {i : Input}

theorem stored_at {sets : List SlaveState} {c : Command} {k : Nat}
    (at_k : (sets ++ stored c)[k]? = some state) :
    sets[k]? = some state ∨ k = sets.length ∧ stored c = [state] := by
  cases c with
  | set st =>
    rcases Composite.getElem?_append_one at_k with old | ⟨last, new⟩
    · exact .inl old
    · exact .inr ⟨last, congrArg (fun st => [st]) new.symm⟩
  | _ =>
    simp only [stored, List.append_nil] at at_k
    exact .inl at_k

theorem publishing_stores {p : Publishing} {st : SlaveState}
    (ran : stored (p.step state i).2 = [st]) : state = st ∧ (∀ err, i.reply ≠ .refused err) ∧
      (i.reply = .answered → (p.step state i).1 = .publish) := by
  cases p with
  | set =>
    cases reply : i.reply with
    | refused err => simp [Publishing.step, reply, Reply.change, stored] at ran
    | answered =>
      simp only [Publishing.step, reply, Reply.change, stored, List.cons.injEq, and_true] at ran
      refine ⟨ran, by simp, fun _ => ?_⟩
      simp only [Publishing.step, reply, Reply.error]
    | lost err =>
      simp only [Publishing.step, reply, Reply.change, stored, List.cons.injEq, and_true] at ran
      exact ⟨ran, by simp, by simp⟩
  | publish => cases reply : i.reply <;> simp [Publishing.step, reply, Reply.change, stored] at ran
  | returned err => cases ran

theorem updating_stores {S : String} {fn : SessionMetrics → SessionMetrics} (u : Updating) :
    stored (u.step S fn r i).2 = [] :=
  updating_commands (P := fun c => stored c = []) u rfl fun _ => rfl

/-- A state that is stored is published next, where Redis answers. -/
theorem publishes_next (ran : stored (op.step step r).2 = [state]) :
    (∀ err, step.input.reply ≠ .refused err) ∧
      (step.input.reply = .answered → (op.step step r).1.publishes = some state) := by
  have none : ∀ {S : String} {fn : SessionMetrics → SessionMetrics} {u : Updating},
      stored (u.step S fn r step.input).2 ≠ [state] := by
    intro S fn u same
    cases same.symm.trans (updating_stores u)
  cases op with
  | registerSlave req pc =>
    cases pc with
    | resolved S =>
      obtain ⟨rfl, accepted, published⟩ := publishing_stores ran
      refine ⟨accepted, fun answered => ?_⟩
      simp only [Operation.step, Registering.step, published answered, Registering.published,
        Operation.publishes]
    | publishing st p =>
      obtain ⟨rfl, accepted, published⟩ := publishing_stores ran
      refine ⟨accepted, fun answered => ?_⟩
      simp only [Operation.step, Registering.step, published answered, Registering.published,
        Operation.publishes]
    | updating st u => exact absurd ran none
    | _ => cases ran
  | handlePodStateUpdate S message pc =>
    cases pc with
    | publishing previous st p =>
      obtain ⟨rfl, accepted, published⟩ := publishing_stores ran
      refine ⟨accepted, fun answered => ?_⟩
      simp only [Operation.step, PodUpdating.step, published answered, PodUpdating.published,
        Operation.publishes]
    | updating previous st u => exact absurd ran none
    | _ => cases ran
  | handleEvent pc =>
    cases pc with
    | publishing event previous st p =>
      obtain ⟨rfl, accepted, published⟩ := publishing_stores ran
      refine ⟨accepted, fun answered => ?_⟩
      simp only [Operation.step, Handling.step, published answered, Handling.published,
        Operation.publishes]
    | updating event previous st u => exact absurd ran none
    | _ => cases ran
  | updateSessionMetrics S fn pc => exact absurd ran none
  | handleListSlaveStates client pc => cases ran

/-- A state that is to be published is published, unless Redis refuses. -/
theorem publishes_now (due : op.publishes = some state) :
    (∃ err, step.input.reply = .refused err) ∨ (op.step step r).2 = .publish state := by
  have sent : ∀ st, (∃ err, step.input.reply = .refused err) ∨
      (Publishing.publish.step st step.input).2 = .publish st := by
    intro st
    cases reply : step.input.reply with
    | refused err => exact .inl ⟨err, rfl⟩
    | _ => exact .inr (by simp only [Publishing.step, reply, Reply.change])
  unfold Operation.publishes at due
  split at due
  · cases due
    exact sent state
  · cases due
    exact sent state
  · cases due
    exact sent state
  · cases due

/-- An operation whose PUBLISH is answered has no more to publish. -/
theorem publishes_once (due : op.publishes = some state) (answered : step.input.reply = .answered) :
    (op.step step r).1.publishes = none := by
  have sent : ∀ st, (Publishing.publish.step st step.input).1 = .returned none := by
    intro st
    simp only [Publishing.step, answered, Reply.error]
  unfold Operation.publishes at due
  split at due
  · rename_i req st
    simp only [Operation.step, Registering.step, sent, Registering.published, Operation.publishes]
  · simp only [Operation.step, PodUpdating.step, sent, PodUpdating.published]
    split <;> rfl
  · simp only [Operation.step, Handling.step, sent, Handling.published]
    split <;> rfl
  · cases due

end Operations

/-- A step on a Redis that answers, to one that draws the sample slave id. -/
def answering : Step :=
  ⟨⟨2, .answered⟩, .sampleSlave, ⟨5, 11, "", UUID.sample.text, "master-service", 2⟩, .error ""⟩

section Sessions

variable {grace : Time} {w : World} {s : Session.World} {a : Session.Action} {g : ThreadID}
  {u : Update}

theorem awaits_iff : w.awaits g u = true ↔ w.online g = true ∧
    w.created g = some u.state.sessionID ∧ ∃ k n, w.listed g = some k ∧ u.set = some n ∧ k ≤ n := by
  unfold World.awaits
  rw [Bool.and_eq_true, Bool.and_eq_true, beq_iff_eq, and_assoc]
  refine and_congr_right fun _ => and_congr_right fun _ => ?_
  cases w.listed g with
  | none => simp
  | some k =>
    cases u.set with
    | none => simp
    | some n => simp

theorem serves_step (made : Made w) (taken : Session.step grace w.session a = some s) {S : String}
    (created : w.created g = some S) {m : SessionMeta}
    (serves : s.threads g = .started m ∨ Reads s g m) : m.sessionID = S := by
  have mine := made.serves g S created m
  obtain ⟨_, notReserved, notStarting⟩ := made.past g (Option.isSome_iff_exists.mpr ⟨S, created⟩)
  rcases Session.step_next taken g with same | next
  · simp only [Reads, same] at serves
    exact mine serves
  · generalize before : w.session.threads g = t at next notReserved notStarting
    simp only [Reads, before] at mine
    dsimp only [Reads] at serves
    generalize s.threads g = t' at next serves
    rcases serves with rfl | rfl | ⟨explicit, rfl⟩
    · cases next
      exact absurd rfl notStarting
    · cases next with
      | resume => exact absurd rfl (notReserved _ _)
      | commit => exact mine (.inl rfl)
    · cases next with
      | leave => exact absurd rfl (notReserved _ _)
      | drop => exact mine (.inr (.inl rfl))

theorem past_step (made : Made w) (taken : Session.step grace w.session a = some s)
    (created : (w.created g).isSome = true) : s.threads g ≠ .idle ∧
      (∀ m resumed, s.threads g ≠ .reserved m resumed) ∧ s.threads g ≠ .starting := by
  obtain ⟨notIdle, notReserved, notStarting⟩ := made.past g created
  rcases Session.step_next taken g with same | next
  · rw [same]
    exact ⟨notIdle, notReserved, notStarting⟩
  · generalize w.session.threads g = t at next notIdle notReserved notStarting
    generalize s.threads g = t' at next
    refine ⟨?_, ?_, ?_⟩
    · rintro rfl
      cases next
    · rintro m resumed rfl
      cases next
      exact notIdle rfl
    · rintro rfl
      cases next
      exact notReserved _ _ rfl

theorem made_session (made : Made w) (taken : Session.step grace w.session a = some s) :
    Made { w with session := s } where
  named := made.named
  serves _ _ created _ serves := serves_step made taken created serves
  past _ created := past_step made taken created
  listed := made.listed

/-- The handler's session is new, and is the one it has started. -/
theorem made_starts (made : Made w) {k : ThreadID} {uuid : UUID} {r : Server}
    (taken : Session.step grace w.session (.startSession k uuid true) = some s) :
    Made { w with
      session := s
      redis := r
      created := Function.update w.created k (some uuid.text) } := by
  have kept := made_session made taken
  have started : s.threads k = .started ⟨uuid.text, w.session.now⟩ := by
    cases Session.step_taken taken
    exact Function.update_self ..
  refine ⟨fun g S created => ?_, fun g S created m serves => ?_, fun g created => ?_,
    fun g listed => ?_⟩
  · rcases update_cases created with ⟨_, new⟩ | ⟨_, old⟩
    · exact ⟨uuid, Option.some.inj new⟩
    · exact made.named g S old
  · rcases update_cases created with ⟨rfl, new⟩ | ⟨_, old⟩
    · rcases serves with serves | connected | ⟨_, closing⟩
      · cases serves.symm.trans started
        exact Option.some.inj new
      · cases connected.symm.trans started
      · cases closing.symm.trans started
    · exact kept.serves g S old m serves
  · by_cases own : g = k
    · dsimp only
      rw [own, started]
      exact ⟨nofun, nofun, nofun⟩
    · dsimp only at created ⊢
      rw [Function.update_of_ne own] at created
      exact kept.past g created
  · by_cases own : g = k
    · dsimp only
      rw [own, Function.update_self]
      rfl
    · dsimp only
      rw [Function.update_of_ne own]
      exact made.listed g listed

theorem online_before (made : Made w) (created : (w.created g).isSome = true)
    (taken : Session.step grace w.session a = some s)
    (online : World.online { w with session := s } g = true) : w.online g = true := by
  obtain ⟨_, notReserved, notStarting⟩ := made.past g created
  rcases Session.step_next taken g with same | next
  · simpa only [World.online, same] using online
  · generalize before : w.session.threads g = t at next notReserved notStarting
    simp only [World.online] at online
    generalize s.threads g = t' at next online
    cases next with
    | start => exact absurd rfl notStarting
    | resume => exact absurd rfl (notReserved _ _)
    | commit => simp only [World.online, before]
    | _ => cases online

theorem awaits_before (made : Made w) (taken : Session.step grace w.session a = some s)
    (awaits : World.awaits { w with session := s } g u = true) : w.awaits g u = true := by
  obtain ⟨online, created, listed⟩ := awaits_iff.mp awaits
  have known : (w.created g).isSome = true := Option.isSome_iff_exists.mpr ⟨_, created⟩
  exact awaits_iff.mpr ⟨online_before made known taken online, created, listed⟩

end Sessions

section Runs

variable {grace : Time} {c c' : Config World Call} {a : Turn Call Step Outside} {r : Server}
  {g : ThreadID}

theorem made_boot (r : Server) : Made (boot r).shared := by
  constructor
  · intro g S created
    cases created
  · intro g S created
    cases created
  · intro g created
    cases created
  · intro g listed
    cases listed

theorem made_step (made : Made c.shared) (taken : (master grace).step c a = some c') :
    Made c'.shared := by
  cases Composite.took_of_step taken with
  | start => exact made
  | @run n step call call' w' found moved =>
    obtain rfl := congrArg Prod.fst (Option.some.inj moved)
    dsimp only
    rw [move_frame]
    refine ⟨made.named, made.serves, made.past, fun g listed => ?_⟩
    rcases list_cases (w := c.shared) step.input call.operation g with same | ⟨created, _⟩
    · exact made.listed g (same ▸ listed)
    · exact created
  | outside moved =>
    cases goes_of_outside moved with
    | session _ entered => exact made_session made entered
    | fails _ entered =>
      have kept := made_session made entered
      exact ⟨kept.named, kept.serves, kept.past, kept.listed⟩
    | starts _ _ entered => exact made_starts made entered
    | _ => exact ⟨made.named, made.serves, made.past, made.listed⟩

theorem complete_run (h : Complete g c) {n : Nat} {step : Step} {call : Call}
    (found : c.threads[n]? = some call) (timely : inTime g c (.run n step) = true) :
    Complete g ⟨(call.move step c.shared).1, c.threads.set n (call.move step c.shared).2⟩ := by
  have here : (c.threads.set n (call.move step c.shared).2)[n]? = some (call.move step c.shared).2 :=
    List.getElem?_set_self (List.getElem?_eq_some_iff.mp found).1
  unfold Complete OnItsWay
  dsimp only
  rw [move_frame]
  intro k state at_k awaits
  obtain ⟨online, created, k₀, n₀, listed, set, after⟩ := awaits_iff.mp awaits
  cases Option.some.inj set
  rcases list_cases step.input call.operation g with same | ⟨_, first, reads⟩
  · have before : c.shared.awaits g ⟨state, some k⟩ = true :=
      awaits_iff.mpr ⟨online, created, k₀, k, same.symm.trans listed, rfl, after⟩
    rcases stored_at at_k with old | ⟨rfl, new⟩
    · rcases h k state old before with (⟨j, other, at_j, due, mine⟩ | queued | held) | wrote
      · by_cases own : j = n
        · subst own
          cases at_j.symm.trans found
          have either : (∃ err, step.input.reply = .refused err) ∨
              (call.operation.step step c.shared.redis).2 = .publish state := publishes_now due
          rcases either with ⟨err, refused⟩ | sent
          · simp [inTime, found, refused, due, ← mine, before] at timely
          · refine .inl (.inr (.inl (List.mem_append_right _ ?_)))
            rw [sent, ← mine]
            exact List.mem_singleton_self _
        · refine .inl (.inl ⟨j, other, ?_, due, mine⟩)
          rw [List.getElem?_set_ne (Ne.symm own), at_j]
      · exact .inl (.inr (.inl (List.mem_append_left _ queued)))
      · exact .inl (.inr (.inr held))
      · exact .inr wrote
    · obtain ⟨accepted, published⟩ := publishes_next new
      have numbered : (call.move step c.shared).2.set = c.shared.sets.length := by
        simp [Call.move, new]
      cases reply : step.input.reply with
      | answered => exact .inl (.inl ⟨n, _, here, published reply, congrArg some numbered.symm⟩)
      | refused err => exact absurd reply (accepted err)
      | lost err =>
        simp [inTime, found, reply, new, before] at timely
  · have old : c.shared.sets[k]? = some state := by simpa [reads, stored] using at_k
    have bound : k < c.shared.sets.length := (List.getElem?_eq_some_iff.mp old).1
    cases first.symm.trans listed
    exact absurd after (Nat.not_le_of_lt bound)

/-- A step outside the operations that drops no update of the client's. -/
theorem complete_kept (h : Complete g c) (sets : c'.shared.sets = c.shared.sets)
    (awaits : ∀ u, c'.shared.awaits g u = true → c.shared.awaits g u = true)
    (kept : ∀ u, c'.shared.awaits g u = true → OnItsWay c u →
      OnItsWay c' u ∨ ⟨g, u⟩ ∈ c'.shared.written)
    (wrote : ∀ e ∈ c.shared.written, e ∈ c'.shared.written) : Complete g c' := by
  intro k state at_k awaited
  rcases h k state (sets ▸ at_k) (awaits _ awaited) with way | written
  · exact kept _ awaited way
  · exact .inr (wrote _ written)

theorem online_left {w w' : World} (online : w'.online g = true)
    (threads : w'.session.threads g = w.session.threads g) (link : w'.link g = w.link g)
    (conns : g ∈ w'.conns → g ∈ w.conns) : w.online g = true := by
  simp only [World.online, threads, link] at online ⊢
  split at online
  · rfl
  · simp only [Bool.or_eq_true, beq_iff_eq, List.contains_iff_mem] at online ⊢
    exact online.imp id conns
  · cases online

theorem complete_hubAdd (h : Complete g c) {k : ThreadID} {m : SessionMeta}
    (pc : c.shared.session.threads k = .connected m) (apart : c.shared.link k = .apart) :
    Complete g ⟨{ c.shared with
      link := Function.update c.shared.link k .joined
      conns := k :: c.shared.conns
      attached := Function.update c.shared.attached k (some m.sessionID) }, c.threads⟩ := by
  refine complete_kept h rfl (fun u awaited => ?_) (fun _ _ => .inl) fun _ => id
  obtain ⟨online, created, listed⟩ := awaits_iff.mp awaited
  refine awaits_iff.mpr ⟨?_, created, listed⟩
  by_cases own : g = k
  · simp only [World.online, own, pc, apart, beq_self_eq_true, Bool.true_or]
  · refine online_left online rfl (Function.update_of_ne own ..) fun member => ?_
    exact (List.mem_cons.mp member).resolve_left own

theorem complete_hubRemove (h : Complete g c) {k : ThreadID} {m : SessionMeta} {explicit : Bool}
    (pc : c.shared.session.threads k = .closing m explicit) :
    Complete g ⟨{ c.shared with
      link := Function.update c.shared.link k .left
      conns := c.shared.conns.filter (· != k) }, c.threads⟩ := by
  refine complete_kept h rfl (fun u awaited => ?_) (fun _ _ => .inl) fun _ => id
  obtain ⟨online, created, listed⟩ := awaits_iff.mp awaited
  refine awaits_iff.mpr ⟨?_, created, listed⟩
  by_cases own : g = k
  · simp only [World.online, own, pc] at online
    cases online
  · refine online_left online rfl (Function.update_of_ne own ..) fun member => ?_
    exact (List.mem_filter.mp member).1

theorem complete_starts (made : Made c.shared) (h : Complete g c) {k : ThreadID} {uuid : UUID}
    {s : Session.World} {d : Command}
    (entered : Session.step grace c.shared.session (.startSession k uuid true) = some s) :
    Complete g ⟨{ c.shared with
      session := s
      redis := d.run c.shared.redis
      created := Function.update c.shared.created k (some uuid.text) }, c.threads⟩ := by
  refine complete_kept h rfl (fun u awaited => ?_) (fun _ _ => .inl) fun _ => id
  obtain ⟨online, created, n, j, listed, later⟩ := awaits_iff.mp awaited
  have known := made.listed g (Option.isSome_iff_exists.mpr ⟨n, listed⟩)
  have starting : c.shared.session.threads k = .starting := by
    cases Session.step_taken entered
    assumption
  have other : g ≠ k := by
    rintro rfl
    exact (made.past g known).2.2 starting
  dsimp only at created
  rw [Function.update_of_ne other] at created
  exact awaits_iff.mpr ⟨online_before made known entered online, created, n, j, listed, later⟩

theorem complete_receive (h : Complete g c) {message : Published} {rest : List Published}
    {subscriber : Subscribing} (waits : c.shared.subscriber = .waiting)
    (head : c.shared.channel = message :: rest)
    (passes : ∀ state, message.payload = .slave state →
      subscriber = .decoded ⟨state, message.set⟩) :
    Complete g ⟨{ c.shared with channel := rest, subscriber }, c.threads⟩ := by
  refine complete_kept h rfl (fun _ => id) (fun u _ way => .inl ?_) fun _ => id
  rcases way with published | queued | held | held
  · exact .inl published
  · rw [head] at queued
    rcases List.mem_cons.mp queued with same | later
    · subst same
      exact .inr (.inr (.inl (passes _ rfl)))
    · exact .inr (.inl later)
  · cases waits.symm.trans held
  · cases waits.symm.trans held

theorem complete_check (made : Made c.shared) (h : Complete g c) {u : Update}
    {subscriber : Subscribing} (decoded : c.shared.subscriber = .decoded u)
    (timely : inTime g c (.outside .check) = true)
    (passes : u.state.sessionID ≠ "" →
      u.state.sessionID = c.shared.session.memory.server.sessionID → subscriber = .checked u) :
    Complete g ⟨{ c.shared with subscriber }, c.threads⟩ := by
  refine complete_kept h rfl (fun _ => id) (fun v awaited way => .inl ?_) fun _ => id
  rcases way with published | queued | held | held
  · exact .inl published
  · exact .inr (.inl queued)
  · cases decoded.symm.trans held
    have awaits : c.shared.awaits g u = true := awaited
    simp only [inTime, decoded, awaits, Bool.not_true, Bool.false_or, beq_iff_eq] at timely
    obtain ⟨_, created, _⟩ := awaits_iff.mp awaits
    obtain ⟨uuid, named⟩ := made.named g _ created
    exact .inr (.inr (.inr (passes (named ▸ uuid.text_ne_empty) timely.symm)))
  · cases decoded.symm.trans held

theorem complete_broadcast (hub : Hub c.shared) (h : Complete g c) {u : Update}
    {broken : List ThreadID} (checked : c.shared.subscriber = .checked u)
    (timely : inTime g c (.outside (.broadcast broken)) = true) :
    Complete g ⟨{ c.shared with
      subscriber := .waiting
      conns := c.shared.conns.filter fun g => !broken.contains g
      written := c.shared.written ++
        (c.shared.conns.filter fun g => !broken.contains g).map fun g => ⟨g, u⟩ }, c.threads⟩ := by
  have before : ∀ v, World.awaits { c.shared with
      subscriber := .waiting
      conns := c.shared.conns.filter fun g => !broken.contains g
      written := c.shared.written ++
        (c.shared.conns.filter fun g => !broken.contains g).map fun g => ⟨g, u⟩ } g v = true →
      c.shared.awaits g v = true := by
    intro v awaited
    obtain ⟨online, created, listed⟩ := awaits_iff.mp awaited
    refine awaits_iff.mpr ⟨online_left online rfl rfl fun member => ?_, created, listed⟩
    exact (List.mem_filter.mp member).1
  refine complete_kept h rfl before (fun v awaited way => ?_) fun e => List.mem_append_left _
  rcases way with published | queued | held | held
  · exact .inl (.inl published)
  · exact .inl (.inr (.inl queued))
  · cases checked.symm.trans held
  · cases checked.symm.trans held
    have awaits := before u awaited
    simp only [inTime, checked, awaits, Bool.not_true, Bool.false_or, List.contains_iff_mem]
      at timely
    have joined := hub.inside g timely
    obtain ⟨m, reads, _⟩ := hub.joined g joined
    have online := (awaits_iff.mp awaited).1
    -- the client is still connected after the broadcast, so its write went through
    have reached : g ∈ c.shared.conns.filter fun g => !broken.contains g := by
      rcases reads with connected | ⟨explicit, closing⟩
      · simpa [World.online, connected, joined] using online
      · simp only [World.online, closing] at online
        cases online
    exact .inr (List.mem_append_right _ (List.mem_map_of_mem reached))

theorem complete_step (made : Made c.shared) (hub : Hub c.shared) (h : Complete g c)
    (delivered : delivers a = true) (timely : inTime g c a = true)
    (taken : (master grace).step c a = some c') : Complete g c' := by
  have queued : ∀ {messages : List Published} {ending : ThreadID → Option Ending}
      {endErrors : List String} {redis : Server},
      Complete g ⟨{ c.shared with
        channel := c.shared.channel ++ messages, ending, endErrors, redis }, c.threads⟩ := by
    intro messages ending endErrors redis
    refine complete_kept h rfl (fun _ => id) (fun u _ way => .inl ?_) fun _ => id
    exact way.imp_right fun later => later.imp_left (List.mem_append_left _)
  cases Composite.took_of_step taken with
  | @start l ready =>
    refine complete_kept h rfl (fun _ => id) (fun u _ way => .inl ?_) fun _ => id
    rcases way with ⟨j, other, at_j, due, mine⟩ | later
    · exact .inl ⟨j, other, Composite.getElem?_append_kept at_j, due, mine⟩
    · exact .inr later
  | run found moved =>
    cases Option.some.inj moved
    exact complete_run h found timely
  | outside moved =>
    cases goes_of_outside moved with
    | session _ entered =>
      exact complete_kept h rfl (fun _ => awaits_before made entered) (fun _ _ => .inl) fun _ => id
    | fails _ entered =>
      exact complete_kept h rfl (fun _ => awaits_before made entered) (fun _ _ => .inl) fun _ => id
    | starts _ _ entered => exact complete_starts made h entered
    | ends => exact queued
    | hubAdd pc apart => exact complete_hubAdd h pc apart
    | hubRemove pc _ => exact complete_hubRemove h pc
    | undecoded waits head decoded =>
      refine complete_receive h waits head fun state same => ?_
      rw [same] at decoded
      cases decoded
    | receive waits head decoded =>
      refine complete_receive h waits head fun state same => ?_
      rw [same] at decoded
      cases decoded
      rfl
    | skip decoded other =>
      refine complete_check made h decoded timely fun named current => ?_
      rcases other with absent | differs
      · exact absurd (current.trans absent) named
      · exact absurd current differs
    | pass decoded _ => exact complete_check made h decoded timely fun _ _ => rfl
    | broadcast checked => exact complete_broadcast hub h checked timely
    | publish => exact queued
    | lose => cases delivered

theorem complete_boot (r : Server) : Complete g (boot r) := by
  intro n state at_n
  cases at_n

theorem not_onItsWay (rests : settled c = true) (u : Update) : ¬ OnItsWay c u := by
  simp only [settled, Bool.and_eq_true, List.all_eq_true, Option.isNone_iff_eq_none,
    List.isEmpty_iff, beq_iff_eq] at rests
  obtain ⟨⟨none, empty⟩, waiting⟩ := rests
  rintro (⟨n, call, at_n, due, _⟩ | queued | held | held)
  · cases (none call (List.mem_of_getElem? at_n)).symm.trans due
  · cases empty ▸ queued
  · cases waiting.symm.trans held
  · cases waiting.symm.trans held

/-- The session of a client in the hub is the one in memory. -/
theorem awaits_current (hs : Slot c.shared.session) (made : Made c.shared) (hub : Hub c.shared)
    (member : g ∈ c.shared.conns) {u : Update} (awaits : c.shared.awaits g u = true) :
    c.shared.session.memory.server.sessionID = u.state.sessionID := by
  obtain ⟨_, created, _⟩ := awaits_iff.mp awaits
  obtain ⟨m, reads, attached⟩ := hub.joined g (hub.inside g member)
  have served : m.sessionID = u.state.sessionID := made.serves g _ created m (.inr reads)
  exact Option.some.inj ((hub.current hs member).symm.trans (attached.trans (congrArg some served)))

/-- The loop brings the backlog down. -/
theorem backlog_loop {e : Outside} {w : World}
    (loops : e = .receive ∨ e = .check ∨ e = .broadcast [])
    (moved : c.shared.outside grace e = some w) :
    w.conns = c.shared.conns ∧ backlog ⟨w, c.threads⟩ < backlog c := by
  have goes := goes_of_outside moved
  rcases loops with rfl | rfl | rfl
  · cases goes with
    | undecoded waits head _ =>
      refine ⟨rfl, ?_⟩
      simp only [backlog, waits, head, List.length_cons]
      omega
    | receive waits head _ =>
      refine ⟨rfl, ?_⟩
      simp only [backlog, waits, head, List.length_cons]
      omega
  · cases goes with
    | skip decoded _ =>
      refine ⟨rfl, ?_⟩
      simp only [backlog, decoded]
      omega
    | pass decoded _ =>
      refine ⟨rfl, ?_⟩
      simp only [backlog, decoded]
      omega
  · cases goes with
    | broadcast checked =>
      refine ⟨List.filter_eq_self.mpr fun _ _ => rfl, ?_⟩
      simp only [backlog, checked]
      omega

/-- So does an answer to a PUBLISH. -/
theorem backlog_publish {n : Nat} {call : Call} {step : Step} {state : SlaveState}
    (found : c.threads[n]? = some call) (due : call.operation.publishes = some state)
    (answered : step.input.reply = .answered) :
    backlog ⟨(call.move step c.shared).1, c.threads.set n (call.move step c.shared).2⟩ <
      backlog c := by
  obtain ⟨bound, here⟩ := List.getElem?_eq_some_iff.mp found
  have once : (call.move step c.shared).2.operation.publishes = none := publishes_once due answered
  have counted : 0 < c.threads.countP (fun call => call.operation.publishes.isSome) :=
    List.countP_pos_iff.mpr ⟨call, List.mem_of_getElem? found, by simp [due]⟩
  have sent : (messages (some call.set) (call.operation.step step c.shared.redis).2).length ≤ 1 := by
    cases (call.operation.step step c.shared.redis).2 <;> simp [messages]
  unfold backlog
  rw [move_frame, List.countP_set bound]
  simp only [here, due, once, Option.isSome_some, Option.isSome_none, if_true, Bool.false_eq_true,
    if_false, List.length_append]
  omega

/-- While a client is in the hub, an update on its way can be taken one step further in time. -/
theorem settles_step (hs : Slot c.shared.session) (made : Made c.shared) (hub : Hub c.shared)
    (member : g ∈ c.shared.conns) (busy : settled c ≠ true) :
    ∃ a d, (delivers a = true ∧ inTime g c a = true) ∧ (master grace).step c a = some d ∧
      g ∈ d.shared.conns ∧ backlog d < backlog c := by
  have loop : ∀ e : Outside, (e = .receive ∨ e = .check ∨ e = .broadcast []) →
      (c.shared.outside grace e).isSome = true →
        ∃ d, (master grace).step c (.outside e) = some d ∧
          g ∈ d.shared.conns ∧ backlog d < backlog c := by
    intro e loops ready
    obtain ⟨w, moved⟩ := Option.isSome_iff_exists.mp ready
    obtain ⟨conns, less⟩ := backlog_loop loops moved
    have taken : (master grace).step c (.outside e) = some ⟨w, c.threads⟩ := by
      simp only [Composite.step, master, moved, Option.map_some]
    exact ⟨_, taken, conns ▸ member, less⟩
  cases held : c.shared.subscriber with
  | decoded u =>
    obtain ⟨d, taken, inside, less⟩ := loop .check (.inr (.inl rfl))
      (by simp only [World.outside, World.check, held, Option.isSome_some])
    refine ⟨_, d, ⟨rfl, ?_⟩, taken, inside, less⟩
    simp only [inTime, held]
    cases awaits : c.shared.awaits g u with
    | false => rfl
    | true => simpa using awaits_current hs made hub member awaits
  | checked u =>
    obtain ⟨d, taken, inside, less⟩ := loop (.broadcast []) (.inr (.inr rfl))
      (by simp only [World.outside, World.broadcast, held, Option.isSome_some])
    refine ⟨_, d, ⟨rfl, ?_⟩, taken, inside, less⟩
    simp [inTime, held, member]
  | waiting =>
    cases queue : c.shared.channel with
    | cons message rest =>
      obtain ⟨d, taken, inside, less⟩ := loop .receive (.inl rfl)
        (by simp only [World.outside, World.receive, held, queue, Option.isSome_some])
      exact ⟨_, d, ⟨rfl, rfl⟩, taken, inside, less⟩
    | nil =>
      have due : ∃ call ∈ c.threads, call.operation.publishes ≠ none := by
        by_contra none
        refine busy ?_
        simp only [settled, held, queue, List.isEmpty_nil, beq_self_eq_true, Bool.and_true]
        refine List.all_eq_true.mpr fun call has => ?_
        by_contra due
        exact none ⟨call, has, by simpa using due⟩
      obtain ⟨call, has, publishes⟩ := due
      obtain ⟨state, due⟩ := Option.ne_none_iff_exists'.mp publishes
      obtain ⟨n, found⟩ := List.getElem?_of_mem has
      have less := backlog_publish found due (rfl : answering.input.reply = .answered)
      refine ⟨.run n answering, _, ⟨rfl, ?_⟩, ?_, ?_, less⟩
      · simp only [inTime, found, answering]
      · simp only [Composite.step, master, found, Option.bind_some, Option.map_some]
      · rw [move_frame]
        exact member

/-- What a run keeps beside the updates. -/
structure Kept (c : Config World Call) : Prop where
  slot : Slot c.shared.session
  made : Made c.shared
  hub : Hub c.shared

theorem kept_boot (r : Server) : Kept (boot r) :=
  ⟨Session.slot_initial, made_boot r, hub_boot r⟩

theorem kept_step (kept : Kept c) (taken : (master grace).step c a = some c') : Kept c' :=
  ⟨slot_kept kept.slot taken, made_step kept.made taken, hub_step kept.hub taken⟩

/-- In the runs that lose no message on the channel, where every update the client awaits comes
in time, each is written to its connection or on its way, all are written once nothing is on its
way, and while the client is in the hub it comes to that. -/
theorem snapshot_complete (reached : (master grace).system.ReachableVia
    (fun c a => delivers a = true ∧ inTime g c a = true) (boot r) c) :
    Complete g c ∧
      (settled c = true → ∀ n state, c.shared.sets[n]? = some state →
        c.shared.awaits g ⟨state, some n⟩ = true → ⟨g, state, some n⟩ ∈ c.shared.written) ∧
      (g ∈ c.shared.conns → ∃ d, (master grace).system.ReachableVia
        (fun c a => delivers a = true ∧ inTime g c a = true) c d ∧
          g ∈ d.shared.conns ∧ settled d = true) := by
  have known : Kept c ∧ Complete g c := by
    refine reached.invariant (I := fun c => Kept c ∧ Complete g c)
      ⟨kept_boot r, complete_boot r⟩ ?_
    rintro d a d' ⟨kept, h⟩ ⟨delivered, timely⟩ taken
    exact ⟨kept_step kept taken, complete_step kept.made kept.hub h delivered timely taken⟩
  obtain ⟨kept, h⟩ := known
  refine ⟨h, fun rests n state at_n awaits => ?_, fun member => ?_⟩
  · exact (h n state at_n awaits).resolve_left (not_onItsWay rests _)
  · have onward : ∃ d, (master grace).system.ReachableVia
        (fun c a => delivers a = true ∧ inTime g c a = true) c d ∧
          (Kept d ∧ g ∈ d.shared.conns) ∧ settled d = true := by
      refine System.ReachableVia.descend backlog ?_ ⟨kept, member⟩
      rintro d ⟨kept, inside⟩ busy
      obtain ⟨a, e, met, taken, still, less⟩ :=
        settles_step kept.slot kept.made kept.hub inside busy
      exact ⟨a, e, met, taken, ⟨kept_step kept taken, still⟩, less⟩
    obtain ⟨d, onward, ⟨_, inside⟩, rests⟩ := onward
    exact ⟨d, onward, inside, rests⟩

/-- The client has its session and lists its slaves. -/
def lists : List (Turn Call Step Outside) :=
  [.start ⟨.handleListSlaveStates 0 .getActiveSessionID, 0⟩, .run 0 answering, .run 0 answering]

/-- A slave registers, and its state is SET and published. -/
def registers : List (Turn Call Step Outside) :=
  .start ⟨.registerSlave ⟨"slave-service-0", "uid-1", "10.0.0.10", 3⟩ .getActiveSessionID, 0⟩ ::
    List.replicate 3 (.run 1 answering)

def loops : List (Turn Call Step Outside) :=
  [.outside .receive, .outside .check, .outside (.broadcast [])]

/-- The state of the sample registration. -/
def registered : Update :=
  ⟨registeredState UUID.sample.text ⟨"slave-service-0", "uid-1", "10.0.0.10", 3⟩ .sampleSlave 2,
    some 0⟩

def listsThenRegisters : List (Turn Call Step Outside) :=
  connects 0 .sample ++ lists ++ registers ++ loops

def awaitsRegistered (c : Config World Call) : Bool :=
  settled c && c.shared.sets == [registered.state] && c.shared.awaits 0 registered

theorem snapshot_complete_registered : ∃ c,
    (master 30).system.run (boot .empty) listsThenRegisters = some c ∧
      ⟨0, registered⟩ ∈ c.shared.written := by
  obtain ⟨c, ran, awaits⟩ := System.run_passes listsThenRegisters awaitsRegistered
    (by decide +kernel :
      ((master 30).system.run (boot .empty) listsThenRegisters).any awaitsRegistered)
  simp only [awaitsRegistered, Bool.and_eq_true, beq_iff_eq] at awaits
  obtain ⟨⟨rests, sets⟩, awaits⟩ := awaits
  have met : (master 30).system.Meets
      (fun c a => (delivers a && inTime 0 c a) = true) (boot .empty) listsThenRegisters :=
    System.meets_of_check (by decide +kernel)
  have reached := (System.run_reachableVia ran met).mono
    fun _ _ both => (Bool.and_eq_true _ _).mp both
  have first : c.shared.sets[0]? = some registered.state := by rw [sets]; rfl
  exact ⟨c, ran, (snapshot_complete reached).2.1 rests 0 _ first awaits⟩

/-- The client's session is in Redis before commitSession: what is published between is dropped
by the loop, which still reads "pending", and nothing tells the client of it later. -/
def early : List (Turn Call Step Outside) :=
  (connects 0 .sample).take 3 ++ lists ++ registers ++ loops.take 2 ++ (connects 0 .sample).drop 3

def dropsRegistered (c : Config World Call) : Bool :=
  awaitsRegistered c && c.shared.conns.contains 0 && c.shared.written.isEmpty

theorem snapshot_misses : ∃ c,
    (master 30).system.run (boot .empty) early = some c ∧
      (∀ a ∈ early, delivers a = true) ∧ settled c = true ∧ 0 ∈ c.shared.conns ∧
        c.shared.sets[0]? = some registered.state ∧ c.shared.awaits 0 registered = true ∧
          ⟨0, registered⟩ ∉ c.shared.written := by
  obtain ⟨c, ran, drops⟩ := System.run_passes early dropsRegistered
    (by decide +kernel : ((master 30).system.run (boot .empty) early).any dropsRegistered)
  simp only [dropsRegistered, awaitsRegistered, Bool.and_eq_true, beq_iff_eq,
    List.contains_iff_mem, List.isEmpty_iff] at drops
  obtain ⟨⟨⟨⟨rests, sets⟩, awaits⟩, inside⟩, none⟩ := drops
  refine ⟨c, ran, by decide, rests, inside, by rw [sets]; rfl, awaits, ?_⟩
  rw [none]
  exact List.not_mem_nil

end Runs

end Megalo.Master
