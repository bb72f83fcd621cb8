import Megalo.Controller.Shutdown
import Megalo.Library.Interleave
import Megalo.Slave.Process

/-! The slave processes of a cluster under the loop of subscribeStateUpdates: a Shutdown call goes
to the process that answers at the address of the state, which may have been started after the
one that the state tells of. Processes start, go and act as they please. -/
namespace Megalo.Controller

open Redis Transition
open Slave (Activity Process RPC Rand SlaveConfig)

/-- A process, and the address that it was configured with. -/
structure Member where
  podIP : String
  process : Process

/-- Where notifyGoneSlave stands. -/
inductive Notifying
  | idle
  | dialing (state : SlaveState)
  /-- The process has got the call. -/
  | waiting (state : SlaveState) (p : Nat)

structure Fleet where
  members : List Member
  /-- Which process answers at an address. -/
  route : String → Option Nat
  observed : ObservedStates
  notifying : Notifying
  /-- The messages that the loop is done with; ok is for an answered call. -/
  done : List Delivery
  /-- History, the last first: which message reached which process as a Shutdown call. -/
  calls : List (Nat × Nat)

inductive FleetTurn
  | start (now : Time) (cfg : SlaveConfig)
  | stop (podIP : String)
  | process (p : Nat) (a : Activity)
  | message (payload : Payload)
  /-- The call arrives at the process. -/
  | call
  /-- The process handles the call, and its answer comes back. -/
  | answer (n : Nat) (now : Time)
  /-- The connection or the call fails, or the answer does not come in time. -/
  | fail

/-- Shutdown calls come from the controller only. -/
def isShutdown : Activity → Bool
  | .arrive (.shutdown _) => true
  | _ => false

namespace Fleet

variable (rand : Rand) (s : Fleet)

def initial : Fleet := ⟨[], fun _ => none, fun _ => none, .idle, [], []⟩

def act (p : Nat) (a : Activity) : Option Fleet :=
  s.members[p]?.bind fun m => (m.process.step rand a).map fun process =>
    { s with members := s.members.set p { m with process } }

/-- The loop is done with a message. -/
def finish (payload : Payload) (ok : Bool) : Fleet :=
  { s with notifying := .idle, done := s.done ++ [⟨payload, ok⟩] }

def step (s : Fleet) : FleetTurn → Option Fleet
  | .start now cfg => some { s with
      members := s.members ++ [⟨cfg.podIP, .initial now cfg⟩]
      route := Function.update s.route cfg.podIP (some s.members.length) }
  | .stop podIP => some { s with route := Function.update s.route podIP none }
  | .process p a => if isShutdown a then none else s.act rand p a
  | .message payload => match s.notifying with
    | .idle =>
      let next := observe s.observed ⟨payload, false⟩
      let s := { s with observed := next.2 }
      match next.1, payload with
      | .shutdown .., .slave state => some { s with notifying := .dialing state }
      | _, _ => some (s.finish payload false)
    | _ => none
  | .call => match s.notifying with
    | .dialing state => (s.route state.podIP).bind fun p =>
      (s.act rand p (.arrive (.shutdown state.deathReason.text))).map fun s =>
        { s with notifying := .waiting state p, calls := (s.done.length, p) :: s.calls }
    | _ => none
  | .answer n now => match s.notifying with
    | .waiting state p => s.members[p]?.bind fun m =>
      if m.process.running[n]? = some (.shutdown state.deathReason.text) then
        (s.act rand p (.handle n now)).map fun s => s.finish (.slave state) true
      else none
    | _ => none
  | .fail => match s.notifying with
    | .idle => none
    | .dialing state | .waiting state _ => some (s.finish (.slave state) false)

/-- The messages so far, with the one that the loop is at. -/
def stream : List Delivery := s.done ++ match s.notifying with
  | .idle => []
  | .dialing state | .waiting state _ => [⟨.slave state, false⟩]

end Fleet

def fleet (rand : Rand) : System Fleet FleetTurn := ⟨Fleet.step rand⟩

/-- The reasons of the Shutdown calls that arrived, the last first. -/
def Member.told (m : Member) : List String := m.process.arrivals.filterMap fun
  | .shutdown reason => some reason
  | _ => none

section Members

variable {rand : Rand} {s t : Process} {a : Activity}

/-- What a step of a process adds to its history, and of it to what arrived. -/
theorem history_step (taken : s.step rand a = some t) : ∃ news, t.history = news ++ s.history ∧
    t.arrivals = match a with
      | .arrive rpc => rpc :: s.arrivals
      | _ => s.arrivals := by
  obtain ⟨-, effect⟩ := Process.effect_of_step taken
  cases a with
  | arrive rpc =>
    obtain ⟨-, rfl⟩ := effect
    exact ⟨[.arrived rpc], rfl, rfl⟩
  | handle n now =>
    obtain ⟨rpc, -, rfl⟩ := effect
    cases rpc with
    | executeEvent req => exact ⟨[_], rfl, rfl⟩
    | shutdown reason =>
      refine ⟨[.shutdown reason], ?_⟩
      simp only [Process.handle, Process.shutdown]
      split <;> exact ⟨rfl, rfl⟩
  | callback n =>
    obtain ⟨reason, -, rfl⟩ := effect
    exact ⟨[.onShutdown reason], rfl, rfl⟩
  | signal =>
    cases effect
    exact ⟨[.signalled], rfl, rfl⟩
  | gracefulStop =>
    obtain ⟨-, -, rfl⟩ := effect
    exact ⟨[], rfl, rfl⟩
  | drained =>
    obtain ⟨-, -, rfl⟩ := effect
    exact ⟨[], rfl, rfl⟩
  | fail err =>
    obtain ⟨-, rfl⟩ := effect
    exact ⟨[.failed err], rfl, rfl⟩
  | register answer =>
    simp only [Process.Effect, Process.registerWithController] at effect
    split at effect
    · split at effect <;> cases effect <;> exact ⟨[], rfl, rfl⟩
    · split at effect
      · cases effect
        exact ⟨[], rfl, rfl⟩
      · cases effect
        exact ⟨[.requested _], rfl, rfl⟩
    · split at effect
      · cases effect
        exact ⟨[], rfl, rfl⟩
      · cases effect
        exact ⟨[.registered _], rfl, rfl⟩
    · cases effect
      exact ⟨[], rfl, rfl⟩
    · cases effect

theorem told_kept (podIP : String) (taken : s.step rand a = some t) (other : isShutdown a = false) :
    Member.told ⟨podIP, t⟩ = Member.told ⟨podIP, s⟩ := by
  obtain ⟨_, -, arrivals⟩ := history_step taken
  simp only [Member.told, arrivals]
  cases a with
  | arrive rpc =>
    cases rpc with
    | executeEvent req => rfl
    | shutdown reason => cases other
  | _ => rfl

theorem told_shutdown (podIP : String) {reason : String}
    (taken : s.step rand (.arrive (.shutdown reason)) = some t) :
    Member.told ⟨podIP, t⟩ = reason :: Member.told ⟨podIP, s⟩ := by
  obtain ⟨_, -, arrivals⟩ := history_step taken
  simp only [Member.told, arrivals]
  rfl

/-- What was answered stays answered. -/
theorem shutdowns_step (taken : s.step rand a = some t) : s.shutdowns ⊆ t.shutdowns := by
  obtain ⟨news, history, -⟩ := history_step taken
  rw [Process.shutdowns, Process.shutdowns, history, List.filterMap_append]
  exact List.subset_append_right _ _

theorem shutdowns_handle {n : Nat} {now : Time} {reason : String}
    (found : s.running[n]? = some (.shutdown reason))
    (taken : s.step rand (.handle n now) = some t) : reason ∈ t.shutdowns := by
  obtain ⟨-, rpc, same, rfl⟩ := Process.effect_of_step taken
  cases found.symm.trans same
  simp only [Process.handle, Process.shutdown]
  split <;> exact List.mem_cons_self

end Members

section Stream

variable {stream : List Delivery} {i : Nat} {state : SlaveState} {message : Payload} {ok : Bool}

/-- Whether a call succeeds makes no difference to what is remembered. -/
theorem observed_append (stream : List Delivery) (message : Payload) (ok : Bool) :
    observed (stream ++ [⟨message, ok⟩]) = (observe (observed stream) ⟨message, false⟩).2 := by
  rw [observed, List.foldl_append]
  cases message <;> rfl

/-- A message is told of by the messages up to it. -/
theorem turnsGone_append {more : List Delivery} (inside : i ≤ stream.length) :
    TurnsGone (stream ++ more) i state ↔ TurnsGone stream i state := by
  rw [TurnsGone, TurnsGone, List.take_append_of_le_length inside]

theorem observe_shutdown {podIP reason : String} {result : Bool}
    (sent : (observe (observed stream) ⟨message, ok⟩).1 = .shutdown podIP reason result) :
    ∃ state, message = .slave state ∧ TurnsGone stream stream.length state := by
  cases message with
  | slave state =>
    refine ⟨state, rfl, ?_⟩
    have tells : Tells (stream ++ [⟨.slave state, ok⟩]) stream.length state.sessionID
        state.slaveID state ok := ⟨List.getElem?_concat_length, rfl, rfl⟩
    have notified : notified (stream ++ [⟨.slave state, ok⟩]) stream.length =
        some (.shutdown podIP reason result) := by
      rw [notified, List.getElem?_concat_length, List.take_left', Option.map_some, sent]
      rfl
    exact (turnsGone_append (Nat.le_refl _)).mp ((notified_shutdown tells).mp notified).1
  | _ => cases sent

/-- The messages went on; whether their calls succeed may have become known. -/
def Follows (stream stream' : List Delivery) : Prop :=
  stream.map Delivery.payload <+: stream'.map Delivery.payload

/-- The cause of death that the i-th message tells. -/
def reasonAt (stream : List Delivery) (i : Nat) : Option String :=
  ((stream[i]?).bind Delivery.state).map fun state => state.deathReason.text

variable {stream' : List Delivery}

theorem Follows.append (stream more : List Delivery) : Follows stream (stream ++ more) := by
  rw [Follows, List.map_append]
  exact List.prefix_append ..

theorem Follows.length (follows : Follows stream stream') : stream.length ≤ stream'.length := by
  simpa using List.IsPrefix.length_le follows

theorem Follows.payload (follows : Follows stream stream') (inside : i < stream.length) :
    (stream'[i]?).map Delivery.payload = (stream[i]?).map Delivery.payload := by
  obtain ⟨more, same⟩ := follows
  rw [← List.getElem?_map, ← List.getElem?_map, ← same, List.getElem?_append_left (by simpa)]

theorem Follows.told (follows : Follows stream stream') (found : stream[i]? = some ⟨message, ok⟩) :
    ∃ ok', stream'[i]? = some ⟨message, ok'⟩ := by
  have same := follows.payload (List.getElem?_eq_some_iff.mp found).1
  rw [found, Option.map_some, Option.map_eq_some_iff] at same
  obtain ⟨⟨_, ok'⟩, after, rfl⟩ := same
  exact ⟨ok', after⟩

theorem state_payload (d : Option Delivery) : d.bind Delivery.state =
    (d.map Delivery.payload).bind fun payload => Delivery.state ⟨payload, false⟩ := by
  cases d <;> rfl

theorem Follows.reasonAt (follows : Follows stream stream') (inside : i < stream.length) :
    reasonAt stream' i = reasonAt stream i := by
  rw [Controller.reasonAt, state_payload, follows.payload inside, ← state_payload]
  rfl

theorem Follows.turnsGone (follows : Follows stream stream') (inside : i ≤ stream.length) :
    TurnsGone stream' i state ↔ TurnsGone stream i state := by
  have states (stream : List Delivery) : stream.filterMap Delivery.state =
      (stream.map Delivery.payload).filterMap fun payload => Delivery.state ⟨payload, false⟩ := by
    rw [List.filterMap_map]
    rfl
  obtain ⟨more, same⟩ := follows
  have taken : (stream'.take i).filterMap Delivery.state =
      (stream.take i).filterMap Delivery.state := by
    rw [states, states, List.map_take, List.map_take, ← same,
      List.take_append_of_le_length (by simpa)]
  rw [TurnsGone, TurnsGone, lastObserved, lastObserved, taken]

end Stream

section Fleet

variable {rand : Rand} {s t : Fleet} {a : FleetTurn}

/-- What the loop knows of the message that it is at. -/
def Fleet.At (s : Fleet) : Notifying → Prop
  | .idle => ∀ call ∈ s.calls, call.1 < s.done.length
  | .dialing state => (∀ call ∈ s.calls, call.1 < s.done.length) ∧
    TurnsGone s.done s.done.length state
  | .waiting state p => (∀ call ∈ s.calls, call.1 ≤ s.done.length) ∧
    (s.done.length, p) ∈ s.calls ∧ TurnsGone s.done s.done.length state

/-- The reasons of the calls that reached a process. -/
def Fleet.sent (s : Fleet) (p : Nat) : List (Option String) :=
  (s.calls.filter fun call => call.2 == p).map fun call => reasonAt s.stream call.1

/-- What every turn of the fleet keeps. -/
structure FleetSound (s : Fleet) : Prop where
  observed : s.observed = Controller.observed s.stream
  orderly : ∀ (p : Nat) m, s.members[p]? = some m → m.process.Orderly
  route : ∀ podIP p, s.route podIP = some p → ∃ m, s.members[p]? = some m ∧ m.podIP = podIP
  told : ∀ (p : Nat) m, s.members[p]? = some m → m.told.map some = s.sent p
  calls : ∀ i p, (i, p) ∈ s.calls → ∃ m state ok, s.members[p]? = some m ∧
    s.stream[i]? = some ⟨.slave state, ok⟩ ∧ m.podIP = state.podIP ∧ TurnsGone s.stream i state
  ordered : (s.calls.map Prod.fst).Pairwise (· > ·)
  answered : ∀ i state, s.done[i]? = some ⟨.slave state, true⟩ → ∃ p m, (i, p) ∈ s.calls ∧
    s.members[p]? = some m ∧ state.deathReason.text ∈ m.process.shutdowns
  stands : s.At s.notifying

theorem initial_sound : FleetSound .initial := by
  refine ⟨rfl, ?_, ?_, ?_, ?_, .nil, ?_, ?_⟩
  · intro p m found
    cases found
  · intro podIP p routed
    cases routed
  · intro p m found
    cases found
  · intro i p called
    cases called
  · intro i state found
    cases found
  · intro call called
    cases called

theorem act_cases {p : Nat} {activity : Activity} (taken : s.act rand p activity = some t) :
    ∃ m process, s.members[p]? = some m ∧ m.process.step rand activity = some process ∧
      t = { s with members := s.members.set p { m with process } } := by
  obtain ⟨m, found, taken⟩ := Option.bind_eq_some_iff.mp taken
  obtain ⟨process, moved, rfl⟩ := Option.map_eq_some_iff.mp taken
  exact ⟨m, process, found, moved, rfl⟩

/-- The processes go on; nothing more has reached them. -/
theorem FleetSound.members (sound : FleetSound s) {members : List Member}
    {route : String → Option Nat}
    (kept : ∀ (p : Nat) m, s.members[p]? = some m → ∃ m', members[p]? = some m' ∧
      m'.podIP = m.podIP ∧ m.process.shutdowns ⊆ m'.process.shutdowns)
    (each : ∀ (p : Nat) m, members[p]? = some m →
      m.process.Orderly ∧ m.told.map some = s.sent p)
    (routes : ∀ podIP p, route podIP = some p → ∃ m, members[p]? = some m ∧ m.podIP = podIP) :
    FleetSound { s with members, route } where
  observed := sound.observed
  orderly p m found := (each p m found).1
  route := routes
  told p m found := (each p m found).2
  calls i p called := by
    obtain ⟨m, state, ok, found, told, same, turns⟩ := sound.calls i p called
    obtain ⟨m', after, address, -⟩ := kept p m found
    exact ⟨m', state, ok, after, told, address.trans same, turns⟩
  ordered := sound.ordered
  answered i state told := by
    obtain ⟨p, m, called, found, answered⟩ := sound.answered i state told
    obtain ⟨m', after, -, more⟩ := kept p m found
    exact ⟨p, m', called, after, more answered⟩
  stands := sound.stands

theorem members_kept {p : Nat} {m : Member} {process : Process} {activity : Activity}
    (found : s.members[p]? = some m) (moved : m.process.step rand activity = some process)
    (q : Nat) (other : Member) (before : s.members[q]? = some other) :
    ∃ after, (s.members.set p { m with process })[q]? = some after ∧
      after.podIP = other.podIP ∧ other.process.shutdowns ⊆ after.process.shutdowns := by
  by_cases same : q = p
  · subst same
    cases found.symm.trans before
    exact ⟨_, List.getElem?_set_self (List.getElem?_eq_some_iff.mp found).1, rfl,
      shutdowns_step moved⟩
  · refine ⟨other, ?_, rfl, List.Subset.refl _⟩
    rw [List.getElem?_set_ne (Ne.symm same), before]

theorem FleetSound.start (sound : FleetSound s) (now : Time) (cfg : SlaveConfig) :
    FleetSound { s with
      members := s.members ++ [⟨cfg.podIP, .initial now cfg⟩]
      route := Function.update s.route cfg.podIP (some s.members.length) } := by
  have kept : ∀ (p : Nat) m, s.members[p]? = some m →
      (s.members ++ [⟨cfg.podIP, .initial now cfg⟩])[p]? = some m :=
    fun p m found => Composite.getElem?_append_kept found
  apply sound.members
  · exact fun p m found => ⟨m, kept p m found, rfl, List.Subset.refl _⟩
  · intro p m found
    rcases Composite.getElem?_append_one found with before | ⟨last, rfl⟩
    · exact ⟨sound.orderly p m before, sound.told p m before⟩
    · refine ⟨Process.initial_orderly, ?_⟩
      -- no call has reached a process that is not there
      have none : (s.calls.filter fun call => call.2 == p) = [] := by
        rw [List.filter_eq_nil_iff]
        rintro ⟨i, q⟩ called same
        obtain ⟨m, -, -, there, -⟩ := sound.calls i q called
        have bound := (List.getElem?_eq_some_iff.mp there).1
        have : q = p := by simpa using same
        omega
      rw [Fleet.sent, none]
      rfl
  · intro podIP p routed
    rcases update_cases routed with ⟨rfl, same⟩ | ⟨-, before⟩
    · cases same
      exact ⟨_, List.getElem?_concat_length, rfl⟩
    · obtain ⟨m, found, same⟩ := sound.route podIP p before
      exact ⟨m, kept p m found, same⟩

theorem FleetSound.stop (sound : FleetSound s) (podIP : String) :
    FleetSound { s with route := Function.update s.route podIP none } := by
  apply sound.members
  · exact fun p m found => ⟨m, found, rfl, List.Subset.refl _⟩
  · exact fun p m found => ⟨sound.orderly p m found, sound.told p m found⟩
  · intro address p routed
    rcases update_cases routed with ⟨-, same⟩ | ⟨-, before⟩
    · cases same
    · exact sound.route address p before

theorem FleetSound.act (sound : FleetSound s) {p : Nat} {activity : Activity}
    (taken : s.act rand p activity = some t) (other : isShutdown activity = false) :
    FleetSound t := by
  obtain ⟨m, process, found, moved, rfl⟩ := act_cases taken
  apply sound.members (members_kept found moved)
  · intro q m' after
    rcases Composite.getElem?_set_some after with ⟨rfl, rfl⟩ | ⟨-, before⟩
    · refine ⟨Process.orderly_kept (sound.orderly _ m found) moved, ?_⟩
      rw [told_kept m.podIP moved other]
      exact sound.told _ m found
    · exact ⟨sound.orderly q m' before, sound.told q m' before⟩
  · intro podIP q routed
    obtain ⟨m', before, same⟩ := sound.route podIP q routed
    obtain ⟨after, there, address, -⟩ := members_kept found moved q m' before
    exact ⟨after, there, address.trans same⟩

/-- The loop goes on; nothing more has reached a process. -/
theorem FleetSound.follow (sound : FleetSound s) (members : t.members = s.members)
    (route : t.route = s.route) (calls : t.calls = s.calls) (follows : Follows s.stream t.stream)
    (observed : t.observed = Controller.observed t.stream)
    (answered : ∀ i state, t.done[i]? = some ⟨.slave state, true⟩ → ∃ p m, (i, p) ∈ s.calls ∧
      s.members[p]? = some m ∧ state.deathReason.text ∈ m.process.shutdowns)
    (stands : t.At t.notifying) : FleetSound t := by
  have inside : ∀ i p, (i, p) ∈ s.calls → i < s.stream.length := by
    intro i p called
    obtain ⟨_, _, _, _, told, _⟩ := sound.calls i p called
    exact (List.getElem?_eq_some_iff.mp told).1
  refine ⟨observed, ?_, ?_, ?_, ?_, ?_, ?_, stands⟩
  · rw [members]
    exact sound.orderly
  · rw [members, route]
    exact sound.route
  · intro p m found
    rw [members] at found
    rw [sound.told p m found, Fleet.sent, Fleet.sent, calls]
    apply List.map_congr_left
    intro call sent
    have called := (List.mem_filter.mp sent).1
    exact (follows.reasonAt (inside call.1 call.2 called)).symm
  · intro i p called
    rw [calls] at called
    obtain ⟨m, state, ok, found, told, same, turns⟩ := sound.calls i p called
    obtain ⟨ok', after⟩ := follows.told told
    have bound := Nat.le_of_lt (inside i p called)
    exact ⟨m, state, ok', members ▸ found, after, same, (follows.turnsGone bound).mpr turns⟩
  · rw [calls]
    exact sound.ordered
  · rw [calls, members]
    exact answered

theorem stream_idle (idle : s.notifying = .idle) : s.stream = s.done := by
  rw [Fleet.stream, idle, List.append_nil]

theorem stream_busy {state : SlaveState}
    (busy : s.notifying = .dialing state ∨ ∃ p, s.notifying = .waiting state p) :
    s.stream = s.done ++ [⟨.slave state, false⟩] := by
  rcases busy with dialing | ⟨p, waiting⟩
  · rw [Fleet.stream, dialing]
  · rw [Fleet.stream, waiting]

theorem finish_stream {payload : Payload} {ok : Bool} :
    (s.finish payload ok).stream = s.done ++ [⟨payload, ok⟩] := stream_idle rfl

/-- A message that makes no call, and one whose call has failed. -/
theorem done_unanswered (sound : FleetSound s) {payload : Payload} {i : Nat} {state : SlaveState}
    (told : (s.done ++ [⟨payload, false⟩])[i]? = some ⟨.slave state, true⟩) : ∃ p m,
      (i, p) ∈ s.calls ∧ s.members[p]? = some m ∧ state.deathReason.text ∈ m.process.shutdowns := by
  rcases Composite.getElem?_append_one told with before | ⟨-, same⟩
  · exact sound.answered i state before
  · cases same

theorem finish_at {payload : Payload} {ok : Bool}
    (inside : ∀ call ∈ s.calls, call.1 ≤ s.done.length) :
    (s.finish payload ok).At (s.finish payload ok).notifying := by
  intro call called
  have bound : call.1 ≤ s.done.length := inside call called
  simp only [Fleet.finish, List.length_append, List.length_singleton]
  omega

theorem FleetSound.message (sound : FleetSound s) {payload : Payload}
    (taken : Fleet.step rand s (.message payload) = some t) : FleetSound t := by
  simp only [Fleet.step] at taken
  split at taken
  · rename_i idle
    have inside := sound.stands
    rw [idle] at inside
    have stream := stream_idle idle
    have observed : (observe s.observed ⟨payload, false⟩).2 =
        Controller.observed (s.done ++ [⟨payload, false⟩]) := by
      rw [sound.observed, stream, observed_append]
    split at taken
    · rename_i podIP reason result state sent
      cases taken
      rw [sound.observed, stream] at sent
      obtain ⟨_, same, turns⟩ := observe_shutdown sent
      cases same
      refine sound.follow rfl rfl rfl ?_ ?_ ?_ ?_
      · rw [stream]
        exact Follows.append s.done _
      · exact observed
      · exact fun i state' told => sound.answered i state' told
      · exact ⟨inside, turns⟩
    · cases taken
      refine sound.follow rfl rfl rfl ?_ ?_ ?_ ?_
      · rw [stream, finish_stream]
        exact Follows.append s.done _
      · rw [finish_stream]
        exact observed
      · exact fun i state told => done_unanswered sound told
      · exact finish_at fun call called => Nat.le_of_lt (inside call called)
  · cases taken

theorem FleetSound.fail (sound : FleetSound s) (taken : Fleet.step rand s .fail = some t) :
    FleetSound t := by
  have failed {state : SlaveState}
      (busy : s.notifying = .dialing state ∨ ∃ p, s.notifying = .waiting state p)
      (inside : ∀ call ∈ s.calls, call.1 ≤ s.done.length) :
      FleetSound (s.finish (.slave state) false) := by
    have stream : (s.finish (.slave state) false).stream = s.stream := by
      rw [finish_stream, stream_busy busy]
    refine sound.follow rfl rfl rfl ?_ ?_ ?_ (finish_at inside)
    · rw [stream]
      exact List.prefix_refl _
    · rw [stream]
      exact sound.observed
    · exact fun i state told => done_unanswered sound told
  have stands := sound.stands
  simp only [Fleet.step] at taken
  split at taken
  · cases taken
  · rename_i state dialing
    cases taken
    rw [dialing] at stands
    exact failed (.inl dialing) fun call called => Nat.le_of_lt (stands.1 call called)
  · rename_i state p waiting
    cases taken
    rw [waiting] at stands
    exact failed (.inr ⟨p, waiting⟩) stands.1

theorem FleetSound.answer (sound : FleetSound s) {n : Nat} {now : Time}
    (taken : Fleet.step rand s (.answer n now) = some t) : FleetSound t := by
  simp only [Fleet.step] at taken
  split at taken
  · rename_i state p waiting
    obtain ⟨m, found, taken⟩ := Option.bind_eq_some_iff.mp taken
    obtain ⟨running, taken⟩ := Option.ite_none_right_eq_some.mp taken
    obtain ⟨u, acted, rfl⟩ := Option.map_eq_some_iff.mp taken
    have after : FleetSound u := sound.act acted rfl
    obtain ⟨m', process, found', moved, rfl⟩ := act_cases acted
    cases found.symm.trans found'
    have stands := sound.stands
    rw [waiting] at stands
    obtain ⟨inside, called, -⟩ := stands
    have stream : s.stream = s.done ++ [⟨.slave state, false⟩] := stream_busy (.inr ⟨p, waiting⟩)
    refine after.follow rfl rfl rfl ?_ ?_ ?_ (finish_at inside)
    · rw [finish_stream]
      change Follows s.stream (s.done ++ [⟨.slave state, true⟩])
      rw [stream, Follows, List.map_append, List.map_append]
      exact List.prefix_refl _
    · rw [finish_stream]
      change s.observed = Controller.observed (s.done ++ [⟨.slave state, true⟩])
      rw [sound.observed, stream, observed_append, observed_append]
    · intro i state' told
      rcases Composite.getElem?_append_one told with before | ⟨rfl, same⟩
      · exact after.answered i state' before
      · cases same
        exact ⟨p, _, called, List.getElem?_set_self (List.getElem?_eq_some_iff.mp found).1,
          shutdowns_handle running moved⟩
  · cases taken

/-- The fleet after the call has reached the process. -/
def Fleet.reached (s : Fleet) (state : SlaveState) (p : Nat) (m : Member) : Fleet :=
  { s with
    members := s.members.set p m
    notifying := .waiting state p
    calls := (s.done.length, p) :: s.calls }

theorem FleetSound.reached (sound : FleetSound s) {state : SlaveState} {p : Nat} {m : Member}
    {process : Process} (dialing : s.notifying = .dialing state)
    (routed : s.route state.podIP = some p) (found : s.members[p]? = some m)
    (moved : m.process.step rand (.arrive (.shutdown state.deathReason.text)) = some process) :
    FleetSound (s.reached state p { m with process }) := by
  obtain ⟨inside, turns⟩ : s.At (.dialing state) := dialing ▸ sound.stands
  have stream : s.stream = s.done ++ [⟨.slave state, false⟩] := stream_busy (.inl dialing)
  have same : (s.reached state p { m with process }).stream = s.stream :=
    (stream_busy (.inr ⟨p, rfl⟩)).trans stream.symm
  have told : s.stream[s.done.length]? = some ⟨.slave state, false⟩ :=
    stream ▸ List.getElem?_concat_length
  have turned : TurnsGone s.stream s.done.length state :=
    stream ▸ (turnsGone_append (Nat.le_refl _)).mpr turns
  have kept := members_kept found moved
  have self : (s.members.set p { m with process })[p]? = some { m with process } :=
    List.getElem?_set_self (List.getElem?_eq_some_iff.mp found).1
  refine ⟨?_, ?_, ?_, ?_, ?_, ?_, ?_, ?_⟩
  · rw [same]
    exact sound.observed
  · intro q m' after
    rcases Composite.getElem?_set_some after with ⟨rfl, rfl⟩ | ⟨-, before⟩
    · exact Process.orderly_kept (sound.orderly _ m found) moved
    · exact sound.orderly q m' before
  · intro podIP q answers
    obtain ⟨m', before, address⟩ := sound.route podIP q answers
    obtain ⟨after, there, kept, -⟩ := kept q m' before
    exact ⟨after, there, kept.trans address⟩
  · intro q m' after
    rw [Fleet.sent, same]
    rcases Composite.getElem?_set_some after with ⟨rfl, rfl⟩ | ⟨other, before⟩
    · rw [told_shutdown m.podIP moved, List.map_cons, sound.told _ m found]
      have reason : reasonAt s.stream s.done.length = some state.deathReason.text := by
        rw [reasonAt, told]
        rfl
      simp [Fleet.reached, Fleet.sent, reason]
    · rw [sound.told q m' before]
      simp [Fleet.reached, Fleet.sent, Ne.symm other]
  · intro i q called
    rw [same]
    rcases List.mem_cons.mp called with new | before
    · cases new
      obtain ⟨there, present, address⟩ := sound.route _ _ routed
      cases found.symm.trans present
      exact ⟨_, state, false, self, told, address, turned⟩
    · obtain ⟨m', state', ok, there, tells, address, turns⟩ := sound.calls i q before
      obtain ⟨after, present, kept, -⟩ := kept q m' there
      exact ⟨after, state', ok, present, tells, kept.trans address, turns⟩
  · refine List.pairwise_cons.mpr ⟨fun i listed => ?_, sound.ordered⟩
    obtain ⟨call, called, rfl⟩ := List.mem_map.mp listed
    exact inside call called
  · intro i state' tells
    obtain ⟨q, m', called, there, answered⟩ := sound.answered i state' tells
    obtain ⟨after, present, -, more⟩ := kept q m' there
    exact ⟨q, after, List.mem_cons_of_mem _ called, present, more answered⟩
  · refine ⟨fun call called => ?_, List.mem_cons_self, turns⟩
    rcases List.mem_cons.mp called with rfl | before
    · exact Nat.le_refl _
    · exact Nat.le_of_lt (inside call before)

theorem FleetSound.call (sound : FleetSound s) (taken : Fleet.step rand s .call = some t) :
    FleetSound t := by
  simp only [Fleet.step] at taken
  split at taken
  · rename_i state dialing
    obtain ⟨p, routed, taken⟩ := Option.bind_eq_some_iff.mp taken
    obtain ⟨u, acted, rfl⟩ := Option.map_eq_some_iff.mp taken
    obtain ⟨m, process, found, moved, rfl⟩ := act_cases acted
    exact sound.reached dialing routed found moved
  · cases taken

theorem FleetSound.step (sound : FleetSound s) (taken : (fleet rand).step s a = some t) :
    FleetSound t := by
  change Fleet.step rand s a = some t at taken
  cases a with
  | start now cfg =>
    cases taken
    exact sound.start now cfg
  | stop podIP =>
    cases taken
    exact sound.stop podIP
  | process p activity =>
    obtain ⟨other, taken⟩ := Option.ite_none_left_eq_some.mp taken
    exact sound.act taken (by simpa using other)
  | message payload => exact sound.message taken
  | call => exact sound.call taken
  | answer n now => exact sound.answer taken
  | fail => exact sound.fail taken

theorem fleet_reachable (reached : (fleet rand).Reachable .initial s) : FleetSound s := by
  apply reached.invariant
  · exact initial_sound
  · intro t a u sound _ taken
    exact sound.step taken

/-- What one process does by itself. -/
def Alone (p : Nat) (_ : Fleet) : FleetTurn → Prop
  | .process q activity => q = p ∧ ∃ t, Process.Internal t activity
  | _ => False

/-- A process that has answered a Shutdown call is able to end, and no other takes part. -/
theorem fleet_ends (sound : FleetSound s) {p : Nat} {m : Member} (found : s.members[p]? = some m)
    (shut : m.process.shutdowns ≠ []) : ∃ t m', (fleet rand).ReachableVia (Alone p) s t ∧
      t.members[p]? = some m' ∧ m'.process.serving = .exited := by
  have orderly := sound.orderly p m found
  obtain ⟨u, reached, exited⟩ : ∃ u,
      (Process.system rand).ReachableVia Process.Internal m.process u ∧ u.serving = .exited :=
    Process.stop_ahead ⟨orderly, .inl (orderly.once.mpr shut)⟩
  have inside := (List.getElem?_eq_some_iff.mp found).1
  have ran : (fleet rand).ReachableVia (Alone p) { s with members := s.members.set p m }
      { s with members := s.members.set p { m with process := u } } := by
    apply reached.embed (fleet rand) (Alone p) fun process =>
      { s with members := s.members.set p { m with process } }
    intro process activity after internal moved
    refine ⟨.process p activity, ⟨rfl, process, internal⟩, ?_⟩
    have other : isShutdown activity = false := by
      cases activity with
      | arrive rpc => cases internal
      | _ => rfl
    have taken : process.step rand activity = some after := moved
    simp [fleet, Fleet.step, Fleet.act, other, inside, taken]
  have self : s.members.set p m = s.members := by
    rw [← (List.getElem?_eq_some_iff.mp found).2, List.set_getElem_self]
  rw [self] at ran
  exact ⟨_, { m with process := u }, ran, List.getElem?_set_self inside, exited⟩

/-- What the loop of the controller makes of the processes. -/
structure FleetKept (rand : Rand) (s : Fleet) : Prop where
  /-- The loop remembers what came last under each key. -/
  observed : ∀ k, s.observed k = lastObserved s.stream k
  /-- The calls that a process has got are those for the messages that reached it, in order. -/
  told : ∀ (p : Nat) m, s.members[p]? = some m → m.told.map some = s.sent p
  /-- Such a message has turned a slave of the process's address GONE. -/
  calls : ∀ i p, (i, p) ∈ s.calls → ∃ m state ok, s.members[p]? = some m ∧
    s.stream[i]? = some ⟨.slave state, ok⟩ ∧ m.podIP = state.podIP ∧ TurnsGone s.stream i state
  /-- A message reaches one process at most, and once. -/
  once : (s.calls.map Prod.fst).Nodup
  /-- A slave is shut down when a process at its address has answered; the process can end. -/
  answered : ∀ i S id, ShutDown s.done i S id → ∃ p m state, (i, p) ∈ s.calls ∧
    s.members[p]? = some m ∧ Tells s.done i S id state true ∧
    state.deathReason.text ∈ m.process.shutdowns ∧
    ∃ t m', (fleet rand).ReachableVia (Alone p) s t ∧ t.members[p]? = some m' ∧
      m'.process.serving = .exited
  /-- What else ends a process is a signal or an error. -/
  ends : ∀ (p : Nat) m, s.members[p]? = some m → m.process.serving = .exited →
    (∃ err, .failed err ∈ m.process.history) ∨ .signalled ∈ m.process.history ∨
      ∃ i state ok, (i, p) ∈ s.calls ∧ s.stream[i]? = some ⟨.slave state, ok⟩ ∧
        m.process.callbacks = [state.deathReason.text]

/-- The reason that OnShutdown ran with came with a call. -/
theorem callback_told {m : Member} (orderly : m.process.Orderly)
    (called : m.process.callbacks ≠ []) : ∃ reason ∈ m.told, m.process.callbacks = [reason] := by
  have whole := orderly.callbacks
  cases last : m.process.shutdowns.getLast? with
  | none =>
    rw [last] at whole
    exact absurd (List.append_eq_nil_iff.mp whole).1 called
  | some reason =>
    rw [last, Option.toList_some, List.append_eq_singleton_iff] at whole
    obtain ⟨ran, -⟩ := whole.resolve_left fun none => called none.1
    have answered : .shutdown reason ∈ m.process.answered := by
      obtain ⟨h, inside, same⟩ := List.mem_filterMap.mp (List.mem_of_getLast? last)
      refine List.mem_filterMap.mpr ⟨h, inside, ?_⟩
      cases h with
      | shutdown other =>
        cases same
        rfl
      | _ => cases same
    have arrived := orderly.running.subset (List.mem_append_left _ answered)
    exact ⟨reason, List.mem_filterMap.mpr ⟨_, arrived, rfl⟩, ran⟩

theorem fleet_kept (reached : (fleet rand).Reachable .initial s) : FleetKept rand s := by
  have sound := fleet_reachable reached
  refine ⟨?_, sound.told, sound.calls, ?_, ?_, ?_⟩
  · intro k
    rw [sound.observed, observed_last]
  · exact sound.ordered.imp fun {i j} after => Nat.ne_of_gt after
  · intro i S id shut
    obtain ⟨state, tells⟩ := shut.told
    obtain ⟨p, m, called, found, answered⟩ := sound.answered i state tells.1
    exact ⟨p, m, state, called, found, tells, answered,
      fleet_ends sound found (List.ne_nil_of_mem answered)⟩
  · intro p m found exited
    have orderly := sound.orderly p m found
    rcases orderly.exited exited with failed | ⟨done, -⟩
    · exact .inl failed
    · rcases orderly.cancelled.mp done with signalled | called
      · exact .inr (.inl signalled)
      · obtain ⟨reason, told, callbacks⟩ := callback_told orderly called
        have sent : some reason ∈ s.sent p := sound.told p m found ▸ List.mem_map_of_mem told
        obtain ⟨⟨i, q⟩, listed, same⟩ := List.mem_map.mp sent
        obtain ⟨inside, target⟩ := List.mem_filter.mp listed
        obtain rfl : q = p := by simpa using target
        obtain ⟨m', state, ok, -, tells, -, -⟩ := sound.calls i q inside
        refine .inr (.inr ⟨i, state, ok, inside, tells, ?_⟩)
        rw [reasonAt, tells] at same
        rw [callbacks, ← Option.some.inj same]

/-- Two processes, one after the other, at the address of a slave that is told of twice and of
another one: the first answers its call, the answer of the second is lost. -/
def twoProcesses : List FleetTurn :=
  let turns (p : Nat) (activities : List Activity) := activities.map (FleetTurn.process p)
  let gone : SlaveState := .sample .gone
  [.start 0 Process.sampleConfig, .message (.text "x"), .message (.slave (.sample .live)),
    .message (.slave gone), .call, .answer 0 10] ++
    turns 0 [.callback 0, .gracefulStop, .drained] ++
    [.start 20 Process.sampleConfig, .message (.slave gone),
      .message (.slave { gone with slaveID := "s-2" }), .call, .fail] ++
    turns 1 [.handle 0 30, .callback 0, .gracefulStop]

def oneEnded (s : Fleet) : Bool :=
  s.calls == [(4, 1), (2, 0)] && s.done.map Delivery.ok == [false, false, true, false, false] &&
    s.members.map (fun m => m.process.serving == .exited) == [true, false]

theorem fleet_kept_two : ∃ s, (fleet .least).run .initial twoProcesses = some s ∧
    oneEnded s = true ∧ FleetKept .least s := by
  obtain ⟨s, ran, passes⟩ := System.run_passes twoProcesses oneEnded (by decide +kernel :
    ((fleet .least).run .initial twoProcesses).any oneEnded = true)
  exact ⟨s, ran, passes, fleet_kept (System.run_reachable ran)⟩

end Fleet

end Megalo.Controller
