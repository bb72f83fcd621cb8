import Megalo.Cluster.Operations

/-! The moves of the operations, each said once: what a step leads to and which command it
runs. Nothing after this module looks into a step function of an operation. -/
namespace Megalo.Cluster

open Redis Slave

/-! A call that has returned is left in the same step, and RegisterSlave runs SET in the step
that draws the slave id: the places in between hold no thread. -/

def Registering.placed : Registering → Bool
  | .publishing _ p => p == .publish
  | .updating _ u => u.running
  | _ => true

def PodUpdating.placed : PodUpdating → Bool
  | .publishing _ _ p => p.running
  | .updating _ _ u => u.running
  | _ => true

def Handling.placed : Handling → Bool
  | .listing _ l => l.running
  | .publishing _ _ _ p => p.running
  | .updating _ _ _ u => u.running
  | _ => true

def Ending.placed : Ending → Bool
  | .listing l => l.running
  | .publishing _ _ _ p _ => p.running
  | .updating _ u => u.running
  | .deleting d => d.running
  | .returned _ => true

section Placed

theorem placed_registered {state : SlaveState} {p : Publishing} (past : p ≠ .set) :
    (Registering.published state p).placed = true := by
  cases p with
  | set => exact absurd rfl past
  | publish => rfl
  | returned err => cases err <;> rfl

theorem placed_registering (state : SlaveState) (u : Updating) :
    (Registering.updated state u).placed = true := by
  cases u with
  | returned result => cases result <;> rfl
  | _ => rfl

theorem placed_reported (S : String) (previous state : SlaveState) (p : Publishing) :
    (PodUpdating.published S previous state p).placed = true := by
  cases p with
  | returned err =>
    cases err with
    | none =>
      simp only [PodUpdating.published]
      split <;> rfl
    | some err => rfl
  | _ => rfl

theorem placed_reporting (previous state : SlaveState) (u : Updating) :
    (PodUpdating.updated previous state u).placed = true := by
  cases u with
  | returned result => cases result <;> rfl
  | _ => rfl

theorem placed_resolved (event : Event) (l : Listing) :
    (Handling.resolved event l).placed = true := by
  cases l with
  | returned result =>
    cases result with
    | error err => rfl
    | ok states =>
      simp only [Handling.resolved]
      split <;> rfl
  | _ => rfl

theorem placed_answered (event : Event) (previous state : SlaveState) (p : Publishing) :
    (Handling.published event previous state p).placed = true := by
  cases p with
  | returned err =>
    cases err with
    | none =>
      simp only [Handling.published]
      split <;> rfl
    | some err => rfl
  | _ => rfl

theorem placed_handling (event : Event) (previous state : SlaveState) (u : Updating) :
    (Handling.updated event previous state u).placed = true := by
  cases u <;> rfl

theorem next_shape (S : String) (now : Time) (count : Nat) (states : List SlaveState) :
    (∃ err, Ending.publishNext S now count states = .returned (some err)) ∨
      Ending.publishNext S now count states = .updating count (.watch 0) ∨
        ∃ state rest, Ending.publishNext S now count states =
          .publishing now count (goneState now state) .set rest := by
  cases states with
  | nil => exact .inr (.inl rfl)
  | cons state rest =>
    simp only [Ending.publishNext, publishSlaveState]
    by_cases none : isBlank (goneState now state).sessionID = true
    · simp only [if_pos none]
      exact .inl ⟨_, rfl⟩
    · simp only [if_neg none]
      exact .inr (.inr ⟨state, rest, rfl⟩)

theorem listed_shape (S : String) (now : Time) (l : Listing) :
    (∃ err, Ending.listed S now l = .returned (some err)) ∨
      (l.running = true ∧ Ending.listed S now l = .listing l) ∨
        ∃ count states, Ending.listed S now l = .publishNext S now count states := by
  cases l with
  | returned result =>
    cases result with
    | error err => exact .inl ⟨_, rfl⟩
    | ok states => exact .inr (.inr ⟨_, states, rfl⟩)
  | _ => exact .inr (.inl ⟨rfl, rfl⟩)

theorem placed_next (S : String) (now : Time) (count : Nat) (states : List SlaveState) :
    (Ending.publishNext S now count states).placed = true := by
  rcases next_shape S now count states with ⟨_, same⟩ | same | ⟨_, _, same⟩ <;> rw [same] <;> rfl

theorem placed_listed (S : String) (now : Time) (l : Listing) :
    (Ending.listed S now l).placed = true := by
  rcases listed_shape S now l with ⟨_, same⟩ | ⟨running, same⟩ | ⟨_, _, same⟩ <;> rw [same]
  · rfl
  · exact running
  · exact placed_next ..

theorem placed_declared (S : String) (now : Time) (count : Nat) (state : SlaveState)
    (rest : List SlaveState) (p : Publishing) :
    (Ending.published S now count state rest p).placed = true := by
  cases p with
  | returned err => cases err <;> first | exact placed_next .. | rfl
  | _ => rfl

theorem placed_finishing (count : Nat) (u : Updating) : (Ending.updated count u).placed = true := by
  cases u with
  | returned result => cases result <;> rfl
  | _ => rfl

theorem placed_deleted (d : Deleting) : (Ending.deleted d).placed = true := by
  cases d with
  | returned err => cases err <;> rfl
  | _ => rfl

end Placed

section Automata

variable {S : UUID} {r : Server} {i : Input} {req : RegisterSlaveRequest} {slaveID : UUID}

inductive Registering.Moved (req : RegisterSlaveRequest) (r : Server) (i : Input) (slaveID : UUID) :
    Registering → Registering × Command → Prop
  | unresolved {err : String} :
      Moved req r i slaveID .getActiveSessionID (.returned (.error err), .read)
  | resolve {sessionID : String} (got : Redis.getActiveSessionID r i = .ok sessionID) :
      Moved req r i slaveID .getActiveSessionID (.resolved sessionID, .read)
  | blank {sessionID err : String} {c : Command} (none : isBlank sessionID = true) :
      Moved req r i slaveID (.resolved sessionID) (.returned (.error err), c)
  | failed {pc : Registering} {err : String} {c : Command} (fault : i.reply.error.isSome = true) :
      Moved req r i slaveID pc (.returned (.error err), c)
  | set {sessionID : String} {state : SlaveState}
      (made : state = registeredState sessionID req slaveID i.now)
      (answered : i.reply = .answered) :
      Moved req r i slaveID (.resolved sessionID) (.publishing state .publish, .set state)
  | publish {state : SlaveState} (answered : i.reply = .answered) :
      Moved req r i slaveID (.publishing state .publish)
        (.updating state (.watch 0), .publish state)
  | update {state : SlaveState} {u next : Updating}
      (moved : Updating.Moved state.sessionID countLive r i u (next, .read))
      (running : next.running = true) :
      Moved req r i slaveID (.updating state u) (.updating state next, .read)
  | abandon {state : SlaveState} {u : Updating} {cause err : String} {c : Command}
      (moved : Updating.Moved state.sessionID countLive r i u (.returned (.error cause), c)) :
      Moved req r i slaveID (.updating state u) (.returned (.error err), c)
  | commit {state : SlaveState} {a n : Nat} {m : SessionMetrics} (answered : i.reply = .answered)
      (same : r.store.stamp (sessionMetricsKey state.sessionID) = n) :
      Moved req r i slaveID (.updating state (.exec a n m))
        (.returned (.ok state), .setMetrics state.sessionID m)
  | finished {result : Except String SlaveState} :
      Moved req r i slaveID (.returned result) (.returned result, .read)

theorem Registering.step_moved {pc : Registering} (placed : pc.placed = true) :
    Registering.Moved req r i slaveID pc (pc.step req r i slaveID) := by
  cases pc with
  | getActiveSessionID =>
    simp only [step]
    split
    · exact .unresolved
    · exact .resolve ‹_›
  | resolved sessionID =>
    simp only [step, publishSlaveState]
    split
    · exact .blank ‹_›
    · generalize ran : Publishing.step _ i .set = next
      have moved := ran ▸ Publishing.step_moved (i := i)
        (registeredState sessionID req slaveID i.now) .set
      cases moved with
      | failed fault => exact .failed fault
      | set answered => exact .set rfl answered
  | publishing state p =>
    cases beq_iff_eq.mp placed
    simp only [step]
    generalize ran : Publishing.step state i .publish = next
    have moved := ran ▸ Publishing.step_moved (i := i) state .publish
    cases moved with
    | failed fault => exact .failed fault
    | publish answered => exact .publish answered
  | updating state u =>
    refine u.step_cases (P := fun next =>
      Registering.Moved req r i slaveID (.updating state u) (updated state next.1, next.2)) placed
      (fun next running moved => ?_) (fun _ _ moved => .abandon moved) ?_
    · cases next <;> first | exact .update moved running | cases running
    · rintro a n m rfl answered same
      exact .commit answered same
  | returned result => exact .finished

theorem Registering.step_placed (pc : Registering) : (pc.step req r i slaveID).1.placed = true := by
  cases pc with
  | getActiveSessionID =>
    simp only [step]
    split <;> rfl
  | resolved sessionID => exact placed_registered (Publishing.step_ne_set _ _)
  | publishing state p => exact placed_registered (p.step_ne_set state)
  | updating state u => exact placed_registering state _
  | returned result => rfl

inductive PodUpdating.Moved (sessionID : String) (message : Message) (r : Server) (i : Input) :
    PodUpdating → PodUpdating × Command → Prop
  | rejected {err : Option String} :
      Moved sessionID message r i .received (.returned err, .read)
  | receive {reason : DeathReason} {previous state : SlaveState}
      (got : getSlaveState r i sessionID message.slaveID = .ok previous)
      (made : state = reportedState reason i.now previous) :
      Moved sessionID message r i .received (.publishing previous state .set, .read)
  | failed {pc : PodUpdating} {err : String} {c : Command} (fault : i.reply.error.isSome = true) :
      Moved sessionID message r i pc (.returned (some err), c)
  | set {previous state : SlaveState} (answered : i.reply = .answered) :
      Moved sessionID message r i (.publishing previous state .set)
        (.publishing previous state .publish, .set state)
  | publish {previous state : SlaveState} (answered : i.reply = .answered)
      (counted : counts previous state = true) :
      Moved sessionID message r i (.publishing previous state .publish)
        (.updating previous state (.watch 0), .publish state)
  | uncounted {previous state : SlaveState} (answered : i.reply = .answered)
      (same : counts previous state = false) :
      Moved sessionID message r i (.publishing previous state .publish)
        (.returned none, .publish state)
  | update {previous state : SlaveState} {u next : Updating}
      (moved : Updating.Moved sessionID countGone r i u (next, .read))
      (running : next.running = true) :
      Moved sessionID message r i (.updating previous state u)
        (.updating previous state next, .read)
  | abandon {previous state : SlaveState} {u : Updating} {cause err : String} {c : Command}
      (moved : Updating.Moved sessionID countGone r i u (.returned (.error cause), c)) :
      Moved sessionID message r i (.updating previous state u) (.returned (some err), c)
  | commit {previous state : SlaveState} {a n : Nat} {m : SessionMetrics}
      (answered : i.reply = .answered) (same : r.store.stamp (sessionMetricsKey sessionID) = n) :
      Moved sessionID message r i (.updating previous state (.exec a n m))
        (.returned none, .setMetrics sessionID m)
  | finished {err : Option String} :
      Moved sessionID message r i (.returned err) (.returned err, .read)

theorem PodUpdating.step_moved {sessionID : String} {message : Message} {pc : PodUpdating}
    (placed : pc.placed = true) :
    PodUpdating.Moved sessionID message r i pc (pc.step sessionID message r i) := by
  cases pc with
  | received =>
    simp only [step]
    split
    · exact .rejected
    · split
      · exact .rejected
      · rename_i got
        simp only [publishSlaveState]
        split
        · exact .rejected
        · exact .receive got rfl
  | publishing previous state p =>
    simp only [step]
    generalize ran : p.step state i = next
    have moved := ran ▸ p.step_moved (i := i) state
    cases moved with
    | failed fault => exact .failed fault
    | set answered => exact .set answered
    | publish answered =>
      simp only [published]
      split
      · exact .publish answered ‹_›
      · exact .uncounted answered (Bool.not_eq_true _ ▸ ‹_›)
    | finished => cases placed
  | updating previous state u =>
    refine u.step_cases (P := fun next =>
      PodUpdating.Moved sessionID message r i (.updating previous state u)
        (updated previous state next.1, next.2)) placed
      (fun next running moved => ?_) (fun _ _ moved => .abandon moved) ?_
    · cases next <;> first | exact .update moved running | cases running
    · rintro a n m rfl answered same
      exact .commit answered same
  | returned err => exact .finished

inductive Handling.Moved (r : Server) (i : Input) : Handling → Handling × Command → Prop
  | listing {event : Event} {l : Listing} :
      Moved r i (.listing event l) (.resolved event (l.step event.sessionID r i), .read)
  | failed {event : Event} {previous state : SlaveState} {p : Publishing} {c : Command}
      (fault : i.reply.error.isSome = true) :
      Moved r i (.publishing event previous state p) (.idle, c)
  | set {event : Event} {previous state : SlaveState} (answered : i.reply = .answered) :
      Moved r i (.publishing event previous state .set)
        (.publishing event previous state .publish, .set state)
  | publish {event : Event} {previous state : SlaveState} (answered : i.reply = .answered)
      (counted : counts previous state = true) :
      Moved r i (.publishing event previous state .publish)
        (.updating event previous state (.watch 0), .publish state)
  | uncounted {event : Event} {previous state : SlaveState} (answered : i.reply = .answered)
      (same : counts previous state = false) :
      Moved r i (.publishing event previous state .publish) (.idle, .publish state)
  | update {event : Event} {previous state : SlaveState} {u next : Updating}
      (moved : Updating.Moved event.sessionID countGone r i u (next, .read))
      (running : next.running = true) :
      Moved r i (.updating event previous state u) (.updating event previous state next, .read)
  | abandon {event : Event} {previous state : SlaveState} {u : Updating} {cause : String}
      {c : Command} (moved : Updating.Moved event.sessionID countGone r i u
        (.returned (.error cause), c)) :
      Moved r i (.updating event previous state u) (.idle, c)
  | commit {event : Event} {previous state : SlaveState} {a n : Nat} {m : SessionMetrics}
      (answered : i.reply = .answered)
      (same : r.store.stamp (sessionMetricsKey event.sessionID) = n) :
      Moved r i (.updating event previous state (.exec a n m))
        (.idle, .setMetrics event.sessionID m)

theorem Handling.step_moved {event : Event} {pc : Handling} (placed : pc.placed = true)
    (busy : pc ≠ .idle) (settled : ∀ event previous, pc ≠ .dispatch event previous) :
    Handling.Moved r i pc (pc.step r i event) := by
  cases pc with
  | idle => exact absurd rfl busy
  | listing event l => exact .listing
  | dispatch event previous => exact absurd rfl (settled event previous)
  | publishing event previous state p =>
    simp only [step]
    generalize ran : p.step state i = next
    have moved := ran ▸ p.step_moved (i := i) state
    cases moved with
    | failed fault => exact .failed fault
    | set answered => exact .set answered
    | publish answered =>
      simp only [published]
      split
      · exact .publish answered ‹_›
      · exact .uncounted answered (Bool.not_eq_true _ ▸ ‹_›)
    | finished => cases placed
  | updating event previous state u =>
    refine u.step_cases (P := fun next =>
      Handling.Moved r i (.updating event previous state u)
        (updated event previous state next.1, next.2)) placed
      (fun next running moved => ?_) (fun _ _ moved => .abandon moved) ?_
    · cases next <;> first | exact .update moved running | cases running
    · rintro a n m rfl answered same
      exact .commit answered same

inductive Ending.Moved (sessionID : String) (r : Server) (i : Input) :
    Ending → Ending × Command → Prop
  | failed {pc : Ending} {err : String} {c : Command} (fault : i.reply.error.isSome = true) :
      Moved sessionID r i pc (.returned (some err), c)
  | list (answered : i.reply = .answered) :
      Moved sessionID r i (.listing .keys) (.listed sessionID i.now (.next []
        ((r.keys (sessionSlavePattern sessionID)).insertionSort (· ≤ ·))), .read)
  | read {key : String} {rest : List String} {states : List SlaveState} {state : SlaveState}
      (answered : i.reply = .answered) (got : r.store.get key = some (.slave state)) :
      Moved sessionID r i (.listing (.get key rest states))
        (.listed sessionID i.now (.next (states ++ [state]) rest), .read)
  | unreadable {key err : String} {rest : List String} {states : List SlaveState}
      (answered : i.reply = .answered) (none : ∀ state, r.store.get key ≠ some (.slave state)) :
      Moved sessionID r i (.listing (.get key rest states)) (.returned (some err), .read)
  | set {now : Time} {count : Nat} {state : SlaveState} {rest : List SlaveState}
      (answered : i.reply = .answered) :
      Moved sessionID r i (.publishing now count state .set rest)
        (.publishing now count state .publish rest, .set state)
  | publish {now : Time} {count : Nat} {state : SlaveState} {rest : List SlaveState}
      (answered : i.reply = .answered) :
      Moved sessionID r i (.publishing now count state .publish rest)
        (.publishNext sessionID now count rest, .publish state)
  | update {count : Nat} {u next : Updating}
      (moved : Updating.Moved sessionID (countAllGone count) r i u (next, .read))
      (running : next.running = true) :
      Moved sessionID r i (.updating count u) (.updating count next, .read)
  | abandon {count : Nat} {u : Updating} {cause err : String} {c : Command}
      (moved : Updating.Moved sessionID (countAllGone count) r i u (.returned (.error cause), c)) :
      Moved sessionID r i (.updating count u) (.returned (some err), c)
  | commit {count a n : Nat} {m : SessionMetrics} (answered : i.reply = .answered)
      (same : r.store.stamp (sessionMetricsKey sessionID) = n) :
      Moved sessionID r i (.updating count (.exec a n m)) (.deleting .keys, .setMetrics sessionID m)
  | keys (answered : i.reply = .answered) : Moved sessionID r i (.deleting .keys)
      (.deleting (.active (r.keys (sessionSlavePattern sessionID))), .read)
  | active {listed : List String} (answered : i.reply = .answered) :
      Moved sessionID r i (.deleting (.active listed)) (.deleting (.exec listed
        (((r.store.get activeSessionKey).map Payload.raw).getD "")), .read)
  | delete {listed : List String} {active : String} (answered : i.reply = .answered) :
      Moved sessionID r i (.deleting (.exec listed active))
        (.returned none, .delete (deletedKeys sessionID active listed))
  | finished {err : Option String} : Moved sessionID r i (.returned err) (.returned err, .read)

theorem Ending.step_moved {sessionID : String} {pc : Ending} (placed : pc.placed = true) :
    Ending.Moved sessionID r i pc (pc.step sessionID r i) := by
  cases pc with
  | listing l =>
    cases fault : i.reply.error with
    | some err =>
      cases l with
      | returned result => cases placed
      | _ =>
        simp only [step, Listing.step, fault]
        exact .failed (by rw [fault]; rfl)
    | none =>
      have answered := Reply.answered_of_error fault
      cases l with
      | keys =>
        simp only [step, Listing.step, fault]
        exact .list answered
      | get key rest states =>
        cases got : r.store.get key with
        | none =>
          simp only [step, Listing.step, fault, got]
          exact .unreadable answered (by simp [got])
        | some payload =>
          cases payload with
          | slave state =>
            simp only [step, Listing.step, fault, got, decodeSlaveState]
            exact .read answered got
          | _ =>
            simp only [step, Listing.step, fault, got, decodeSlaveState]
            exact .unreadable answered (by simp [got])
      | returned result => cases placed
  | publishing now count state p rest =>
    simp only [step]
    generalize ran : p.step state i = next
    have moved := ran ▸ p.step_moved (i := i) state
    cases moved with
    | failed fault => exact .failed fault
    | set answered => exact .set answered
    | publish answered => exact .publish answered
    | finished => cases placed
  | updating count u =>
    refine u.step_cases (P := fun next =>
      Ending.Moved sessionID r i (.updating count u) (updated count next.1, next.2)) placed
      (fun next running moved => ?_) (fun _ _ moved => .abandon moved) ?_
    · cases next <;> first | exact .update moved running | cases running
    · rintro a n m rfl answered same
      exact .commit answered same
  | deleting d =>
    cases fault : i.reply.error with
    | some err =>
      cases d with
      | returned err => cases placed
      | _ =>
        simp only [step, Deleting.step, fault]
        exact .failed (by rw [fault]; rfl)
    | none =>
      have answered := Reply.answered_of_error fault
      cases d with
      | keys =>
        simp only [step, Deleting.step, fault]
        exact .keys answered
      | active listed =>
        simp only [step, Deleting.step, fault]
        exact .active answered
      | exec listed active =>
        simp only [step, Deleting.step, answered, Reply.error, Reply.change]
        exact .delete answered
      | returned err => cases placed
  | returned err => exact .finished

theorem Ending.step_placed {sessionID : String} (pc : Ending) :
    (pc.step sessionID r i).1.placed = true := by
  cases pc with
  | listing l => exact placed_listed ..
  | publishing now count state p rest => exact placed_declared ..
  | updating count u => exact placed_finishing count _
  | deleting d => exact placed_deleted _
  | returned err => rfl

end Automata

end Megalo.Cluster
