import Megalo.Redis.Client
import Megalo.Library.Interleave

/-! The states channel beside the store. PublishSlaveState runs SET and then PUBLISH, and
calls for one slave interleave: the last message need not be the record. -/
namespace Megalo.Redis

open Transition

/-- A call of PublishSlaveState. -/
structure Writer where
  state : SlaveState
  pc : Publishing
  deriving DecidableEq

/-- Calls of PublishSlaveState on a Redis that never fails. -/
def writers : Composite Server Writer Unit Empty where
  starts _ _ := false
  move _ _ r w :=
    if w.pc.running then
      let next := w.pc.step w.state ⟨0, .answered⟩
      some (next.2.run r, { w with pc := next.1 })
    else none
  outside e _ := e.elim

def written (r : Server) (states : List SlaveState) : Config Server Writer :=
  ⟨r, states.map fun state => ⟨state, publishSlaveState state⟩⟩

def stored (r : Server) (S id : String) : Option Payload := r.store.get (sessionSlaveKey S id)

def lastPublished (r : Server) (S id : String) : Option SlaveState :=
  r.states.find? fun state => state.sessionID == S && state.slaveID == id

/-- The last message for the slave carries its record. -/
def Converged (r : Server) (S id : String) : Prop :=
  ∃ state, lastPublished r S id = some state ∧ stored r S id = some (.slave state)

/-- A call that is still to publish what is stored, or what it is going to store. -/
def Writer.due (r : Server) (w : Writer) : Bool :=
  w.pc == .set ||
    w.pc == .publish && stored r w.state.sessionID w.state.slaveID == some (.slave w.state)

/-- A call publishes what is stored, or another call still has it to publish. -/
def followed (c : Config Server Writer) : Turn Writer Unit Empty → Bool
  | .run i _ => match c.threads[i]? with
    | some w => w.pc != .publish || w.due c.shared ||
        (List.range c.threads.length).any fun j => j != i && (c.threads[j]?).any (Writer.due c.shared)
    | none => true
  | _ => true

/-- The calls are for one slave, and none has failed. -/
def For (S id : String) (c : Config Server Writer) : Prop :=
  ∀ w ∈ c.threads, w.state.sessionID = S ∧ w.state.slaveID = id ∧
    (w.pc = .set ∨ w.pc = .publish ∨ w.pc = .returned none)

/-- Nobody is left to publish the record, and the last message is another state. -/
def Diverged (S id : String) (c : Config Server Writer) : Prop :=
  (∀ w ∈ c.threads, w.due c.shared = false) ∧ ¬ Converged c.shared S id

section Run

variable {S id : String} {c c' : Config Server Writer} {a : Turn Writer Unit Empty}

/-- A turn is a call's SET or its PUBLISH. -/
theorem writer_turn (own : For S id c) (taken : writers.step c a = some c') :
    ∃ i state, state.sessionID = S ∧ state.slaveID = id ∧ a = .run i () ∧
      (c.threads[i]? = some ⟨state, .set⟩ ∧
          c' = ⟨Command.run c.shared (.set state), c.threads.set i ⟨state, .publish⟩⟩ ∨
        c.threads[i]? = some ⟨state, .publish⟩ ∧
          c' = ⟨Command.run c.shared (.publish state),
            c.threads.set i ⟨state, .returned none⟩⟩) := by
  cases Composite.took_of_step taken with
  | start starts => cases starts
  | outside => rename_i e _ _; exact e.elim
  | @run i _ w w' g found moved =>
    obtain ⟨state, pc⟩ := w
    obtain ⟨session, slave, place⟩ := own _ (List.mem_of_getElem? found)
    refine ⟨i, state, session, slave, rfl, ?_⟩
    rcases place with rfl | rfl | rfl
    · cases Option.some.inj moved
      exact .inl ⟨found, rfl⟩
    · cases Option.some.inj moved
      exact .inr ⟨found, rfl⟩
    · cases moved

theorem For.step (own : For S id c) (taken : writers.step c a = some c') : For S id c' := by
  obtain ⟨i, state, session, slave, rfl, ⟨_, rfl⟩ | ⟨_, rfl⟩⟩ := writer_turn own taken <;>
    intro w member <;> rcases List.mem_or_eq_of_mem_set member with old | rfl
  · exact own w old
  · exact ⟨session, slave, .inr (.inl rfl)⟩
  · exact own w old
  · exact ⟨session, slave, .inr (.inr rfl)⟩

theorem stored_set (r : Server) {state : SlaveState} (session : state.sessionID = S)
    (slave : state.slaveID = id) :
    stored (Command.run r (.set state)) S id = some (.slave state) := by
  subst session slave
  exact Stamped.Store.get_put_self

theorem lastPublished_publish (r : Server) {state : SlaveState} (session : state.sessionID = S)
    (slave : state.slaveID = id) :
    lastPublished (Command.run r (.publish state)) S id = some state := by
  simp only [lastPublished, Command.run, List.find?_cons, session, slave, beq_self_eq_true,
    Bool.and_self]

/-- The call that publishes is the last that could carry the record exactly when it is not
followed. -/
theorem followed_publish {i : Nat} {state : SlaveState}
    (found : c.threads[i]? = some ⟨state, .publish⟩) :
    ¬ followed c (.run i ()) = true ↔
      stored c.shared state.sessionID state.slaveID ≠ some (.slave state) ∧
        ∀ j w, j ≠ i → c.threads[j]? = some w → w.due c.shared = false := by
  have own : Writer.due c.shared ⟨state, .publish⟩ = true ↔
      stored c.shared state.sessionID state.slaveID = some (.slave state) := by
    simp [Writer.due]
  simp only [followed, found, bne_self_eq_false, Bool.false_or, Bool.or_eq_true, own, not_or,
    List.any_eq_true, not_exists, not_and, ne_eq]
  refine and_congr_right fun _ => ⟨fun none j w other at_j => ?_, fun none j _ => ?_⟩
  · have bound := (List.getElem?_eq_some_iff.mp at_j).1
    simpa [at_j, other] using none j (List.mem_range.mpr bound)
  · cases at_j : c.threads[j]? with
    | none => simp
    | some w =>
      by_cases other : j = i
      · simp [other]
      · simp [none j w other at_j]

theorem diverged_step (own : For S id c) (taken : writers.step c a = some c') :
    Diverged S id c' ↔ Diverged S id c ∨ ¬ followed c a = true := by
  obtain ⟨i, state, session, slave, rfl, ⟨found, rfl⟩ | ⟨found, rfl⟩⟩ := writer_turn own taken
  · -- the call that has SET the record is to publish it
    have before : Writer.due c.shared ⟨state, .set⟩ = true := rfl
    have after : Writer.due (Command.run c.shared (.set state)) ⟨state, .publish⟩ = true := by
      simp only [Writer.due, session, slave, stored_set c.shared session slave,
        beq_self_eq_true, Bool.and_self, Bool.or_true]
    have member : (⟨state, .publish⟩ : Writer) ∈ c.threads.set i ⟨state, .publish⟩ :=
      List.mem_iff_getElem?.mpr ⟨i, List.getElem?_set_self (List.getElem?_eq_some_iff.mp found).1⟩
    have passes : followed c (.run i ()) = true := by
      simp only [followed, found]
      rfl
    refine iff_of_false (fun h => ?_) (not_or.mpr ⟨fun h => ?_, not_not_intro passes⟩)
    · rw [h.1 _ member] at after
      cases after
    · rw [h.1 _ (List.mem_of_getElem? found)] at before
      cases before
  · -- the last message is this call's state from now on
    have last := lastPublished_publish c.shared session slave
    have now : Converged (Command.run c.shared (.publish state)) S id ↔
        stored c.shared state.sessionID state.slaveID = some (.slave state) := by
      rw [session, slave]
      simp only [Converged, last, Option.some.injEq, exists_eq_left']
      rfl
    have after : Diverged S id ⟨Command.run c.shared (.publish state),
        c.threads.set i ⟨state, .returned none⟩⟩ ↔ ¬ followed c (.run i ()) = true := by
      rw [followed_publish found, Diverged, now, and_comm]
      refine and_congr_right fun _ => ⟨fun none j w other at_j => ?_, fun none w member => ?_⟩
      · exact none w (List.mem_of_getElem? ((List.getElem?_set_ne other.symm).trans at_j))
      · obtain ⟨j, at_j⟩ := List.mem_iff_getElem?.mp member
        rcases Composite.getElem?_set_some at_j with ⟨_, rfl⟩ | ⟨other, old⟩
        · rfl
        · exact none j w other old
    rw [after, or_iff_right_of_imp]
    intro before
    refine (followed_publish found).mpr ⟨fun same => ?_, fun j w _ at_j => ?_⟩
    · have due := before.1 _ (List.mem_of_getElem? found)
      simp [Writer.due, same] at due
    · exact before.1 w (List.mem_of_getElem? at_j)

/-- When all calls have returned, the last message carries the record exactly when every call
that published was followed. -/
theorem stream_converges {r : Server} {states : List SlaveState} (named : isBlank S = false)
    (some : states ≠ []) (one : ∀ state ∈ states, state.sessionID = S ∧ state.slaveID = id)
    {as : List (Turn Writer Unit Empty)} (ran : writers.system.run (written r states) as = .some c)
    (returned : ∀ w ∈ c.threads, w.pc.running = false) :
    Converged c.shared S id ↔
      writers.system.Meets (fun c a => followed c a = true) (written r states) as := by
  have own : For S id (written r states) := by
    intro w member
    obtain ⟨state, given, rfl⟩ := List.mem_map.mp member
    obtain ⟨session, slave⟩ := one state given
    refine ⟨session, slave, .inl ?_⟩
    simp only [publishSlaveState, session, named, Bool.false_eq_true, if_false]
  have free : writers.system.Meets (fun _ _ => True) (written r states) as :=
    System.meets_of_forall (fun _ _ _ => trivial) _
  have outcome : Diverged S id c ↔ Diverged S id (written r states) ∨
      ¬ writers.system.Meets (fun c a => followed c a = true) (written r states) as :=
    System.run_raises (J := For S id) (P := Diverged S id)
      (fun _ _ _ own _ taken => own.step taken)
      (fun _ _ _ own _ taken => diverged_step own taken) own free ran
  have start : ¬ Diverged S id (written r states) := by
    intro diverged
    obtain ⟨state, rest, rfl⟩ := List.exists_cons_of_ne_nil some
    have first : (⟨state, publishSlaveState state⟩ : Writer) ∈ (written r (state :: rest)).threads :=
      List.mem_cons_self
    have due := diverged.1 _ first
    simp [Writer.due, publishSlaveState, (one state List.mem_cons_self).1, named] at due
  have settled : Diverged S id c ↔ ¬ Converged c.shared S id := by
    refine and_iff_right fun w member => ?_
    have ended := returned w member
    unfold Writer.due
    cases pc : w.pc <;> simp [pc, Publishing.running] at ended ⊢
  rw [settled, or_iff_right start] at outcome
  exact not_iff_not.mp outcome

/-- A LIVE and a GONE state of one slave are published. -/
def liveAndGone : Config Server Writer := written .empty [.sample .live, .sample .gone]

/-- GONE is SET and published between the SET and the PUBLISH of LIVE. -/
def overtaken : List (Turn Writer Unit Empty) := [.run 0 (), .run 1 (), .run 1 (), .run 0 ()]

/-- The record is GONE, and the last message is LIVE. -/
theorem stream_diverges : ∃ c, writers.system.run liveAndGone overtaken = some c ∧
    (∀ w ∈ c.threads, w.pc.running = false) ∧
      ¬ Converged c.shared UUID.sample.text UUID.sampleSlave.text := by
  obtain ⟨c, ran, passes⟩ := System.run_passes overtaken
    (fun c => c.threads.all (fun w => !w.pc.running) &&
      lastPublished c.shared UUID.sample.text UUID.sampleSlave.text == some (SlaveState.sample .live) &&
        stored c.shared UUID.sample.text UUID.sampleSlave.text ==
          some (.slave (.sample .gone)))
    (by decide +kernel : (writers.system.run liveAndGone overtaken).any _ = true)
  simp only [Bool.and_eq_true, List.all_eq_true, Bool.not_eq_true', beq_iff_eq] at passes
  obtain ⟨⟨returned, last⟩, record⟩ := passes
  refine ⟨c, ran, returned, ?_⟩
  rintro ⟨state, published, same⟩
  rw [last] at published
  rw [record, ← Option.some.inj published] at same
  cases same

theorem stream_converges_served : ∃ c,
    writers.system.run liveAndGone [.run 0 (), .run 1 (), .run 0 (), .run 1 ()] = some c ∧
      Converged c.shared UUID.sample.text UUID.sampleSlave.text := by
  obtain ⟨c, ran, returned⟩ := System.run_passes [.run 0 (), .run 1 (), .run 0 (), .run 1 ()]
    (fun c => c.threads.all fun w => !w.pc.running)
    (by decide +kernel : (writers.system.run liveAndGone _).any _ = true)
  simp only [List.all_eq_true, Bool.not_eq_true'] at returned
  refine ⟨c, ran, (stream_converges UUID.sample.not_blank (by simp) (by simp [SlaveState.sample]) ran
    returned).mpr (System.meets_of_check ?_)⟩
  decide +kernel

end Run

end Megalo.Redis
