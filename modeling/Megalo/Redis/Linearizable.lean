import Megalo.Library.Interleave
import Megalo.Redis.Client

/-! Concurrent UpdateSessionMetrics calls and one DeleteSession on a Redis that never
fails. A ledger keeps a list of the changes of the metrics key; a call counts the
changes it has seen, so that an interval of the list is the time it ran. -/
namespace Megalo.Redis

open Stamped Transition

inductive Change
  | commit (call : Nat) (fn : SessionMetrics → SessionMetrics) (now : Time)
  | deletion

/-- Redis, and the changes of the metrics key that took effect so far, in order. -/
structure Ledger where
  redis : Server
  changes : List Change

/-- A call of UpdateSessionMetrics: how many changes had taken effect when it began and
after its last step, and which of them it made. -/
structure Call where
  fn : SessionMetrics → SessionMetrics
  pc : Updating
  began : Nat
  commits : List Nat
  ended : Nat

inductive Caller
  | update (call : Call)
  | delete (pc : Deleting)

def Ledger.run (g : Ledger) (i : Nat) (fn : SessionMetrics → SessionMetrics) (c : Command) :
    Ledger where
  redis := c.run g.redis
  changes := g.changes ++ match c with
    | .setMetrics _ m => [.commit i fn m.updatedAt]
    | .delete _ => [.deletion]
    | _ => []

def Call.next (call : Call) (g g' : Ledger) (pc : Updating) : Command → Call
  | .setMetrics _ _ =>
    { call with
      pc := pc, commits := call.commits ++ [g.changes.length], ended := g'.changes.length }
  | _ => { call with pc := pc, ended := g'.changes.length }

def Caller.move (S : String) (i : Nat) (now : Time) (g : Ledger) :
    Caller → Option (Ledger × Caller)
  | .update call => match call.pc with
    | .returned _ => none
    | pc =>
      let next := Updating.step S call.fn g.redis ⟨now, .answered⟩ pc
      let g' := g.run i call.fn next.2
      some (g', .update (call.next g g' next.1 next.2))
  | .delete pc => match pc with
    | .returned _ => none
    | pc =>
      let next := Deleting.step S g.redis ⟨now, .answered⟩ pc
      some (g.run i id next.2, .delete next.1)

/-- A call starts at its loop head and has seen the changes made so far. -/
def callers (S : String) : Composite Ledger Caller Time Empty where
  starts g l := match l with
    | .update ⟨_, .watch 0, began, [], ended⟩ =>
      began == g.changes.length && ended == g.changes.length
    | _ => false
  move := Caller.move S
  outside e := nomatch e

def created (create : Command) (r : Server) : Config Ledger Caller :=
  ⟨⟨create.run r, []⟩, [.delete .keys]⟩

/-- The metrics after some changes; a commit applies its function and then what the call does. -/
def replay (after : Time → SessionMetrics → SessionMetrics) :
    SessionMetrics → List Change → SessionMetrics
  | m, [] => m
  | m, .commit _ fn now :: rest => replay after (after now (fn m)) rest
  | m, .deletion :: rest => replay after m rest

structure Linearizable (S : String) (initial : SessionMetrics) (c : Config Ledger Caller) :
    Prop where
  stored : .deletion ∉ c.shared.changes → c.shared.redis.store.get (sessionMetricsKey S) =
    some (.metrics (replay (completed S) initial c.shared.changes))
  deleted : .deletion ∈ c.shared.changes →
    c.shared.redis.store.get (sessionMetricsKey S) = none
  once : ∀ (n i : Nat) fn now, c.shared.changes[n]? = some (.commit i fn now) →
    ∃ call, c.threads[i]? = some (.update call) ∧ call.fn = fn ∧ call.commits = [n]
  success : ∀ (i : Nat) call m, c.threads[i]? = some (.update call) → call.pc = .returned (.ok m) →
    ∃ n now, call.commits = [n] ∧ c.shared.changes[n]? = some (.commit i call.fn now) ∧
      call.began ≤ n ∧ n < call.ended ∧ call.ended ≤ c.shared.changes.length
  failure : ∀ (i : Nat) call err, c.threads[i]? = some (.update call) →
    call.pc = .returned (.error err) → call.commits = []
  running : ∀ (i : Nat) call, c.threads[i]? = some (.update call) →
    (∀ result, call.pc ≠ .returned result) → call.commits = []
  realTime : ∀ (i j : Nat) first second, c.threads[i]? = some (.update first) →
    c.threads[j]? = some (.update second) → first.ended ≤ second.began →
      ∀ n ∈ first.commits, ∀ m ∈ second.commits, n < m
  retries : ∀ (i : Nat) call, c.threads[i]? = some (.update call) →
    call.pc = .returned (.error (retryLimit S)) →
      call.began + maxRetries ≤ call.ended ∧ call.ended ≤ c.shared.changes.length

theorem replay_append (after : Time → SessionMetrics → SessionMetrics) (m : SessionMetrics)
    (cs ds : List Change) : replay after m (cs ++ ds) = replay after (replay after m cs) ds := by
  induction cs generalizing m with
  | nil => rfl
  | cons c cs ih => cases c <;> exact ih _

section Moves

variable {S : String} {i : Nat} {now : Time} {g g' : Ledger} {l l' : Caller}

inductive Caller.Moved (S : String) (i : Nat) (now : Time) (g : Ledger) :
    Caller → Ledger × Caller → Prop
  | update {call : Call} {next : Updating × Command}
      (running : ∀ result, call.pc ≠ .returned result)
      (moved : Updating.Moved S call.fn g.redis ⟨now, .answered⟩ call.pc next) :
      Moved S i now g (.update call) (g.run i call.fn next.2,
        .update (call.next g (g.run i call.fn next.2) next.1 next.2))
  | list : Moved S i now g (.delete .keys)
      (g.run i id .read, .delete (.active (g.redis.keys (sessionSlavePattern S))))
  | active {keys : List String} {id' : String} : Moved S i now g (.delete (.active keys))
      (g.run i id .read, .delete (.exec keys id'))
  | exec {keys : List String} {id' : String} : Moved S i now g (.delete (.exec keys id'))
      (g.run i id (.delete (deletedKeys S id' keys)), .delete (.returned none))

theorem Caller.moved (h : Caller.move S i now g l = some (g', l')) :
    Caller.Moved S i now g l (g', l') := by
  cases l with
  | update call =>
    obtain ⟨fn, pc, began, commits, ended⟩ := call
    cases pc with
    | returned result => cases h
    | _ =>
      cases Option.some.inj h
      exact .update (by simp) (Updating.step_moved _)
  | delete pc =>
    cases pc with
    | returned err => cases h
    | keys => cases Option.some.inj h; exact .list
    | active keys => cases Option.some.inj h; exact .active
    | exec keys id' => cases Option.some.inj h; exact .exec

theorem run_read (fn : SessionMetrics → SessionMetrics) : g.run i fn .read = g := by
  simp [Ledger.run, Command.run]

end Moves

section Invariant

variable {S : String} {base i : Nat} {now : Time} {g g' : Ledger} {initial : SessionMetrics}

def Ledger.stamp (S : String) (g : Ledger) : Nat := g.redis.store.stamp (sessionMetricsKey S)

/-- Every attempt before this one saw the key change: the attempts are paid for by
changes made since the call began. -/
def Call.Fair (S : String) (base i : Nat) (g : Ledger) (call : Call) : Prop :=
  call.ended ≤ g.changes.length ∧ match call.pc with
  | .watch a => call.commits = [] ∧ base + call.began + a ≤ g.stamp S
  | .get a n => call.commits = [] ∧ base + call.began + a ≤ n ∧ n ≤ g.stamp S
  | .exec a n m => call.commits = [] ∧ base + call.began + a ≤ n ∧ ∃ old now,
      m = completed S now (call.fn old) ∧
        g.redis.store.Saw (sessionMetricsKey S) n (.metrics old)
  | .returned (.ok _) => ∃ n now, call.commits = [n] ∧
      g.changes[n]? = some (.commit i call.fn now) ∧ call.began ≤ n ∧ n < call.ended
  | .returned (.error err) => call.commits = [] ∧
      (err = retryLimit S → call.began + maxRetries ≤ call.ended)

structure Agreed (S : String) (base : Nat) (initial : SessionMetrics)
    (c : Config Ledger Caller) : Prop where
  stamp : c.shared.stamp S = base + c.shared.changes.length
  stored : .deletion ∉ c.shared.changes → c.shared.redis.store.get (sessionMetricsKey S) =
    some (.metrics (replay (completed S) initial c.shared.changes))
  deleted : .deletion ∈ c.shared.changes →
    c.shared.redis.store.get (sessionMetricsKey S) = none
  once : ∀ (n i : Nat) fn now, c.shared.changes[n]? = some (.commit i fn now) →
    ∃ call, c.threads[i]? = some (.update call) ∧ call.fn = fn ∧ call.commits = [n]
  calls : ∀ (i : Nat) call, c.threads[i]? = some (.update call) → call.Fair S base i c.shared
  deleter : ∀ (i : Nat) pc, c.threads[i]? = some (.delete pc) →
    i = 0 ∧ ((∀ err, pc ≠ .returned err) → .deletion ∉ c.shared.changes)

theorem Call.Fair.later {call : Call} (fair : call.Fair S base i g) {more : List Change}
    (grew : g'.changes = g.changes ++ more) (later : Store.Later g.redis.store g'.redis.store) :
    call.Fair S base i g' := by
  have longer : g.changes.length ≤ g'.changes.length := by
    rw [grew, List.length_append]
    exact Nat.le_add_right ..
  have stamps : g.stamp S ≤ g'.stamp S := (later _).1
  obtain ⟨fn, pc, began, commits, ended⟩ := call
  refine ⟨Nat.le_trans fair.1 longer, ?_⟩
  have rest := fair.2
  cases pc with
  | watch a => exact ⟨rest.1, Nat.le_trans rest.2 stamps⟩
  | get a n => exact ⟨rest.1, rest.2.1, Nat.le_trans rest.2.2 stamps⟩
  | exec a n m =>
    obtain ⟨none, paid, old, now, made, saw⟩ := rest
    exact ⟨none, paid, old, now, made, saw.later later⟩
  | returned result =>
    cases result with
    | error err => exact rest
    | ok m =>
      obtain ⟨n, now, mine, entry, bounds⟩ := rest
      have inside : n < g.changes.length := (List.getElem?_eq_some_iff.mp entry).1
      exact ⟨n, now, mine, by rw [grew, List.getElem?_append_left inside, entry], bounds⟩

theorem Call.Fair.within {call : Call} (fair : call.Fair S base i g) {n : Nat}
    (member : n ∈ call.commits) : call.began ≤ n ∧ n < call.ended := by
  have uncommitted : call.commits ≠ [] := List.ne_nil_of_mem member
  obtain ⟨fn, pc, began, commits, ended⟩ := call
  have rest := fair.2
  cases pc with
  | watch a => exact absurd rest.1 uncommitted
  | get a n => exact absurd rest.1 uncommitted
  | exec a n m => exact absurd rest.1 uncommitted
  | returned result =>
    cases result with
    | error err => exact absurd rest.1 uncommitted
    | ok m =>
      obtain ⟨k, now, mine, _, bounds⟩ := rest
      have same : n = k := List.mem_singleton.mp (mine ▸ member)
      exact same ▸ bounds

variable {c : Config Ledger Caller} {call call' : Call}

theorem Agreed.quiet (h : Agreed S base initial c) (found : c.threads[i]? = some (.update call))
    (fair : call'.Fair S base i c.shared) (fn : call'.fn = call.fn)
    (commits : call'.commits = call.commits) :
    Agreed S base initial ⟨c.shared, c.threads.set i (.update call')⟩ := by
  have bound : i < c.threads.length := (List.getElem?_eq_some_iff.mp found).1
  refine ⟨h.stamp, h.stored, h.deleted, fun n j fn' now entry => ?_, fun j k at_j => ?_,
    fun j pc at_j => ?_⟩
  · obtain ⟨k, at_j, same, made⟩ := h.once n j fn' now entry
    by_cases mine : j = i
    · subst mine
      cases found.symm.trans at_j
      exact ⟨call', List.getElem?_set_self bound, fn.trans same, commits.trans made⟩
    · exact ⟨k, by rw [List.getElem?_set_ne (Ne.symm mine), at_j], same, made⟩
  · rcases Composite.getElem?_set_some at_j with ⟨rfl, same⟩ | ⟨_, old⟩
    · cases same
      exact fair
    · exact h.calls j k old
  · rcases Composite.getElem?_set_some at_j with ⟨_, same⟩ | ⟨_, old⟩
    · cases same
    · exact h.deleter j pc old

/-- What EXEC is about to set is made of the latest committed value. -/
theorem Agreed.latest (h : Agreed S base initial c) (found : c.threads[i]? = some (.update call))
    {a n : Nat} {m : SessionMetrics} (pc : call.pc = .exec a n m)
    (same : c.shared.redis.store.stamp (sessionMetricsKey S) = n) :
    call.commits = [] ∧ call.began ≤ c.shared.changes.length ∧
      .deletion ∉ c.shared.changes ∧
        ∃ now, m = completed S now (call.fn (replay (completed S) initial c.shared.changes)) := by
  have fair := (h.calls i call found).2
  rw [pc] at fair
  obtain ⟨none, paid, old, now, made, saw⟩ := fair
  have held := saw.2 same
  have alive : .deletion ∉ c.shared.changes := by
    intro gone
    simp [h.deleted gone] at held
  have latest : old = replay (completed S) initial c.shared.changes := by
    simpa using held.symm.trans (h.stored alive)
  have stamp : n = base + c.shared.changes.length := same.symm.trans h.stamp
  exact ⟨none, by omega, alive, now, latest ▸ made⟩

theorem Agreed.commit (h : Agreed S base initial c) (found : c.threads[i]? = some (.update call))
    {a n : Nat} {m : SessionMetrics} (pc : call.pc = .exec a n m)
    (same : c.shared.redis.store.stamp (sessionMetricsKey S) = n) :
    Agreed S base initial ⟨c.shared.run i call.fn (.setMetrics S m), c.threads.set i (.update
      (call.next c.shared (c.shared.run i call.fn (.setMetrics S m)) (.returned (.ok m))
        (.setMetrics S m)))⟩ := by
  have bound : i < c.threads.length := (List.getElem?_eq_some_iff.mp found).1
  obtain ⟨none, began, alive, now, made⟩ := h.latest found pc same
  have grew : (c.shared.run i call.fn (.setMetrics S m)).changes =
      c.shared.changes ++ [.commit i call.fn m.updatedAt] := rfl
  have later : Store.Later c.shared.redis.store
      (c.shared.run i call.fn (.setMetrics S m)).redis.store := Store.later_put
  refine ⟨?_, fun _ => ?_, fun gone => ?_, fun n' j fn' now' entry => ?_, fun j k at_j => ?_,
    fun j pc' at_j => ?_⟩
  · have := h.stamp
    simp only [Ledger.stamp, Ledger.run, Command.run, Store.stamp_put_self, List.length_append,
      List.length_singleton] at this ⊢
    omega
  · have time : m.updatedAt = now := by rw [made]; rfl
    simp only [Ledger.run, Command.run, Store.get_put_self, replay_append, replay, time, ← made]
  · rw [grew] at gone
    simp [alive] at gone
  · rw [grew] at entry
    rcases Composite.getElem?_append_one entry with before | ⟨rfl, committed⟩
    · obtain ⟨k, at_j, same, mine⟩ := h.once n' j fn' now' before
      refine ⟨k, Composite.getElem?_set_kept at_j fun at_i => ?_, same, mine⟩
      cases found.symm.trans at_i
      simp [none] at mine
    · cases committed
      exact ⟨_, List.getElem?_set_self bound, rfl, by simp [Call.next, none]⟩
  · rcases Composite.getElem?_set_some at_j with ⟨rfl, same⟩ | ⟨_, old⟩
    · cases same
      refine ⟨Nat.le_refl _, c.shared.changes.length, m.updatedAt, by simp [Call.next, none], ?_,
        began, ?_⟩
      · rw [grew]
        exact List.getElem?_concat_length
      · simp [Call.next, grew]
    · exact (h.calls j k old).later grew later
  · rcases Composite.getElem?_set_some at_j with ⟨_, same⟩ | ⟨_, old⟩
    · cases same
    · obtain ⟨first, before⟩ := h.deleter j pc' old
      exact ⟨first, fun running => by rw [grew]; simpa using before running⟩

theorem Agreed.delete (h : Agreed S base initial c) {keys : List String} {active : String}
    (found : c.threads[i]? = some (.delete (.exec keys active))) :
    Agreed S base initial ⟨c.shared.run i id (.delete (deletedKeys S active keys)),
      c.threads.set i (.delete (.returned none))⟩ := by
  obtain ⟨rfl, before⟩ := h.deleter i _ found
  have alive : .deletion ∉ c.shared.changes := before nofun
  have named : sessionMetricsKey S ∈ deletedKeys S active keys := by simp [deletedKeys]
  have grew : (c.shared.run 0 id (.delete (deletedKeys S active keys))).changes =
      c.shared.changes ++ [.deletion] := rfl
  have later : Store.Later c.shared.redis.store
      (c.shared.run 0 id (.delete (deletedKeys S active keys))).redis.store :=
    Store.later_dropAll _
  refine ⟨?_, fun kept => ?_, fun _ => ?_, fun n j fn now entry => ?_, fun j k at_j => ?_,
    fun j pc at_j => ?_⟩
  · have moved :=
      Store.stamp_dropAll (s := c.shared.redis.store) (by rw [h.stored alive]; rfl) named
    have := h.stamp
    simp only [Ledger.stamp, Ledger.run, Command.run, List.length_append,
      List.length_singleton] at this ⊢
    omega
  · rw [grew] at kept
    simp at kept
  · simp only [Ledger.run, Command.run, Store.get_dropAll, named, if_true]
  · rw [grew] at entry
    rcases Composite.getElem?_append_one entry with before | ⟨_, committed⟩
    · obtain ⟨k, at_j, same, mine⟩ := h.once n j fn now before
      exact ⟨k, Composite.getElem?_set_kept at_j (by simp [found]), same, mine⟩
    · cases committed
  · rcases Composite.getElem?_set_some at_j with ⟨_, same⟩ | ⟨_, old⟩
    · cases same
    · exact (h.calls j k old).later grew later
  · rcases Composite.getElem?_set_some at_j with ⟨rfl, same⟩ | ⟨other, old⟩
    · cases same
      exact ⟨rfl, fun running => absurd rfl (running none)⟩
    · exact absurd (h.deleter j pc old).1 other

theorem Agreed.deleting (h : Agreed S base initial c) {pc pc' : Deleting}
    (found : c.threads[i]? = some (.delete pc)) (running : ∀ err, pc ≠ .returned err) :
    Agreed S base initial ⟨c.shared, c.threads.set i (.delete pc')⟩ := by
  refine ⟨h.stamp, h.stored, h.deleted, fun n j fn now entry => ?_, fun j k at_j => ?_,
    fun j pc at_j => ?_⟩
  · obtain ⟨k, at_j, same, mine⟩ := h.once n j fn now entry
    exact ⟨k, Composite.getElem?_set_kept at_j (by simp [found]), same, mine⟩
  · rcases Composite.getElem?_set_some at_j with ⟨_, same⟩ | ⟨_, old⟩
    · cases same
    · exact h.calls j k old
  · rcases Composite.getElem?_set_some at_j with ⟨rfl, same⟩ | ⟨_, old⟩
    · cases same
      obtain ⟨first, before⟩ := h.deleter j _ found
      exact ⟨first, fun _ => before running⟩
    · exact h.deleter j pc old

/-- The change that a failed EXEC found pays for one more attempt. -/
theorem paid_again {began a n stamp : Nat} (paid : base + began + a ≤ n) (saw : n ≤ stamp)
    (moved : stamp ≠ n) : base + began + (a + 1) ≤ stamp := by
  omega

theorem Agreed.updating (h : Agreed S base initial c) {next : Updating × Command}
    (found : c.threads[i]? = some (.update call)) (running : ∀ result, call.pc ≠ .returned result)
    (moved : Updating.Moved S call.fn c.shared.redis ⟨now, .answered⟩ call.pc next) :
    Agreed S base initial ⟨c.shared.run i call.fn next.2, c.threads.set i
      (.update (call.next c.shared (c.shared.run i call.fn next.2) next.1 next.2))⟩ := by
  have fair := (h.calls i call found).2
  generalize pc : call.pc = u at moved
  rw [pc] at fair
  cases moved with
  | failed fault => cases fault
  | lost fault _ => cases fault
  | watched _ =>
    rw [run_read]
    exact h.quiet found ⟨Nat.le_refl _, fair.1, fair.2, Nat.le_refl _⟩ rfl rfl
  | missing _ _ other =>
    rw [run_read]
    exact h.quiet found ⟨Nat.le_refl _, fair.1, fun same => absurd same other⟩ rfl rfl
  | found _ got =>
    rw [run_read]
    exact h.quiet found ⟨Nat.le_refl _, fair.1, fair.2.1, _, now, rfl,
      Store.saw_of_get fair.2.2 got⟩ rfl rfl
  | committed _ same => exact h.commit found pc same
  | retried _ moved _ =>
    obtain ⟨none, paid, old, now, _, saw⟩ := fair
    rw [run_read]
    exact h.quiet found ⟨Nat.le_refl _, none, paid_again paid saw.1 moved⟩ rfl rfl
  | exhausted _ moved last =>
    obtain ⟨none, paid, old, now, _, saw⟩ := fair
    have spent : base + call.began + _ ≤ c.shared.stamp S := paid_again paid saw.1 moved
    have ended : call.began + maxRetries ≤ c.shared.changes.length := by
      rw [h.stamp] at spent
      omega
    rw [run_read]
    exact h.quiet found ⟨Nat.le_refl _, none, fun _ => ended⟩ rfl rfl
  | finished => exact absurd pc (running _)

theorem agreed_step {c c' : Config Ledger Caller} {a : Turn Caller Time Empty}
    (h : Agreed S base initial c) (taken : (callers S).step c a = some c') :
    Agreed S base initial c' := by
  cases Composite.took_of_step taken with
  | @start l ready =>
    refine ⟨h.stamp, h.stored, h.deleted, fun n j fn now entry => ?_, fun j k at_j => ?_,
      fun j pc at_j => ?_⟩
    · obtain ⟨k, at_j, same, mine⟩ := h.once n j fn now entry
      exact ⟨k, Composite.getElem?_append_kept at_j, same, mine⟩
    · rcases Composite.getElem?_append_one at_j with old | ⟨_, rfl⟩
      · exact h.calls j k old
      · obtain ⟨fn, pc, began, commits, ended⟩ := k
        simp only [callers] at ready
        split at ready
        · rename_i same
          cases same
          simp only [Bool.and_eq_true, beq_iff_eq] at ready
          obtain ⟨rfl, rfl⟩ := ready
          exact ⟨Nat.le_refl _, rfl, Nat.le_of_eq h.stamp.symm⟩
        · cases ready
    · rcases Composite.getElem?_append_one at_j with old | ⟨_, rfl⟩
      · exact h.deleter j pc old
      · cases ready
  | run found moved =>
    cases Caller.moved moved with
    | update running next => exact h.updating found running next
    | list => rw [run_read]; exact h.deleting found nofun
    | active => rw [run_read]; exact h.deleting found nofun
    | exec => exact h.delete found
  | outside moved => nomatch ‹Empty›

theorem agreed_created {m m' : SessionMeta} (r : Server)
    (made : createSession now m = .ok (.create m' initial)) :
    ∃ base, Agreed m.sessionID base initial (created (.create m' initial) r) := by
  have own : m'.sessionID = m.sessionID := by
    simp only [createSession] at made
    split at made
    · cases made
    · cases made
      split <;> rfl
  refine ⟨_, rfl, fun _ => ?_, nofun, nofun, fun j k at_j => ?_, fun j pc at_j => ?_⟩
  · simp only [created, Command.run, replay, own,
      Store.get_put_of_ne (sessionMetricsKey_ne_active m.sessionID), Store.get_put_self]
  · cases j <;> cases at_j
  · cases j <;> cases at_j
    exact ⟨rfl, fun _ => nofun⟩

theorem Agreed.linearizable (h : Agreed S base initial c) : Linearizable S initial c where
  stored := h.stored
  deleted := h.deleted
  once := h.once
  success i call m found pc := by
    have fair := h.calls i call found
    simp only [Call.Fair, pc] at fair
    obtain ⟨bound, n, now, mine, entry, began, ended⟩ := fair
    exact ⟨n, now, mine, entry, began, ended, bound⟩
  failure i call err found pc := by
    have fair := (h.calls i call found).2
    rw [pc] at fair
    exact fair.1
  running i call found unfinished := by
    have fair := (h.calls i call found).2
    cases pc : call.pc with
    | returned result => exact absurd pc (unfinished result)
    | _ =>
      rw [pc] at fair
      exact fair.1
  realTime i j first second at_i at_j before n hn m hm := by
    have earlier := (h.calls i first at_i).within hn
    have later := (h.calls j second at_j).within hm
    omega
  retries i call found pc := by
    have fair := h.calls i call found
    simp only [Call.Fair, pc] at fair
    exact ⟨fair.2.2 trivial, fair.1⟩

/-- Any number of calls with any functions, and at most one deletion, in any order. -/
theorem updates_linearizable {m m' : SessionMeta} {r : Server}
    (made : createSession now m = .ok (.create m' initial))
    (reached : (callers m.sessionID).system.Reachable (created (.create m' initial) r) c) :
    Linearizable m.sessionID initial c := by
  obtain ⟨base, start⟩ := agreed_created r made
  have agreed : Agreed m.sessionID base initial c :=
    reached.invariant start fun _ _ _ h _ taken => agreed_step h taken
  exact agreed.linearizable

end Invariant

def SameCounters (a b : SessionMetrics) : Prop :=
  { a with updatedAt := 0 } = { b with updatedAt := 0 }

instance (a b : SessionMetrics) : Decidable (SameCounters a b) := decEq _ _

def sampleMeta : SessionMeta := ⟨UUID.sample.text, 1⟩

def sampleMetrics : SessionMetrics := ⟨UUID.sample.text, 0, 0, 1⟩

def sampleStart : Config Ledger Caller := created (.create sampleMeta sampleMetrics) .empty

def incremented (m : SessionMetrics) : SessionMetrics := { m with liveSlaves := m.liveSlaves + 1 }

def cleared (m : SessionMetrics) : SessionMetrics := { m with sessionID := "" }

/-- A call whose function clears SessionID. -/
def clearing : List (Turn Caller Time Empty) :=
  [.start (.update ⟨cleared, .watch 0, 0, [], 0⟩), .run 1 2, .run 1 3, .run 1 4]

/-- The session id comes back, so the stored metrics are not those the functions alone make. -/
theorem functions_alone_differ : ∃ c stored,
    (callers UUID.sample.text).system.run sampleStart clearing = some c ∧
      .deletion ∉ c.shared.changes ∧
      c.shared.redis.store.get (sessionMetricsKey UUID.sample.text) = some (.metrics stored) ∧
      ¬ SameCounters stored (replay (fun _ m => m) sampleMetrics c.shared.changes) := by
  obtain ⟨c, ran⟩ := Option.isSome_iff_exists.mp (by decide :
    ((callers UUID.sample.text).system.run sampleStart clearing).isSome = true)
  have one : c.shared.changes = [.commit 1 cleared 3] := by
    cases ran
    rfl
  have kept : c.shared.redis.store.get (sessionMetricsKey UUID.sample.text) =
      some (.metrics ⟨UUID.sample.text, 0, 0, 3⟩) := by
    cases ran
    decide
  refine ⟨c, _, ran, by simp [one], kept, ?_⟩
  rw [one]
  decide

/-- Two calls race; the second one tries again after the first commit, and then the session is
deleted. -/
def racing : List (Turn Caller Time Empty) :=
  [.start (.update ⟨incremented, .watch 0, 0, [], 0⟩),
    .start (.update ⟨incremented, .watch 0, 0, [], 0⟩), .run 1 2, .run 2 2, .run 1 3, .run 2 3,
    .run 1 4, .run 2 5, .run 2 6, .run 2 7, .run 2 8, .run 0 9, .run 0 9, .run 0 9]

theorem updates_linearizable_race : ∃ c,
    (callers UUID.sample.text).system.run sampleStart racing = some c ∧
      Linearizable UUID.sample.text sampleMetrics c := by
  obtain ⟨c, ran⟩ := Option.isSome_iff_exists.mp (by decide :
    ((callers UUID.sample.text).system.run sampleStart racing).isSome = true)
  have made : createSession 1 sampleMeta = .ok (.create sampleMeta sampleMetrics) := rfl
  exact ⟨c, ran, updates_linearizable made (System.run_reachable ran)⟩

end Megalo.Redis
