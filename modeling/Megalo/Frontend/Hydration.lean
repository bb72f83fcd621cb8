import Megalo.Frontend.Playing
import Megalo.Frontend.Report
import Mathlib.Data.List.Dedup
import Mathlib.Data.List.MinMax
import Mathlib.Data.List.Sort

/-! Hydration. While startSession waits for its snapshot the socket already brings states; the
snapshot lists the keys of the slaves and then reads them one after another, and it replaces
whatever the messages have made of the pods. -/
namespace Megalo.Frontend

open Transition

/-- The page, and every SET of a slave of its session so far, the oldest first. -/
structure Syncing where
  page : Page
  stored : List SlaveState
  /-- The SETs whose messages the page has applied. -/
  applied : List Nat
  /-- The keys that the snapshot has listed and not read yet. -/
  listed : Option (List String)
  /-- The SETs that the snapshot has read. -/
  entries : List Nat
  hydrated : Bool

inductive SyncEvent
  | store (pod : SlaveState)
  /-- The message of a SET reaches the page. -/
  | message (k : Nat)
  | list
  | get
  /-- A read fails, and all of them are made again. -/
  | retry
  | hydrate (session : SessionMeta) (metrics : SessionMetrics)

def slaveOf (stored : List SlaveState) (k : Nat) : Option String :=
  stored[k]?.map SlaveState.slaveID

def keysOf (stored : List SlaveState) : List String :=
  (stored.map SlaveState.slaveID).dedup.insertionSort (· ≤ ·)

/-- What a GET of the slave's key finds. -/
def lastOf (stored : List SlaveState) (id : String) : Option Nat :=
  (List.range stored.length).reverse.find? fun k => slaveOf stored k == some id

/-- The i-th attempt, from its socket's open event to its snapshot. -/
def syncing (i : Nat) : System Syncing SyncEvent where
  step s e :=
    if s.hydrated then none
    else match e with
      | .store pod => some { s with stored := s.stored ++ [pod] }
      | .message k => s.stored[k]?.bind fun pod =>
          (page.step s.page (.socketMessage i pod)).map fun page =>
            { s with page, applied := s.applied ++ [k] }
      | .list => match s.listed with
        | none => some { s with listed := some (keysOf s.stored), entries := [] }
        | some _ => none
      | .get => match s.listed with
        | some (id :: rest) => (lastOf s.stored id).map fun k =>
            { s with listed := some rest, entries := s.entries ++ [k] }
        | _ => none
      | .retry => some { s with listed := none, entries := [] }
      | .hydrate session metrics => match s.listed with
        | some [] =>
          (page.step s.page (.snapshot i (.ok
            ⟨session, metrics, s.entries.filterMap (s.stored[·]?)⟩))).map fun page =>
              { s with page, hydrated := true }
        | _ => none

namespace Syncing

variable (s : Syncing)

/-- The states that the page has been told of, by a message or by the snapshot. -/
def told : List Nat := s.applied ++ s.entries

/-- No SET of the list that is of the same slave is later. -/
def Latest (ks : List Nat) (k : Nat) : Prop :=
  ∀ j ∈ ks, slaveOf s.stored j = slaveOf s.stored k → j ≤ k

/-- What the page shows of the slave of a SET. -/
def shown (k : Nat) : Option SlaveState :=
  (slaveOf s.stored k).bind fun id => s.page.store.podsById.lookup id

/-- Every slave that the page has been told of is shown, in the last of those states. -/
def NothingLost : Prop := ∀ k ∈ s.told, ∃ j ∈ s.told,
  slaveOf s.stored j = slaveOf s.stored k ∧ s.Latest s.told j ∧
    s.shown k = s.stored[j]?

/-- The snapshot has every slave of a message, read after the last of its messages' states was
stored, or read as that same state. -/
def Covers : Prop := ∀ k ∈ s.applied, s.Latest s.applied k →
  ∃ e ∈ s.entries, slaveOf s.stored e = slaveOf s.stored k ∧
    (k ≤ e ∨ s.stored[k]? = s.stored[e]?)

instance (ks : List Nat) (k : Nat) : Decidable (s.Latest ks k) :=
  inferInstanceAs (Decidable (∀ j ∈ ks, _ → _))

instance : Decidable s.NothingLost := inferInstanceAs (Decidable (∀ k ∈ s.told, _))

instance : Decidable s.Covers := inferInstanceAs (Decidable (∀ k ∈ s.applied, _ → _))

/-- Once it is hydrated the page has lost nothing. -/
def Hydrates : Prop := s.hydrated = true → s.NothingLost

/-- The i-th attempt is the latest one, its socket is open, and it waits for its snapshot. -/
structure Ready (p : Page) (i : Nat) : Prop where
  socket : p.socket = some i
  waits : ∃ a, p.attempts[i]? = some a ∧ p.isCurrent a = true ∧ a.readyState = .opened ∧
    a.awaits = .snapshot

/-- What was told was stored, and the snapshot reads every key once. -/
structure Consistent (i : Nat) : Prop where
  applied : ∀ k ∈ s.applied, k < s.stored.length
  entries : ∀ k ∈ s.entries, k < s.stored.length
  once : (s.entries.filterMap (slaveOf s.stored) ++ s.listed.getD []).Nodup
  ready : s.hydrated = false → Ready s.page i

end Syncing

section Hydration

variable {s t : Syncing} {i k : Nat} {id : String}

theorem ready_of_open {p q : Page} {a : Attempt} (found : p.attempts[i]? = some a)
    (current : p.isCurrent a = true) (taken : page.step p (.socketOpen i) = some q) :
    Syncing.Ready q i := by
  obtain ⟨b, found', -, rfl⟩ := onAttempt_some taken
  cases found.symm.trans found'
  have latest : (p.setAttempt i fun a => { a with readyState := .opened }).isCurrent a = true :=
    current
  rw [Page.onOpen, if_pos latest]
  refine ⟨rfl, ⟨{ a with readyState := .opened, opened := true, awaits := .snapshot }, ?_, current,
    rfl, rfl⟩⟩
  simp [Page.patchMessage, Page.setAttempt, found]

theorem slaveOf_some {stored : List SlaveState} :
    slaveOf stored k = some id ↔ ∃ pod, stored[k]? = some pod ∧ pod.slaveID = id :=
  Option.map_eq_some_iff

theorem slaveOf_append {stored more : List SlaveState} (inside : k < stored.length) :
    slaveOf (stored ++ more) k = slaveOf stored k := by
  rw [slaveOf, slaveOf, List.getElem?_append_left inside]

theorem slaveOf_isSome {stored : List SlaveState} (inside : k < stored.length) :
    ∃ id, slaveOf stored k = some id :=
  ⟨stored[k].slaveID, by rw [slaveOf, List.getElem?_eq_getElem inside, Option.map_some]⟩

theorem lastOf_slave {stored : List SlaveState} (found : lastOf stored id = some k) :
    slaveOf stored k = some id ∧ k < stored.length := by
  have own := List.find?_some found
  refine ⟨beq_iff_eq.mp own, ?_⟩
  have member := List.mem_of_find?_eq_some found
  rwa [List.mem_reverse, List.mem_range] at member

theorem keysOf_nodup (stored : List SlaveState) : (keysOf stored).Nodup :=
  (List.perm_insertionSort _ _).nodup_iff.mpr (List.nodup_dedup _)

/-- Whatever the page was told of has a last state. -/
theorem latest_exists {ks : List Nat} (member : k ∈ ks) :
    ∃ j ∈ ks, slaveOf s.stored j = slaveOf s.stored k ∧ s.Latest ks j := by
  have inside : k ∈ ks.filter fun j => slaveOf s.stored j == slaveOf s.stored k :=
    List.mem_filter.mpr ⟨member, beq_self_eq_true _⟩
  cases most : (ks.filter fun j => slaveOf s.stored j == slaveOf s.stored k).argmax (fun j => j) with
  | none =>
    rw [List.argmax_eq_none.mp most] at inside
    cases inside
  | some m =>
    obtain ⟨memb, own⟩ := List.mem_filter.mp (List.argmax_mem most)
    refine ⟨m, memb, beq_iff_eq.mp own, fun j other same => ?_⟩
    have candidate : j ∈ ks.filter fun j => slaveOf s.stored j == slaveOf s.stored k :=
      List.mem_filter.mpr ⟨other, beq_iff_eq.mpr (same.trans (beq_iff_eq.mp own))⟩
    exact List.le_of_mem_argmax candidate most

theorem lookup_foldl_absent {pods : List SlaveState} (absent : ∀ pod ∈ pods, pod.slaveID ≠ id)
    (byId : Pods) : (pods.foldl (fun byId pod => byId.insert pod.slaveID pod) byId).lookup id =
      byId.lookup id := by
  induction pods generalizing byId with
  | nil => rfl
  | cons pod rest ih =>
    have other : id ≠ pod.slaveID := (absent pod List.mem_cons_self).symm
    rw [List.foldl_cons, ih fun p inside => absent p (.tail _ inside)]
    exact AList.lookup_insert_ne other

theorem lookup_foldl_mem {pods : List SlaveState} (distinct : (pods.map SlaveState.slaveID).Nodup)
    {pod : SlaveState} (member : pod ∈ pods) (byId : Pods) :
    (pods.foldl (fun byId pod => byId.insert pod.slaveID pod) byId).lookup pod.slaveID =
      some pod := by
  induction pods generalizing byId with
  | nil => cases member
  | cons first rest ih =>
    rw [List.map_cons, List.nodup_cons] at distinct
    rcases List.mem_cons.mp member with rfl | inside
    · have others : ∀ p ∈ rest, p.slaveID ≠ pod.slaveID := by
        intro p inside same
        rw [← same] at distinct
        exact distinct.1 (List.mem_map_of_mem inside)
      rw [List.foldl_cons, lookup_foldl_absent others]
      exact AList.lookup_insert _
    · exact ih distinct.2 inside _

/-- What the page shows of a slave after its hydration: what the snapshot has read of it. -/
structure Replaced (s t : Syncing) : Prop where
  stored : t.stored = s.stored
  applied : t.applied = s.applied
  entries : t.entries = s.entries
  listed : t.listed = s.listed
  hydrated : t.hydrated = true
  shown : ∀ e ∈ s.entries, ∀ id, slaveOf s.stored e = some id →
    t.page.store.podsById.lookup id = s.stored[e]?
  only : ∀ id pod, t.page.store.podsById.lookup id = some pod →
    ∃ e ∈ s.entries, slaveOf s.stored e = some id ∧ s.stored[e]? = some pod

theorem hydrate_replaces {session : SessionMeta} {metrics : SessionMetrics}
    (consistent : s.Consistent i) (taken : (syncing i).step s (.hydrate session metrics) = some t) :
    Replaced s t := by
  simp only [syncing] at taken
  split at taken
  · cases taken
  · rename_i waiting
    split at taken
    · rename_i listed
      obtain ⟨page, stepped, rfl⟩ := Option.map_eq_some_iff.mp taken
      obtain ⟨-, a, found, current, -, -⟩ := consistent.ready (Bool.not_eq_true _ ▸ waiting)
      obtain ⟨b, found', -, rfl⟩ := onAttempt_some stepped
      cases found.symm.trans found'
      have latest : (s.page.setAttempt i fun a => { a with awaits := .nothing }).isCurrent a = true :=
        current
      have distinct : ((s.entries.filterMap (s.stored[·]?)).map SlaveState.slaveID).Nodup := by
        rw [List.map_filterMap]
        have once := consistent.once
        rwa [listed, Option.getD_some, List.append_nil] at once
      refine ⟨rfl, rfl, rfl, rfl, rfl, fun e inside id own => ?_, fun id pod there => ?_⟩
      · obtain ⟨pod, stored, rfl⟩ := slaveOf_some.mp own
        have member : pod ∈ s.entries.filterMap (s.stored[·]?) :=
          List.mem_filterMap.mpr ⟨e, inside, stored⟩
        simp only [Page.onSnapshot, if_pos latest, stored]
        exact lookup_foldl_mem distinct member ∅
      · simp only [Page.onSnapshot, if_pos latest] at there
        by_cases absent : ∀ pod ∈ s.entries.filterMap (s.stored[·]?), pod.slaveID ≠ id
        · have gone := lookup_foldl_absent absent ∅
          cases (there.symm.trans gone).trans (AList.lookup_empty id)
        · push Not at absent
          obtain ⟨other, member, rfl⟩ := absent
          have found := lookup_foldl_mem distinct member ∅
          cases Option.some.inj (there.symm.trans found)
          obtain ⟨e, inside, stored⟩ := List.mem_filterMap.mp member
          exact ⟨e, inside, slaveOf_some.mpr ⟨pod, stored, rfl⟩, stored⟩
    · cases taken

/-- Nothing is lost exactly where the snapshot covers every message that was applied. -/
theorem Replaced.lost_iff (replaced : Replaced s t) (consistent : s.Consistent i) :
    t.NothingLost ↔ s.Covers := by
  obtain ⟨stored, applied, entries, -, -, shown, only⟩ := replaced
  simp only [Syncing.NothingLost, Syncing.told, Syncing.Latest, Syncing.shown, stored, applied,
    entries]
  constructor
  · rintro kept k member most
    obtain ⟨id, own⟩ := slaveOf_isSome (consistent.applied k member)
    obtain ⟨j, told, slave, last, lookup⟩ := kept k (List.mem_append_left _ member)
    have later : k ≤ j := last k (List.mem_append_left _ member) slave.symm
    rcases List.mem_append.mp told with applied | entry
    · have same : j = k := Nat.le_antisymm (most j applied slave) later
      subst same
      rw [own, Option.bind_some] at lookup
      obtain ⟨pod, there, -⟩ := slaveOf_some.mp own
      obtain ⟨e, inside, own', read⟩ := only id pod (lookup.trans there)
      exact ⟨e, inside, own'.trans own.symm, .inr (there.trans read.symm)⟩
    · exact ⟨j, entry, slave, .inl later⟩
  · intro covers k member
    have inside : k < s.stored.length := by
      rcases List.mem_append.mp member with applied | entry
      · exact consistent.applied k applied
      · exact consistent.entries k entry
    obtain ⟨id, own⟩ := slaveOf_isSome inside
    obtain ⟨j, told, slave, last⟩ := latest_exists (s := s) member
    refine ⟨j, told, slave, last, ?_⟩
    rw [own, Option.bind_some]
    rcases List.mem_append.mp told with applied | entry
    · obtain ⟨e, entry, own', order⟩ := covers j applied fun m memb same =>
        last m (List.mem_append_left _ memb) same
      rw [shown e entry id (own'.trans (slave.trans own))]
      rcases order with before | equal
      · have after : e ≤ j := last e (List.mem_append_right _ entry) own'
        rw [Nat.le_antisymm before after]
      · exact equal.symm
    · exact shown j entry id (slave.trans own)

theorem ready_message {p q : Page} {pod : SlaveState} (ready : Syncing.Ready p i)
    (taken : page.step p (.socketMessage i pod) = some q) : Syncing.Ready q i := by
  obtain ⟨a, -, -, rfl⟩ := onAttempt_some taken
  unfold Page.onMessage
  split
  · exact ⟨ready.socket, ready.waits⟩
  · exact ready

/-- A step before the hydration keeps what the hydration rests on. -/
theorem step_consistent {e : SyncEvent} (consistent : s.Consistent i)
    (other : ∀ session metrics, e ≠ .hydrate session metrics)
    (taken : (syncing i).step s e = some t) : t.Consistent i ∧ t.hydrated = false := by
  obtain ⟨applied, entries, once, ready⟩ := consistent
  simp only [syncing] at taken
  split at taken
  · cases taken
  · rename_i waiting
    have still : s.hydrated = false := Bool.not_eq_true _ ▸ waiting
    cases e with
    | store pod =>
      cases Option.some.inj taken
      have grown : s.stored.length < (s.stored ++ [pod]).length := by
        rw [List.length_append, List.length_singleton]
        exact Nat.lt_succ_self _
      refine ⟨⟨fun k member => Nat.lt_trans (applied k member) grown,
        fun k member => Nat.lt_trans (entries k member) grown, ?_, ready⟩, still⟩
      have same : s.entries.filterMap (slaveOf (s.stored ++ [pod])) =
          s.entries.filterMap (slaveOf s.stored) :=
        List.filterMap_congr fun k member => slaveOf_append (entries k member)
      dsimp only
      rwa [same]
    | message k =>
      obtain ⟨pod, stored, moved⟩ := Option.bind_eq_some_iff.mp taken
      obtain ⟨page, stepped, rfl⟩ := Option.map_eq_some_iff.mp moved
      refine ⟨⟨fun j member => ?_, entries, once, fun _ => ready_message (ready still) stepped⟩, still⟩
      rcases List.mem_append.mp member with old | new
      · exact applied j old
      · rw [List.mem_singleton.mp new]
        exact (List.getElem?_eq_some_iff.mp stored).1
    | list =>
      simp only at taken
      split at taken
      · cases Option.some.inj taken
        exact ⟨⟨applied, nofun, keysOf_nodup s.stored, ready⟩, still⟩
      · cases taken
    | get =>
      simp only at taken
      split at taken
      · rename_i id rest listed
        obtain ⟨k, found, rfl⟩ := Option.map_eq_some_iff.mp taken
        obtain ⟨own, inside⟩ := lastOf_slave found
        rw [listed, Option.getD_some] at once
        refine ⟨⟨applied, fun j member => ?_, ?_, ready⟩, still⟩
        · rcases List.mem_append.mp member with old | new
          · exact entries j old
          · rw [List.mem_singleton.mp new]
            exact inside
        · have read : [k].filterMap (slaveOf s.stored) = [id] := by
            rw [List.filterMap_cons_some own, List.filterMap_nil]
          simp only [List.filterMap_append, read, Option.getD_some, List.append_assoc,
            List.singleton_append]
          exact once
      · cases taken
    | retry =>
      cases Option.some.inj taken
      exact ⟨⟨applied, nofun, List.nodup_nil, ready⟩, still⟩
    | hydrate session metrics => exact absurd rfl (other session metrics)

/-- The snapshot covers the messages when the page hydrates. -/
def coversThen (s : Syncing) : SyncEvent → Bool
  | .hydrate _ _ => decide s.Covers
  | _ => true

theorem step_hydrates {e : SyncEvent} (consistent : s.Consistent i)
    (taken : (syncing i).step s e = some t) :
    t.Consistent i ∧ (t.Hydrates ↔ coversThen s e = true) := by
  by_cases hydrate : ∃ session metrics, e = .hydrate session metrics
  · obtain ⟨session, metrics, rfl⟩ := hydrate
    have replaced := hydrate_replaces consistent taken
    have lost := replaced.lost_iff consistent
    refine ⟨⟨?_, ?_, ?_, fun waiting => ?_⟩, ?_⟩
    · rw [replaced.applied, replaced.stored]
      exact consistent.applied
    · rw [replaced.entries, replaced.stored]
      exact consistent.entries
    · rw [replaced.entries, replaced.stored, replaced.listed]
      exact consistent.once
    · cases replaced.hydrated.symm.trans waiting
    · rw [Syncing.Hydrates, replaced.hydrated, coversThen, decide_eq_true_iff, ← lost]
      exact imp_iff_right rfl
  · have other : ∀ session metrics, e ≠ .hydrate session metrics :=
      fun session metrics same => hydrate ⟨session, metrics, same⟩
    obtain ⟨after, waiting⟩ := step_consistent consistent other taken
    refine ⟨after, iff_of_true (fun hydrated => ?_) ?_⟩
    · cases waiting.symm.trans hydrated
    · cases e with
      | hydrate session metrics => exact absurd rfl (other session metrics)
      | _ => rfl

/-- An attempt whose socket has just opened, with what the session's slaves have stored so far. -/
def Syncing.opened (p : Page) (stored : List SlaveState) : Syncing :=
  ⟨p, stored, [], none, [], false⟩

theorem opened_consistent {p : Page} {stored : List SlaveState} (ready : Syncing.Ready p i) :
    (Syncing.opened p stored).Consistent i :=
  ⟨nofun, nofun, List.nodup_nil, fun _ => ready⟩

end Hydration

/-- From a socket's open event on, the hydration loses nothing exactly where the snapshot covers
the messages that came before it. -/
theorem hydration_lossless {p : Page} {i : Nat} {stored : List SlaveState}
    (ready : Syncing.Ready p i) {events : List SyncEvent} {t : Syncing}
    (ran : (syncing i).run (.opened p stored) events = some t) :
    (syncing i).Throughout Syncing.Hydrates (.opened p stored) events ↔
      (syncing i).Meets (fun s e => coversThen s e = true) (.opened p stored) events := by
  have unhydrated : (Syncing.opened p stored).Hydrates := nofun
  exact System.throughout_iff (fun _ _ _ consistent _ taken => step_hydrates consistent taken)
    (opened_consistent ready) unhydrated ran

/-- A page whose first socket has just opened. -/
def openedPage : Page :=
  ((Page.loaded false).startSession.setAttempt 0 fun a => { a with readyState := .opened }).onOpen 0
    ⟨1, .connecting, false, false, .socket⟩

theorem openedPage_ready : Syncing.Ready openedPage 0 :=
  ready_of_open (p := (Page.loaded false).startSession) (a := ⟨1, .connecting, false, false, .socket⟩)
    rfl rfl rfl

def oneSlave : List SlaveState := [.sample .live "2026-01-01T00:00:05Z"]

def sampleHydrate : SyncEvent := .hydrate sampleSnapshot.session sampleSnapshot.metrics

/-- The slave stores and sends a state before the snapshot reads it. -/
def readsLast : List SyncEvent :=
  [.store (.sample .gone "2026-01-01T00:00:06Z"), .message 1, .list, .get, sampleHydrate]

theorem hydration_lossless_reads_last :
    (syncing 0).Throughout Syncing.Hydrates (.opened openedPage oneSlave) readsLast := by
  obtain ⟨t, ran, _⟩ := System.run_passes readsLast (fun _ => true)
    (by decide +kernel : ((syncing 0).run (.opened openedPage oneSlave) readsLast).any _ = true)
  exact (hydration_lossless openedPage_ready ran).mpr (System.meets_of_check (by decide +kernel))

/-- The slave is read live, and dies before the other reads of the snapshot come back. -/
def readsEarly : List SyncEvent :=
  [.list, .get, .store (.sample .gone "2026-01-01T00:00:06Z"), .message 1, sampleHydrate]

def Syncing.loses (s : Syncing) : Bool := s.hydrated && !decide s.NothingLost

theorem hydration_revives : ∃ t,
    (syncing 0).run (.opened openedPage oneSlave) readsEarly = some t ∧ ¬ t.Hydrates := by
  obtain ⟨t, ran, passes⟩ := System.run_passes readsEarly Syncing.loses
    (by decide +kernel : ((syncing 0).run (.opened openedPage oneSlave) readsEarly).any _ = true)
  rw [Syncing.loses, Bool.and_eq_true, Bool.not_eq_true', decide_eq_false_iff_not] at passes
  exact ⟨t, ran, fun hydrates => passes.2 (hydrates passes.1)⟩

end Megalo.Frontend
