import Megalo.Library.System
import Megalo.Redis.Client
import Mathlib.Data.Set.List

/-! The key layout as a data format. What the sessions store is a map from entries to
values; each entry has its own key, and the calls of the client, one after another,
change and read the keys as they would the map. -/
namespace Megalo.Redis

open Transition (update_cases)

/-- A session id that neither a key nor a pattern reads in another way; `glob` leaves out
the bracket classes. -/
@[ext] structure SessionName where
  text : String
  named : isBlank text = false
  colon : ':' ∉ text.toList
  plain : ∀ c ∈ text.toList, Plain c
  bracket : '[' ∉ text.toList
  deriving DecidableEq

def SessionName.ofUUID (u : UUID) : SessionName where
  text := u.text
  named := u.not_blank
  colon := u.notMem_of_not_uuidChar (by decide)
  plain := uuid_plain u
  bracket := u.notMem_of_not_uuidChar (by decide)

inductive Entry
  | active
  | sessionMeta (S : SessionName)
  | metrics (S : SessionName)
  | slave (S : SessionName) (slaveID : String)
  deriving DecidableEq

def Entry.key : Entry → String
  | .active => activeSessionKey
  | .sessionMeta S => sessionMetaKey S.text
  | .metrics S => sessionMetricsKey S.text
  | .slave S slaveID => sessionSlaveKey S.text slaveID

/-- The sessions as a client sees them, by the text of their ids. -/
structure Sessions where
  active : Option String
  sessionMeta : String → Option SessionMeta
  metrics : String → Option SessionMetrics
  slaves : String → String → Option SlaveState

namespace Sessions

def empty : Sessions := ⟨none, fun _ => none, fun _ => none, fun _ _ => none⟩

def content (a : Sessions) : Entry → Option Payload
  | .active => a.active.map .text
  | .sessionMeta S => (a.sessionMeta S.text).map .sessionMeta
  | .metrics S => (a.metrics S.text).map .metrics
  | .slave S slaveID => (a.slaves S.text slaveID).map .slave

end Sessions

/-- A call of the client with what it takes from outside; the key of an event also expires. -/
inductive Request
  | createSession (now : Time) (sessionMeta : SessionMeta)
  | publishSlaveState (state : SlaveState)
  | publishEvent (event : Event)
  | expireEvent (sessionID : String) (createdAt : Time)
  | updateSessionMetrics (now : Time) (sessionID : String) (fn : SessionMetrics → SessionMetrics)
  | deleteSession (sessionID : String)

def Request.sessionID : Request → String
  | .createSession _ m => m.sessionID
  | .publishSlaveState state => state.sessionID
  | .publishEvent event => event.sessionID
  | .expireEvent sessionID _ | .updateSessionMetrics _ sessionID _ | .deleteSession sessionID =>
    sessionID

section Calls

variable (r : Server)

/-- A call that runs its commands with no other in between. -/
def alone {L : Type} (step : Server → L → L × Command) : Nat → Server → L → Server × L
  | 0, r, l => (r, l)
  | n + 1, r, l => alone step n ((step r l).2.run r) (step r l).1

def answers (now : Time) : Input := ⟨now, .answered⟩

/-- time.Time.UnixNano -/
def unixNano (t : Time) : Int := t - 62135596800000000000

/-- PublishEvent on the keys; the events channel is no key. -/
def publishEvent (event : Event) : Except String Server :=
  if isBlank event.sessionID then .error "session_id is required"
  else
    let key := sessionEventKey event.sessionID (unixNano event.createdAt)
    .ok { r with store := r.store.put key (.event event) }

def Server.serve : Request → Server
  | .createSession now m => match createSession now m with
    | .error _ => r
    | .ok create => create.run r
  | .publishSlaveState state =>
    (alone (fun _ (p : Publishing) => p.step state (answers 0)) 2 r (publishSlaveState state)).1
  | .publishEvent event => match publishEvent r event with
    | .error _ => r
    | .ok published => published
  | .expireEvent sessionID createdAt =>
    { r with store := r.store.drop (sessionEventKey sessionID (unixNano createdAt)) }
  | .updateSessionMetrics now sessionID fn =>
    (alone (fun r (u : Updating) => u.step sessionID fn r (answers now)) 3 r
      (.attempt sessionID 0)).1
  | .deleteSession sessionID =>
    (alone (fun r (d : Deleting) => d.step sessionID r (answers 0)) 3 r .keys).1

def listSlaveStates (sessionID : String) : Listing :=
  (alone (fun r (l : Listing) => (l.step sessionID r (answers 0), .read))
    ((r.keys (sessionSlavePattern sessionID)).length + 1) r .keys).2

end Calls

/-- What a request does to the sessions. -/
def Sessions.serve (a : Sessions) : Request → Sessions
  | .createSession now m =>
    let m := if m.startedAt = 0 then { m with startedAt := now } else m
    { a with
      active := some m.sessionID
      sessionMeta := Function.update a.sessionMeta m.sessionID (some m)
      metrics := Function.update a.metrics m.sessionID (some ⟨m.sessionID, 0, 0, m.startedAt⟩) }
  | .publishSlaveState state =>
    let slaves := Function.update (a.slaves state.sessionID) state.slaveID (some state)
    { a with slaves := Function.update a.slaves state.sessionID slaves }
  | .publishEvent _ | .expireEvent _ _ => a
  | .updateSessionMetrics now sessionID fn =>
    let updated := (a.metrics sessionID).map fun m => completed sessionID now (fn m)
    { a with metrics := Function.update a.metrics sessionID updated }
  | .deleteSession sessionID =>
    { active := if a.active = some sessionID then none else a.active
      sessionMeta := Function.update a.sessionMeta sessionID none
      metrics := Function.update a.metrics sessionID none
      slaves := Function.update a.slaves sessionID fun _ => none }

/-- The keys hold what the sessions hold, and a slave's state is stored under its own ids. -/
structure Refines (r : Server) (a : Sessions) : Prop where
  stored : ∀ e : Entry, r.store.get e.key = a.content e
  own : ∀ S id state, a.slaves S id = some state → state.sessionID = S ∧ state.slaveID = id

section Keys

/-- A key of a session, by what follows its id. -/
def sessionKey (S : SessionName) (rest : String) : String :=
  "session:" ++ S.text ++ (":" ++ rest)

theorem sessionKey_injective {S T : SessionName} {x y : String}
    (same : sessionKey S x = sessionKey T y) : S = T ∧ x = y := by
  have lists := congrArg String.toList same
  simp only [sessionKey, String.toList_append, List.append_assoc,
    List.append_cancel_left_eq] at lists
  have text : ∀ (S : SessionName) (x : String),
      (S.text.toList ++ (":".toList ++ x.toList)).takeWhile (· != ':') = S.text.toList := by
    intro S x
    rw [List.takeWhile_append_of_pos]
    · simp
    · intro c member
      have ne : c ≠ ':' := fun same => S.colon (same ▸ member)
      simpa using ne
  have named : S = T :=
    SessionName.ext (String.toList_inj.mp (by rw [← text S x, lists, text T y]))
  subst named
  exact ⟨rfl, String.toList_inj.mp (by simpa using lists)⟩

variable (S : SessionName)

theorem sessionMetaKey_eq : sessionMetaKey S.text = sessionKey S "meta" :=
  String.toList_inj.mp (by simp [sessionMetaKey, sessionKey])

theorem sessionMetricsKey_eq : sessionMetricsKey S.text = sessionKey S "metrics" :=
  String.toList_inj.mp (by simp [sessionMetricsKey, sessionKey])

theorem sessionSlaveKey_eq (id : String) :
    sessionSlaveKey S.text id = sessionKey S ("slave:" ++ id) :=
  String.toList_inj.mp (by simp [sessionSlaveKey, sessionKey])

theorem sessionEventKey_eq (createdAt : Int) :
    sessionEventKey S.text createdAt = sessionKey S ("event:" ++ toString createdAt) :=
  String.toList_inj.mp (by simp [sessionEventKey, sessionKey])

theorem sessionKey_ne_active (rest : String) : sessionKey S rest ≠ activeSessionKey :=
  ne_active rfl

/-- The part of an entry's key after the session's id. -/
def Entry.rest : Entry → Option (SessionName × String)
  | .active => none
  | .sessionMeta S => some (S, "meta")
  | .metrics S => some (S, "metrics")
  | .slave S slaveID => some (S, "slave:" ++ slaveID)

theorem Entry.key_eq (e : Entry) :
    e.key = (e.rest.map fun p => sessionKey p.1 p.2).getD activeSessionKey := by
  cases e with
  | active => rfl
  | sessionMeta S => exact sessionMetaKey_eq S
  | metrics S => exact sessionMetricsKey_eq S
  | slave S slaveID => exact sessionSlaveKey_eq S slaveID

theorem Entry.rest_of_key {e : Entry} {S : SessionName} {x : String}
    (same : e.key = sessionKey S x) : e.rest = some (S, x) := by
  rw [key_eq] at same
  cases split : e.rest with
  | none =>
    rw [split] at same
    exact absurd same.symm (sessionKey_ne_active S x)
  | some p =>
    rw [split] at same
    obtain ⟨named, rest⟩ := sessionKey_injective same
    rw [← named, ← rest]

theorem slave_ne {t : String} {c : Char} (first : t.toList.head? = some c) (other : c ≠ 's')
    (id : String) : "slave:" ++ id ≠ t := by
  rintro rfl
  exact other (Option.some.inj (first.symm.trans (head_append (by decide) id)))

theorem Entry.rest_injective : Function.Injective Entry.rest := by
  have slave_meta := slave_ne (t := "meta") (c := 'm') (by decide) (by decide)
  have slave_metrics := slave_ne (t := "metrics") (c := 'm') (by decide) (by decide)
  intro e f same
  cases e <;> cases f <;> simp only [Entry.rest, Option.some.injEq, Prod.mk.injEq, reduceCtorEq,
    String.reduceEq, and_false, and_true, slave_meta, slave_metrics, (slave_meta _).symm,
    (slave_metrics _).symm] at same
  case active.active => rfl
  case sessionMeta.sessionMeta => rw [same]
  case metrics.metrics => rw [same]
  case slave.slave =>
    have lists := congrArg String.toList same.2
    simp only [String.toList_append, List.append_cancel_left_eq] at lists
    rw [same.1, String.toList_inj.mp lists]

/-- Every entry has a key of its own. -/
theorem Entry.key_injective : Function.Injective Entry.key := by
  intro e f same
  apply rest_injective
  cases split : f.rest with
  | none =>
    rw [key_eq f, split] at same
    cases other : e.rest with
    | none => rfl
    | some p =>
      rw [key_eq e, other] at same
      exact absurd same (sessionKey_ne_active p.1 p.2)
  | some p =>
    rw [key_eq f, split] at same
    exact rest_of_key same

theorem Entry.key_ne_event (e : Entry) (createdAt : Int) :
    e.key ≠ sessionEventKey S.text createdAt := by
  intro same
  rw [sessionEventKey_eq] at same
  have first : ("event:" ++ toString createdAt).toList.head? = some 'e' :=
    head_append (by decide) _
  have split := rest_of_key same
  cases e <;> simp only [Entry.rest, Option.some.injEq, Prod.mk.injEq, reduceCtorEq] at split
  all_goals rw [← split.2] at first
  · exact absurd first (by decide)
  · exact absurd first (by decide)
  · exact slave_ne first (by decide) _ rfl

end Keys

section Steps

variable {r : Server} {a : Sessions}

/-- A key that is written or dropped is one entry's. -/
theorem get_put {s : Stamped.Store String Payload} {v : Payload} (e f : Entry) :
    (s.put e.key v).get f.key = if f = e then some v else s.get f.key := by
  split
  · subst_vars
    exact Stamped.Store.get_put_self
  · rename_i other
    exact Stamped.Store.get_put_of_ne fun same => other (Entry.key_injective same)

theorem Refines.empty : Refines .empty .empty where
  stored e := by cases e <;> rfl
  own S id state found := by cases found

theorem Refines.createSession (S : SessionName) (now startedAt : Time) (refines : Refines r a) :
    Refines (r.serve (.createSession now ⟨S.text, startedAt⟩))
      (a.serve (.createSession now ⟨S.text, startedAt⟩)) := by
  refine ⟨fun e => ?_, refines.own⟩
  let m : SessionMeta := ⟨S.text, if startedAt = 0 then now else startedAt⟩
  have served : (r.serve (.createSession now ⟨S.text, startedAt⟩)).store =
      ((r.store.put (Entry.sessionMeta S).key (.sessionMeta m)).put (Entry.metrics S).key
        (.metrics ⟨S.text, 0, 0, m.startedAt⟩)).put Entry.active.key (.text S.text) := by
    by_cases zero : startedAt = 0 <;>
      simp [Server.serve, Redis.createSession, S.named, Command.run, Entry.key, m, zero]
  rw [served, get_put, get_put, get_put, refines.stored]
  by_cases zero : startedAt = 0 <;> cases e <;>
    simp [Sessions.content, Sessions.serve, Function.update_apply, SessionName.ext_iff, m, zero,
      apply_ite (Option.map _)]

theorem Refines.publishSlaveState (S : SessionName) {state : SlaveState}
    (named : state.sessionID = S.text) (refines : Refines r a) :
    Refines (r.serve (.publishSlaveState state)) (a.serve (.publishSlaveState state)) := by
  have served : (r.serve (.publishSlaveState state)).store =
      r.store.put (Entry.slave S state.slaveID).key (.slave state) := by
    simp [Server.serve, Redis.publishSlaveState, named, S.named, alone, Publishing.step, answers,
      Reply.error, Reply.change, Command.run, Entry.key]
  constructor
  · intro e
    rw [served, get_put, refines.stored]
    cases e with
    | slave T id =>
      by_cases same : T.text = S.text <;> by_cases own : id = state.slaveID <;>
        simp [Sessions.content, Sessions.serve, SessionName.ext_iff, named, same, own]
    | _ => rfl
  · intro T id state' found
    by_cases same : T = state.sessionID
    · subst same
      simp only [Sessions.serve, Function.update_self] at found
      obtain ⟨rfl, stored⟩ | ⟨_, kept⟩ := update_cases found
      · cases stored
        exact ⟨rfl, rfl⟩
      · exact refines.own _ _ _ kept
    · simp only [Sessions.serve, Function.update_of_ne same] at found
      exact refines.own _ _ _ found

theorem Refines.publishEvent (S : SessionName) {event : Event} (named : event.sessionID = S.text)
    (refines : Refines r a) :
    Refines (r.serve (.publishEvent event)) (a.serve (.publishEvent event)) := by
  refine ⟨fun e => ?_, refines.own⟩
  simp only [Server.serve, Redis.publishEvent, named, S.named, Bool.false_eq_true, if_false]
  rw [Stamped.Store.get_put_of_ne (e.key_ne_event S _)]
  exact refines.stored e

theorem Refines.expireEvent (S : SessionName) (createdAt : Time) (refines : Refines r a) :
    Refines (r.serve (.expireEvent S.text createdAt)) (a.serve (.expireEvent S.text createdAt)) := by
  refine ⟨fun e => ?_, refines.own⟩
  simp only [Server.serve]
  rw [Stamped.Store.get_drop_of_ne (e.key_ne_event S _)]
  exact refines.stored e

theorem Refines.updateSessionMetrics (S : SessionName) (now : Time)
    (fn : SessionMetrics → SessionMetrics) (refines : Refines r a) :
    Refines (r.serve (.updateSessionMetrics now S.text fn))
      (a.serve (.updateSessionMetrics now S.text fn)) := by
  refine ⟨fun e => ?_, refines.own⟩
  have held : r.store.get (sessionMetricsKey S.text) = (a.metrics S.text).map .metrics :=
    refines.stored (.metrics S)
  cases found : a.metrics S.text with
  | none =>
    rw [found] at held
    have served : (r.serve (.updateSessionMetrics now S.text fn)).store = r.store := by
      simp [Server.serve, alone, Updating.attempt, maxRetries, Updating.step, answers, Reply.error,
        Command.run, held]
    rw [served, refines.stored]
    cases e with
    | metrics T =>
      by_cases same : T.text = S.text <;> simp [Sessions.content, Sessions.serve, same, found]
    | _ => rfl
  | some m =>
    rw [found] at held
    have served : (r.serve (.updateSessionMetrics now S.text fn)).store =
        r.store.put (Entry.metrics S).key (.metrics (completed S.text now (fn m))) := by
      simp [Server.serve, alone, Updating.attempt, maxRetries, Updating.step, answers, Reply.error,
        Reply.change, Command.run, held, decodeSessionMetrics, Entry.key]
    rw [served, get_put, refines.stored]
    cases e with
    | metrics T =>
      by_cases same : T.text = S.text <;>
        simp [Sessions.content, Sessions.serve, SessionName.ext_iff, same, found]
    | _ => rfl

theorem served_delete (S : SessionName) : ∃ listed,
    (∀ k, k ∈ listed ↔ (∃ id, k = sessionSlaveKey S.text id) ∧ ∃ v, r.store.get k = some v) ∧
    (r.serve (.deleteSession S.text)).store =
      r.store.dropAll (deletedKeys S.text
        (((r.store.get activeSessionKey).map Payload.raw).getD "") listed) := by
  refine ⟨r.keys (sessionSlavePattern S.text), fun k => ?_, rfl⟩
  rw [Server.keys, List.mem_filter, matches_slavePattern S.plain, Stamped.Store.mem_keys, and_comm]

theorem Refines.active_iff (S : SessionName) (refines : Refines r a) :
    ((r.store.get activeSessionKey).map Payload.raw).getD "" = S.text ↔
      a.active = some S.text := by
  have held : r.store.get activeSessionKey = a.active.map .text := refines.stored .active
  have named : S.text ≠ "" := fun blank => by simpa [blank, isBlank] using S.named
  cases active : a.active with
  | none => simpa [held, active] using named.symm
  | some T => simp [held, active, Payload.raw]

theorem mem_deletedKeys (S : SessionName) (activeSessionID : String) {listed : List String}
    (mem_listed : ∀ k, k ∈ listed ↔
      (∃ id, k = sessionSlaveKey S.text id) ∧ ∃ v, r.store.get k = some v) (e : Entry) :
    e.key ∈ deletedKeys S.text activeSessionID listed ↔
      (e = .active ∧ activeSessionID = S.text) ∨ e = .sessionMeta S ∨ e = .metrics S ∨
        ∃ id, e = .slave S id ∧ ∃ v, r.store.get e.key = some v := by
  have named : ∀ f : Entry, e.key = f.key ↔ e = f := fun f => Entry.key_injective.eq_iff
  have cleared : e.key ∈ (if activeSessionID = S.text then [activeSessionKey] else []) ↔
      e = .active ∧ activeSessionID = S.text := by
    rw [← named .active]
    split <;> simp [*, Entry.key]
  simp only [deletedKeys, List.mem_append, cleared, List.mem_cons, List.not_mem_nil, or_false,
    mem_listed, or_assoc]
  refine or_congr_right (or_congr (named (.sessionMeta S)) (or_congr (named (.metrics S)) ?_))
  constructor
  · rintro ⟨⟨id, same⟩, found⟩
    exact ⟨id, (named (.slave S id)).mp same, found⟩
  · rintro ⟨id, same, found⟩
    exact ⟨⟨id, (named (.slave S id)).mpr same⟩, found⟩

theorem Refines.deleteSession (S : SessionName) (refines : Refines r a) :
    Refines (r.serve (.deleteSession S.text)) (a.serve (.deleteSession S.text)) := by
  obtain ⟨listed, mem_listed, served⟩ := served_delete (r := r) S
  constructor
  · intro e
    have member := mem_deletedKeys S (((r.store.get activeSessionKey).map Payload.raw).getD "")
      mem_listed e
    rw [refines.active_iff, refines.stored] at member
    rw [served, Stamped.Store.get_dropAll, refines.stored]
    classical
    simp only [member]
    cases e with
    | active =>
      by_cases active : a.active = some S.text <;> simp [Sessions.content, Sessions.serve, active]
    | sessionMeta T =>
      by_cases same : T.text = S.text <;>
        simp [Sessions.content, Sessions.serve, SessionName.ext_iff, same]
    | metrics T =>
      by_cases same : T.text = S.text <;>
        simp [Sessions.content, Sessions.serve, SessionName.ext_iff, same]
    | slave T id =>
      by_cases same : T.text = S.text
      · cases found : a.slaves S.text id <;>
          simp [Sessions.content, Sessions.serve, SessionName.ext_iff, same, found]
      · simp [Sessions.content, Sessions.serve, SessionName.ext_iff, same]
  · intro T id state found
    by_cases same : T = S.text
    · subst same
      simp [Sessions.serve] at found
    · simp only [Sessions.serve, Function.update_of_ne same] at found
      exact refines.own _ _ _ found

theorem Refines.serve (refines : Refines r a) (q : Request) (S : SessionName)
    (named : q.sessionID = S.text) : Refines (r.serve q) (a.serve q) := by
  cases q with
  | createSession now m =>
    obtain ⟨sessionID, startedAt⟩ := m
    cases named
    exact refines.createSession S now startedAt
  | publishSlaveState state => exact refines.publishSlaveState S named
  | publishEvent event => exact refines.publishEvent S named
  | expireEvent sessionID createdAt =>
    cases named
    exact refines.expireEvent S createdAt
  | updateSessionMetrics now sessionID fn =>
    cases named
    exact refines.updateSessionMetrics S now fn
  | deleteSession sessionID =>
    cases named
    exact refines.deleteSession S

/-- Every sequence of requests keeps the keys and the sessions in step. -/
theorem Refines.run {requests : List Request}
    (named : ∀ q ∈ requests, ∃ S : SessionName, q.sessionID = S.text) (refines : Refines r a) :
    Refines (requests.foldl Server.serve r) (requests.foldl Sessions.serve a) := by
  induction requests generalizing r a with
  | nil => exact refines
  | cons q requests ih =>
    obtain ⟨S, first⟩ := named q List.mem_cons_self
    exact ih (fun p member => named p (List.mem_cons_of_mem q member)) (refines.serve q S first)

end Steps

/-- The last state published for a slave since its session was last deleted, latest request
first. -/
def latestState (S id : String) : List Request → Option SlaveState
  | [] => none
  | .publishSlaveState state :: earlier =>
    if state.sessionID = S ∧ state.slaveID = id then some state else latestState S id earlier
  | .deleteSession T :: earlier => if T = S then none else latestState S id earlier
  | _ :: earlier => latestState S id earlier

theorem slaves_run (S id : String) (requests : List Request) :
    (requests.foldl Sessions.serve .empty).slaves S id = latestState S id requests.reverse := by
  induction requests using List.reverseRecOn with
  | nil => rfl
  | append_singleton requests q ih =>
    rw [List.foldl_append, List.reverse_append, List.reverse_singleton, List.singleton_append,
      List.foldl_cons, List.foldl_nil]
    cases q with
    | publishSlaveState state =>
      rw [latestState, ← ih]
      by_cases session : state.sessionID = S
      · subst session
        by_cases slave : state.slaveID = id
        · subst slave
          simp [Sessions.serve]
        · simp [Sessions.serve, slave, Function.update_of_ne (Ne.symm slave)]
      · simp [Sessions.serve, session, Function.update_of_ne (Ne.symm session)]
    | deleteSession T =>
      rw [latestState, ← ih]
      by_cases session : T = S
      · subst session
        simp [Sessions.serve]
      · simp [Sessions.serve, session, Function.update_of_ne (Ne.symm session)]
    | _ => exact ih

section Listed

variable {r : Server} {a : Sessions} {S : SessionName}

/-- ListSlaveStates reads the keys it listed one after another. -/
theorem listing_run (f : String → SlaveState) {ids : List String}
    (found : ∀ id ∈ ids, r.store.get (sessionSlaveKey S.text id) = some (.slave (f id)))
    (states : List SlaveState) :
    (alone (fun r (l : Listing) => (l.step S.text r (answers 0), .read)) ids.length r
      (.next states (ids.map (sessionSlaveKey S.text)))).2 =
      .returned (.ok (states ++ ids.map f)) := by
  induction ids generalizing states with
  | nil => simp [alone, Listing.next]
  | cons id ids ih =>
    have first := found id List.mem_cons_self
    have step : Listing.step S.text r (answers 0)
        (.next states ((id :: ids).map (sessionSlaveKey S.text))) =
        .next (states ++ [f id]) (ids.map (sessionSlaveKey S.text)) := by
      simp [Listing.next, Listing.step, answers, Reply.error, first, decodeSlaveState]
    have rest := ih (fun j member => found j (List.mem_cons_of_mem id member)) (states ++ [f id])
    rw [List.length_cons, alone, step]
    exact rest.trans (by rw [List.append_assoc]; rfl)

theorem sessionSlaveKey_lt {x y : String}
    (lt : sessionSlaveKey S.text x < sessionSlaveKey S.text y) : x < y := by
  have cancel : ∀ p l k : List Char, p ++ l < p ++ k → l < k := by
    intro p l k
    induction p with
    | nil => exact id
    | cons c p ih =>
      intro lt
      rw [List.cons_append, List.cons_append, List.cons_lt_cons_iff] at lt
      rcases lt with lt | ⟨_, lt⟩
      · exact absurd lt (lt_irrefl c)
      · exact ih lt
  rw [String.lt_iff_toList_lt] at lt ⊢
  simp only [sessionSlaveKey, String.toList_append] at lt
  exact cancel _ _ _ lt

theorem slaveKeys_sorted : ∃ ids : List String,
    (r.keys (sessionSlavePattern S.text)).insertionSort (· ≤ ·) =
      ids.map (sessionSlaveKey S.text) ∧
    ids.Pairwise (· < ·) ∧
    ∀ id, id ∈ ids ↔ ∃ v, r.store.get (sessionSlaveKey S.text id) = some v := by
  set sorted := (r.keys (sessionSlavePattern S.text)).insertionSort (· ≤ ·) with made
  have perm : sorted.Perm (r.keys (sessionSlavePattern S.text)) := List.perm_insertionSort ..
  have member : ∀ k, k ∈ sorted ↔
      (∃ id, k = sessionSlaveKey S.text id) ∧ ∃ v, r.store.get k = some v := by
    intro k
    rw [perm.mem_iff, Server.keys, List.mem_filter, matches_slavePattern S.plain,
      Stamped.Store.mem_keys, and_comm]
  have named : sorted ∈ Set.range (List.map (sessionSlaveKey S.text)) := by
    rw [Set.range_list_map]
    intro k inside
    obtain ⟨⟨id, rfl⟩, _⟩ := (member k).mp inside
    exact ⟨id, rfl⟩
  obtain ⟨ids, split⟩ := named
  refine ⟨ids, split.symm, ?_, fun id => ?_⟩
  · have nodup : sorted.Nodup := perm.nodup_iff.mpr (r.store.data.keys_nodup.filter _)
    have ordered : sorted.Pairwise (· ≤ ·) := List.pairwise_insertionSort ..
    have strict : sorted.Pairwise (· < ·) :=
      (List.pairwise_and_iff.mpr ⟨ordered, nodup⟩).imp fun ⟨le, ne⟩ => lt_of_le_of_ne le ne
    rw [← split, List.pairwise_map] at strict
    exact strict.imp sessionSlaveKey_lt
  · rw [← List.mem_map_of_injective (sessionSlaveKey_injective S.text), split, member]
    simp

theorem listSlaveStates_run (refines : Refines r a) : ∃ states,
    listSlaveStates r S.text = .returned (.ok states) ∧
    states.Pairwise (fun s t => s.slaveID < t.slaveID) ∧
    ∀ state, state ∈ states ↔ a.slaves S.text state.slaveID = some state := by
  obtain ⟨ids, sorted, ordered, present⟩ := slaveKeys_sorted (r := r) (S := S)
  have stored : ∀ id, r.store.get (sessionSlaveKey S.text id) = (a.slaves S.text id).map .slave :=
    fun id => refines.stored (.slave S id)
  let f : String → SlaveState := fun id => (a.slaves S.text id).getD .zero
  have named : ∀ id ∈ ids, a.slaves S.text id = some (f id) := by
    intro id member
    obtain ⟨v, held⟩ := (present id).mp member
    rw [stored] at held
    obtain ⟨state, found, _⟩ := Option.map_eq_some_iff.mp held
    simp only [f, found, Option.getD_some]
  have found : ∀ id ∈ ids, r.store.get (sessionSlaveKey S.text id) = some (.slave (f id)) := by
    intro id member
    rw [stored, named id member, Option.map_some]
  have own : ∀ id ∈ ids, (f id).slaveID = id := fun id member =>
    (refines.own _ _ _ (named id member)).2
  refine ⟨ids.map f, ?_, ?_, fun state => ?_⟩
  · have length : ids.length = (r.keys (sessionSlavePattern S.text)).length := by
      rw [← List.length_map (sessionSlaveKey S.text), ← sorted, List.length_insertionSort]
    have start : Listing.step S.text r (answers 0) .keys =
        .next [] (ids.map (sessionSlaveKey S.text)) := congrArg (Listing.next []) sorted
    rw [listSlaveStates, alone, start, ← length]
    exact listing_run f found []
  · rw [List.pairwise_map]
    refine ordered.imp_of_mem fun {x y} first second lt => ?_
    rwa [own x first, own y second]
  · rw [List.mem_map]
    constructor
    · rintro ⟨id, member, rfl⟩
      rw [own id member]
      exact named id member
    · intro held
      have member : state.slaveID ∈ ids :=
        (present _).mpr ⟨.slave state, by rw [stored, held, Option.map_some]⟩
      exact ⟨_, member, Option.some.inj ((named _ member).symm.trans held)⟩

theorem getSlaveState_iff (refines : Refines r a) (i : Input) (answered : i.reply = .answered)
    (id : String) (state : SlaveState) :
    getSlaveState r i S.text id = .ok state ↔ a.slaves S.text id = some state := by
  have stored : r.store.get (sessionSlaveKey S.text id) = (a.slaves S.text id).map .slave :=
    refines.stored (.slave S id)
  cases found : a.slaves S.text id <;>
    simp [getSlaveState, answered, Reply.error, stored, found, decodeSlaveState]

/-- A deletion changes no key of another session. -/
theorem delete_frame {T : SessionName} (other : T ≠ S) (rest : String) :
    (r.serve (.deleteSession S.text)).store.get (sessionKey T rest) =
      r.store.get (sessionKey T rest) := by
  obtain ⟨listed, mem_listed, served⟩ := served_delete (r := r) S
  have apart : ∀ x, sessionKey T rest ≠ sessionKey S x := fun x same =>
    other (sessionKey_injective same).1
  have unlisted : sessionKey T rest ∉ listed := by
    intro member
    obtain ⟨⟨id, named⟩, _⟩ := (mem_listed _).mp member
    exact apart _ (named.trans (sessionSlaveKey_eq S id))
  have kept : sessionKey T rest ∉ deletedKeys S.text
      (((r.store.get activeSessionKey).map Payload.raw).getD "") listed := by
    simp only [deletedKeys, sessionMetaKey_eq, sessionMetricsKey_eq, List.mem_append, not_or]
    refine ⟨⟨?_, ?_⟩, unlisted⟩
    · split <;> simp [sessionKey_ne_active]
    · simp [apart]
  rw [served, Stamped.Store.get_dropAll, if_neg kept]

end Listed

/-- Strings compare by code points, which is the order of their UTF-8 bytes. -/
theorem layout_refines {requests : List Request}
    (named : ∀ q ∈ requests, ∃ S : SessionName, q.sessionID = S.text) (S : SessionName) :
    let r := requests.foldl Server.serve .empty
    let deleted := r.serve (.deleteSession S.text)
    Refines r (requests.foldl Sessions.serve .empty) ∧
    (∃ states, listSlaveStates r S.text = .returned (.ok states) ∧
      states.Pairwise (fun s t => s.slaveID < t.slaveID) ∧
      ∀ state, state ∈ states ↔
        latestState S.text state.slaveID requests.reverse = some state) ∧
    (∀ id state, getSlaveState r (answers 0) S.text id = .ok state ↔
      latestState S.text id requests.reverse = some state) ∧
    deleted.store.get (sessionMetaKey S.text) = none ∧
    deleted.store.get (sessionMetricsKey S.text) = none ∧
    (∀ id, deleted.store.get (sessionSlaveKey S.text id) = none) ∧
    deleted.store.get activeSessionKey =
      (if r.store.get activeSessionKey = some (.text S.text) then none
        else r.store.get activeSessionKey) ∧
    ∀ T : SessionName, T ≠ S → ∀ rest,
      deleted.store.get (sessionKey T rest) = r.store.get (sessionKey T rest) := by
  intro r deleted
  have refines : Refines r (requests.foldl Sessions.serve .empty) := Refines.empty.run named
  have after := refines.deleteSession S
  have slaves := fun id => slaves_run S.text id requests
  refine ⟨refines, ?_, fun id state => ?_, ?_, ?_, fun id => ?_, ?_, fun T other rest =>
    delete_frame other rest⟩
  · obtain ⟨states, listed, ordered, mem_states⟩ := listSlaveStates_run (S := S) refines
    exact ⟨states, listed, ordered, fun state => by rw [mem_states, slaves]⟩
  · rw [getSlaveState_iff refines _ rfl, slaves]
  · exact (after.stored (.sessionMeta S)).trans (by simp [Sessions.content, Sessions.serve])
  · exact (after.stored (.metrics S)).trans (by simp [Sessions.content, Sessions.serve])
  · exact (after.stored (.slave S id)).trans (by simp [Sessions.content, Sessions.serve])
  · have before : r.store.get activeSessionKey = _ := refines.stored .active
    refine (after.stored .active).trans ?_
    rw [before]
    cases active : (requests.foldl Sessions.serve .empty).active with
    | none => simp [Sessions.content, Sessions.serve, active]
    | some T =>
      by_cases same : T = S.text <;> simp [Sessions.content, Sessions.serve, active, same]

/-- A slave id with a colon and a star, and a session that is deleted before it. -/
theorem layout_refines_one :
    let requests : List Request := [.deleteSession UUID.sample.text, .publishSlaveState
      { SlaveState.sample .live with slaveID := "a:*" }]
    (∀ q ∈ requests, ∃ S : SessionName, q.sessionID = S.text) ∧
    getSlaveState (requests.foldl Server.serve .empty) (answers 0) UUID.sample.text "a:*" =
      .ok { SlaveState.sample .live with slaveID := "a:*" } := by
  intro requests
  have named : ∀ q ∈ requests, ∃ S : SessionName, q.sessionID = S.text := by
    intro q member
    refine ⟨.ofUUID UUID.sample, ?_⟩
    rcases List.mem_cons.mp member with rfl | member
    · rfl
    · rw [List.mem_singleton.mp member]
      rfl
  obtain ⟨_, _, got, _⟩ := layout_refines named (.ofUUID UUID.sample)
  exact ⟨named, (got _ _).mpr rfl⟩

end Megalo.Redis
