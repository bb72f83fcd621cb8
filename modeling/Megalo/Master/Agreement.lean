import Megalo.Master.Moves
import Megalo.Session.Lifetimes

/-! The active session in memory and in Redis. CreateSession comes before the commit and the
deletion before the reset, and the slot keeps everyone else out between the two. -/
namespace Megalo.Master

open Redis Cluster Transition
open Session (ThreadID Committed Slot)

/-- The session is the active one in Redis, and its meta and its metrics are there. -/
structure Present (S : String) (r : Server) : Prop where
  active : r.store.get activeSessionKey = some (.text S)
  sessionMeta : (r.store.get (sessionMetaKey S)).isSome = true
  metrics : (r.store.get (sessionMetricsKey S)).isSome = true

/-- Redis answers the commands of the turn. -/
def answers : Turn Call Step Outside → Bool
  | .run _ step => step.input.reply == .answered
  | .outside (.startSession _ _ i) | .outside (.endSession _ i) => i.reply == .answered
  | _ => true

/-- The two copies of the active session. -/
structure Agrees (w : World) : Prop where
  present : ∀ S, Committed w.session.log S → w.session.memory.server.sessionID = S →
    w.session.memory.server.sessionClosing = false → Present S w.redis
  absent : w.endErrors = [] → (∃ S, .finalized S ∈ w.session.log) →
    w.session.memory.server.sessionID = "" → w.redis.store.get activeSessionKey = none

/-- endSession of the session has returned. -/
def World.Erased (w : World) (S : String) : Prop :=
  ∃ g, w.session.threads g = .ended S ∨
    w.session.threads g = .finalizing S ∧ ∃ err, w.ends g S = .returned err

/-- The slot is free, or is held by a handler that has not created its session. -/
structure World.Vacant (w : World) : Prop where
  unnamed : w.session.memory.server.sessionID = "" ∨ w.session.memory.server.sessionID = "pending"
  unstarted : ∀ g m, w.session.threads g ≠ .started m

structure Mirrors (w : World) : Prop where
  placed : ∀ g pc, w.ending g = some pc → pc.placed = true
  begun : ∀ g pc, w.ending g = some pc → ∃ S, w.session.threads g = .finalizing S ∨
    w.session.threads g = .ended S ∨ w.session.threads g = .returned (some S)
  created : ∀ g m, w.session.threads g = .started m → Present m.sessionID w.redis
  current : Committed w.session.log w.session.memory.server.sessionID →
    ¬ w.Erased w.session.memory.server.sessionID →
      Present w.session.memory.server.sessionID w.redis
  reads : ∀ g S listed active, w.session.threads g = .finalizing S →
    w.ends g S = .deleting (.exec listed active) → active = S
  erased : w.endErrors = [] → ∀ S, w.Erased S → w.redis.store.get activeSessionKey = none
  vacant : w.endErrors = [] → (∃ S, .finalized S ∈ w.session.log) → w.Vacant →
    w.redis.store.get activeSessionKey = none

section Present

variable {S : String} {r : Server} {c : Command} {i : Input} {pc next : Ending}

theorem Present.run (present : Present S r) (outlives : Outlives c) : Present S (c.run r) where
  active := (active_run outlives).trans present.active
  sessionMeta := isSome_run outlives present.sessionMeta
  metrics := isSome_run outlives present.metrics

theorem present_create {m : SessionMeta} {metrics : SessionMetrics} (named : m.sessionID = S) :
    Present S ((Command.create m metrics).run r) := by
  subst named
  constructor
  · exact Stamped.Store.get_put_self
  · apply isSome_put
    apply isSome_put
    rw [Stamped.Store.get_put_self]
    rfl
  · apply isSome_put
    rw [Stamped.Store.get_put_self]
    rfl

theorem ending_outlives (S : String) (r : Server) (i : Input) (pc : Ending) :
    Outlives (pc.step S r i).2 ∨ ∃ listed active, pc = .deleting (.exec listed active) := by
  cases pc with
  | publishing now count state p rest => exact .inl (publishing_outlives ..)
  | updating count u => exact .inl (updating_outlives u)
  | deleting d =>
    cases d with
    | exec listed active => exact .inr ⟨listed, active, rfl⟩
    | _ => exact .inl trivial
  | _ => exact .inl trivial

/-- markAllSlavesGone has not returned, or has failed. -/
def marking : Ending → Bool
  | .deleting _ | .returned none => false
  | _ => true

theorem marking_next (now : Time) (count : Nat) (states : List SlaveState) :
    marking (.publishNext S now count states) = true := by
  rcases next_shape S now count states with ⟨_, e⟩ | e | ⟨_, _, e⟩ <;> rw [e] <;> rfl

theorem marking_listed (now : Time) (l : Listing) : marking (.listed S now l) = true := by
  rcases listed_shape S now l with ⟨_, e⟩ | ⟨_, e⟩ | ⟨_, _, e⟩ <;> rw [e]
  · rfl
  · rfl
  · exact marking_next ..

/-- What a step of endSession can be once markAllSlavesGone is behind it. -/
theorem unmarked_cases (placed : pc.placed = true) (early : marking (pc.step S r i).1 = false) :
    (pc.step S r i).1 = .deleting .keys ∨
    (∃ listed, (pc.step S r i).1 = .deleting (.active listed)) ∨
    (∃ listed, (pc.step S r i).1 = .deleting (.exec listed
      (((r.store.get activeSessionKey).map Payload.raw).getD ""))) ∨
    (∃ listed active, pc = .deleting (.exec listed active) ∧
      pc.step S r i = (.returned none, .delete (deletedKeys S active listed))) ∨
    pc = .returned none := by
  have moved : Ending.Moved S r i pc (pc.step S r i) := Ending.step_moved placed
  generalize pc.step S r i = next at moved early
  cases moved with
  | list => cases early.symm.trans (marking_listed ..)
  | read => cases early.symm.trans (marking_listed ..)
  | publish => cases early.symm.trans (marking_next ..)
  | commit => exact .inl rfl
  | keys => exact .inr (.inl ⟨_, rfl⟩)
  | active => exact .inr (.inr (.inl ⟨_, rfl⟩))
  | delete => exact .inr (.inr (.inr (.inl ⟨_, _, rfl, rfl⟩)))
  | @finished err =>
    cases err with
    | none => exact .inr (.inr (.inr (.inr rfl)))
    | some err => cases early
  | _ => cases early

/-- DeleteSession deletes what it has read to be the active session. -/
theorem ending_reads {listed : List String} {active : String} (placed : pc.placed = true)
    (ran : (pc.step S r i).1 = .deleting (.exec listed active)) :
    active = ((r.store.get activeSessionKey).map Payload.raw).getD "" := by
  have early : marking (pc.step S r i).1 = false := by rw [ran]; rfl
  rcases unmarked_cases placed early with keys | ⟨_, asks⟩ | ⟨_, reads⟩ | ⟨_, _, -, deletes⟩ | rfl
  · cases ran.symm.trans keys
  · cases ran.symm.trans asks
  · cases ran.symm.trans reads
    rfl
  · cases ran.symm.trans (congrArg Prod.fst deletes)
  · cases ran

/-- Only the deletion ends endSession without an error. -/
theorem ending_returns (placed : pc.placed = true) (running : ∀ err, pc ≠ .returned err)
    (ran : (pc.step S r i).1 = .returned none) :
    ∃ listed active, pc = .deleting (.exec listed active) ∧
      (pc.step S r i).2 = .delete (deletedKeys S active listed) := by
  have early : marking (pc.step S r i).1 = false := by rw [ran]; rfl
  rcases unmarked_cases placed early with
    keys | ⟨_, asks⟩ | ⟨_, reads⟩ | ⟨listed, active, exec, deletes⟩ | returned
  · cases ran.symm.trans keys
  · cases ran.symm.trans asks
  · cases ran.symm.trans reads
  · exact ⟨listed, active, exec, congrArg Prod.snd deletes⟩
  · exact absurd returned (running _)

theorem exec_returns (S : String) (listed : List String) (active : String) (r : Server)
    (i : Input) : ∃ err, ((Ending.deleting (.exec listed active)).step S r i).1 = .returned err := by
  simp only [Ending.step, Deleting.step]
  cases i.reply.error <;> exact ⟨_, rfl⟩

/-- The deletion of the active session. -/
theorem deleted_active (S : String) (listed : List String) (r : Server) :
    ((Command.delete (deletedKeys S S listed)).run r).store.get activeSessionKey = none := by
  have member : activeSessionKey ∈ deletedKeys S S listed := by simp [deletedKeys]
  simp only [Command.run, Stamped.Store.get_dropAll, member, if_true]

end Present

section Sessions

variable {grace : Time} {w : World} {s : Session.World} {a : Session.Action}

theorem ends_fresh {g : ThreadID} {S : String} (named : isBlank S = false)
    (fresh : w.ending g = none) : w.ends g S = .listing .keys := by
  simp only [World.ends, fresh, Option.getD_none, Cluster.endSession, named, Bool.false_eq_true,
    if_false]

theorem named_of_role (hs : Slot s) {g : ThreadID} {S : String}
    (role : (s.threads g).role = .finalizing S) :
    s.memory.server.sessionID = S ∧ Committed s.log S ∧ isBlank S = false := by
  have fits := hs.busy g (by rw [role]; nofun)
  rw [role] at fits
  obtain ⟨_, _, same, member, named⟩ := fits
  exact ⟨same, ⟨_, member, named⟩, named ▸ (hs.named member).1⟩

theorem named_of_started (hs : Slot s) {g : ThreadID} {m : SessionMeta}
    (pc : s.threads g = .started m) : m.sessionID ≠ "" ∧ m.sessionID ≠ "pending" := by
  obtain ⟨u, same⟩ := hs.started g m pc
  exact same ▸ ⟨u.text_ne_empty, u.ne_of_length (by decide)⟩

theorem begun_step (h : Mirrors w) (taken : Session.step grace w.session a = some s)
    {g : ThreadID} {pc : Ending} (found : w.ending g = some pc) :
    ∃ S, s.threads g = .finalizing S ∨ s.threads g = .ended S ∨
      s.threads g = .returned (some S) := by
  obtain ⟨S, before⟩ := h.begun g pc found
  refine ⟨S, ?_⟩
  rcases Session.step_next taken g with same | next
  · rw [same]
    exact before
  · generalize s.threads g = t at next ⊢
    rcases before with at_g | at_g | at_g <;> rw [at_g] at next
    · cases next
      exact .inr (.inl rfl)
    · cases next
      exact .inr (.inr rfl)
    · cases next

/-- A goroutine that comes to finalize a session has not begun endSession. -/
theorem finalizing_step (h : Mirrors w) (hs : Slot s)
    (taken : Session.step grace w.session a = some s) {g : ThreadID} {S : String}
    (pc : s.threads g = .finalizing S) :
    w.session.threads g = .finalizing S ∨ w.ends g S = .listing .keys := by
  rcases Session.step_next taken g with same | next
  · exact .inl (same ▸ pc)
  · apply Or.inr
    have named := (named_of_role hs (g := g) (by rw [pc]; rfl)).2.2
    apply ends_fresh named
    rw [pc] at next
    generalize before : w.session.threads g = t at next
    cases found : w.ending g with
    | none => rfl
    | some e =>
      obtain ⟨S', at_g⟩ := h.begun g e found
      cases next <;> simp [before] at at_g

theorem erased_before (h : Mirrors w) (hs : Slot s) (allowed : w.allows a = true)
    (taken : Session.step grace w.session a = some s) {S : String}
    (erased : World.Erased { w with session := s } S) : w.Erased S := by
  obtain ⟨g, ended | ⟨pc, err, returned⟩⟩ := erased
  · rcases Session.step_next taken g with same | next
    · exact ⟨g, .inl (same ▸ ended)⟩
    · rw [ended] at next
      generalize before : w.session.threads g = t at next
      cases next with
      | ends =>
        refine ⟨g, .inr ⟨before, ?_⟩⟩
        simp only [World.allows, World.ended, before] at allowed
        split at allowed
        · exact ⟨_, ‹_›⟩
        · cases allowed
  · rcases finalizing_step h hs taken pc with same | fresh
    · exact ⟨g, .inr ⟨same, err, returned⟩⟩
    · cases fresh.symm.trans returned

theorem erased_after (taken : Session.step grace w.session a = some s)
    (other : ∀ g, a ≠ .finalizeSession g) {S : String} (erased : w.Erased S) :
    World.Erased { w with session := s } S := by
  obtain ⟨g, ended | ⟨pc, returned⟩⟩ := erased
  · rcases Session.step_next taken g with same | next
    · exact ⟨g, .inl (same.trans ended)⟩
    · rw [ended] at next
      generalize s.threads g = t at next
      cases next with
      | finalized => exact absurd rfl (other g)
  · rcases Session.step_next taken g with same | next
    · exact ⟨g, .inr ⟨same.trans pc, returned⟩⟩
    · rw [pc] at next
      generalize after : s.threads g = t at next
      cases next with
      | ends => exact ⟨g, .inl after⟩

/-- The slot is freed by the goroutine that has returned from endSession. -/
theorem finalize_frees (hs : Slot w.session) {g : ThreadID}
    (taken : Session.step grace w.session (.finalizeSession g) = some s) :
    s.memory.server.sessionID = "" ∧ ∃ S, w.session.threads g = .ended S := by
  cases Session.step_taken taken with
  | @finalizeSession _ S pc =>
    have current := (named_of_role hs (g := g) (by rw [pc]; rfl)).1
    refine ⟨?_, S, pc⟩
    simp only [Session.finalize, Session.finalize_current _ current]
    rfl

theorem current_step (h : Mirrors w) (hs : Slot w.session) (hs' : Slot s)
    (taken : Session.step grace w.session a = some s)
    (committed : Committed s.log s.memory.server.sessionID)
    (kept : ¬ World.Erased { w with session := s } s.memory.server.sessionID) :
    Present s.memory.server.sessionID w.redis := by
  have named : ∀ S, S = "" ∨ S = "pending" → ¬ Committed s.log S := fun S => hs'.uncommitted
  rcases Session.step_committed taken committed with before | ⟨g, m, _, pc, same⟩
  · have names := Session.step_names taken
    by_cases frees : ∃ g, a = .finalizeSession g
    · obtain ⟨g, rfl⟩ := frees
      exact absurd committed (named _ (.inl (finalize_frees hs taken).1))
    · generalize s.memory.server.sessionID = id at names committed kept before
      cases names with
      | kept =>
        refine h.current before fun erased => kept ?_
        exact erased_after taken (fun g same => frees ⟨g, same⟩) erased
      | reserved => exact absurd committed (named _ (.inr rfl))
      | committed pc => exact h.created _ _ pc
      | aborted => exact absurd committed (named _ (.inl rfl))
      | finalized => exact absurd committed (named _ (.inl rfl))
  · rw [same]
    exact h.created g m pc

/-- A step after which the slot is vacant was taken from a vacant slot, or has freed it. -/
theorem vacant_before (hs : Slot w.session) (taken : Session.step grace w.session a = some s)
    (vacant : World.Vacant { w with session := s }) :
    w.Vacant ∨ ∃ g S, w.session.threads g = .ended S := by
  have unnamed : s.memory.server.sessionID = "" ∨ s.memory.server.sessionID = "pending" :=
    vacant.unnamed
  have uncommitted : ∀ g, a ≠ .commitSession g := by
    rintro g rfl
    cases Session.step_taken taken with
    | commitSession pc =>
      obtain ⟨absent, reserved⟩ := named_of_started hs pc
      exact unnamed.elim absent reserved
  have unstarted : ∀ g m, w.session.threads g ≠ .started m := by
    intro g m pc
    rcases Session.step_next taken g with same | next
    · exact vacant.unstarted g m (same.trans pc)
    · rw [pc] at next
      generalize s.threads g = t at next
      cases next with
      | commit => exact uncommitted g rfl
  have names := Session.step_names taken
  generalize s.memory.server.sessionID = id at names unnamed
  cases names with
  | kept => exact .inl ⟨unnamed, unstarted⟩
  | reserved absent => exact .inl ⟨.inl absent, unstarted⟩
  | committed => exact absurd rfl (uncommitted _)
  | aborted pending => exact .inl ⟨.inr pending, unstarted⟩
  | finalized pc => exact .inr ⟨_, _, pc⟩

theorem mirrors_session (h : Mirrors w) (hs : Slot w.session) (hs' : Slot s)
    (allowed : w.allows a = true) (taken : Session.step grace w.session a = some s) :
    Mirrors { w with session := s } := by
  have started : ∀ g m, s.threads g = .started m → w.session.threads g = .started m := by
    intro g m pc
    rcases Session.step_next taken g with same | next
    · exact same ▸ pc
    · rw [pc] at next
      generalize w.session.threads g = t at next
      cases next with
      | start => cases allowed
  constructor
  · exact h.placed
  · exact fun g pc found => begun_step h taken found
  · exact fun g m pc => h.created g m (started g m pc)
  · exact current_step h hs hs' taken
  · intro g S listed active pc reads
    rcases finalizing_step h hs' taken pc with same | fresh
    · exact h.reads g S listed active same reads
    · cases fresh.symm.trans reads
  · exact fun none S erased => h.erased none S (erased_before h hs' allowed taken erased)
  · rintro none ⟨S, finalized⟩ vacant
    rcases vacant_before hs taken vacant with before | ⟨g, R, ended⟩
    · rcases Session.step_finalized taken finalized with old | ⟨g, _, ended⟩
      · exact h.vacant none ⟨S, old⟩ before
      · exact h.erased none S ⟨g, .inl ended⟩
    · exact h.erased none R ⟨g, .inl ended⟩

theorem mirrors_starts (h : Mirrors w) (hs : Slot s) {g : ThreadID} {uuid : UUID}
    {m : SessionMeta} {metrics : SessionMetrics} (named : m.sessionID = uuid.text)
    (taken : Session.step grace w.session (.startSession g uuid true) = some s) :
    Mirrors { w with
      session := s
      redis := (Command.create m metrics).run w.redis
      created := Function.update w.created g (some uuid.text) } := by
  have pc : s.threads g = .started ⟨uuid.text, w.session.now⟩ := by
    cases Session.step_taken taken
    exact Function.update_self ..
  have busy : (s.threads g).role ≠ .outside := by rw [pc]; nofun
  have only : ∀ h, (s.threads h).role ≠ .outside → h = g := fun h other => hs.only busy other
  have pending : s.memory.server.sessionID = "pending" := by
    have fits := hs.busy g busy
    rw [pc] at fits
    exact fits.2.2
  have unfinished : ∀ h S, s.threads h ≠ .finalizing S ∧ s.threads h ≠ .ended S := by
    intro h S
    constructor <;> intro at_h
    · cases only h (by rw [at_h]; nofun)
      cases pc.symm.trans at_h
    · cases only h (by rw [at_h]; nofun)
      cases pc.symm.trans at_h
  have unerased : ∀ S h, ¬ (s.threads h = .ended S ∨
      s.threads h = .finalizing S ∧ ∃ err, w.ends h S = .returned err) := by
    rintro S h (ended | ⟨finalizing, _⟩)
    · exact (unfinished h S).2 ended
    · exact (unfinished h S).1 finalizing
  constructor
  · exact h.placed
  · exact fun k e found => begun_step h taken found
  · intro k m' at_k
    cases only k (by rw [at_k]; nofun)
    cases pc.symm.trans at_k
    exact present_create named
  · intro committed
    exact absurd committed (hs.uncommitted (.inr pending))
  · intro k S listed active at_k
    exact absurd at_k (unfinished k S).1
  · rintro _ S ⟨k, erased⟩
    exact absurd erased (unerased S k)
  · intro _ _ vacant
    exact absurd pc (vacant.unstarted g _)

/-- Only the goroutine that runs endSession has the slot. -/
theorem alone_finalizing (hs : Slot w.session) {g k : ThreadID} {S : String}
    (pc : w.session.threads g = .finalizing S) (busy : (w.session.threads k).role ≠ .outside) :
    k = g :=
  hs.only (by rw [pc]; nofun) busy

theorem unerased_finalizing (hs : Slot w.session) {g : ThreadID} {S : String}
    (pc : w.session.threads g = .finalizing S) (running : ∀ err, w.ends g S ≠ .returned err) :
    ¬ w.Erased S := by
  rintro ⟨k, ended | ⟨finalizing, err, returned⟩⟩
  · cases alone_finalizing hs pc (k := k) (by rw [ended]; nofun)
    cases pc.symm.trans ended
  · cases alone_finalizing hs pc (k := k) (by rw [finalizing]; nofun)
    exact running err returned

/-- What endSession is about to delete is there until it does. -/
theorem present_finalizing (h : Mirrors w) (hs : Slot w.session) {g : ThreadID} {S : String}
    (pc : w.session.threads g = .finalizing S) (running : ∀ err, w.ends g S ≠ .returned err) :
    Present S w.redis := by
  obtain ⟨same, committed, _⟩ := named_of_role hs (g := g) (by rw [pc]; rfl)
  have kept := h.current
  rw [same] at kept
  exact kept committed (unerased_finalizing hs pc running)

theorem placed_finalizing (h : Mirrors w) (hs : Slot w.session) {g : ThreadID} {S : String}
    (pc : w.session.threads g = .finalizing S) : (w.ends g S).placed = true := by
  cases found : w.ending g with
  | none =>
    rw [ends_fresh (named_of_role hs (g := g) (by rw [pc]; rfl)).2.2 found]
    rfl
  | some e =>
    simp only [World.ends, found, Option.getD_some]
    exact h.placed g e found

theorem mirrors_ends (h : Mirrors w) (hs : Slot w.session) {g : ThreadID} {i : Input} {S : String}
    {next : Ending} {c : Command} (pc : w.session.threads g = .finalizing S)
    (running : ∀ err, w.ends g S ≠ .returned err)
    (ran : (w.ends g S).step S w.redis i = (next, c)) :
    Mirrors { w with
      redis := c.run w.redis
      channel := w.channel ++ messages none c
      ending := Function.update w.ending g (some next)
      endErrors := failure next ++ w.endErrors } := by
  obtain ⟨same, committed, _⟩ := named_of_role hs (g := g) (by rw [pc]; rfl)
  have only : ∀ k, (w.session.threads k).role ≠ .outside → k = g :=
    fun k busy => alone_finalizing hs pc busy
  have present := present_finalizing h hs pc running
  have placed := placed_finalizing h hs pc
  have mine : ∀ {k : ThreadID} {T : String}, w.session.threads k = .finalizing T → g = k ∧ S = T ∧
      (Function.update w.ending g (some next) k).getD (Cluster.endSession T) = next := by
    intro k T at_k
    cases only k (by rw [at_k]; nofun)
    cases pc.symm.trans at_k
    exact ⟨rfl, rfl, by rw [Function.update_self, Option.getD_some]⟩
  have outlives : Outlives c ∨ ∃ listed active, w.ends g S = .deleting (.exec listed active) := by
    have either := ending_outlives S w.redis i (w.ends g S)
    rwa [ran] at either
  constructor
  · intro k e found
    rcases update_cases found with ⟨_, made⟩ | ⟨_, old⟩
    · cases made
      have after : ((w.ends g S).step S w.redis i).1.placed = true := Ending.step_placed _
      rwa [ran] at after
    · exact h.placed k e old
  · intro k e found
    rcases update_cases found with ⟨rfl, _⟩ | ⟨_, old⟩
    · exact ⟨S, .inl pc⟩
    · exact h.begun k e old
  · intro k m (at_k : w.session.threads k = .started m)
    cases only k (by rw [at_k]; nofun)
    cases pc.symm.trans at_k
  · intro _ kept
    have alive : Outlives c := by
      refine outlives.resolve_right ?_
      rintro ⟨listed, active, last⟩
      obtain ⟨err, returns⟩ := exec_returns S listed active w.redis i
      rw [← last, ran] at returns
      exact kept ⟨g, .inr ⟨same.symm ▸ pc, err, (mine (same.symm ▸ pc)).2.2.trans returns⟩⟩
    exact same.symm ▸ present.run alive
  · intro k T listed active (at_k : w.session.threads k = .finalizing T) reads
    obtain ⟨rfl, rfl, now⟩ := mine at_k
    have read := ending_reads placed ((congrArg Prod.fst ran).trans (now.symm.trans reads))
    rw [read, present.active]
    rfl
  · rintro none T ⟨k, ended | ⟨finalizing, err, returned⟩⟩
    · cases only k (by rw [ended]; nofun)
      cases pc.symm.trans ended
    · obtain ⟨rfl, rfl, now⟩ := mine finalizing
      cases now.symm.trans returned
      cases err with
      | some err => cases none
      | none =>
        obtain ⟨listed, active, last, deletes⟩ := ending_returns placed running
          (congrArg Prod.fst ran)
        have own : active = S := h.reads g S listed active pc last
        have ranDelete : c = .delete (deletedKeys S active listed) :=
          (congrArg Prod.snd ran).symm.trans deletes
        rw [ranDelete, own]
        exact deleted_active S listed w.redis
  · rintro _ _ ⟨unnamed, _⟩
    exact absurd (same ▸ committed) (hs.uncommitted unnamed)

theorem mirrors_run (h : Mirrors w) {w' : World} {c : Command} (outlives : Outlives c)
    (session : w'.session = w.session) (ending : w'.ending = w.ending)
    (endErrors : w'.endErrors = w.endErrors) (redis : w'.redis = c.run w.redis) : Mirrors w' := by
  have active := active_run (r := w.redis) outlives
  obtain ⟨session', redis', channel, ending', link, conns, subscriber, endErrors', rest⟩ := w'
  dsimp only at session ending endErrors redis
  subst session ending endErrors redis
  constructor
  · exact h.placed
  · exact h.begun
  · exact fun g m pc => (h.created g m pc).run outlives
  · exact fun committed kept => (h.current committed kept).run outlives
  · exact h.reads
  · exact fun none S erased => active.trans (h.erased none S erased)
  · exact fun none finalized vacant => active.trans (h.vacant none finalized ⟨vacant.1, vacant.2⟩)

end Sessions

section Runs

variable {grace : Time} {c c' : Config World Call} {a : Turn Call Step Outside} {r : Server}

theorem mirrors_boot (r : Server) : Mirrors (boot r).shared := by
  constructor
  · intro g pc found
    cases found
  · intro g pc found
    cases found
  · intro g m pc
    cases pc
  · rintro ⟨m, member, _⟩
    cases member
  · intro g S listed active pc
    cases pc
  · rintro _ S ⟨g, ended | ⟨finalizing, _⟩⟩
    · cases ended
    · cases finalizing
  · rintro _ ⟨S, finalized⟩
    cases finalized

theorem mirrors_step (hs : Slot c.shared.session) (hs' : Slot c'.shared.session)
    (h : Mirrors c.shared) (answered : answers a = true)
    (taken : (master grace).step c a = some c') : Mirrors c'.shared := by
  cases Composite.took_of_step taken with
  | start => exact h
  | @run n step call call' w' found moved =>
    obtain rfl := congrArg Prod.fst (Option.some.inj moved)
    dsimp only
    rw [move_frame]
    exact mirrors_run h (Operation.step_outlives step call.operation) rfl rfl rfl rfl
  | outside moved =>
    cases goes_of_outside moved with
    | session allowed entered => exact mirrors_session h hs hs' allowed entered
    | fails fault _ =>
      have refused : Reply.answered.error = some _ := (beq_iff_eq.mp answered) ▸ fault
      cases refused
    | starts _ named entered => exact mirrors_starts h hs' named entered
    | ends pc running ran => exact mirrors_ends h hs pc running ran
    | _ => exact mirrors_run h (c := .read) trivial rfl rfl rfl rfl

theorem mirrors_reached (reached : (master grace).system.ReachableVia
    (fun _ a => answers a = true) (boot r) c) : Mirrors c.shared :=
  reached.invariant_given (J := fun d => Slot d.shared.session)
    (I := fun d => Mirrors d.shared)
    (fun _ part => Session.slot_reachable (session_reached part)) (mirrors_boot r)
    fun _ _ _ hs hs' h answered taken => mirrors_step hs hs' h answered taken

/-- In every interleaving on a Redis that answers, memory and Redis agree on the active
session, whatever was left in Redis at the start. -/
theorem memory_redis_agree (reached : (master grace).system.ReachableVia
    (fun _ a => answers a = true) (boot r) c) : Agrees c.shared := by
  have hs := Session.slot_reachable (session_reached reached)
  have h := mirrors_reached reached
  constructor
  · intro S committed same opened
    subst same
    refine h.current committed ?_
    rintro ⟨g, ended | ⟨finalizing, _⟩⟩
    · have fits := hs.busy g (by rw [ended]; nofun)
      rw [ended] at fits
      cases opened.symm.trans fits.2.1
    · have fits := hs.busy g (by rw [finalizing]; nofun)
      rw [finalizing] at fits
      cases opened.symm.trans fits.2.1
  · intro none finalized free
    refine h.vacant none finalized ⟨.inl free, fun g m pc => ?_⟩
    have fits := hs.busy g (by rw [pc]; nofun)
    rw [pc] at fits
    exact absurd (free.symm.trans fits.2.2) (by decide)

/-- The session an earlier start of the service left behind. -/
def leftover : Server := Command.run .empty (.create ⟨"left", 1⟩ ⟨"left", 0, 0, 1⟩)

/-- One session after another. -/
def twoSessions : List (Turn Call Step Outside) :=
  connects 0 .sample ++ disconnects 0 ++ connects 1 .sampleSlave

def activeSession (c : Config World Call) : Option Payload :=
  c.shared.redis.store.get activeSessionKey

theorem memory_redis_agree_twice : ∃ c,
    (master 30).system.run (boot leftover) twoSessions = some c ∧ Agrees c.shared ∧
      activeSession c = some (.text UUID.sampleSlave.text) := by
  obtain ⟨c, ran, active⟩ := System.run_passes twoSessions
    (fun c => activeSession c == some (.text UUID.sampleSlave.text))
    (by decide +kernel : ((master 30).system.run (boot leftover) twoSessions).any fun c =>
      activeSession c == some (.text UUID.sampleSlave.text))
  have answered : ∀ a ∈ twoSessions, answers a = true := by decide
  have met : (master 30).system.Meets (fun _ a => answers a = true) (boot leftover) twoSessions :=
    System.meets_of_forall (fun a member _ => answered a member) _
  exact ⟨c, ran, memory_redis_agree (System.run_reachableVia ran met), beq_iff_eq.mp active⟩

end Runs

end Megalo.Master
