import Megalo.Http.Session

/-! What the interface answers and what it lets through: the records of the active session to
requests that the gate has passed, and to the controller the events that such requests posted. -/
namespace Megalo.Http

open Redis Cluster Slave Transition
open Auth (Gate GateStage Verifier Verified Section)

/-- The gate, when it is on, has verified the request's token. -/
def Passed (g : Gate) (v : Verifier) (r : Request) : Prop :=
  g.enabled = true → ∃ pass, Verified g v.history r.auth pass

/-- The request is a POST of the event. -/
def Posted (S : UUID) (r : Request) (event : Event) : Prop :=
  routeOf r.path = some .events ∧ r.method = "POST" ∧
    ∃ req now, r.body = .ok req ∧ event = req.event S.text now

def Asks (r : Request) (route : Route) : Prop := routeOf r.path = some route ∧ r.method = "GET"

/-- The handler is the request's. -/
def Handler.Of (r : Request) : Handler → Prop
  | .publishEvent req => routeOf r.path = some .events ∧ r.method = "POST" ∧ r.body = .ok req
  | .getActiveSession => Asks r .session
  | .getActiveSessionMetrics => Asks r .metrics
  | .getSlaveState slaveID => Asks r (.slave slaveID)

/-- The states of a list come by their ids, each once. -/
def Ascending (states : List SlaveState) : Prop :=
  (states.map SlaveState.slaveID).Pairwise (· < ·)

/-- The keys left to read follow those that were read. -/
def ListingOrdered (S : UUID) : Listing → Prop
  | .keys => True
  | .get key rest states => ∃ ids, key :: rest = ids.map (sessionSlaveKey S.text) ∧
    (states.map SlaveState.slaveID ++ ids).Pairwise (· < ·)
  | .returned (.ok states) => Ascending states
  | .returned (.error _) => True

def SnapshotFits (S : UUID) (w : World) : Master.Snapshot → Prop
  | .getActiveSessionID => True
  | .listing sessionID l => sessionID = S.text ∧ Listing.Knows S [""] w l ∧ ListingOrdered S l
  | .returned (.ok states) => (∀ st ∈ states, Known S [""] w st) ∧ Ascending states
  | .returned (.error _) => True

/-- What an answer may be. Data of the session is for requests that have passed the gate. -/
def Answers (S : UUID) (g : Gate) (startedAt : Time) (v : Verifier) (w : World)
    (events : List Event) (r : Request) (status : Nat) : Body → Prop
  | .empty | .text _ => True
  | .event event => status = 202 ∧ Passed g v r ∧ Posted S r event ∧ event ∈ events
  | .sessionMeta m => status = 200 ∧ Passed g v r ∧ Asks r .session ∧ m = ⟨S.text, startedAt⟩
  | .metrics m => status = 200 ∧ Passed g v r ∧ Asks r .metrics ∧ m.sessionID = S.text
  | .states states => status = 200 ∧ Passed g v r ∧ Asks r .slaves ∧
    (∀ state ∈ states, Known S [""] w state) ∧ Ascending states
  | .state state => status = 200 ∧ Passed g v r ∧ Asks r (.slave state.slaveID) ∧
    Known S [""] w state

/-- What is known of a request at its stage. -/
def Fits (S : UUID) (g : Gate) (startedAt : Time) (v : Verifier) (w : World)
    (events : List Event) (r : Request) : Stage → Prop
  | .gating stage => stage.answered = false ∧ Auth.KnownAt g v r.auth stage
  | .active handler => Passed g v r ∧ handler.Of r
  | .reading sessionID handler => Passed g v r ∧ handler.Of r ∧ sessionID = S.text
  | .listing snapshot => Passed g v r ∧ Asks r .slaves ∧ SnapshotFits S w snapshot
  | .publishing event => Passed g v r ∧ Posted S r event
  | .answered status body => Answers S g startedAt v w events r status body

section Stages

variable {S : UUID} {g : Gate} {startedAt : Time} {v v' : Verifier} {w w' : World}
  {events events' : List Event} {r : Request} {server : Server} {i : Input}

theorem Passed.later (passed : Passed g v r) (later : Auth.Later v v') : Passed g v' r := by
  intro enabled
  obtain ⟨pass, verified⟩ := passed enabled
  exact ⟨pass, verified.later later⟩

theorem Knows.mono {l : Listing} (knows : Listing.Knows S [""] w l)
    (more : w.issued ⊆ w'.issued) : Listing.Knows S [""] w' l :=
  Thread.Knows.mono (t := .ending (.listing l)) knows more

/-- Everything that is known of a request stays known. -/
theorem Fits.later {stage : Stage} (fits : Fits S g startedAt v w events r stage)
    (later : Auth.Later v v') (more : w.issued ⊆ w'.issued) (published : events ⊆ events') :
    Fits S g startedAt v' w' events' r stage := by
  cases stage with
  | gating stage => exact ⟨fits.1, Auth.KnownAt.later fits.2 later⟩
  | active handler => exact ⟨fits.1.later later, fits.2⟩
  | reading sessionID handler => exact ⟨fits.1.later later, fits.2⟩
  | listing snapshot =>
    obtain ⟨passed, asks, known⟩ := fits
    refine ⟨passed.later later, asks, ?_⟩
    cases snapshot with
    | getActiveSessionID => trivial
    | listing sessionID l => exact ⟨known.1, Knows.mono known.2.1 more, known.2.2⟩
    | returned answer =>
      cases answer with
      | error err => trivial
      | ok states => exact ⟨fun st inside => (known.1 st inside).mono more, known.2⟩
  | publishing event => exact ⟨fits.1.later later, fits.2⟩
  | answered status body =>
    cases body with
    | empty => trivial
    | text s => trivial
    | event event =>
      obtain ⟨ok, passed, posted, inside⟩ := fits
      exact ⟨ok, passed.later later, posted, published inside⟩
    | sessionMeta m =>
      obtain ⟨ok, passed, rest⟩ := fits
      exact ⟨ok, passed.later later, rest⟩
    | metrics m =>
      obtain ⟨ok, passed, rest⟩ := fits
      exact ⟨ok, passed.later later, rest⟩
    | states states =>
      obtain ⟨ok, passed, asks, known, ascending⟩ := fits
      exact ⟨ok, passed.later later, asks, fun st inside => (known st inside).mono more, ascending⟩
    | state state =>
      obtain ⟨ok, passed, asks, known⟩ := fits
      exact ⟨ok, passed.later later, asks, known.mono more⟩

theorem fits_error (status : Nat) (message : String) :
    Fits S g startedAt v w events r (httpError status message) := trivial

theorem enter_fits : Fits S g startedAt v w events r r.enter := by
  unfold Request.enter
  split
  · trivial
  · split
    · trivial
    · split
      · exact ⟨rfl, trivial⟩
      · trivial

theorem getting_fits {next : Stage}
    (fits : r.method = "GET" → Fits S g startedAt v w events r next) :
    Fits S g startedAt v w events r (r.getting next) := by
  unfold Request.getting
  split
  · rename_i get
    exact fits get
  · trivial

theorem dispatch_fits (passed : Passed g v r) : Fits S g startedAt v w events r r.dispatch := by
  unfold Request.dispatch
  split
  · rename_i route
    split
    · trivial
    · rename_i post
      split
      · trivial
      · rename_i req body
        exact ⟨passed, route, not_not.mp post, body⟩
  · rename_i route
    exact getting_fits fun get => ⟨passed, route, get⟩
  · rename_i route
    exact getting_fits fun get => ⟨passed, route, get⟩
  · rename_i route
    exact getting_fits fun get => ⟨passed, ⟨route, get⟩, trivial⟩
  · rename_i slaveID route
    refine getting_fits fun get => ?_
    split
    · trivial
    · exact ⟨passed, route, get⟩
  · trivial

theorem gated_fits {stage : GateStage} (known : Auth.KnownAt g v r.auth stage) :
    Fits S g startedAt v w events r (gated r stage) := by
  cases stage with
  | served => exact dispatch_fits known
  | rejected status err => exact fits_error _ _
  | arrived => exact ⟨rfl, known⟩
  | keying token call => exact ⟨rfl, known⟩

theorem ListingOrdered.next {states : List SlaveState} {ids : List String}
    (ordered : (states.map SlaveState.slaveID ++ ids).Pairwise (· < ·)) :
    ListingOrdered S (.next states (ids.map (sessionSlaveKey S.text))) := by
  cases ids with
  | nil =>
    rw [List.append_nil] at ordered
    exact ordered
  | cons id ids => exact ⟨id :: ids, rfl, ordered⟩

/-- A listing reads its keys in the order of the ids, whatever is written meanwhile. -/
theorem ListingOrdered.step (records : Records S [""] w) {l : Listing}
    (knows : Listing.Knows S [""] w l) (ordered : ListingOrdered S l) :
    ListingOrdered S (l.step S.text w.redis i) := by
  cases l with
  | keys =>
    simp only [Listing.step]
    split
    · trivial
    · obtain ⟨ids, sorted, strict, -⟩ := slaveKeys_sorted (r := w.redis) (S := .ofUUID S)
      have named : (w.redis.keys (sessionSlavePattern S.text)).insertionSort (· ≤ ·) =
          ids.map (sessionSlaveKey S.text) := sorted
      rw [named]
      exact ListingOrdered.next strict
  | get key rest states =>
    obtain ⟨ids, named, strict⟩ := ordered
    simp only [Listing.step]
    split
    · trivial
    · split
      · trivial
      · rename_i payload got
        obtain ⟨id, same⟩ := knows.1 key List.mem_cons_self
        obtain ⟨state, rfl, -⟩ := records.slave id payload (same ▸ got)
        have own := (read_known records knows got).1
        cases ids with
        | nil => cases named
        | cons first ids =>
          rw [List.map_cons, List.cons.injEq] at named
          obtain ⟨first_key, rfl⟩ := named
          have read : state.slaveID = first :=
            sessionSlaveKey_injective S.text (own.symm.trans first_key)
          apply ListingOrdered.next
          rw [List.map_append, List.map_singleton, read, List.append_assoc]
          exact strict
  | returned result => exact ordered

theorem SnapshotFits.listed {sessionID : String} {l : Listing} (ours : sessionID = S.text)
    (knows : Listing.Knows S [""] w l) (ordered : ListingOrdered S l) :
    SnapshotFits S w (.listed sessionID l) := by
  cases l with
  | keys => exact ⟨ours, knows, ordered⟩
  | get key rest states => exact ⟨ours, knows, ordered⟩
  | returned result =>
    cases result with
    | ok states => exact ⟨knows, ordered⟩
    | error err => trivial

theorem SnapshotFits.step (records : Records S [""] w) {snapshot : Master.Snapshot}
    (fits : SnapshotFits S w snapshot) : SnapshotFits S w (snapshot.step w.redis i) := by
  cases snapshot with
  | getActiveSessionID =>
    simp only [Master.Snapshot.step]
    split
    · exact ⟨fun _ inside => absurd inside List.not_mem_nil, .nil⟩
    · rename_i got
      exact ⟨getActive_session records got, trivial, trivial⟩
  | listing sessionID l =>
    obtain ⟨rfl, knows, ordered⟩ := fits
    exact .listed rfl (knows.step records) (ordered.step records knows)
  | returned answer => exact fits

theorem listed_fits {snapshot : Master.Snapshot} (passed : Passed g v r) (asks : Asks r .slaves)
    (fits : SnapshotFits S w snapshot) :
    Fits S g startedAt v w events r (listed snapshot) := by
  cases snapshot with
  | getActiveSessionID => exact ⟨passed, asks, fits⟩
  | listing sessionID l => exact ⟨passed, asks, fits⟩
  | returned answer =>
    cases answer with
    | ok states => exact ⟨rfl, passed, asks, fits.1, fits.2⟩
    | error err => exact fits_error _ _

/-- What a handler does beyond its stage is its request's. -/
def Effect.Of (S : UUID) (g : Gate) (v : Verifier) (r : Request) : Effect → Prop
  | .none => True
  | .set event | .publish event => Passed g v r ∧ Posted S r event

theorem Effect.Of.sent {e : Effect} (of : e.Of S g v r) : (Handler.effect i e).Of S g v r := by
  unfold Handler.effect
  split
  · trivial
  · exact of

theorem getSessionMeta_stored {m : SessionMeta} {sessionID : String}
    (got : getSessionMeta server i sessionID = .ok m) :
    server.store.get (sessionMetaKey sessionID) = some (.sessionMeta m) := by
  unfold getSessionMeta at got
  split at got
  · cases got
  · split at got
    · cases got
    · rename_i found
      cases got
      exact found
    · cases got

theorem getSessionMetrics_stored {m : SessionMetrics} {sessionID : String}
    (got : getSessionMetrics server i sessionID = .ok m) :
    server.store.get (sessionMetricsKey sessionID) = some (.metrics m) := by
  unfold getSessionMetrics at got
  split at got
  · cases got
  · split at got
    · cases got
    · rename_i payload found
      unfold decodeSessionMetrics at got
      split at got
      · cases got
        exact found
      · cases got

theorem inactive_fits (handler : Handler) : Fits S g startedAt v w events r handler.inactive := by
  cases handler <;> exact fits_error _ _

end Stages

section Steps

variable {S : UUID} {rand : Rand} {g : Gate} {startedAt clock : Time} {r : Request} {s s' : Api}
  {server : Server} {i : Input} {stage next : Stage} {e : Effect} {a : ApiTurn}

theorem read_fits (kept : SessionKept S startedAt s.cluster) (passed : Passed g s.verifier r)
    {handler : Handler} (own : handler.Of r)
    (read : handler.read s.cluster.shared.redis i S.text = (next, e)) :
    e.Of S g s.verifier r ∧
      Fits S g startedAt s.verifier s.cluster.shared (s.effect e).events r next := by
  cases handler with
  | publishEvent req =>
    obtain ⟨route, post, body⟩ := own
    have posted : Posted S r (req.event S.text i.now) := ⟨route, post, req, i.now, body, rfl⟩
    simp only [Handler.read] at read
    split at read
    · cases read
      exact ⟨trivial, fits_error _ _⟩
    · cases read
      refine ⟨Effect.Of.sent (e := .set _) ⟨passed, posted⟩, ?_⟩
      split
      · exact fits_error _ _
      · exact ⟨passed, posted⟩
  | getActiveSession =>
    cases read
    refine ⟨trivial, ?_⟩
    split
    · exact fits_error _ _
    · rename_i m got
      have stored := kept.sessionMeta _ (getSessionMeta_stored got)
      exact ⟨rfl, passed, own, Payload.sessionMeta.inj stored⟩
  | getActiveSessionMetrics =>
    cases read
    refine ⟨trivial, ?_⟩
    split
    · exact fits_error _ _
    · rename_i m got
      exact ⟨rfl, passed, own, kept.metrics m (getSessionMetrics_stored got)⟩
  | getSlaveState slaveID =>
    cases read
    refine ⟨trivial, ?_⟩
    split
    · split
      · exact fits_error _ _
      · exact fits_error _ _
    · rename_i state got
      obtain ⟨-, rfl, known⟩ := getSlaveState_known kept.grounded.records got
      exact ⟨rfl, passed, own, known⟩

/-- One command of a handler. -/
theorem handle_fits (kept : SessionKept S startedAt s.cluster)
    (fits : Fits S g startedAt s.verifier s.cluster.shared s.events r stage)
    (taken : stage.handle s.cluster.shared.redis i = some (next, e)) :
    e.Of S g s.verifier r ∧
      Fits S g startedAt s.verifier s.cluster.shared (s.effect e).events r next := by
  have records := kept.grounded.records
  cases stage with
  | gating stage => cases taken
  | active handler =>
    cases taken
    refine ⟨trivial, ?_⟩
    split
    · exact inactive_fits handler
    · rename_i got
      exact ⟨fits.1, fits.2, getActive_session records got⟩
  | reading sessionID handler =>
    obtain ⟨passed, own, rfl⟩ := fits
    exact read_fits kept passed own (Option.some.inj taken)
  | listing snapshot =>
    cases taken
    exact ⟨trivial, listed_fits fits.1 fits.2.1 (fits.2.2.step records)⟩
  | publishing event =>
    obtain ⟨passed, posted⟩ := fits
    cases taken
    refine ⟨Effect.Of.sent (e := .publish event) ⟨passed, posted⟩, ?_⟩
    split
    · exact fits_error _ _
    · rename_i unfailed
      refine ⟨rfl, passed, posted, ?_⟩
      unfold Handler.effect
      split
      · rename_i refused
        rw [refused] at unfailed
        cases unfailed
      · exact List.mem_cons_self
  | answered status body => cases taken

/-- What a step is, by its turn. -/
inductive Took (S : UUID) (rand : Rand) (g : Gate) (s : Api) : ApiTurn → Api → Prop
  | cluster {turn : Turn Thread Step Outside} {c : Config World Thread}
      (told : s.delivers turn = true) (moved : (cluster S rand).step s.cluster turn = some c) :
      Took S rand g s (.cluster turn) { s with cluster := c }
  | arrive (request : Request) :
      Took S rand g s (.arrive request) { s with calls := s.calls ++ [⟨request, request.enter⟩] }
  | gate {n : Nat} {i : Section} {request : Request} {stage : GateStage} {v : Verifier}
      {q : Auth.GateRequest} (found : s.calls[n]? = some ⟨request, .gating stage⟩)
      (moved : g.move i s.verifier ⟨request.auth, stage⟩ = some (v, q)) :
      Took S rand g s (.gate n i) ({ s with verifier := v }.setCall n ⟨request, gated request q.stage⟩)
  | handle {n : Nat} {i : Input} {call : Call} {next : Stage} {e : Effect}
      (found : s.calls[n]? = some call)
      (moved : call.stage.handle s.cluster.shared.redis i = some (next, e)) :
      Took S rand g s (.handle n i) ((s.effect e).setCall n ⟨call.request, next⟩)
  | expire (createdAt : Time) : Took S rand g s (.expire createdAt)
      (s.setStore (s.store.drop (sessionEventKey S.text (unixNano createdAt))))

theorem took_of_step {a : ApiTurn} (taken : (api S rand g).step s a = some s') :
    Took S rand g s a s' := by
  simp only [api, Api.step] at taken
  cases a with
  | cluster turn =>
    simp only [Option.ite_none_right_eq_some, Option.map_eq_some_iff] at taken
    obtain ⟨told, c, moved, rfl⟩ := taken
    exact .cluster told moved
  | arrive request =>
    simp only [Option.ite_none_left_eq_some, Option.some.injEq] at taken
    obtain ⟨-, rfl⟩ := taken
    exact .arrive request
  | gate n i =>
    obtain ⟨⟨request, stage⟩, found, taken⟩ := Option.bind_eq_some_iff.mp taken
    cases stage with
    | gating stage =>
      obtain ⟨⟨v, q⟩, moved, rfl⟩ := Option.map_eq_some_iff.mp taken
      exact .gate found moved
    | active handler => cases taken
    | reading sessionID handler => cases taken
    | listing snapshot => cases taken
    | publishing event => cases taken
    | answered status body => cases taken
  | handle n i =>
    obtain ⟨call, found, taken⟩ := Option.bind_eq_some_iff.mp taken
    obtain ⟨⟨next, e⟩, moved, rfl⟩ := Option.map_eq_some_iff.mp taken
    exact .handle found moved
  | expire createdAt =>
    cases Option.some.inj taken
    exact .expire createdAt

/-- What only grows. -/
structure Grown (s s' : Api) : Prop where
  verifier : Auth.Later s.verifier s'.verifier
  issued : s.cluster.shared.issued ⊆ s'.cluster.shared.issued
  events : s.events ⊆ s'.events
  calls : ∀ (n : Nat) call, s.calls[n]? = some call →
    ∃ stage, s'.calls[n]? = some ⟨call.request, stage⟩

theorem effect_grown (s : Api) (e : Effect) : Grown s (s.effect e) := by
  cases e with
  | none => exact ⟨.refl _, List.Subset.refl _, List.Subset.refl _, fun _ call found => ⟨_, found⟩⟩
  | set event =>
    exact ⟨.refl _, List.Subset.refl _, List.Subset.refl _, fun _ call found => ⟨_, found⟩⟩
  | publish event =>
    exact ⟨.refl _, List.Subset.refl _, List.subset_cons_self _ _, fun _ call found => ⟨_, found⟩⟩

theorem setCall_calls {n : Nat} {request : Request} {stage next : Stage}
    (found : s.calls[n]? = some ⟨request, stage⟩) (m : Nat) (call : Call)
    (before : s.calls[m]? = some call) :
    ∃ after, (s.setCall n ⟨request, next⟩).calls[m]? = some ⟨call.request, after⟩ := by
  by_cases same : m = n
  · subst same
    cases found.symm.trans before
    exact ⟨next, List.getElem?_set_self (List.getElem?_eq_some_iff.mp found).1⟩
  · exact ⟨call.stage, (List.getElem?_set_ne (Ne.symm same)).trans before⟩

/-- A request that the gate has passed posted the event. -/
def Origin (S : UUID) (g : Gate) (s : Api) (event : Event) : Prop :=
  ∃ (n : Nat) (call : Call), s.calls[n]? = some call ∧ Passed g s.verifier call.request ∧
    Posted S call.request event

theorem Origin.grown {event : Event} (origin : Origin S g s event) (grown : Grown s s') :
    Origin S g s' event := by
  obtain ⟨n, call, found, passed, posted⟩ := origin
  obtain ⟨stage, after⟩ := grown.calls n call found
  exact ⟨n, _, after, passed.later grown.verifier, posted⟩

/-- What every step keeps. -/
structure Sound (S : UUID) (g : Gate) (startedAt : Time) (s : Api) : Prop where
  kept : SessionKept S startedAt s.cluster
  fresh : Auth.Fresh g.jwksTTL s.verifier
  fits : ∀ (n : Nat) (call : Call), s.calls[n]? = some call →
    Fits S g startedAt s.verifier s.cluster.shared s.events call.request call.stage
  origin : ∀ event ∈ s.events, Origin S g s event
  heard : ∀ (n : Nat) pc event, s.cluster.threads[n]? = some (.controller pc) →
    handled pc = some event → event ∈ s.events

theorem Sound.later (sound : Sound S g startedAt s) (grown : Grown s s') {n : Nat} {call : Call}
    (found : s.calls[n]? = some call) :
    Fits S g startedAt s'.verifier s'.cluster.shared s'.events call.request call.stage :=
  (sound.fits n call found).later grown.verifier grown.issued grown.events

/-- A step of one call: the others keep what is known of them. -/
theorem Sound.setCall (sound : Sound S g startedAt s) (grown : Grown s s')
    (same : s'.calls = s.calls) {n : Nat} {call : Call}
    (own : Fits S g startedAt s'.verifier s'.cluster.shared s'.events call.request call.stage)
    (m : Nat) (other : Call) (found : (s'.setCall n call).calls[m]? = some other) :
    Fits S g startedAt s'.verifier s'.cluster.shared s'.events other.request other.stage := by
  have set : (s'.calls.set n call)[m]? = some other := found
  rw [same] at set
  rcases Composite.getElem?_set_some set with ⟨-, rfl⟩ | ⟨-, before⟩
  · exact own
  · exact sound.later grown before

theorem Sound.heard_step (sound : Sound S g startedAt s) {turn : Turn Thread Step Outside}
    {c : Config World Thread} (told : s.delivers turn = true)
    (moved : (cluster S rand).step s.cluster turn = some c) (n : Nat) (pc : Handling)
    (event : Event) (found : c.threads[n]? = some (.controller pc))
    (busy : handled pc = some event) : event ∈ s.events := by
  have heard := (Composite.took_of_step moved).each_kept
    (P := fun _ _ t => ∀ pc event, t = .controller pc → handled pc = some event → event ∈ s.events)
    (fun m t before pc event same => sound.heard m pc event (same ▸ before)) ?_ ?_
    fun _ _ _ _ same => same
  · exact heard n _ found pc event rfl busy
  · intro t _ starts pc event same
    rcases starts_cases starts with ⟨_, _, rfl⟩ | ⟨_, rfl⟩
    · cases same
    · cases same
  · intro m step t w t' turned before moved _ pc event same busy
    have acts := (Thread.move_moved moved).acts (sound.kept.grounded.roles.placed m t before)
    obtain ⟨pc, rfl, already | ⟨rfl, rfl⟩⟩ := handled_acts acts same busy
    · exact sound.heard m pc event before already
    · -- the controller was idle: it has received what was published
      simp only [turned, Api.delivers, before] at told
      exact List.contains_iff_mem.mp told

theorem sound_opened (vacant : Vacant S server) : Sound S g startedAt
    (opened S startedAt clock server) where
  kept := sessionKept_started vacant
  fresh := by
    refine ⟨nofun, fun later kid key time earlier split => ?_⟩
    cases later <;> cases split
  fits := by
    intro n call found
    cases found
  origin := by
    intro event inside
    cases inside
  heard := by
    intro n pc event found busy
    rcases started_thread found with ⟨_, same⟩ | ⟨_, same⟩
    · cases same
      cases busy
    · cases same

theorem effect_session (kept : SessionKept S startedAt s.cluster) (of : e.Of S g s.verifier r) :
    SessionKept S startedAt (s.effect e).cluster := by
  cases e with
  | none => exact kept
  | set event =>
    obtain ⟨-, -, -, req, now, -, rfl⟩ := of
    exact kept.setStore (.put s.store (unixNano now) _)
  | publish event => exact kept

theorem effect_same (s : Api) (e : Effect) : (s.effect e).verifier = s.verifier ∧
    (s.effect e).calls = s.calls ∧ (s.effect e).cluster.threads = s.cluster.threads := by
  cases e <;> exact ⟨rfl, rfl, rfl⟩

theorem effect_events {event : Event} (inside : event ∈ (s.effect e).events) :
    event ∈ s.events ∨ e = .publish event := by
  cases e with
  | none => exact .inl inside
  | set stored => exact .inl inside
  | publish published =>
    rcases List.mem_cons.mp inside with rfl | before
    · exact .inr rfl
    · exact .inl before

theorem gate_fits (sound : Sound S g startedAt s) {n : Nat} {request : Request}
    {stage : GateStage} {v : Verifier} {q : Auth.GateRequest} {held : Section}
    (found : s.calls[n]? = some ⟨request, .gating stage⟩)
    (moved : g.move held s.verifier ⟨request.auth, stage⟩ = some (v, q)) :
    Auth.Fresh g.jwksTTL v ∧ Auth.Later s.verifier v ∧
      Fits S g startedAt v s.cluster.shared s.events request (gated request q.stage) := by
  have known : Auth.KnownAt g s.verifier request.auth stage := (sound.fits n _ found).2
  obtain ⟨fresh, later, after⟩ := Auth.gateMove_kept (q := ⟨_, stage⟩) sound.fresh known moved
  have same : q.request = request.auth := (Auth.gateMove_cases moved).1
  exact ⟨fresh, later, gated_fits (same ▸ after)⟩

theorem Took.grown (took : Took S rand g s a s') (sound : Sound S g startedAt s) :
    Grown s s' := by
  have refl : ∀ (n : Nat) call, s.calls[n]? = some call →
      ∃ stage, s.calls[n]? = some ⟨call.request, stage⟩ := fun n call found => ⟨_, found⟩
  cases took with
  | cluster told moved =>
    exact ⟨.refl _, issued_step moved, List.Subset.refl _, refl⟩
  | arrive request =>
    exact ⟨.refl _, List.Subset.refl _, List.Subset.refl _, fun n call found =>
      ⟨call.stage, Composite.getElem?_append_kept found⟩⟩
  | gate found moved =>
    have later := (gate_fits sound found moved).2.1
    exact ⟨later, List.Subset.refl _, List.Subset.refl _, setCall_calls found⟩
  | @handle n i call next e found moved =>
    have grown := effect_grown s e
    refine ⟨grown.verifier, grown.issued, grown.events, fun m other before => ?_⟩
    obtain ⟨-, calls, -⟩ := effect_same s e
    exact setCall_calls (s := s.effect e) (calls ▸ found) m other (calls ▸ before)
  | expire createdAt => exact ⟨.refl _, List.Subset.refl _, List.Subset.refl _, refl⟩

theorem Took.sound (took : Took S rand g s a s') (sound : Sound S g startedAt s) :
    Sound S g startedAt s' := by
  have grown := took.grown sound
  have told : ∀ event ∈ s.events, Origin S g s' event := fun event inside =>
    (sound.origin event inside).grown grown
  cases took with
  | cluster delivered moved =>
    exact ⟨sound.kept.step moved, sound.fresh, fun n call found => sound.later grown found, told,
      sound.heard_step delivered moved⟩
  | arrive request =>
    refine ⟨sound.kept, sound.fresh, fun n call found => ?_, told, sound.heard⟩
    rcases Composite.getElem?_append_one found with before | ⟨-, rfl⟩
    · exact sound.fits n call before
    · exact enter_fits
  | gate found moved =>
    obtain ⟨fresh, later, fits⟩ := gate_fits sound found moved
    have mine : Grown s { s with verifier := _ } :=
      ⟨later, List.Subset.refl _, List.Subset.refl _, fun _ call before => ⟨_, before⟩⟩
    exact ⟨sound.kept, fresh, sound.setCall mine rfl fits, told, sound.heard⟩
  | @handle n i call next e found moved =>
    obtain ⟨of, fits⟩ := handle_fits sound.kept (sound.fits n call found) moved
    obtain ⟨verifier, calls, threads⟩ := effect_same s e
    have mine := effect_grown s e
    refine ⟨effect_session sound.kept of, verifier.symm ▸ sound.fresh, ?_, ?_, ?_⟩
    · exact sound.setCall mine calls (fits.later mine.verifier mine.issued (List.Subset.refl _))
    · intro event inside
      rcases effect_events inside with before | rfl
      · exact told event before
      · obtain ⟨stage, after⟩ := grown.calls n call found
        exact ⟨n, _, after, of.1.later grown.verifier, of.2⟩
    · intro m pc event at_m busy
      exact mine.events (sound.heard m pc event (threads ▸ at_m) busy)
  | expire createdAt =>
    exact ⟨sound.kept.setStore (.drop s.store (unixNano createdAt)), sound.fresh, sound.fits, told,
      sound.heard⟩

end Steps

/-- The handler runs. -/
def Stage.inside : Stage → Bool
  | .gating _ | .answered .. => false
  | .active _ | .reading .. | .listing _ | .publishing _ => true

def Stage.isAnswer : Stage → Bool
  | .answered .. => true
  | _ => false

/-- What the interface keeps, whatever comes in and however it interleaves with the session. -/
structure ApiKept (S : UUID) (rand : Rand) (g : Gate) (startedAt : Time) (s : Api) : Prop where
  answers : ∀ (n : Nat) request status body,
    s.calls[n]? = some ⟨request, .answered status body⟩ →
    Answers S g startedAt s.verifier s.cluster.shared s.events request status body
  /-- A handler runs for what the gate has passed. -/
  inside : ∀ (n : Nat) call, s.calls[n]? = some call → call.stage.inside = true →
    Passed g s.verifier call.request
  /-- The controller handles events that were posted through the gate. -/
  heard : ∀ (n : Nat) pc event, s.cluster.threads[n]? = some (.controller pc) →
    handled pc = some event → Origin S g s event
  /-- A request without an answer can go on. -/
  moves : ∀ (n : Nat) call, s.calls[n]? = some call → call.stage.isAnswer = false →
    ∃ t, (∃ i, (api S rand g).step s (.gate n i) = some t) ∨
      ∃ i, (api S rand g).step s (.handle n i) = some t

section Runs

variable {S : UUID} {rand : Rand} {g : Gate} {startedAt clock : Time} {server : Server} {s : Api}

theorem sound_reachable (vacant : Vacant S server)
    (reached : (api S rand g).Reachable (opened S startedAt clock server) s) :
    Sound S g startedAt s := by
  apply reached.invariant
  · exact sound_opened vacant
  · intro t a u sound _ taken
    exact (took_of_step taken).sound sound

theorem api_moves (sound : Sound S g startedAt s) {n : Nat} {call : Call} (found : s.calls[n]? = some call)
    (unanswered : call.stage.isAnswer = false) :
    ∃ t, (∃ i, (api S rand g).step s (.gate n i) = some t) ∨
      ∃ i, (api S rand g).step s (.handle n i) = some t := by
  obtain ⟨request, stage⟩ := call
  have handles {next : Stage × Effect}
      (moved : stage.handle s.cluster.shared.redis ⟨0, .answered⟩ = some next) :
      ∃ t, (∃ i, (api S rand g).step s (.gate n i) = some t) ∨
        ∃ i, (api S rand g).step s (.handle n i) = some t :=
    ⟨_, .inr ⟨⟨0, .answered⟩, Option.bind_eq_some_iff.mpr
      ⟨_, found, Option.map_eq_some_iff.mpr ⟨next, moved, rfl⟩⟩⟩⟩
  cases stage with
  | gating stage =>
    have waiting : stage.answered = false := (sound.fits n _ found).1
    obtain ⟨moved, took⟩ := Auth.gate_moves (g := g) (v := s.verifier)
      (q := ⟨request.auth, stage⟩) waiting
    exact ⟨_, .inl ⟨_, Option.bind_eq_some_iff.mpr
      ⟨_, found, Option.map_eq_some_iff.mpr ⟨moved, took, rfl⟩⟩⟩⟩
  | active handler => exact handles rfl
  | reading sessionID handler => exact handles rfl
  | listing snapshot => exact handles rfl
  | publishing event => exact handles rfl
  | answered status body => cases unanswered

theorem api_kept (vacant : Vacant S server)
    (reached : (api S rand g).Reachable (opened S startedAt clock server) s) :
    ApiKept S rand g startedAt s := by
  have sound := sound_reachable vacant reached
  refine ⟨?_, ?_, ?_, ?_⟩
  · intro n request status body found
    exact sound.fits n _ found
  · intro n call found inside
    have fits := sound.fits n call found
    obtain ⟨request, stage⟩ := call
    cases stage with
    | gating stage => cases inside
    | active handler => exact fits.1
    | reading sessionID handler => exact fits.1
    | listing snapshot => exact fits.1
    | publishing event => exact fits.1
    | answered status body => cases inside
  · intro n pc event found busy
    exact sound.origin event (sound.heard n pc event found busy)
  · intro n call found unanswered
    exact api_moves sound found unanswered

/-- An event is posted and reaches the controller; a listing has no token; another one and a
read of the slave have. -/
def fourRequests : List ApiTurn :=
  let jwks := Auth.sampleAnswer [Auth.paddedKey]
  let asks (method path token : String) : ApiTurn :=
    .arrive ⟨method, path, Auth.bearing token, .ok ⟨5, 11, ""⟩⟩
  let gate (n now : Nat) : ApiTurn := .gate n ⟨now, now, jwks⟩
  let handle (n : Nat) : ApiTurn := .handle n ⟨2, .answered⟩
  registers.map .cluster ++
    [asks "POST" "/events" "a.b.c", asks "GET" "/internal/slaves" "",
      asks "GET" "/internal/slaves" "a.b.c",
      asks "GET" ("/internal/slaves/" ++ UUID.sampleSlave.text) "a.b.c",
      gate 0 10, gate 1 10, gate 0 10, gate 0 20, gate 0 30, gate 0 40, handle 0, handle 0, handle 0,
      .cluster (turn 0 ""), gate 2 50, gate 2 50, gate 2 50, handle 2, handle 2, handle 2,
      gate 3 60, gate 3 60, gate 3 60, handle 3, handle 3]

def fourAnswers (s : Api) : Bool :=
  match s.calls.map Call.stage with
  | [.answered posted (.event event), .answered refused (.text _), .answered listed (.states [_]),
      .answered read (.state state)] =>
    posted == 202 && event == sampleEvent "" && refused == 401 && listed == 200 && read == 200 &&
      state.slaveID == UUID.sampleSlave.text &&
      match (s.cluster.threads[0]? : Option Thread) with
      | some (.controller pc) => handled pc == some event
      | _ => false
  | _ => false

theorem api_kept_four : ∃ s,
    (api .sample .least Auth.sampleGate).run (opened .sample 1 0 .empty) fourRequests = some s ∧
      fourAnswers s = true ∧ ApiKept .sample .least Auth.sampleGate 1 s := by
  obtain ⟨s, ran, passes⟩ := System.run_passes fourRequests fourAnswers (by decide +kernel :
    ((api .sample .least Auth.sampleGate).run (opened .sample 1 0 .empty) fourRequests).any
      fourAnswers = true)
  exact ⟨s, ran, passes, api_kept (vacant_empty _) (System.run_reachable ran)⟩

end Runs

end Megalo.Http
