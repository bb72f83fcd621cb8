import Megalo.Cluster.Atomicity

/-! The loop of registerWithController against RegisterSlave. Every attempt is a call of its
own, which goes on in the controller when its answer is lost or its deadline passes. -/
namespace Megalo.Cluster

open Redis Slave Transition

/-- registerWithController between its blocking steps; it waits for one of its calls. -/
inductive Loop
  | deciding
  | waiting (n : Nat)
  | sleeping
  | returned
  deriving DecidableEq

structure Joining where
  redis : Server
  issued : List UUID
  service : Service
  loop : Loop
  /-- The calls the loop has made, each with its request. -/
  calls : List (RegisterSlaveRequest × Registering)
  /-- What the calls have run in Redis, each command with its call, latest first. -/
  log : List (Nat × Command)

inductive JoinStep
  /-- ctx is done at the head of the loop. -/
  | done
  /-- The head of the loop; the request may fail before it reaches the controller. -/
  | attempt (delivered : Bool)
  | answer
  /-- The answer is lost, or five seconds are over. -/
  | deadline
  | wake
  | serve (n : Nat) (i : Input) (slaveID : UUID)
  /-- Any other client of Redis. -/
  | others (c : Command)

def Joining.serve (s : Joining) (n : Nat) (i : Input) (slaveID : UUID) : Option Joining :=
  match s.calls[n]? with
  | none | some (_, .returned _) => none
  | some (req, pc) =>
    let next := pc.step req s.redis i slaveID
    some { s with
      redis := next.2.run s.redis
      calls := s.calls.set n (req, next.1)
      log := (n, next.2) :: s.log }

/-- uuid.NewString returns an id it has not returned before. -/
def Joining.draws (s : Joining) (n : Nat) : Bool :=
  match s.calls[n]? with
  | some (_, .resolved _) => true
  | _ => false

def joining : System Joining JoinStep where
  step s
    | .done => if s.loop = .deciding then some { s with loop := .returned } else none
    | .attempt delivered =>
      if s.loop = .deciding then
        match registrationInfo s.service with
        | none => some { s with loop := .returned }
        | some pod =>
          if delivered then
            some { s with
              loop := .waiting s.calls.length
              calls := s.calls ++ [(registerRequest pod, .getActiveSessionID)] }
          else some { s with loop := .sleeping }
      else none
    | .answer => match s.loop with
      | .waiting n => match s.calls[n]? with
        | some (_, .returned (.ok state)) =>
          some { s with service := setRegistration state.slaveID s.service, loop := .returned }
        | some (_, .returned (.error _)) => some { s with loop := .sleeping }
        | _ => none
      | _ => none
    | .deadline => match s.loop with
      | .waiting _ => some { s with loop := .sleeping }
      | _ => none
    | .wake => if s.loop = .sleeping then some { s with loop := .deciding } else none
    | .serve n i slaveID =>
      if s.draws n then
        if slaveID ∈ s.issued then none
        else (s.serve n i slaveID).map fun t => { t with issued := slaveID :: t.issued }
      else s.serve n i slaveID
    | .others c => some { s with redis := c.run s.redis }

def joiner (r : Server) (issued : List UUID) (service : Service) : Joining :=
  ⟨r, issued, service, .deciding, [], []⟩

def isSet : Command → Bool
  | .set _ => true
  | _ => false

def isCount : Command → Bool
  | .setMetrics _ _ => true
  | _ => false

def creates (podUID : String) : Command → Bool
  | .set state => state.k8sPodUID == podUID
  | _ => false

/-- The process has one record and is counted once. -/
structure RegisteredOnce (podUID : String) (s : Joining) : Prop where
  created : s.log.countP (fun e => creates podUID e.2) ≤ 1
  counted : s.log.countP (fun e => isCount e.2) ≤ 1

def Joining.stored (s : Joining) : Bool := s.log.any fun e => isSet e.2

/-- A request goes out while no earlier call has stored a record, and a call stores its record
while the loop waits for it. -/
def heardInTime (s : Joining) : JoinStep → Bool
  | .attempt delivered => !delivered || !s.stored
  | .serve n i _ => match i.reply with
    | .refused _ => true
    | _ => !s.draws n || s.loop == .waiting n
  | _ => true

section Calls

variable {req : RegisterSlaveRequest} {r : Server} {i : Input} {slaveID : UUID}

/-- A call that has stored its record and goes on. -/
def Registering.past : Registering → Bool
  | .publishing _ _ | .updating _ _ => true
  | _ => false

/-- A call that has not come to its SET. -/
def Registering.early : Registering → Bool
  | .getActiveSessionID | .resolved _ => true
  | _ => false

/-- What a step of RegisterSlave may change: it stores its record when it leaves the place
before, and it counts when it returns. -/
inductive Registering.Leaves (i : Input) : Registering → Registering × Command → Prop
  | quiet {pc next : Registering} {c : Command} (set : isSet c = false) (count : isCount c = false)
      (past : next.past = true → pc.past = true) (early : next.early = true → pc.early = true) :
      Leaves i pc (next, c)
  | stores {sessionID : String} {next : Registering} {state : SlaveState}
      (later : next.early = false) (sent : ∀ err, i.reply ≠ .refused err) :
      Leaves i (.resolved sessionID) (next, .set state)
  | counts {state : SlaveState} {u : Updating} {result : Except String SlaveState} {S : String}
      {m : SessionMetrics} : Leaves i (.updating state u) (.returned result, .setMetrics S m)

theorem Registering.step_leaves (pc : Registering) (placed : pc.placed = true) :
    pc.Leaves i (pc.step req r i slaveID) := by
  have never : false = true → ∀ {b : Bool}, b = true := fun no => absurd no Bool.false_ne_true
  cases pc with
  | getActiveSessionID =>
    simp only [step]
    split <;> exact .quiet rfl rfl (by simp [past]) (by simp [early])
  | resolved sessionID =>
    simp only [step, publishSlaveState]
    split
    · exact .quiet rfl rfl (never ·) (never ·)
    · simp only [Publishing.step]
      cases reply : i.reply with
      | answered => exact .stores rfl (by simp [reply])
      | refused err => exact .quiet rfl rfl (never ·) (never ·)
      | lost err => exact .stores rfl (by simp [reply])
  | publishing state p =>
    cases beq_iff_eq.mp placed
    simp only [step, Publishing.step]
    cases i.reply <;> exact .quiet rfl rfl (fun _ => rfl) (never ·)
  | updating state u =>
    simp only [step]
    generalize ran : u.step state.sessionID countLive r i = next
    have moved : Updating.Moved state.sessionID countLive r i u next := ran ▸ u.step_moved
    cases moved with
    | lost | committed => exact .counts
    | @finished result =>
      cases result <;> exact .quiet rfl rfl (fun _ => rfl) (never ·)
    | _ => exact .quiet rfl rfl (fun _ => rfl) (never ·)
  | returned result => exact .quiet rfl rfl id id

end Calls

section Law

variable {s t : Joining} {a : JoinStep}

/-- What the log says of the calls. -/
structure Logged (s : Joining) : Prop where
  placed : ∀ (n : Nat) req pc, s.calls[n]? = some (req, pc) → pc.placed = true
  known : ∀ e ∈ s.log, e.1 < s.calls.length
  stored : ∀ (n : Nat) c, (n, c) ∈ s.log → isSet c = true →
    ∀ req pc, s.calls[n]? = some (req, pc) → pc.early = false
  past : ∀ (n : Nat) req pc, s.calls[n]? = some (req, pc) → pc.past = true →
    ∃ c, (n, c) ∈ s.log ∧ isSet c = true
  counted : ∀ (n : Nat) c, (n, c) ∈ s.log → isCount c = true →
    (∃ d, (n, d) ∈ s.log ∧ isSet d = true) ∧
      ∀ req pc, s.calls[n]? = some (req, pc) → ∃ result, pc = .returned result

/-- Only the latest call has stored a record, and the loop waits for no other. -/
structure Latest (s : Joining) : Prop where
  stored : ∀ (n : Nat) c, (n, c) ∈ s.log → isSet c = true → n + 1 = s.calls.length
  waiting : ∀ n, s.loop = .waiting n → n + 1 = s.calls.length
  sets : s.log.countP (fun e => isSet e.2) ≤ 1
  counts : s.log.countP (fun e => isCount e.2) ≤ 1

/-- A step is a step of the loop or of one of its calls. -/
inductive JoinMoved (s : Joining) : JoinStep → Joining → Prop
  | loop {a : JoinStep} {l : Loop} {service : Service} {redis : Server}
      (apart : ∀ n, l = .waiting n → s.loop = .waiting n) :
      JoinMoved s a { s with loop := l, service := service, redis := redis }
  | called {pod : PodRegistration} (registering : registrationInfo s.service = some pod) :
      JoinMoved s (.attempt true)
        { s with
          loop := .waiting s.calls.length
          calls := s.calls ++ [(registerRequest pod, .getActiveSessionID)] }
  | served {n : Nat} {i : Input} {slaveID : UUID} {req : RegisterSlaveRequest}
      {pc : Registering} {next : Registering × Command} {redis : Server} {issued : List UUID}
      (found : s.calls[n]? = some (req, pc)) (running : ∀ result, pc ≠ .returned result)
      (ran : pc.step req s.redis i slaveID = next) :
      JoinMoved s (.serve n i slaveID)
        { s with
          redis := redis
          issued := issued
          calls := s.calls.set n (req, next.1)
          log := (n, next.2) :: s.log }

theorem serve_moved {n : Nat} {i : Input} {slaveID : UUID} {issued : List UUID}
    (taken : s.serve n i slaveID = some t) :
    JoinMoved s (.serve n i slaveID) { t with issued := issued } := by
  unfold Joining.serve at taken
  split at taken
  · cases taken
  · cases taken
  · rename_i req pc returned found
    cases Option.some.inj taken
    exact .served found returned rfl

theorem join_moved (taken : joining.step s a = some t) : JoinMoved s a t := by
  cases a with
  | done =>
    simp only [joining, Option.ite_none_right_eq_some] at taken
    cases Option.some.inj taken.2
    exact .loop nofun
  | attempt delivered =>
    simp only [joining, Option.ite_none_right_eq_some] at taken
    obtain ⟨_, taken⟩ := taken
    split at taken
    · cases Option.some.inj taken
      exact .loop nofun
    · cases delivered with
      | true =>
        cases Option.some.inj taken
        exact .called ‹_›
      | false =>
        cases Option.some.inj taken
        exact .loop nofun
  | answer =>
    simp only [joining] at taken
    split at taken
    · split at taken
      · cases Option.some.inj taken
        exact .loop nofun
      · cases Option.some.inj taken
        exact .loop nofun
      · cases taken
    · cases taken
  | deadline =>
    simp only [joining] at taken
    split at taken
    · cases Option.some.inj taken
      exact .loop nofun
    · cases taken
  | wake =>
    simp only [joining, Option.ite_none_right_eq_some] at taken
    cases Option.some.inj taken.2
    exact .loop nofun
  | serve n i slaveID =>
    simp only [joining] at taken
    split at taken
    · simp only [Option.ite_none_left_eq_some, Option.map_eq_some_iff] at taken
      obtain ⟨_, u, served, rfl⟩ := taken
      exact serve_moved served
    · exact serve_moved taken
  | others c =>
    cases Option.some.inj taken
    exact .loop fun _ same => same

theorem Logged.start (r : Server) (issued : List UUID) (service : Service) :
    Logged (joiner r issued service) where
  placed := by simp [joiner]
  known := by simp [joiner]
  stored := by simp [joiner]
  past := by simp [joiner]
  counted := by simp [joiner]

theorem Registering.Leaves.early {i : Input} {pc : Registering} {next : Registering × Command}
    (leaves : pc.Leaves i next) (first : pc.early = false) : next.1.early = false := by
  cases leaves with
  | quiet _ _ _ early => exact Bool.eq_false_iff.mpr fun again => by simp [early again] at first
  | stores later => exact later
  | counts => rfl

/-- A new call has run nothing. -/
theorem Logged.called (logged : Logged s) {req : RegisterSlaveRequest} {l : Loop} :
    Logged { s with loop := l, calls := s.calls ++ [(req, .getActiveSessionID)] } := by
  have calls : ∀ (n : Nat) req' pc,
      (s.calls ++ [(req, Registering.getActiveSessionID)])[n]? = some (req', pc) →
        s.calls[n]? = some (req', pc) ∨ n = s.calls.length ∧ pc = .getActiveSessionID :=
    fun n req' pc found => (Composite.getElem?_append_one found).imp_right
      fun ⟨last, same⟩ => ⟨last, congrArg Prod.snd same⟩
  refine ⟨fun n req pc found => ?_, fun e logged_e => ?_, fun n c logged_c set req pc found => ?_,
    fun n req pc found past => ?_, fun n c logged_c count => ?_⟩
  · rcases calls n req pc found with old | ⟨_, rfl⟩
    · exact logged.placed n req pc old
    · rfl
  · exact Nat.lt_of_lt_of_le (logged.known e logged_e) (by simp)
  · rcases calls n req pc found with old | ⟨last, _⟩
    · exact logged.stored n c logged_c set req pc old
    · exact absurd (logged.known _ logged_c) (by simp [last])
  · rcases calls n req pc found with old | ⟨_, rfl⟩
    · exact logged.past n req pc old past
    · cases past
  · refine ⟨(logged.counted n c logged_c count).1, fun req pc found => ?_⟩
    rcases calls n req pc found with old | ⟨last, _⟩
    · exact (logged.counted n c logged_c count).2 req pc old
    · exact absurd (logged.known _ logged_c) (by simp [last])

theorem Logged.served (logged : Logged s) {n : Nat} {i : Input} {req : RegisterSlaveRequest}
    {pc : Registering} {next : Registering × Command} {redis : Server} {issued : List UUID}
    (found : s.calls[n]? = some (req, pc)) (running : ∀ result, pc ≠ .returned result)
    (leaves : pc.Leaves i next) (placed : next.1.placed = true) :
    Logged { s with
      redis := redis
      issued := issued
      calls := s.calls.set n (req, next.1)
      log := (n, next.2) :: s.log } := by
  have calls : ∀ (m : Nat) req' pc', (s.calls.set n (req, next.1))[m]? = some (req', pc') →
      m = n ∧ pc' = next.1 ∨ m ≠ n ∧ s.calls[m]? = some (req', pc') :=
    fun m req' pc' found' => (Composite.getElem?_set_some found').imp_left
      fun ⟨same, value⟩ => ⟨same, congrArg Prod.snd value⟩
  refine ⟨fun m req' pc' found' => ?_, fun e logged_e => ?_,
    fun m c logged_c set req' pc' found' => ?_, fun m req' pc' found' past => ?_,
    fun m c logged_c count => ?_⟩
  · rcases calls m req' pc' found' with ⟨rfl, rfl⟩ | ⟨_, old⟩
    · exact placed
    · exact logged.placed m req' pc' old
  · rw [List.length_set]
    rcases List.mem_cons.mp logged_e with rfl | old
    · exact (List.getElem?_eq_some_iff.mp found).1
    · exact logged.known e old
  · rcases calls m req' pc' found' with ⟨rfl, rfl⟩ | ⟨other, kept⟩
    · rcases List.mem_cons.mp logged_c with same | old
      · cases same
        cases leaves with
        | quiet none => simp [none] at set
        | stores later => exact later
        | counts => cases set
      · exact leaves.early (logged.stored m c old set req pc found)
    · rcases List.mem_cons.mp logged_c with same | old
      · exact absurd (congrArg Prod.fst same) other
      · exact logged.stored m c old set req' pc' kept
  · rcases calls m req' pc' found' with ⟨rfl, rfl⟩ | ⟨_, kept⟩
    · cases leaves with
      | quiet _ _ before =>
        obtain ⟨c, old, set⟩ := logged.past m req pc found (before past)
        exact ⟨c, List.mem_cons_of_mem _ old, set⟩
      | stores => exact ⟨_, List.mem_cons_self, rfl⟩
      | counts => cases past
    · obtain ⟨c, old, set⟩ := logged.past m req' pc' kept past
      exact ⟨c, List.mem_cons_of_mem _ old, set⟩
  · rcases List.mem_cons.mp logged_c with same | old
    · cases same
      cases leaves with
      | quiet _ none => simp [none] at count
      | stores => cases count
      | counts =>
        obtain ⟨d, old, set⟩ := logged.past n _ _ found rfl
        refine ⟨⟨d, List.mem_cons_of_mem _ old, set⟩, fun req' pc' found' => ?_⟩
        rcases calls n req' pc' found' with ⟨_, rfl⟩ | ⟨other, _⟩
        · exact ⟨_, rfl⟩
        · exact absurd rfl other
    · obtain ⟨⟨d, before, set⟩, ended⟩ := logged.counted m c old count
      refine ⟨⟨d, List.mem_cons_of_mem _ before, set⟩, fun req' pc' found' => ?_⟩
      rcases calls m req' pc' found' with ⟨rfl, rfl⟩ | ⟨_, kept⟩
      · obtain ⟨result, returned⟩ := ended req pc found
        exact absurd returned (running result)
      · exact ended req' pc' kept

theorem Logged.step (logged : Logged s) (taken : joining.step s a = some t) : Logged t := by
  cases join_moved taken with
  | loop => exact ⟨logged.placed, logged.known, logged.stored, logged.past, logged.counted⟩
  | called => exact logged.called
  | @served n i slaveID req pc next redis issued found running ran =>
    subst ran
    have leaves : pc.Leaves i (pc.step req s.redis i slaveID) :=
      pc.step_leaves (logged.placed n req pc found)
    exact logged.served found running leaves (Registering.step_placed pc)

theorem countP_cons_le_one {α : Type*} {p : α → Bool} {e : α} {log : List α}
    (once : log.countP p ≤ 1) (first : p e = true → ∀ x ∈ log, p x = false) :
    (e :: log).countP p ≤ 1 := by
  cases hit : p e with
  | false =>
    rw [List.countP_cons_of_neg (by simp [hit])]
    exact once
  | true =>
    have none : log.countP p = 0 :=
      List.countP_eq_zero.mpr fun x inside => by simp [first hit x inside]
    simp [none, hit]

theorem Latest.start (r : Server) (issued : List UUID) (service : Service) :
    Latest (joiner r issued service) where
  stored := by simp [joiner]
  waiting := by simp [joiner]
  sets := by simp [joiner]
  counts := by simp [joiner]

/-- A call that stores its record is the one the loop waits for, and is the first to. -/
theorem Latest.stores (latest : Latest s) (logged : Logged s) {n : Nat} {i : Input} {slaveID : UUID}
    {req : RegisterSlaveRequest} {S : String} (found : s.calls[n]? = some (req, .resolved S))
    (sent : ∀ err, i.reply ≠ .refused err) (heard : heardInTime s (.serve n i slaveID) = true) :
    n + 1 = s.calls.length ∧ ∀ e ∈ s.log, isSet e.2 = false := by
  have waits : s.loop = .waiting n := by
    have drawn : s.draws n = true := by rw [Joining.draws, found]
    cases reply : i.reply with
    | refused err => exact absurd reply (sent err)
    | _ => simpa [heardInTime, reply, drawn] using heard
  have last := latest.waiting n waits
  refine ⟨last, ?_⟩
  rintro ⟨m, c⟩ logged_c
  rw [Bool.eq_false_iff]
  intro set
  obtain rfl : m = n := Nat.succ.inj ((latest.stored m c logged_c set).trans last.symm)
  cases logged.stored m c logged_c set req _ found

/-- A call that counts is the only one that has stored its record, and has not counted. -/
theorem Latest.counts_once (latest : Latest s) (logged : Logged s) {n : Nat}
    {req : RegisterSlaveRequest} {state : SlaveState} {u : Updating}
    (found : s.calls[n]? = some (req, .updating state u)) : ∀ e ∈ s.log, isCount e.2 = false := by
  obtain ⟨d, before, is_set⟩ := logged.past n req _ found rfl
  rintro ⟨m, c⟩ logged_c
  rw [Bool.eq_false_iff]
  intro count
  obtain ⟨⟨d', before', set'⟩, ended⟩ := logged.counted m c logged_c count
  obtain rfl : m = n := Nat.succ.inj
    ((latest.stored m d' before' set').trans (latest.stored n d before is_set).symm)
  obtain ⟨result, returned⟩ := ended req _ found
  cases returned

theorem Latest.served (latest : Latest s) {n : Nat} {req : RegisterSlaveRequest}
    {next : Registering} {c : Command} {redis : Server} {issued : List UUID}
    (set : isSet c = true → n + 1 = s.calls.length ∧ ∀ e ∈ s.log, isSet e.2 = false)
    (count : isCount c = true → ∀ e ∈ s.log, isCount e.2 = false) :
    Latest { s with
      redis := redis
      issued := issued
      calls := s.calls.set n (req, next)
      log := (n, c) :: s.log } := by
  refine ⟨fun m d logged_d is_set => ?_, fun m waits => ?_, ?_, ?_⟩
  · rw [List.length_set]
    rcases List.mem_cons.mp logged_d with same | old
    · cases same
      exact (set is_set).1
    · exact latest.stored m d old is_set
  · rw [List.length_set]
    exact latest.waiting m waits
  · exact countP_cons_le_one latest.sets fun is_set => (set is_set).2
  · exact countP_cons_le_one latest.counts count

theorem Latest.step (logged : Logged s) (latest : Latest s) (heard : heardInTime s a = true)
    (taken : joining.step s a = some t) : Latest t := by
  cases join_moved taken with
  | loop apart =>
    exact ⟨latest.stored, fun n waits => latest.waiting n (apart n waits), latest.sets,
      latest.counts⟩
  | called =>
    have none : ∀ e ∈ s.log, isSet e.2 = false := by
      simpa [heardInTime, Joining.stored] using heard
    refine ⟨fun n c old set => ?_, fun n waits => ?_, latest.sets, latest.counts⟩
    · simp [none _ old] at set
    · cases waits
      simp
  | @served n i slaveID req pc next redis issued found running ran =>
    subst ran
    have leaves : pc.Leaves i (pc.step req s.redis i slaveID) :=
      pc.step_leaves (logged.placed n req pc found)
    generalize ran : pc.step req s.redis i slaveID = next at leaves
    obtain ⟨pc', command⟩ := next
    cases leaves with
    | quiet set count =>
      refine latest.served (fun is_set => ?_) fun is_count => ?_
      · simp [set] at is_set
      · simp [count] at is_count
    | stores _ sent =>
      refine latest.served (fun _ => latest.stores logged found sent heard) fun is_count => ?_
      cases is_count
    | counts =>
      refine latest.served (fun is_set => ?_) fun _ => latest.counts_once logged found
      cases is_set

/-- One slave process has one identity in every run whose loop hears of its records. -/
theorem registered_once {r : Server} {issued : List UUID} {service : Service}
    (reached : joining.ReachableVia (fun s a => heardInTime s a = true)
      (joiner r issued service) t) : RegisteredOnce service.pod.k8sPodUID t := by
  have logged : ∀ t, joining.ReachableVia (fun s a => heardInTime s a = true)
      (joiner r issued service) t → Logged t := fun t reached =>
    reached.invariant (Logged.start r issued service) fun _ _ _ known _ taken => known.step taken
  have latest : Latest t := reached.invariant_given logged (Latest.start r issued service)
    fun _ _ _ known _ latest heard taken => latest.step known heard taken
  constructor
  · refine Nat.le_trans (List.countP_mono_left fun e _ created => ?_) latest.sets
    unfold creates at created
    split at created
    · simp [*, isSet]
    · cases created
  · exact latest.counts

end Law

/-- The sample slave joins the sample session. -/
def sampleJoiner : Joining :=
  let blank : PodState := ⟨"", "", "", "", "", 0, 0, .unspecified, .unspecified, 0, 0, 0,
    false, false⟩
  joiner sampleSession.shared.redis [] (setupPod 1 "slave-1" "slave-service-0" "uid-1" "10.0.0.10"
    ⟨3, blank⟩)

def serves (n : Nat) (slaveID : UUID) : List JoinStep :=
  List.replicate 6 (.serve n ⟨3, .answered⟩ slaveID)

theorem registered_once_answered : ∃ t, joining.run sampleJoiner
    (.attempt true :: serves 0 .sampleSlave ++ [.answer]) = some t ∧ RegisteredOnce "uid-1" t := by
  obtain ⟨t, ran, _⟩ := System.run_passes (.attempt true :: serves 0 .sampleSlave ++ [.answer])
    (fun t => t.loop == .returned)
    (by decide : (joining.run sampleJoiner (.attempt true :: serves 0 .sampleSlave ++
      [.answer])).any _ = true)
  exact ⟨t, ran, registered_once (System.run_reachableVia ran (System.meets_of_check (by decide)))⟩

/-- The answer of the first attempt is lost, and the second one registers the pod again. -/
def answerLost : List JoinStep :=
  .attempt true :: serves 0 .sampleSlave ++ [.deadline, .wake, .attempt true] ++ serves 1 .sample

theorem registered_twice : ∃ t, joining.run sampleJoiner answerLost = some t ∧
    ¬ RegisteredOnce "uid-1" t := by
  obtain ⟨t, ran, passes⟩ := System.run_passes answerLost
    (fun t => t.log.countP (fun e => creates "uid-1" e.2) == 2 &&
      countersOf t.redis UUID.sample.text == some (2, 0))
    (by decide : (joining.run sampleJoiner answerLost).any _ = true)
  simp only [Bool.and_eq_true, beq_iff_eq] at passes
  refine ⟨t, ran, fun once => ?_⟩
  have created := once.created
  rw [passes.1] at created
  exact absurd created (by decide)

end Megalo.Cluster
