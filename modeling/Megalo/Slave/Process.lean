import Megalo.Slave.Config
import Megalo.Library.System
import Megalo.Library.History
import Mathlib.Data.List.Perm.Basic

/-! The process of apps/slave-service/cmd/server/main.go: ListenAndServe of
libs/server/grpc/server.go, the loop of registerWithController, the RPCs that the server runs, the
callback of Shutdown, and the signals, in any order. -/
namespace Megalo.Slave

open Transition

inductive RPC
  | executeEvent (req : ExecuteEventRequest)
  | shutdown (reason : String)
  deriving DecidableEq

inductive Registering
  | asking
  | dialing (pod : PodRegistration)
  | calling (pod : PodRegistration)
  | sleeping
  | returned
  deriving DecidableEq

/-- Where ListenAndServe stands; GracefulStop begins no RPC and waits for those that run. -/
inductive Serving
  | listening
  | stopping
  /-- main has returned, or has died of the error of net.Listen or Serve. -/
  | exited
  deriving DecidableEq

inductive Happening
  | arrived (rpc : RPC)
  | executed (req : ExecuteEventRequest) (answer : Except String ExecuteEventResponse)
  | shutdown (reason : String)
  | onShutdown (reason : String)
  | signalled
  | failed (err : String)
  | requested (pod : PodRegistration)
  | registered (slaveID : String)

structure Process where
  service : Service
  shutdownOnce : Bool
  /-- The goroutines that Shutdown started and that have not run. -/
  starting : List String
  cancelled : Bool
  serving : Serving
  running : List RPC
  registering : Registering
  history : List Happening

inductive Activity
  | arrive (rpc : RPC)
  /-- The handler of the n-th running RPC, in one piece under its lock. -/
  | handle (n : Nat) (now : Time)
  | callback (n : Nat)
  | signal
  | gracefulStop
  | drained
  | fail (err : String)
  | register (answer : Except String String)

namespace Process

variable (rand : Rand) (s : Process)

def log (happening : Happening) : Process := { s with history := happening :: s.history }

def shutdown (reason : String) : Process :=
  let s := s.log (.shutdown reason)
  if s.shutdownOnce then s
  else { s with shutdownOnce := true, starting := s.starting ++ [reason] }

def handle (now : Time) : RPC → Process
  | .executeEvent req =>
    let (answer, service) := Megalo.Slave.executeEvent rand now req s.service
    { s with service }.log (.executed req answer)
  | .shutdown reason => s.shutdown reason

def registerWithController (answer : Except String String) : Option Process :=
  match s.registering with
  | .asking =>
    if s.cancelled then some { s with registering := .returned }
    else some { s with registering := match registrationInfo s.service with
      | some pod => .dialing pod
      | none => .returned }
  | .dialing pod => match answer with
    | .error _ => some { s with registering := .sleeping }
    | .ok _ => some ({ s with registering := .calling pod }.log (.requested pod))
  | .calling _ => match answer with
    | .error _ => some { s with registering := .sleeping }
    | .ok slaveID => some ({ s with
        registering := .returned
        service := setRegistration slaveID s.service }.log (.registered slaveID))
  | .sleeping => some { s with registering := .asking }
  | .returned => none

def step (s : Process) (a : Activity) : Option Process :=
  if s.serving = .exited then none
  else match a with
    | .arrive rpc =>
      if s.serving = .listening then
        some ({ s with running := s.running ++ [rpc] }.log (.arrived rpc))
      else none
    | .handle n now => s.running[n]?.map fun rpc =>
      { s with running := s.running.eraseIdx n }.handle rand now rpc
    | .callback n => s.starting[n]?.map fun reason =>
      { s with starting := s.starting.eraseIdx n, cancelled := true }.log (.onShutdown reason)
    | .signal => some ({ s with cancelled := true }.log .signalled)
    | .gracefulStop =>
      if s.serving = .listening ∧ s.cancelled = true then some { s with serving := .stopping }
      else none
    | .drained =>
      if s.serving = .stopping ∧ s.running = [] then some { s with serving := .exited } else none
    | .fail err =>
      if s.serving = .listening then some ({ s with serving := .exited }.log (.failed err))
      else none
    | .register answer => s.registerWithController answer

def system : System Process Activity := ⟨step rand⟩

def initial (now : Time) (cfg : SlaveConfig) : Process where
  service := startService now cfg
  shutdownOnce := false
  starting := []
  cancelled := false
  serving := .listening
  running := []
  registering := .asking
  history := []

def arrivals : List RPC := s.history.filterMap fun
  | .arrived rpc => some rpc
  | _ => none

def answered : List RPC := s.history.filterMap fun
  | .executed req _ => some (.executeEvent req)
  | .shutdown reason => some (.shutdown reason)
  | _ => none

def shutdowns : List String := s.history.filterMap fun
  | .shutdown reason => some reason
  | _ => none

def callbacks : List String := s.history.filterMap fun
  | .onShutdown reason => some reason
  | _ => none

def Effect (s : Process) (t : Process) : Activity → Prop
  | .arrive rpc => s.serving = .listening ∧
      t = { s with running := s.running ++ [rpc] }.log (.arrived rpc)
  | .handle n now => ∃ rpc, s.running[n]? = some rpc ∧
      t = { s with running := s.running.eraseIdx n }.handle rand now rpc
  | .callback n => ∃ reason, s.starting[n]? = some reason ∧
      t = { s with starting := s.starting.eraseIdx n, cancelled := true }.log (.onShutdown reason)
  | .signal => t = { s with cancelled := true }.log .signalled
  | .gracefulStop => s.serving = .listening ∧ s.cancelled = true ∧
      t = { s with serving := .stopping }
  | .drained => s.serving = .stopping ∧ s.running = [] ∧ t = { s with serving := .exited }
  | .fail err => s.serving = .listening ∧ t = { s with serving := .exited }.log (.failed err)
  | .register answer => s.registerWithController answer = some t

variable {rand s} {t : Process} {a : Activity}

theorem effect_of_step (taken : s.step rand a = some t) :
    s.serving ≠ .exited ∧ Effect rand s t a := by
  unfold step at taken
  split at taken
  · cases taken
  · rename_i running
    refine ⟨running, ?_⟩
    cases a with
    | arrive rpc =>
      obtain ⟨listening, same⟩ := Option.ite_none_right_eq_some.mp taken
      exact ⟨listening, (Option.some.inj same).symm⟩
    | handle n now =>
      obtain ⟨rpc, found, same⟩ := Option.map_eq_some_iff.mp taken
      exact ⟨rpc, found, same.symm⟩
    | callback n =>
      obtain ⟨reason, found, same⟩ := Option.map_eq_some_iff.mp taken
      exact ⟨reason, found, same.symm⟩
    | signal => exact (Option.some.inj taken).symm
    | gracefulStop =>
      obtain ⟨⟨listening, done⟩, same⟩ := Option.ite_none_right_eq_some.mp taken
      exact ⟨listening, done, (Option.some.inj same).symm⟩
    | drained =>
      obtain ⟨⟨stopping, empty⟩, same⟩ := Option.ite_none_right_eq_some.mp taken
      exact ⟨stopping, empty, (Option.some.inj same).symm⟩
    | fail err =>
      obtain ⟨listening, same⟩ := Option.ite_none_right_eq_some.mp taken
      exact ⟨listening, (Option.some.inj same).symm⟩
    | register answer => exact taken


theorem step_of_effect (alive : s.serving ≠ .exited) (effect : Effect rand s t a) :
    s.step rand a = some t := by
  unfold step
  rw [if_neg alive]
  cases a with
  | arrive rpc =>
    obtain ⟨listening, rfl⟩ := effect
    exact if_pos listening
  | handle n now =>
    obtain ⟨rpc, found, rfl⟩ := effect
    exact Option.map_eq_some_iff.mpr ⟨rpc, found, rfl⟩
  | callback n =>
    obtain ⟨reason, found, rfl⟩ := effect
    exact Option.map_eq_some_iff.mpr ⟨reason, found, rfl⟩
  | signal => exact congrArg some (Eq.symm effect)
  | gracefulStop =>
    obtain ⟨listening, done, rfl⟩ := effect
    exact if_pos ⟨listening, done⟩
  | drained =>
    obtain ⟨stopping, empty, rfl⟩ := effect
    exact if_pos ⟨stopping, empty⟩
  | fail err =>
    obtain ⟨listening, rfl⟩ := effect
    exact if_pos listening
  | register answer => exact effect

section Shutdown

variable {now : Time} {cfg : SlaveConfig}

/-- What every turn of the process keeps. -/
structure Orderly (s : Process) : Prop where
  once : s.shutdownOnce = true ↔ s.shutdowns ≠ []
  callbacks : s.callbacks ++ s.starting = s.shutdowns.getLast?.toList
  running : (s.answered ++ s.running).Perm s.arrivals
  cancelled : s.cancelled = true ↔ .signalled ∈ s.history ∨ s.callbacks ≠ []
  stopping : s.serving = .stopping → s.cancelled = true
  exited : s.serving = .exited →
    (∃ err, .failed err ∈ s.history) ∨ s.cancelled = true ∧ s.running = []

theorem initial_orderly : Orderly (initial now cfg) where
  once := iff_of_false nofun (fun some => some rfl)
  callbacks := rfl
  running := .nil
  cancelled := iff_of_false nofun (fun cause => cause.elim List.not_mem_nil fun some => some rfl)
  stopping := nofun
  exited := nofun

theorem toList_of_getElem? {α : Type} {l m : List α} {o : Option α} {n : Nat} {x : α}
    (whole : l ++ m = o.toList) (found : m[n]? = some x) : l = [] ∧ m = [x] ∧ n = 0 := by
  have length := congrArg List.length whole
  have bound : n < m.length := (List.getElem?_eq_some_iff.mp found).1
  have short : o.toList.length ≤ 1 := by cases o <;> simp
  rw [List.length_append] at length
  obtain ⟨y, rfl⟩ : ∃ y, m = [y] := List.length_eq_one_iff.mp (by omega)
  have first : n = 0 := by
    simp only [List.length_singleton] at bound
    omega
  subst first
  cases found
  exact ⟨List.length_eq_zero_iff.mp (by simp only [List.length_singleton] at length; omega),
    rfl, rfl⟩

theorem answered_perm {rpc : RPC} {n : Nat} (orderly : Orderly s)
    (found : s.running[n]? = some rpc) :
    (rpc :: s.answered ++ s.running.eraseIdx n).Perm s.arrivals := by
  obtain ⟨bound, rfl⟩ := List.getElem?_eq_some_iff.mp found
  apply List.Perm.trans _ orderly.running
  rw [List.cons_append]
  exact List.perm_middle.symm.trans
    (List.Perm.append_left _ (List.getElem_cons_eraseIdx_perm bound))

theorem executed_orderly {req : ExecuteEventRequest} {n : Nat} (orderly : Orderly s)
    (alive : s.serving ≠ .exited) (found : s.running[n]? = some (.executeEvent req)) :
    Orderly ({ s with running := s.running.eraseIdx n }.handle rand now (.executeEvent req)) where
  once := orderly.once
  callbacks := orderly.callbacks
  running := answered_perm orderly found
  cancelled := orderly.cancelled.trans (by simp [handle, log, callbacks])
  stopping := orderly.stopping
  exited exited := absurd exited alive

theorem shutdown_orderly {reason : String} {n : Nat} (orderly : Orderly s)
    (alive : s.serving ≠ .exited) (found : s.running[n]? = some (.shutdown reason)) :
    Orderly ({ s with running := s.running.eraseIdx n }.handle rand now (.shutdown reason)) := by
  have running := answered_perm orderly found
  unfold handle shutdown
  dsimp only [log]
  split
  · rename_i before
    have earlier : s.shutdowns ≠ [] := orderly.once.mp before
    constructor
    · exact iff_of_true before nofun
    · exact orderly.callbacks.trans
        (congrArg _ (List.getLast?_cons_of_ne_nil (x := reason) earlier).symm)
    · exact running
    · exact orderly.cancelled.trans (by simp [callbacks])
    · exact orderly.stopping
    · exact fun exited => absurd exited alive
  · rename_i never
    have first : s.shutdowns = [] := Classical.not_not.mp fun some => never (orderly.once.mpr some)
    have empty : s.callbacks ++ s.starting = [] := by rw [orderly.callbacks, first]; rfl
    obtain ⟨uncalled, idle⟩ := List.append_eq_nil_iff.mp empty
    constructor
    · exact iff_of_true rfl nofun
    · calc s.callbacks ++ (s.starting ++ [reason])
        _ = [reason] := by rw [uncalled, idle]; rfl
        _ = (reason :: s.shutdowns).getLast?.toList := by rw [first]; rfl
    · exact running
    · exact orderly.cancelled.trans (by simp [callbacks])
    · exact orderly.stopping
    · exact fun exited => absurd exited alive

theorem register_orderly {answer : Except String String} (orderly : Orderly s)
    (alive : s.serving ≠ .exited) (moved : s.registerWithController answer = some t) :
    Orderly t := by
  have same : t.shutdownOnce = s.shutdownOnce ∧ t.starting = s.starting ∧
      t.cancelled = s.cancelled ∧ t.serving = s.serving ∧ t.running = s.running ∧
      (t.history = s.history ∨ (∃ pod, t.history = .requested pod :: s.history) ∨
        ∃ slaveID, t.history = .registered slaveID :: s.history) := by
    unfold registerWithController at moved
    split at moved
    · split at moved <;> (cases moved; exact ⟨rfl, rfl, rfl, rfl, rfl, .inl rfl⟩)
    · split at moved
      · cases moved; exact ⟨rfl, rfl, rfl, rfl, rfl, .inl rfl⟩
      · cases moved; exact ⟨rfl, rfl, rfl, rfl, rfl, .inr (.inl ⟨_, rfl⟩)⟩
    · split at moved
      · cases moved; exact ⟨rfl, rfl, rfl, rfl, rfl, .inl rfl⟩
      · cases moved; exact ⟨rfl, rfl, rfl, rfl, rfl, .inr (.inr ⟨_, rfl⟩)⟩
    · cases moved; exact ⟨rfl, rfl, rfl, rfl, rfl, .inl rfl⟩
    · cases moved
  obtain ⟨once, starting, cancelled, serving, running, history⟩ := same
  have lists : t.shutdowns = s.shutdowns ∧ t.callbacks = s.callbacks ∧ t.answered = s.answered ∧
      t.arrivals = s.arrivals ∧ (.signalled ∈ t.history ↔ .signalled ∈ s.history) := by
    unfold shutdowns callbacks answered arrivals
    rcases history with same | ⟨pod, same⟩ | ⟨slaveID, same⟩ <;> rw [same] <;> simp
  obtain ⟨shut, called, answers, arrived, signals⟩ := lists
  constructor
  · rw [once, shut]; exact orderly.once
  · rw [called, starting, shut]; exact orderly.callbacks
  · rw [answers, running, arrived]; exact orderly.running
  · rw [cancelled, signals, called]; exact orderly.cancelled
  · rw [serving, cancelled]; exact orderly.stopping
  · rw [serving]; exact fun exited => absurd exited alive

theorem orderly_kept (orderly : Orderly s) (taken : s.step rand a = some t) : Orderly t := by
  obtain ⟨alive, effect⟩ := effect_of_step taken
  cases a with
  | arrive rpc =>
    obtain ⟨listening, rfl⟩ := effect
    constructor
    · exact orderly.once
    · exact orderly.callbacks
    · have last : (s.answered ++ (s.running ++ [rpc])).Perm (rpc :: (s.answered ++ s.running)) := by
        rw [← List.append_assoc]
        exact List.perm_append_singleton rpc _
      exact last.trans (orderly.running.cons rpc)
    · exact orderly.cancelled.trans (by simp [callbacks, log])
    · exact orderly.stopping
    · exact fun exited => absurd exited alive
  | handle n now =>
    obtain ⟨rpc, found, rfl⟩ := effect
    cases rpc with
    | executeEvent req => exact executed_orderly orderly alive found
    | shutdown reason => exact shutdown_orderly orderly alive found
  | callback n =>
    obtain ⟨reason, found, rfl⟩ := effect
    obtain ⟨uncalled, only, first⟩ := toList_of_getElem? orderly.callbacks found
    constructor
    · exact orderly.once
    · calc (reason :: s.callbacks) ++ s.starting.eraseIdx n
        _ = s.callbacks ++ s.starting := by rw [uncalled, only, first]; rfl
        _ = s.shutdowns.getLast?.toList := orderly.callbacks
    · exact orderly.running
    · exact iff_of_true rfl (.inr nofun)
    · exact fun _ => rfl
    · exact fun exited => absurd exited alive
  | signal =>
    subst effect
    constructor
    · exact orderly.once
    · exact orderly.callbacks
    · exact orderly.running
    · exact iff_of_true rfl (.inl List.mem_cons_self)
    · exact fun _ => rfl
    · exact fun exited => absurd exited alive
  | gracefulStop =>
    obtain ⟨-, done, rfl⟩ := effect
    exact ⟨orderly.once, orderly.callbacks, orderly.running, orderly.cancelled, fun _ => done,
      nofun⟩
  | drained =>
    obtain ⟨stopping, empty, rfl⟩ := effect
    exact ⟨orderly.once, orderly.callbacks, orderly.running, orderly.cancelled, nofun,
      fun _ => .inr ⟨orderly.stopping stopping, empty⟩⟩
  | fail err =>
    obtain ⟨-, rfl⟩ := effect
    exact ⟨orderly.once, orderly.callbacks, orderly.running,
      orderly.cancelled.trans (by simp [callbacks, log]), nofun,
      fun _ => .inl ⟨err, List.mem_cons_self⟩⟩
  | register answer => exact register_orderly orderly alive effect

/-- What the process does by itself: no call comes, no signal, and nothing fails. -/
def Internal (_ : Process) : Activity → Prop
  | .handle .. | .callback _ | .gracefulStop | .drained => True
  | _ => False

def left (s : Process) : Nat :=
  match s.serving with
  | .listening => s.running.length + (if s.cancelled then 2 else 3)
  | .stopping => s.running.length + 1
  | .exited => 0

def Asked (s : Process) : Prop := Orderly s ∧ (s.shutdownOnce = true ∨ s.cancelled = true)

theorem handle_asked (rand : Rand) (now : Time) (rpc : RPC)
    (asked : s.shutdownOnce = true ∨ s.cancelled = true) :
    ((s.handle rand now rpc).shutdownOnce = true ∨ (s.handle rand now rpc).cancelled = true) ∧
      (s.handle rand now rpc).serving = s.serving ∧
        (s.handle rand now rpc).running = s.running := by
  cases rpc with
  | executeEvent req => exact ⟨asked, rfl, rfl⟩
  | shutdown reason =>
    unfold handle shutdown
    dsimp only
    split
    · exact ⟨asked, rfl, rfl⟩
    · exact ⟨.inl rfl, rfl, rfl⟩

/-- The callback that Shutdown started runs, the server stops, and waits for its RPCs. -/
theorem stop_nearer (s : Process) (asked : Asked s) (alive : ¬ s.serving = .exited) :
    ∃ a t, Internal s a ∧ (system rand).step s a = some t ∧ Asked t ∧ left t < left s := by
  obtain ⟨orderly, asked⟩ := asked
  have next (a : Activity) (t : Process) (internal : Internal s a) (effect : Effect rand s t a)
      (still : t.shutdownOnce = true ∨ t.cancelled = true) (less : left t < left s) :
      ∃ a t, Internal s a ∧ (system rand).step s a = some t ∧ Asked t ∧ left t < left s :=
    have taken := step_of_effect alive effect
    ⟨a, t, internal, taken, ⟨orderly_kept orderly taken, still⟩, less⟩
  cases stage : s.serving with
  | exited => exact absurd stage alive
  | listening =>
    cases done : s.cancelled with
    | true =>
      apply next .gracefulStop _ trivial ⟨stage, done, rfl⟩ asked
      simp only [left, stage, done, if_true]
      omega
    | false =>
      have shut : s.shutdowns ≠ [] := by
        apply orderly.once.mp
        simpa only [done, Bool.false_eq_true, or_false] using asked
      have uncalled : s.callbacks = [] := by
        by_contra ran
        cases done.symm.trans (orderly.cancelled.mpr (.inr ran))
      have pending : s.starting = [s.shutdowns.getLast shut] := by
        have whole := orderly.callbacks
        rwa [uncalled, List.getLast?_eq_some_getLast shut] at whole
      apply next (.callback 0) _ trivial ⟨_, by rw [pending]; rfl, rfl⟩ (.inr rfl)
      simp only [left, log, stage, done, if_true]
      simp
  | stopping =>
    cases rest : s.running with
    | nil =>
      apply next .drained _ trivial ⟨stage, rest, rfl⟩ asked
      simp only [left, stage]
      omega
    | cons rpc rest' =>
      obtain ⟨still, serving, running⟩ :=
        handle_asked (s := { s with running := s.running.eraseIdx 0 }) rand 0 rpc asked
      apply next (.handle 0 0) _ trivial ⟨rpc, by rw [rest]; rfl, rfl⟩ still
      simp only [left, stage, rest] at serving running ⊢
      rw [serving, running]
      simp

theorem stop_ahead (asked : Asked s) :
    ∃ t, (system rand).ReachableVia Internal s t ∧ t.serving = .exited := by
  obtain ⟨t, reached, -, exited⟩ := System.ReachableVia.descend left stop_nearer asked
  exact ⟨t, reached, exited⟩

structure StopsInOrder (rand : Rand) (s : Process) : Prop where
  /-- OnShutdown runs once at most, with the reason of the first Shutdown call. -/
  once : s.callbacks = [] ∨ s.callbacks = s.shutdowns.getLast?.toList
  /-- Nothing but a Shutdown call or a signal makes the process stop serving. -/
  asked : s.serving = .stopping ∨ s.cancelled = true →
    .signalled ∈ s.history ∨ s.shutdowns ≠ []
  /-- No RPC is answered that did not arrive, and none twice. -/
  answers : (s.answered ++ s.running).Perm s.arrivals
  /-- A process that was not cut off by an error has answered every RPC. -/
  drained : s.serving = .exited →
    (∃ err, .failed err ∈ s.history) ∨ s.answered.Perm s.arrivals ∧
      (.signalled ∈ s.history ∨ s.shutdowns ≠ [])
  /-- A process that answered a Shutdown call is able to end, whatever came between. -/
  ends : s.shutdowns ≠ [] → ∃ t, (system rand).ReachableVia Internal s t ∧ t.serving = .exited

theorem orderly_reachable (reached : (system rand).Reachable (initial now cfg) s) : Orderly s := by
  apply reached.invariant initial_orderly
  exact fun _ _ _ orderly _ taken => orderly_kept orderly taken

theorem shutdowns_of_cancelled (orderly : Orderly s) (done : s.cancelled = true) :
    .signalled ∈ s.history ∨ s.shutdowns ≠ [] := by
  rcases orderly.cancelled.mp done with signalled | called
  · exact .inl signalled
  · refine .inr fun none => called ?_
    have whole := orderly.callbacks
    rw [none] at whole
    exact (List.append_eq_nil_iff.mp whole).1

theorem stops_in_order (reached : (system rand).Reachable (initial now cfg) s) :
    StopsInOrder rand s := by
  have orderly := orderly_reachable reached
  constructor
  · cases pending : s.starting with
    | nil =>
      have whole := orderly.callbacks
      rw [pending, List.append_nil] at whole
      exact .inr whole
    | cons reason rest =>
      have first : s.starting[0]? = some reason := by rw [pending]; rfl
      exact .inl (toList_of_getElem? orderly.callbacks first).1
  · intro stops
    exact shutdowns_of_cancelled orderly (stops.elim orderly.stopping id)
  · exact orderly.running
  · intro exited
    rcases orderly.exited exited with failed | ⟨done, empty⟩
    · exact .inl failed
    · refine .inr ⟨?_, shutdowns_of_cancelled orderly done⟩
      have every := orderly.running
      rwa [empty, List.append_nil] at every
  · intro shut
    exact stop_ahead ⟨orderly, .inl (orderly.once.mpr shut)⟩

def sampleConfig : SlaveConfig :=
  ⟨":50051", "localhost:50052", "pod-1", "slave-service-0", "uid-1", "10.0.0.10", 3⟩

/-- The controller is away at first; two Shutdown calls come, one of them while it registers. -/
def busyLife : List Activity :=
  [.register (.ok ""), .register (.error "unavailable"), .register (.ok ""), .register (.ok ""),
    .register (.ok ""), .arrive (.shutdown "first"), .arrive (.executeEvent ⟨1, 7, ""⟩),
    .arrive (.shutdown "second"), .handle 0 10, .register (.ok "s-1"), .callback 0, .handle 1 20,
    .gracefulStop, .handle 0 30, .drained]

def shutOnce (s : Process) : Bool := s.callbacks == ["first"] && s.serving == .exited

theorem stops_in_order_busy : ∃ s,
    (system Rand.least).run (initial 0 sampleConfig) busyLife = some s ∧ shutOnce s = true ∧
      StopsInOrder Rand.least s := by
  obtain ⟨s, ran, passes⟩ := System.run_passes busyLife shutOnce (by decide +kernel :
    ((system Rand.least).run (initial 0 sampleConfig) busyLife).any shutOnce = true)
  exact ⟨s, ran, passes, stops_in_order (System.run_reachable ran)⟩

end Shutdown

section Registration

variable {now : Time} {cfg : SlaveConfig} {rng : rand.Source}

def registrations (history : List Happening) : List String := history.filterMap fun
  | .registered slaveID => some slaveID
  | _ => none

/-- The id of the slave, as far as it is known. -/
def knownID (history : List Happening) : String := (registrations history).head?.getD ""

def identity (p : PodState) : String × String × String × String × String :=
  (p.podID, p.k8sPodName, p.k8sPodUID, p.podIP, p.slaveID)

theorem applyEvent_identity (eventID : Int32) (p : PodState) :
    identity (p.applyEvent rand eventID rng).1 = identity p := by
  unfold PodState.applyEvent
  split_ifs
  · rfl
  · rfl
  · rfl
  · unfold PodState.applyFirewall
    dsimp only
    split <;> rfl
  · rfl

theorem mutateLife_identity (p : PodState) : identity (p.mutateLife rand rng) = identity p := by
  unfold PodState.mutateLife
  dsimp only
  split_ifs <;> rfl

theorem executeEvent_identity (rand : Rand) (now : Time) (req : ExecuteEventRequest)
    (service : Service) :
    identity (executeEvent rand now req service).2.pod = identity service.pod ∧
      (executeEvent rand now req service).2.initialRemainingTurns =
        service.initialRemainingTurns := by
  unfold executeEvent
  split_ifs
  · exact ⟨rfl, rfl⟩
  · exact ⟨rfl, rfl⟩
  · exact ⟨rfl, rfl⟩
  · have dated (p : PodState) : identity { p with observedAt := now } = identity p := rfl
    have ticked : identity service.pod.tick = identity service.pod := rfl
    simp only [dated, mutateLife_identity, applyEvent_identity, ticked, and_self]

def registration (cfg : SlaveConfig) : PodRegistration :=
  ⟨cfg.podID, cfg.initialRemainingTurns, cfg.k8sPodName, cfg.k8sPodUID, cfg.podIP⟩

def Told (cfg : SlaveConfig) : Happening → List Happening → Prop
  | .requested pod, earlier => pod = registration cfg ∧ registrations earlier = []
  | .registered _, earlier => registrations earlier = [] ∧ .requested (registration cfg) ∈ earlier
  | .executed _ (.ok resp), earlier => resp.slaveState.slaveID = knownID earlier
  | _, _ => True

def Stands (cfg : SlaveConfig) (s : Process) : Prop :=
  match s.registering with
  | .asking | .sleeping => registrations s.history = []
  | .dialing pod => registrations s.history = [] ∧ pod = registration cfg
  | .calling pod => registrations s.history = [] ∧ pod = registration cfg ∧
      .requested pod ∈ s.history
  | .returned => registrations s.history ≠ [] ∨ s.cancelled = true ∨ cfg.podID = ""

structure Registers (cfg : SlaveConfig) (s : Process) : Prop where
  turns : s.service.initialRemainingTurns = cfg.initialRemainingTurns
  pod : identity s.service.pod =
    (cfg.podID, cfg.k8sPodName, cfg.k8sPodUID, cfg.podIP, knownID s.history)
  stands : Stands cfg s
  told : History.Each (Told cfg) s.history

theorem initial_registers : Registers cfg (initial now cfg) := ⟨rfl, rfl, rfl, trivial⟩

theorem registrationInfo_unknown (registers : Registers cfg s)
    (unknown : registrations s.history = []) : registrationInfo s.service =
      if cfg.podID = "" then none else some (registration cfg) := by
  obtain ⟨podID, name, uid, podIP, slaveID⟩ : s.service.pod.podID = cfg.podID ∧
      s.service.pod.k8sPodName = cfg.k8sPodName ∧ s.service.pod.k8sPodUID = cfg.k8sPodUID ∧
      s.service.pod.podIP = cfg.podIP ∧ s.service.pod.slaveID = knownID s.history := by
    simpa only [identity, Prod.mk.injEq] using registers.pod
  have unnamed : s.service.pod.slaveID = "" := by rw [slaveID, knownID, unknown]; rfl
  simp only [registrationInfo, registration, podID, name, uid, podIP, unnamed, registers.turns,
    ne_eq, not_true_eq_false, or_false]

theorem Registers.aside (registers : Registers cfg s)
    (turns : t.service.initialRemainingTurns = s.service.initialRemainingTurns)
    (pod : identity t.service.pod = identity s.service.pod) (stage : t.registering = s.registering)
    (done : s.cancelled = true → t.cancelled = true)
    (history : t.history = s.history ∨ ∃ h, t.history = h :: s.history ∧ Told cfg h s.history ∧
      registrations (h :: s.history) = registrations s.history) : Registers cfg t := by
  have grown : registrations t.history = registrations s.history ∧
      (∀ h ∈ s.history, h ∈ t.history) ∧ History.Each (Told cfg) t.history := by
    rcases history with same | ⟨h, same, told, unknown⟩
    · rw [same]
      exact ⟨rfl, fun _ => id, registers.told⟩
    · rw [same]
      exact ⟨unknown, fun _ => List.mem_cons_of_mem _, told, registers.told⟩
  obtain ⟨ids, grows, told⟩ := grown
  constructor
  · exact turns.trans registers.turns
  · rw [pod, registers.pod, knownID, knownID, ids]
  · have stands := registers.stands
    unfold Stands at stands ⊢
    rw [stage, ids]
    split at stands
    · exact stands
    · exact stands
    · exact stands
    · exact ⟨stands.1, stands.2.1, grows _ stands.2.2⟩
    · exact stands.imp_right (Or.imp_left done)
  · exact told

theorem register_registers {answer : Except String String} (registers : Registers cfg s)
    (moved : s.registerWithController answer = some t) : Registers cfg t := by
  obtain ⟨turns, pod, stands, told⟩ := registers
  unfold registerWithController at moved
  unfold Stands at stands
  cases stage : s.registering with
  | asking =>
    rw [stage] at moved stands
    dsimp only at moved stands
    have info := registrationInfo_unknown ⟨turns, pod, by rw [Stands, stage]; exact stands, told⟩
      stands
    split at moved
    · rename_i done
      cases moved
      exact ⟨turns, pod, .inr (.inl done), told⟩
    · cases moved
      refine ⟨turns, pod, ?_, told⟩
      unfold Stands
      dsimp only
      rw [info]
      by_cases unnamed : cfg.podID = ""
      · rw [if_pos unnamed]
        exact .inr (.inr unnamed)
      · rw [if_neg unnamed]
        exact ⟨stands, rfl⟩
  | dialing own =>
    rw [stage] at moved stands
    dsimp only at moved stands
    obtain ⟨unknown, rfl⟩ := stands
    cases answer with
    | error err =>
      cases moved
      exact ⟨turns, pod, unknown, told⟩
    | ok slaveID =>
      cases moved
      exact ⟨turns, pod, ⟨unknown, rfl, List.mem_cons_self⟩, ⟨rfl, unknown⟩, told⟩
  | calling own =>
    rw [stage] at moved stands
    dsimp only at moved stands
    obtain ⟨unknown, rfl, sent⟩ := stands
    cases answer with
    | error err =>
      cases moved
      exact ⟨turns, pod, unknown, told⟩
    | ok slaveID =>
      cases moved
      refine ⟨turns, ?_, .inl nofun, ⟨unknown, sent⟩, told⟩
      simp only [identity, Prod.mk.injEq] at pod ⊢
      exact ⟨pod.1, pod.2.1, pod.2.2.1, pod.2.2.2.1, rfl⟩
  | sleeping =>
    rw [stage] at moved stands
    cases moved
    exact ⟨turns, pod, stands, told⟩
  | returned =>
    rw [stage] at moved
    cases moved

theorem registers_kept (registers : Registers cfg s) (taken : s.step rand a = some t) :
    Registers cfg t := by
  obtain ⟨-, effect⟩ := effect_of_step taken
  cases a with
  | arrive rpc =>
    obtain ⟨-, rfl⟩ := effect
    exact registers.aside rfl rfl rfl id (.inr ⟨_, rfl, trivial, rfl⟩)
  | handle n now =>
    obtain ⟨rpc, -, rfl⟩ := effect
    cases rpc with
    | executeEvent req =>
      obtain ⟨same, turns⟩ := executeEvent_identity rand now req s.service
      refine registers.aside turns same rfl id
        (.inr ⟨.executed req (executeEvent rand now req s.service).1, rfl, ?_, rfl⟩)
      cases answer : (executeEvent rand now req s.service).1 with
      | error err => trivial
      | ok resp =>
        have own := registers.pod
        simp only [identity, Prod.mk.injEq] at own
        exact (executeEvent_answer rand answer).trans own.2.2.2.2
    | shutdown reason =>
      unfold handle shutdown
      dsimp only
      split
      · exact registers.aside rfl rfl rfl id (.inr ⟨_, rfl, trivial, rfl⟩)
      · exact registers.aside rfl rfl rfl id (.inr ⟨_, rfl, trivial, rfl⟩)
  | callback n =>
    obtain ⟨reason, -, rfl⟩ := effect
    exact registers.aside rfl rfl rfl (fun _ => rfl) (.inr ⟨_, rfl, trivial, rfl⟩)
  | signal =>
    subst effect
    exact registers.aside rfl rfl rfl (fun _ => rfl) (.inr ⟨_, rfl, trivial, rfl⟩)
  | gracefulStop =>
    obtain ⟨-, -, rfl⟩ := effect
    exact registers.aside rfl rfl rfl id (.inl rfl)
  | drained =>
    obtain ⟨-, -, rfl⟩ := effect
    exact registers.aside rfl rfl rfl id (.inl rfl)
  | fail err =>
    obtain ⟨-, rfl⟩ := effect
    exact registers.aside rfl rfl rfl id (.inr ⟨_, rfl, trivial, rfl⟩)
  | register answer => exact register_registers registers effect

theorem registers_reachable (reached : (system rand).Reachable (initial now cfg) s) :
    Registers cfg s := by
  apply reached.invariant initial_registers
  exact fun _ _ _ registers _ taken => registers_kept registers taken

structure RegistersOnce (cfg : SlaveConfig) (s : Process) : Prop where
  /-- What is sent is the pod's, and nothing is sent or answered after an answer. -/
  sent : ∀ later pod earlier, s.history = later ++ .requested pod :: earlier →
    pod = registration cfg ∧ ∀ slaveID, .registered slaveID ∉ earlier
  once : ∀ later slaveID earlier, s.history = later ++ .registered slaveID :: earlier →
    .requested (registration cfg) ∈ earlier ∧ ∀ again, .registered again ∉ earlier
  /-- Every event is answered under the id known at the time: none, or the controller's. -/
  answers : ∀ later req resp earlier, s.history = later ++ .executed req (.ok resp) :: earlier →
    (resp.slaveState.slaveID = "" ∧ ∀ slaveID, .registered slaveID ∉ earlier) ∨
      .registered resp.slaveState.slaveID ∈ earlier
  /-- The loop ends with an answer, or with the process. -/
  tries : s.registering = .returned → cfg.podID ≠ "" →
    (∃ slaveID, .registered slaveID ∈ s.history) ∨ s.cancelled = true

theorem registered_iff {history : List Happening} {slaveID : String} :
    slaveID ∈ registrations history ↔ .registered slaveID ∈ history := by
  unfold registrations
  rw [List.mem_filterMap]
  constructor
  · rintro ⟨h, inside, told⟩
    split at told
    · cases told
      exact inside
    · cases told
  · exact fun inside => ⟨_, inside, rfl⟩

theorem unregistered {history : List Happening} (unknown : registrations history = [])
    (slaveID : String) : .registered slaveID ∉ history := by
  intro inside
  have known := registered_iff.mpr inside
  rw [unknown] at known
  cases known

theorem registers_once (reached : (system rand).Reachable (initial now cfg) s) :
    RegistersOnce cfg s := by
  have registers := registers_reachable reached
  have told := History.each_iff.mp registers.told
  constructor
  · intro later pod earlier split
    obtain ⟨own, unknown⟩ := told later _ earlier split
    exact ⟨own, unregistered unknown⟩
  · intro later slaveID earlier split
    obtain ⟨unknown, sent⟩ := told later _ earlier split
    exact ⟨sent, unregistered unknown⟩
  · intro later req resp earlier split
    have own : resp.slaveState.slaveID = knownID earlier := told later _ earlier split
    cases ids : registrations earlier with
    | nil =>
      rw [knownID, ids] at own
      exact .inl ⟨own, unregistered ids⟩
    | cons slaveID rest =>
      rw [knownID, ids] at own
      refine .inr (registered_iff.mp ?_)
      rw [own, ids]
      exact List.mem_cons_self
  · intro returned named
    have stands := registers.stands
    rw [Stands, returned] at stands
    rcases stands with known | done | unnamed
    · obtain ⟨slaveID, inside⟩ := List.exists_mem_of_ne_nil _ known
      exact .inl ⟨slaveID, registered_iff.mp inside⟩
    · exact .inr done
    · exact absurd unnamed named

def knownOnce (s : Process) : Bool := registrations s.history == ["s-1"]

theorem registers_once_busy : ∃ s,
    (system Rand.least).run (initial 0 sampleConfig) busyLife = some s ∧ knownOnce s = true ∧
      RegistersOnce sampleConfig s := by
  obtain ⟨s, ran, passes⟩ := System.run_passes busyLife knownOnce (by decide +kernel :
    ((system Rand.least).run (initial 0 sampleConfig) busyLife).any knownOnce = true)
  exact ⟨s, ran, passes, registers_once (System.run_reachable ran)⟩

end Registration

end Process

end Megalo.Slave
