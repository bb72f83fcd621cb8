import Megalo.Library.Pool
import Megalo.Library.History
import Megalo.Library.System
import Megalo.Library.Binary64
import Mathlib.Data.List.Perm.Basic
import Mathlib.Data.Rat.Defs
import Mathlib.Algebra.Order.Ring.Rat
import Mathlib.Tactic.Linarith

/-! The frame statistics of scene.ts: the rates that recordFrameStats smooths, and the queries of
the GPU timer, which are made, begun, ended, read and deleted across frames. -/
namespace Megalo.Scene

open Transition

/-- The calls to the context that a query sees. A query is known by the number in which it was
made. -/
inductive QueryCall
  | createQuery (query : Nat)
  | beginQuery (query : Nat)
  /-- endQuery names its target only; this is the query that the scene ends. -/
  | endQuery (query : Nat)
  /-- getQueryParameter of QUERY_RESULT -/
  | queryResult (query : Nat)
  | deleteQuery (query : Nat)
  deriving DecidableEq

structure FrameStats where
  smoothedFps : Rat
  smoothedCpuFrameMs : Rat
  smoothedGpuFrameMs : Option Rat
  gpuTimerExtension : Bool
  activeGpuTimerQuery : Option Nat
  pendingGpuTimerQueries : List Nat
  made : Nat
  /-- The calls to the context, the last first. -/
  calls : List QueryCall
  /-- The samples since the statistics were reset, the last first. -/
  frameRates : List Rat
  cpuFrames : List Rat
  gpuFrames : List Rat

def FrameStats.initial : FrameStats := ⟨0, 0, none, false, none, [], 0, [], [], [], []⟩

/-- What the context answers; an elapsed time that is not finite is none. -/
structure Context where
  getExtension : Bool
  createQuery : Bool
  disjoint : Bool
  available : Nat → Bool
  elapsedNanoseconds : Nat → Option Rat

/-- FRAME_STATS_SMOOTHING -/
def frameStatsSmoothing : Rat := Binary64.round (18 / 100)

/-- THREE.MathUtils.lerp -/
def lerp (x y t : Rat) : Rat :=
  Binary64.add (Binary64.mul (Binary64.sub 1 t) x) (Binary64.mul t y)

namespace FrameStats

variable (gl : Context) (s : FrameStats)

def call (call : QueryCall) : FrameStats := { s with calls := call :: s.calls }

def deleteQuery (query : Nat) : FrameStats := s.call (.deleteQuery query)

/-- The loop takes the queries from the end. -/
def disposePending (s : FrameStats) : List Nat → FrameStats
  | [] => { s with pendingGpuTimerQueries := [] }
  | query :: rest => disposePending (s.deleteQuery query) rest

def disposeGpuTimerQueries : FrameStats :=
  let s := match s.activeGpuTimerQuery with
    | some query => { s.deleteQuery query with activeGpuTimerQuery := none }
    | none => s
  s.disposePending s.pendingGpuTimerQueries.reverse

/-- An elapsed time that counts. -/
def sampleOf (elapsedNanoseconds : Option Rat) : Option Rat :=
  (elapsedNanoseconds.filter fun elapsed => decide (0 < elapsed)).map (Binary64.div · 1000000)

def sampleGpu (elapsedNanoseconds : Option Rat) : FrameStats :=
  match sampleOf elapsedNanoseconds with
  | none => s
  | some gpuFrameMs => { s with
      smoothedGpuFrameMs := some (match s.smoothedGpuFrameMs with
        | none => gpuFrameMs
        | some smoothed => lerp smoothed gpuFrameMs frameStatsSmoothing)
      gpuFrames := gpuFrameMs :: s.gpuFrames }

/-- The loop ends at the first query that has no result yet. -/
def pollPending (s : FrameStats) : List Nat → FrameStats
  | [] => { s with pendingGpuTimerQueries := [] }
  | query :: rest =>
    if gl.available query then
      pollPending (((s.call (.queryResult query)).deleteQuery query).sampleGpu
        (gl.elapsedNanoseconds query)) rest
    else { s with pendingGpuTimerQueries := query :: rest }

def pollGpuTimerQueries : FrameStats :=
  if !s.gpuTimerExtension then s
  else if gl.disjoint then
    { s with smoothedGpuFrameMs := none, gpuFrames := [] }.disposeGpuTimerQueries
  else s.pollPending gl s.pendingGpuTimerQueries

def beginGpuTimerQuery : FrameStats :=
  let s := { s with gpuTimerExtension := s.gpuTimerExtension || gl.getExtension }
  if !s.gpuTimerExtension || s.activeGpuTimerQuery.isSome || !gl.createQuery then s
  else { (s.call (.createQuery s.made)).call (.beginQuery s.made) with
    made := s.made + 1
    activeGpuTimerQuery := some s.made }

def endGpuTimerQuery : FrameStats :=
  if !s.gpuTimerExtension then s
  else match s.activeGpuTimerQuery with
    | none => s
    | some query => { s.call (.endQuery query) with
        pendingGpuTimerQueries := s.pendingGpuTimerQueries ++ [query]
        activeGpuTimerQuery := none }.pollGpuTimerQueries gl

def recordFrameStats (deltaSeconds cpuFrameMs : Rat) : FrameStats :=
  let frameRate :=
    if deltaSeconds > Binary64.round (1 / 1000000) then Binary64.div 1 deltaSeconds else 0
  { s with
    smoothedFps :=
      if s.smoothedFps > 0 then lerp s.smoothedFps frameRate frameStatsSmoothing else frameRate
    smoothedCpuFrameMs :=
      if s.smoothedCpuFrameMs > 0 then lerp s.smoothedCpuFrameMs cpuFrameMs frameStatsSmoothing
      else cpuFrameMs
    frameRates := frameRate :: s.frameRates
    cpuFrames := cpuFrameMs :: s.cpuFrames }.pollGpuTimerQueries gl

def resetFrameStats : FrameStats :=
  { s with
    smoothedFps := 0
    smoothedCpuFrameMs := 0
    smoothedGpuFrameMs := none
    frameRates := []
    cpuFrames := []
    gpuFrames := [] }.disposeGpuTimerQueries

end FrameStats

/-- The queries that were deleted. -/
def deletedQueries (calls : List QueryCall) : List Nat := calls.filterMap fun
  | .deleteQuery query => some query
  | _ => none

/-- What is true of a call with the calls before it. -/
def InTurn : QueryCall → List QueryCall → Prop
  | .createQuery query, earlier => .createQuery query ∉ earlier
  | .beginQuery query, earlier => .createQuery query ∈ earlier ∧ .beginQuery query ∉ earlier ∧
      ∀ other, .beginQuery other ∈ earlier →
        .endQuery other ∈ earlier ∨ .deleteQuery other ∈ earlier
  | .endQuery query, earlier => .beginQuery query ∈ earlier ∧ .endQuery query ∉ earlier ∧
      .deleteQuery query ∉ earlier
  | .queryResult query, earlier => .endQuery query ∈ earlier ∧ .queryResult query ∉ earlier ∧
      .deleteQuery query ∉ earlier
  | .deleteQuery query, earlier => .createQuery query ∈ earlier ∧ .deleteQuery query ∉ earlier

/-- The queries that the scene holds, beside the calls that the context has seen. -/
structure QueriesHeld (active : Option Nat) (pending : List Nat) (made : Nat)
    (calls : List QueryCall) : Prop where
  whole : Pool.Whole (active.toList ++ pending) (deletedQueries calls) made
  created : ∀ query, .createQuery query ∈ calls ↔ query < made
  begun : ∀ query, .beginQuery query ∈ calls ↔ query < made
  active : ∀ query ∈ active, .endQuery query ∉ calls
  pending : ∀ query ∈ pending, .endQuery query ∈ calls ∧ .queryResult query ∉ calls
  ordered : History.Each InTurn calls

section QueriesHeld

variable {active : Option Nat} {pending pending' : List Nat} {made query : Nat}
  {calls : List QueryCall}

theorem deleted_iff : query ∈ deletedQueries calls ↔ .deleteQuery query ∈ calls := by
  unfold deletedQueries
  rw [List.mem_filterMap]
  constructor
  · rintro ⟨call, inside, told⟩
    split at told
    · cases told
      exact inside
    · cases told
  · exact fun inside => ⟨_, inside, rfl⟩

theorem QueriesHeld.empty : QueriesHeld none [] 0 [] where
  whole := Pool.Whole.empty
  created _ := iff_of_false List.not_mem_nil (Nat.not_lt_zero _)
  begun _ := iff_of_false List.not_mem_nil (Nat.not_lt_zero _)
  active _ none := by cases none
  pending _ inside := absurd inside List.not_mem_nil
  ordered := trivial

theorem QueriesHeld.below (held : QueriesHeld active pending made calls)
    (inside : query ∈ active.toList ++ pending) : query < made := by
  by_contra above
  have none := held.whole query
  rw [if_neg above, List.count_eq_zero] at none
  exact none (List.mem_append_left _ inside)

theorem QueriesHeld.undeleted (held : QueriesHeld active pending made calls)
    (inside : query ∈ active.toList ++ pending) : .deleteQuery query ∉ calls :=
  fun gone => held.whole.apart inside (deleted_iff.mpr gone)

theorem QueriesHeld.perm (held : QueriesHeld active pending made calls)
    (perm : pending'.Perm pending) : QueriesHeld active pending' made calls where
  whole := held.whole.perm ((perm.append_left _).append_right _)
  created := held.created
  begun := held.begun
  active := held.active
  pending query inside := held.pending query (perm.mem_iff.mp inside)
  ordered := held.ordered

theorem QueriesHeld.ended_begun (held : QueriesHeld active pending made calls)
    (ended : .endQuery query ∈ calls) : .beginQuery query ∈ calls := by
  obtain ⟨later, earlier, rfl, begun, -, -⟩ := held.ordered.of_mem ended
  exact List.mem_append_right _ (.tail _ begun)

theorem QueriesHeld.read (held : QueriesHeld active pending made calls)
    (read : .queryResult query ∈ calls) : .endQuery query ∈ calls := by
  obtain ⟨later, earlier, rfl, ended, -, -⟩ := held.ordered.of_mem read
  exact List.mem_append_right _ (.tail _ ended)

theorem QueriesHeld.deletePending (held : QueriesHeld active (query :: pending) made calls) :
    QueriesHeld active pending made (.deleteQuery query :: calls) := by
  have inside : query ∈ active.toList ++ query :: pending :=
    List.mem_append_right _ List.mem_cons_self
  constructor
  · apply held.whole.perm
    have front : (query :: (active.toList ++ pending)).Perm (active.toList ++ query :: pending) :=
      List.perm_middle.symm
    exact List.perm_middle.trans (front.append_right (deletedQueries calls))
  · exact fun other => (by simp : _ ↔ _).trans (held.created other)
  · exact fun other => (by simp : _ ↔ _).trans (held.begun other)
  · exact fun other is_active => by simpa using held.active other is_active
  · exact fun other waits => by simpa using held.pending other (.tail _ waits)
  · exact ⟨⟨(held.created query).mpr (held.below inside), held.undeleted inside⟩, held.ordered⟩

theorem QueriesHeld.deleteActive (held : QueriesHeld (some query) pending made calls) :
    QueriesHeld none pending made (.deleteQuery query :: calls) := by
  have inside : query ∈ (some query).toList ++ pending :=
    List.mem_append_left _ List.mem_cons_self
  constructor
  · exact held.whole.perm List.perm_middle
  · exact fun other => (by simp : _ ↔ _).trans (held.created other)
  · exact fun other => (by simp : _ ↔ _).trans (held.begun other)
  · exact nofun
  · exact fun other waits => by simpa using held.pending other waits
  · exact ⟨⟨(held.created query).mpr (held.below inside), held.undeleted inside⟩, held.ordered⟩

theorem QueriesHeld.readPending (held : QueriesHeld active (query :: pending) made calls) :
    QueriesHeld active pending made (.deleteQuery query :: .queryResult query :: calls) := by
  have inside : query ∈ active.toList ++ query :: pending :=
    List.mem_append_right _ List.mem_cons_self
  have gone := held.deletePending
  obtain ⟨ended, unread⟩ := held.pending query List.mem_cons_self
  have apart (other : Nat) (waits : other ∈ pending) : other ≠ query := by
    rintro rfl
    exact gone.undeleted (List.mem_append_right _ waits) List.mem_cons_self
  constructor
  · exact gone.whole
  · exact fun other => (by simp : _ ↔ _).trans (held.created other)
  · exact fun other => (by simp : _ ↔ _).trans (held.begun other)
  · exact fun other is_active => by simpa using held.active other is_active
  · intro other waits
    simpa [apart other waits] using held.pending other (.tail _ waits)
  · refine ⟨⟨?_, ?_⟩, ⟨ended, unread, held.undeleted inside⟩, held.ordered⟩
    · exact List.mem_cons_of_mem _ ((held.created query).mpr (held.below inside))
    · simpa using held.undeleted inside

theorem QueriesHeld.endActive (held : QueriesHeld (some query) pending made calls) :
    QueriesHeld none (pending ++ [query]) made (.endQuery query :: calls) := by
  have inside : query ∈ (some query).toList ++ pending :=
    List.mem_append_left _ List.mem_cons_self
  constructor
  · exact held.whole.perm ((List.perm_append_singleton query pending).append_right _)
  · exact fun other => (by simp : _ ↔ _).trans (held.created other)
  · exact fun other => (by simp : _ ↔ _).trans (held.begun other)
  · exact nofun
  · intro other waits
    rcases List.mem_append.mp waits with earlier | last
    · simpa using (held.pending other earlier).imp_left .inr
    · obtain rfl : other = query := List.mem_singleton.mp last
      exact ⟨List.mem_cons_self, by simpa using fun read => held.active other rfl (held.read read)⟩
  · exact ⟨⟨(held.begun query).mpr (held.below inside), held.active query rfl,
      held.undeleted inside⟩, held.ordered⟩

/-- A query that has begun and is not active any more. -/
theorem QueriesHeld.settled (held : QueriesHeld none pending made calls)
    (begun : .beginQuery query ∈ calls) : .endQuery query ∈ calls ∨ .deleteQuery query ∈ calls := by
  have once := held.whole query
  rw [if_pos ((held.begun query).mp begun)] at once
  have somewhere : query ∈ pending ++ deletedQueries calls :=
    List.count_pos_iff.mp (by rw [Option.toList_none, List.nil_append] at once; omega)
  rcases List.mem_append.mp somewhere with waits | gone
  · exact .inl (held.pending query waits).1
  · exact .inr (deleted_iff.mp gone)

theorem QueriesHeld.make (held : QueriesHeld none pending made calls) :
    QueriesHeld (some made) pending (made + 1)
      (.beginQuery made :: .createQuery made :: calls) := by
  have uncreated : .createQuery made ∉ calls := fun old =>
    Nat.lt_irrefl _ ((held.created made).mp old)
  have unbegun : .beginQuery made ∉ calls := fun old =>
    Nat.lt_irrefl _ ((held.begun made).mp old)
  constructor
  · exact held.whole.make.perm ((List.perm_append_singleton made pending).symm.append_right _)
  · intro query
    simp only [List.mem_cons, reduceCtorEq, QueryCall.createQuery.injEq, false_or, held.created]
    omega
  · intro query
    simp only [List.mem_cons, reduceCtorEq, QueryCall.beginQuery.injEq, false_or, held.begun]
    omega
  · rintro query ⟨⟩
    simpa using fun ended => unbegun (held.ended_begun ended)
  · exact fun query waits => by simpa using held.pending query waits
  · refine ⟨⟨List.mem_cons_self, by simpa using unbegun, ?_⟩, uncreated, held.ordered⟩
    intro other begun
    simpa using held.settled (by simpa using begun)

end QueriesHeld

/-- What the rounding makes of the smoothing of a number, at most. -/
def smoothingError (sample : Rat) : Rat := sample / 2 ^ 49 + 16 * Binary64.least

/-- A number between two of the samples, but for what the smoothing rounds. -/
structure Spanned (samples : List Rat) (value : Rat) : Prop where
  nonneg : 0 ≤ value
  low : ∃ sample ∈ samples, sample - smoothingError sample ≤ value
  high : ∃ sample ∈ samples, value ≤ sample + smoothingError sample

/-- What the statistics keep. -/
structure Timed (s : FrameStats) : Prop where
  held : QueriesHeld s.activeGpuTimerQuery s.pendingGpuTimerQueries s.made s.calls
  fps : s.frameRates = [] ∧ s.smoothedFps = 0 ∨ Spanned s.frameRates s.smoothedFps
  cpu : s.cpuFrames = [] ∧ s.smoothedCpuFrameMs = 0 ∨ Spanned s.cpuFrames s.smoothedCpuFrameMs
  gpu : s.gpuFrames = [] ∧ s.smoothedGpuFrameMs = none ∨
    ∃ smoothed, s.smoothedGpuFrameMs = some smoothed ∧ Spanned s.gpuFrames smoothed

section Samples

variable {samples : List Rat} {smoothed sample bound : Rat}

/-- The weights of the smoothing, as doubles. -/
theorem smoothing_weights : frameStatsSmoothing = 6485183463413514 / 2 ^ 55 ∧
    Binary64.sub 1 frameStatsSmoothing = 7385903388887614 / 2 ^ 53 := by
  constructor <;> decide +kernel

theorem lerp_nonneg (old : 0 ≤ smoothed) (new : 0 ≤ sample) :
    0 ≤ lerp smoothed sample frameStatsSmoothing := by
  obtain ⟨weight, rest⟩ := smoothing_weights
  unfold lerp
  rw [rest, weight]
  have left : (0 : Rat) ≤ 7385903388887614 / 2 ^ 53 * smoothed := by positivity
  have right : (0 : Rat) ≤ 6485183463413514 / 2 ^ 55 * sample := by positivity
  exact Binary64.round_nonneg (add_nonneg (Binary64.round_nonneg left)
    (Binary64.round_nonneg right))

/-- The smoothing in its three roundings stays on either side of a number. -/
theorem lerp_error (old : 0 ≤ smoothed) (new : 0 ≤ sample) :
    (sample ≤ bound → smoothed ≤ bound + smoothingError bound →
      lerp smoothed sample frameStatsSmoothing ≤ bound + smoothingError bound) ∧
    (0 ≤ bound → bound ≤ sample → bound - smoothingError bound ≤ smoothed →
      bound - smoothingError bound ≤ lerp smoothed sample frameStatsSmoothing) := by
  obtain ⟨weight, rest⟩ := smoothing_weights
  unfold lerp smoothingError Binary64.mul Binary64.add
  rw [rest, weight]
  have left : (0 : Rat) ≤ 7385903388887614 / 2 ^ 53 * smoothed := by positivity
  have right : (0 : Rat) ≤ 6485183463413514 / 2 ^ 55 * sample := by positivity
  have sum := add_nonneg (Binary64.round_nonneg left) (Binary64.round_nonneg right)
  obtain ⟨lowLeft, highLeft⟩ := Binary64.round_error left
  obtain ⟨lowRight, highRight⟩ := Binary64.round_error right
  obtain ⟨low, high⟩ := Binary64.round_error sum
  have least := Binary64.least_pos
  constructor
  · intro above near
    linarith
  · intro positive below near
    linarith

theorem Spanned.newest (new : 0 ≤ sample) : Spanned (sample :: samples) sample := by
  have error : 0 ≤ smoothingError sample := by
    have least := Binary64.least_pos
    unfold smoothingError
    positivity
  exact ⟨new, ⟨sample, List.mem_cons_self, by linarith⟩, ⟨sample, List.mem_cons_self, by linarith⟩⟩

/-- Smoothing leaves the range of the samples by no more than the rounding. -/
theorem Spanned.lerp (spanned : Spanned samples smoothed) (new : 0 ≤ sample) :
    Spanned (sample :: samples) (lerp smoothed sample frameStatsSmoothing) := by
  obtain ⟨old, ⟨low, isLow, below⟩, ⟨high, isHigh, above⟩⟩ := spanned
  have nonneg := lerp_nonneg old new
  refine ⟨nonneg, ?_, ?_⟩
  · rcases le_total low sample with rises | falls
    · refine ⟨low, .tail _ isLow, ?_⟩
      rcases le_total 0 low with positive | negative
      · exact (lerp_error old new).2 positive rises below
      · unfold smoothingError
        linarith [Binary64.least_pos]
    · refine ⟨sample, List.mem_cons_self, (lerp_error old new).2 new le_rfl ?_⟩
      unfold smoothingError at below ⊢
      linarith
  · rcases le_total high sample with rises | falls
    · refine ⟨sample, List.mem_cons_self, (lerp_error old new).1 le_rfl ?_⟩
      unfold smoothingError at above ⊢
      linarith
    · exact ⟨high, .tail _ isHigh, (lerp_error old new).1 falls above⟩

/-- The first sample counts as it is, and so does one after a rate that is not positive. -/
theorem Spanned.smooth (before : samples = [] ∧ smoothed = 0 ∨ Spanned samples smoothed)
    (new : 0 ≤ sample) : Spanned (sample :: samples)
      (if smoothed > 0 then Scene.lerp smoothed sample frameStatsSmoothing else sample) := by
  split
  · rename_i positive
    rcases before with ⟨-, rfl⟩ | spanned
    · exact absurd positive (lt_irrefl _)
    · exact spanned.lerp new
  · exact .newest new

end Samples

section Operations

variable {gl : Context} {s : FrameStats}

theorem disposePending_timed {pending : List Nat}
    (timed : Timed { s with pendingGpuTimerQueries := pending }) :
    Timed (s.disposePending pending) ∧ (s.disposePending pending).pendingGpuTimerQueries = [] ∧
      (s.disposePending pending).activeGpuTimerQuery = s.activeGpuTimerQuery ∧
      (s.disposePending pending).made = s.made := by
  induction pending generalizing s with
  | nil => exact ⟨timed, rfl, rfl, rfl⟩
  | cons query rest ih =>
    exact ih (s := s.deleteQuery query)
      ⟨timed.held.deletePending, timed.fps, timed.cpu, timed.gpu⟩

/-- Every query is given back. -/
structure Disposed (s t : FrameStats) : Prop where
  timed : Timed t
  active : t.activeGpuTimerQuery = none
  pending : t.pendingGpuTimerQueries = []
  made : t.made = s.made

theorem dispose_timed (timed : Timed s) : Disposed s s.disposeGpuTimerQueries := by
  have all (t : FrameStats) (timed : Timed t) (idle : t.activeGpuTimerQuery = none) :
      Disposed t (t.disposePending t.pendingGpuTimerQueries.reverse) := by
    have reversed : Timed { t with pendingGpuTimerQueries := t.pendingGpuTimerQueries.reverse } :=
      ⟨timed.held.perm (List.reverse_perm _), timed.fps, timed.cpu, timed.gpu⟩
    obtain ⟨disposed, empty, active, made⟩ := disposePending_timed reversed
    exact ⟨disposed, active.trans idle, empty, made⟩
  unfold FrameStats.disposeGpuTimerQueries
  dsimp only
  split
  · rename_i query active
    have held := timed.held
    rw [active] at held
    have gone := all { s.deleteQuery query with activeGpuTimerQuery := none }
      ⟨held.deleteActive, timed.fps, timed.cpu, timed.gpu⟩ rfl
    exact ⟨gone.timed, gone.active, gone.pending, gone.made⟩
  · rename_i idle
    exact all s timed idle

theorem sampleGpu_timed (timed : Timed s) (elapsed : Option Rat) : Timed (s.sampleGpu elapsed) := by
  unfold FrameStats.sampleGpu
  split
  · exact timed
  · rename_i gpuFrameMs counted
    have nonneg : 0 ≤ gpuFrameMs := by
      simp only [FrameStats.sampleOf, Option.map_eq_some_iff, Option.filter_eq_some_iff,
        decide_eq_true_eq] at counted
      obtain ⟨nanoseconds, ⟨-, positive⟩, rfl⟩ := counted
      exact Binary64.round_nonneg (div_nonneg positive.le (by norm_num))
    refine ⟨timed.held, timed.fps, timed.cpu, .inr ⟨_, rfl, ?_⟩⟩
    rcases timed.gpu with ⟨-, unset⟩ | ⟨smoothed, set, spanned⟩
    · rw [unset]
      exact .newest nonneg
    · rw [set]
      exact spanned.lerp nonneg

theorem pollPending_timed {pending : List Nat}
    (timed : Timed { s with pendingGpuTimerQueries := pending }) :
    Timed (s.pollPending gl pending) := by
  induction pending generalizing s with
  | nil => exact timed
  | cons query rest ih =>
    unfold FrameStats.pollPending
    split
    · apply ih
      have read : Timed { (s.call (.queryResult query)).deleteQuery query with
          pendingGpuTimerQueries := rest } :=
        ⟨timed.held.readPending, timed.fps, timed.cpu, timed.gpu⟩
      have sampled := sampleGpu_timed read (gl.elapsedNanoseconds query)
      unfold FrameStats.sampleGpu at sampled ⊢
      split at sampled <;> exact sampled
    · exact timed

theorem poll_timed (gl : Context) (timed : Timed s) : Timed (s.pollGpuTimerQueries gl) := by
  unfold FrameStats.pollGpuTimerQueries
  split
  · exact timed
  · split
    · have restarted : Timed { s with smoothedGpuFrameMs := none, gpuFrames := [] } :=
        ⟨timed.held, timed.fps, timed.cpu, .inl ⟨rfl, rfl⟩⟩
      exact (dispose_timed restarted).timed
    · exact pollPending_timed timed

theorem begin_timed (gl : Context) (timed : Timed s) : Timed (s.beginGpuTimerQuery gl) := by
  unfold FrameStats.beginGpuTimerQuery
  dsimp only
  split
  · exact ⟨timed.held, timed.fps, timed.cpu, timed.gpu⟩
  · rename_i ready
    simp only [Bool.or_eq_true, not_or, Option.not_isSome_iff_eq_none] at ready
    have held := timed.held
    rw [ready.1.2] at held
    exact ⟨held.make, timed.fps, timed.cpu, timed.gpu⟩

theorem end_timed (gl : Context) (timed : Timed s) : Timed (s.endGpuTimerQuery gl) := by
  unfold FrameStats.endGpuTimerQuery
  split
  · exact timed
  · split
    · exact timed
    · rename_i query active
      have held := timed.held
      rw [active] at held
      exact poll_timed gl ⟨held.endActive, timed.fps, timed.cpu, timed.gpu⟩

theorem record_timed (gl : Context) (deltaSeconds : Rat) {cpuFrameMs : Rat} (spent : 0 ≤ cpuFrameMs)
    (timed : Timed s) : Timed (s.recordFrameStats gl deltaSeconds cpuFrameMs) := by
  refine poll_timed gl ⟨timed.held, .inr (.smooth timed.fps ?_), .inr (.smooth timed.cpu spent),
    timed.gpu⟩
  split
  · rename_i longer
    have positive : 0 ≤ deltaSeconds := by
      refine le_of_lt (lt_of_le_of_lt (Binary64.round_nonneg ?_) longer)
      norm_num
    exact Binary64.round_nonneg (div_nonneg zero_le_one positive)
  · exact le_refl _

theorem reset_timed (timed : Timed s) : Disposed s s.resetFrameStats :=
  have gone := dispose_timed (s := { s with
    smoothedFps := 0
    smoothedCpuFrameMs := 0
    smoothedGpuFrameMs := none
    frameRates := []
    cpuFrames := []
    gpuFrames := [] }) ⟨timed.held, .inl ⟨rfl, rfl⟩, .inl ⟨rfl, rfl⟩, .inl ⟨rfl, rfl⟩⟩
  ⟨gone.timed, gone.active, gone.pending, gone.made⟩

end Operations

/-- The parts of the frames, and the resets: a frame without a presentation, the end of one,
reset and dispose, and the callbacks of a frame may do so in the middle of it. -/
inductive Measure
  | beginGpuTimerQuery (gl : Context)
  | endGpuTimerQuery (gl : Context)
  /-- The frame began at frameStart by the same clock. -/
  | recordFrameStats (gl : Context) (deltaSeconds frameStart now : Rat)
  | resetFrameStats

def frameStats : System FrameStats Measure where
  step s
    | .beginGpuTimerQuery gl => some (s.beginGpuTimerQuery gl)
    | .endGpuTimerQuery gl => some (s.endGpuTimerQuery gl)
    | .recordFrameStats gl deltaSeconds frameStart now =>
      if frameStart ≤ now then
        some (s.recordFrameStats gl deltaSeconds (Binary64.sub now frameStart))
      else none
    | .resetFrameStats => some s.resetFrameStats

section Runs

variable {s : FrameStats}

theorem timed_reachable (reached : frameStats.Reachable .initial s) : Timed s := by
  apply reached.invariant
  · exact ⟨.empty, .inl ⟨rfl, rfl⟩, .inl ⟨rfl, rfl⟩, .inl ⟨rfl, rfl⟩⟩
  · intro s a t timed _ taken
    cases a with
    | beginGpuTimerQuery gl => cases taken; exact begin_timed gl timed
    | endGpuTimerQuery gl => cases taken; exact end_timed gl timed
    | recordFrameStats gl deltaSeconds frameStart now =>
      simp only [frameStats] at taken
      split at taken
      · rename_i later
        cases taken
        exact record_timed gl deltaSeconds (Binary64.round_nonneg (sub_nonneg.mpr later)) timed
      · cases taken
    | resetFrameStats => cases taken; exact (reset_timed timed).timed

/-- What becomes of the queries, and what the statistics show. -/
structure QueriesKept (s : FrameStats) : Prop where
  /-- Each query is active, waits, or is deleted, and only one of these. -/
  whole : Pool.Whole (s.activeGpuTimerQuery.toList ++ s.pendingGpuTimerQueries)
    (deletedQueries s.calls) s.made
  /-- A query is begun when no other is, ended, read after that, and deleted last. -/
  ordered : ∀ later call earlier, s.calls = later ++ call :: earlier → InTurn call earlier
  /-- Nothing is left of them after a reset. -/
  released : ∀ query < s.made, .deleteQuery query ∈ s.resetFrameStats.calls
  /-- What is shown lies between two samples since the last reset, but for the rounding. -/
  fps : s.smoothedFps ≠ 0 → Spanned s.frameRates s.smoothedFps
  cpu : s.smoothedCpuFrameMs ≠ 0 → Spanned s.cpuFrames s.smoothedCpuFrameMs
  gpu : ∀ smoothed, s.smoothedGpuFrameMs = some smoothed → Spanned s.gpuFrames smoothed

theorem queries_kept (reached : frameStats.Reachable .initial s) : QueriesKept s := by
  have timed := timed_reachable reached
  constructor
  · exact timed.held.whole
  · exact History.each_iff.mp timed.held.ordered
  · intro query below
    have gone := reset_timed timed
    have once := gone.timed.held.whole query
    rw [gone.active, gone.pending, gone.made, if_pos below] at once
    apply deleted_iff.mp
    apply List.count_pos_iff.mp
    simpa using Nat.lt_of_lt_of_eq Nat.one_pos once.symm
  · exact fun shown => timed.fps.resolve_left fun unset => shown unset.2
  · exact fun shown => timed.cpu.resolve_left fun unset => shown unset.2
  · intro smoothed shown
    rcases timed.gpu with ⟨-, unset⟩ | ⟨value, set, spanned⟩
    · cases shown.symm.trans unset
    · cases shown.symm.trans set
      exact spanned

/-- The first result comes a frame late, the second later still, and a third query is active. -/
def lateResult : List Measure :=
  let gl (available : Nat → Bool) : Context :=
    ⟨true, true, false, available, fun query => some (4000000 * (query + 1))⟩
  [.beginGpuTimerQuery (gl fun _ => false), .endGpuTimerQuery (gl fun _ => false),
    .recordFrameStats (gl fun _ => false) (1 / 64) 1000 1005,
    .beginGpuTimerQuery (gl fun _ => false), .endGpuTimerQuery (gl (· == 0)),
    .recordFrameStats (gl fun _ => true) (1 / 32) 1016 1025,
    .beginGpuTimerQuery (gl fun _ => true)]

def smoothedTwice (s : FrameStats) : Bool :=
  s.smoothedGpuFrameMs == some (lerp 4 8 frameStatsSmoothing) &&
    s.smoothedFps == lerp 64 32 frameStatsSmoothing && s.activeGpuTimerQuery == some 2

theorem queries_kept_late : ∃ s, frameStats.run .initial lateResult = some s ∧
    smoothedTwice s = true ∧ QueriesKept s := by
  obtain ⟨s, ran, passes⟩ := System.run_passes lateResult smoothedTwice
    (by decide +kernel : (frameStats.run .initial lateResult).any smoothedTwice = true)
  exact ⟨s, ran, passes, queries_kept (System.run_reachable ran)⟩

end Runs

end Megalo.Scene
