import Megalo.Scene.Gusts
import Megalo.Library.System
import Mathlib.Tactic.Linarith

/-! The gusts in any order of launches, frames and clearings: an entry that is lent out again and
again is never in two places, and what it hit in one use is forgotten in the next. The time that a
gust has left is counted down in doubles, and each frame may round it. -/
namespace Megalo.Scene

open Transition

/-- What is left to a gust after some frames. -/
def countdown (deltas : List Rat) : Rat := deltas.foldl Binary64.sub gustLifetime

/-- The most that one frame of a gust rounds. -/
def gustRounding : Rat := 1 / 2 ^ 55

/-- The gusts, and what is told of them. -/
structure Flights where
  gusts : Gusts
  /-- How often launchGust has acquired each entry. -/
  uses : Nat → Nat
  /-- The deltas of the frames since it did so last. -/
  deltas : Nat → List Rat
  /-- The calls of applyGustToPod: the entry, which use of it this was, and the pod. -/
  applied : List (Nat × Nat × String)

def Flights.initial : Flights := ⟨.initial, fun _ => 0, fun _ => [], []⟩

inductive GustAction
  | initPhysics
  | launchGust (source : GustSource)
  | advanceGusts (delta : Rat) (touching : Nat → List String)
  | clearGusts
  | reset

def flights : System Flights GustAction where
  step p
    | .initPhysics => some { p with gusts := { p.gusts with physicsWorld := true } }
    | .launchGust source =>
      let (launched, gusts) := p.gusts.launchGust source
      match launched with
      | some gust => some { p with
          gusts
          uses := Function.update p.uses gust (p.uses gust + 1)
          deltas := Function.update p.deltas gust [] }
      | none => some { p with gusts }
    | .advanceGusts delta touching =>
      if 0 < delta then
        let (gusts, calls) := p.gusts.advanceGusts delta touching
        some { p with
          gusts
          deltas := fun gust =>
            if p.gusts.gusts.contains gust then p.deltas gust ++ [delta] else p.deltas gust
          applied := p.applied ++ calls.map (tell p.uses) }
      else none
    | .clearGusts => some { p with gusts := p.gusts.clearGusts }
    | .reset => some { p with gusts := p.gusts.reset }

section Countdown

variable {deltas : List Rat} {delta : Rat}

theorem countdown_append (deltas : List Rat) (delta : Rat) :
    countdown (deltas ++ [delta]) = Binary64.sub (countdown deltas) delta := by
  rw [countdown, List.foldl_append]
  rfl

/-- The countdown is as near to the sum of the frames as their number allows. -/
structure Counted (deltas : List Rat) : Prop where
  small : countdown deltas ≤ 1 / 2
  near : |countdown deltas - (gustLifetime - deltas.sum)| ≤ deltas.length * gustRounding

theorem Counted.launched : Counted [] := by
  constructor
  · decide +kernel
  · simp [countdown]

/-- What a frame may do, while the time is not over. -/
structure Ticked (deltas : List Rat) : Prop where
  ended : gustLifetime + deltas.length * gustRounding ≤ deltas.sum → countdown deltas ≤ 0
  left : deltas.sum + deltas.length * gustRounding < gustLifetime → 0 < countdown deltas
  counted : 0 < countdown deltas → Counted deltas

theorem Counted.tick (counted : Counted deltas) (passes : 0 < delta) :
    Ticked (deltas ++ [delta]) := by
  obtain ⟨small, near⟩ := counted
  obtain ⟨low, high⟩ := abs_le.mp near
  have rounding : 0 < gustRounding := by decide +kernel
  have sum : (deltas ++ [delta]).sum = deltas.sum + delta := by simp
  have length : ((deltas ++ [delta]).length : Rat) = deltas.length + 1 := by simp
  rcases le_or_gt (countdown deltas - delta) 0 with spent | left
  · have ended : countdown (deltas ++ [delta]) ≤ 0 := by
      rw [countdown_append]
      exact Binary64.round_nonpos spent
    refine ⟨fun _ => ended, fun still => ?_, fun positive => absurd ended (not_le.mpr positive)⟩
    rw [sum, length] at still
    linarith
  · -- a number below a half is rounded by no more than 2 ^ -55
    have below : |countdown deltas - delta| < 2 ^ (-54 + 53 : Int) := by
      rw [abs_of_pos left]
      norm_num
      linarith
    have error := Binary64.abs_round_sub_le_pow below (by decide)
    have half : (2 : Rat) ^ (-54 : Int) / 2 = gustRounding := by decide +kernel
    rw [half, abs_le] at error
    have rounded : countdown (deltas ++ [delta]) = Binary64.round (countdown deltas - delta) :=
      countdown_append deltas delta
    refine ⟨fun ended => ?_, fun still => ?_, fun _ => ⟨?_, ?_⟩⟩
    · rw [sum, length] at ended
      linarith
    · rw [sum, length] at still
      rw [rounded]
      linarith
    · rw [rounded]
      have half : countdown deltas - delta ≤ 2 ^ (-1 : Int) := by
        norm_num
        linarith
      have least := Binary64.round_le_pow half (by decide)
      norm_num at least
      exact least
    · rw [rounded, sum, length, abs_le]
      constructor <;> linarith

end Countdown

/-- What holds of the gusts between any two of these. -/
structure Flying (p : Flights) : Prop where
  world : p.gusts.gusts ≠ [] → p.gusts.physicsWorld = true
  pooled : Pooled p.gusts
  left : ∀ gust ∈ p.gusts.gusts, 0 < (p.gusts.entry gust).remaining
  clock : ∀ gust ∈ p.gusts.gusts, (p.gusts.entry gust).remaining = countdown (p.deltas gust)
  counted : ∀ gust ∈ p.gusts.gusts, Counted (p.deltas gust)
  marked : Marked p.uses p.gusts p.applied

theorem Flying.initial : Flying .initial where
  world some := absurd rfl some
  pooled := Pool.Whole.empty
  left _ flies := absurd flies List.not_mem_nil
  clock _ flies := absurd flies List.not_mem_nil
  counted _ flies := absurd flies List.not_mem_nil
  marked := ⟨fun _ flies => absurd flies List.not_mem_nil,
    fun _ called => absurd called List.not_mem_nil, List.nodup_nil⟩

section Steps

variable {p q : Flights}

theorem Flying.launchGust (flying : Flying p) {source : GustSource}
    (taken : flights.step p (.launchGust source) = some q) : Flying q := by
  simp only [flights] at taken
  rcases launchGust_cases p.gusts source with same | ⟨gust, t, launch, launched⟩
  · rw [same] at taken
    cases taken
    exact flying
  · rw [launch] at taken
    cases taken
    obtain ⟨pooled, new⟩ := launched.pooled flying.pooled
    have entries {other : Nat} (flies : other ∈ t.gusts) : other ∈ p.gusts.gusts ∧ other ≠ gust ∨
        other = gust := by
      rw [launched.gusts, List.mem_append, List.mem_singleton] at flies
      exact flies.imp_left fun earlier => ⟨earlier, fun same => new (same ▸ earlier)⟩
    refine ⟨fun _ => launched.world, pooled, fun other flies => ?_, fun other flies => ?_,
      fun other flies => ?_, fun other flies slaveId => ?_, fun call called => ?_,
      flying.marked.once⟩
    · rcases entries flies with ⟨earlier, apart⟩ | rfl
      · rw [launched.others other apart]
        exact flying.left other earlier
      · rw [launched.entry]
        exact (by decide +kernel : 0 < gustLifetime)
    · rcases entries flies with ⟨earlier, apart⟩ | rfl
      · simpa only [launched.others other apart, Function.update_of_ne apart] using
          flying.clock other earlier
      · simp [launched.entry, countdown]
    · rcases entries flies with ⟨earlier, apart⟩ | rfl
      · simpa only [Function.update_of_ne apart] using flying.counted other earlier
      · simpa only [Function.update_self] using Counted.launched
    · rcases entries flies with ⟨earlier, apart⟩ | rfl
      · simpa only [launched.others other apart, Function.update_of_ne apart] using
          flying.marked.hit other earlier slaveId
      · -- No call has been told of a use that begins.
        have unused : (other, p.uses other + 1, slaveId) ∉ p.applied := fun called =>
          absurd (flying.marked.fresh _ called) (Nat.not_succ_le_self _)
        simpa [launched.entry] using unused
    · have before := flying.marked.fresh call called
      by_cases same : call.1 = gust
      · rw [same] at before
        simp only [same, Function.update_self]
        omega
      · simpa only [Function.update_of_ne same] using before

theorem advanceGusts_cases (flying : Flying p) {delta : Rat} {touching : Nat → List String}
    (taken : flights.step p (.advanceGusts delta touching) = some q) :
    0 < delta ∧ q.uses = p.uses ∧
      (∀ gust ∈ p.gusts.gusts, q.deltas gust = p.deltas gust ++ [delta]) ∧
      ∃ calls, q.applied = p.applied ++ calls.map (tell p.uses) ∧
        Advanced p.uses p.applied delta touching p.gusts (q.gusts, calls) := by
  simp only [flights] at taken
  split at taken
  · rename_i passes
    cases taken
    have advanced := advanceGusts_spec flying.world flying.pooled flying.marked delta touching
    exact ⟨passes, rfl, fun gust flies => by simp [flies], _, rfl, advanced⟩
  · cases taken

theorem Flying.advanceGusts (flying : Flying p) {delta : Rat} {touching : Nat → List String}
    (taken : flights.step p (.advanceGusts delta touching) = some q) : Flying q := by
  obtain ⟨passes, uses, deltas, calls, applied, advanced⟩ := advanceGusts_cases flying taken
  refine ⟨fun some => ?_, advanced.pooled, fun gust flies => ?_, fun gust flies => ?_,
    fun gust flies => ?_, ?_⟩
  · obtain ⟨gust, flies⟩ := List.exists_mem_of_ne_nil _ some
    rw [advanced.world]
    exact flying.world (List.ne_nil_of_mem ((advanced.flying gust).mp flies).1)
  · rw [advanced.remaining gust flies]
    exact ((advanced.flying gust).mp flies).2
  · have flew := ((advanced.flying gust).mp flies).1
    rw [advanced.remaining gust flies, deltas gust flew, flying.clock gust flew, countdown_append]
  · obtain ⟨flew, left⟩ := (advanced.flying gust).mp flies
    rw [flying.clock gust flew, ← countdown_append] at left
    rw [deltas gust flew]
    exact ((flying.counted gust flew).tick passes).counted left
  · rw [uses, applied]
    exact advanced.told

/-- Both clearGusts and reset leave no gust, and the pool whole. -/
theorem Flying.clear (flying : Flying p) {gusts : Gusts} (pooled : Pooled gusts)
    (none : gusts.gusts = []) : Flying { p with gusts } := by
  refine ⟨fun some => absurd none some, pooled, ?_, ?_, ?_, ?_, flying.marked.fresh,
    flying.marked.once⟩
  all_goals simp [none]

theorem Flying.step (flying : Flying p) {a : GustAction} (taken : flights.step p a = some q) :
    Flying q := by
  cases a with
  | initPhysics =>
    cases taken
    exact ⟨fun _ => rfl, flying.pooled, flying.left, flying.clock, flying.counted,
      flying.marked.hit, flying.marked.fresh, flying.marked.once⟩
  | launchGust source => exact flying.launchGust taken
  | advanceGusts delta touching => exact flying.advanceGusts taken
  | clearGusts =>
    cases taken
    obtain ⟨pooled, none⟩ := clearGusts_spec flying.pooled
    exact flying.clear pooled none
  | reset =>
    cases taken
    have cleared := clearGusts_spec flying.pooled
    have pooled : Pooled p.gusts.reset := cleared.1
    exact flying.clear pooled cleared.2

theorem flying_of_reachable (reached : flights.Reachable .initial p) : Flying p :=
  reached.invariant .initial fun _ _ _ flying _ taken => flying.step taken

end Steps

/-- What the pool and the hit sets are for. -/
structure HitOnce (p : Flights) : Prop where
  /-- An entry that was made is in one of gusts and gustPool, once. -/
  pooled : ∀ gust, (p.gusts.gusts ++ p.gusts.gustPool).count gust =
    if gust < p.gusts.made then 1 else 0
  /-- A use of an entry calls applyGustToPod for a pod at most once. -/
  once : p.applied.Nodup
  /-- A frame leaves no gust whose countdown is over, and each one that has time left has called
  applyGustToPod, in this use of its entry, for all that it touches. -/
  frame : ∀ delta touching q, flights.step p (.advanceGusts delta touching) = some q →
    (∀ gust ∈ q.gusts.gusts, 0 < (q.gusts.entry gust).remaining) ∧
    ∀ gust ∈ p.gusts.gusts,
      (countdown (q.deltas gust) ≤ 0 → gust ∈ q.gusts.gustPool) ∧
      (0 < countdown (q.deltas gust) → gust ∈ q.gusts.gusts ∧
        ∀ slaveId ∈ touching gust, (gust, q.uses gust, slaveId) ∈ q.applied) ∧
      Ticked (q.deltas gust)

theorem gusts_hit_once {p : Flights} (reached : flights.Reachable .initial p) : HitOnce p := by
  have flying := flying_of_reachable reached
  refine ⟨flying.pooled, flying.marked.once, fun delta touching q taken => ?_⟩
  obtain ⟨passes, uses, deltas, calls, applied, advanced⟩ := advanceGusts_cases flying taken
  refine ⟨(flying.advanceGusts taken).left, fun gust flies => ?_⟩
  rw [deltas gust flies]
  refine ⟨fun spent => ?_, fun left => ?_, (flying.counted gust flies).tick passes⟩
  · rw [countdown_append, ← flying.clock gust flies] at spent
    exact advanced.spent gust flies spent
  · rw [countdown_append, ← flying.clock gust flies] at left
    have flies' := (advanced.flying gust).mpr ⟨flies, left⟩
    refine ⟨flies', fun slaveId touched => ?_⟩
    rw [uses, applied]
    exact advanced.hits gust flies' slaveId touched

/-- The entry of a hand's gust comes back from the pool for one of the desktop. -/
def lentAgain : List GustAction :=
  let touching (_ : Nat) := ["pod", "pod"]
  [.initPhysics, .launchGust (.hand .left), .advanceGusts (1 / 10) touching,
    .advanceGusts (1 / 10) touching, .advanceGusts (1 / 10) touching, .launchGust .desktop,
    .advanceGusts (1 / 10) touching]

theorem gusts_hit_once_again : ∃ p, flights.run .initial lentAgain = some p ∧
    p.applied = [(0, 1, "pod"), (0, 2, "pod")] ∧ HitOnce p := by
  obtain ⟨p, ran, passes⟩ := System.run_passes lentAgain
    (fun p : Flights => p.applied == [(0, 1, "pod"), (0, 2, "pod")])
    (by decide +kernel : (flights.run .initial lentAgain).any
      (fun p => p.applied == [(0, 1, "pod"), (0, 2, "pod")]) = true)
  exact ⟨p, ran, eq_of_beq passes, gusts_hit_once (System.run_reachable ran)⟩

/-- Ten frames of a tenth of the lifetime, or a little more: 0.028000000000000004 seconds. -/
def tenths : List GustAction :=
  let delta := Binary64.round (28000000000000004 / 10 ^ 18)
  [.initPhysics, .launchGust .desktop] ++ List.replicate 10 (.advanceGusts delta fun _ => [])

/-- Their sum is past the lifetime, but what is left is rounded up on the way. -/
theorem gust_outlives : ∃ p, flights.run .initial tenths = some p ∧
    gustLifetime ≤ (p.deltas 0).sum ∧ 0 ∈ p.gusts.gusts ∧ 0 ∉ p.gusts.gustPool := by
  obtain ⟨p, ran, passes⟩ := System.run_passes tenths
    (fun p : Flights => decide (gustLifetime ≤ (p.deltas 0).sum) && p.gusts.gusts.contains 0 &&
      !p.gusts.gustPool.contains 0)
    (by decide +kernel : (flights.run .initial tenths).any _ = true)
  simp only [Bool.and_eq_true, decide_eq_true_eq, Bool.not_eq_true', List.contains_eq_mem,
    decide_eq_false_iff_not] at passes
  exact ⟨p, ran, passes.1.1, passes.1.2, passes.2⟩

end Megalo.Scene
