import Mathlib.Data.Int.Log
import Mathlib.Data.Rat.Floor
import Mathlib.Tactic.Linarith
import Mathlib.Tactic.Positivity

/-! Numbers in the format binary64, as rationals. An operation rounds its exact result to the
nearest of them, and to the even one of two that are equally near. Infinities are left out: the
exponent has a least value and no greatest. -/
namespace Binary64

/-- The integer nearest to a number. -/
def nearest (q : Rat) : Int :=
  if q - ⌊q⌋ < 1 / 2 then ⌊q⌋
  else if 1 / 2 < q - ⌊q⌋ then ⌊q⌋ + 1
  else if ⌊q⌋ % 2 = 0 then ⌊q⌋ else ⌊q⌋ + 1

def exponent (q : Rat) : Int := max (Int.log 2 |q| - 52) (-1074)

/-- The distance of the doubles on both sides of a number. -/
def unit (q : Rat) : Rat := 2 ^ exponent q

/-- The least positive one. -/
def least : Rat := 2 ^ (-1074 : Int)

def round (q : Rat) : Rat := nearest (q / unit q) * unit q

def add (x y : Rat) : Rat := round (x + y)

def sub (x y : Rat) : Rat := round (x - y)

def mul (x y : Rat) : Rat := round (x * y)

def div (x y : Rat) : Rat := round (x / y)

section Nearest

variable {p q : Rat} {n : Int}

theorem abs_nearest_sub_le (q : Rat) : |(nearest q : Rat) - q| ≤ 1 / 2 := by
  have low : (⌊q⌋ : Rat) ≤ q := Int.floor_le q
  have high : q < ⌊q⌋ + 1 := Int.lt_floor_add_one q
  rw [abs_le]
  unfold nearest
  split
  · constructor <;> linarith
  · split
    · push_cast
      constructor <;> linarith
    · split
      · constructor <;> linarith
      · push_cast
        constructor <;> linarith

theorem nearest_le (below : q ≤ n) : nearest q ≤ n := by
  have near := abs_le.mp (abs_nearest_sub_le q)
  by_contra above
  have next : (n : Rat) + 1 ≤ nearest q := by exact_mod_cast not_le.mp above
  linarith

theorem le_nearest (above : (n : Rat) ≤ q) : n ≤ nearest q := by
  have near := abs_le.mp (abs_nearest_sub_le q)
  by_contra below
  have next : (nearest q : Rat) + 1 ≤ n := by exact_mod_cast not_le.mp below
  linarith

/-- Two numbers that are rounded apart, the smaller one up, are both the half between. -/
theorem nearest_mono (ordered : p ≤ q) : nearest p ≤ nearest q := by
  by_contra above
  have next : (nearest q : Rat) + 1 ≤ nearest p := by exact_mod_cast not_le.mp above
  have left := abs_le.mp (abs_nearest_sub_le p)
  have right := abs_le.mp (abs_nearest_sub_le q)
  have same : p = q := le_antisymm ordered (by linarith)
  exact above (same ▸ le_rfl)

end Nearest

section Round

variable {x y : Rat} {n e : Int}

theorem unit_pos (x : Rat) : 0 < unit x := zpow_pos two_pos _

theorem abs_round_sub_le (x : Rat) : |round x - x| ≤ unit x / 2 := by
  have positive := unit_pos x
  have scaled : round x - x = (nearest (x / unit x) - x / unit x) * unit x := by
    unfold round
    field_simp
  rw [scaled, abs_mul, abs_of_pos positive]
  have near := mul_le_mul_of_nonneg_right (abs_nearest_sub_le (x / unit x)) positive.le
  linarith

/-- Rounding does not pass a multiple of the unit. -/
theorem round_le_mul (below : x ≤ n * unit x) : round x ≤ n * unit x := by
  have positive := unit_pos x
  have scaled : nearest (x / unit x) ≤ n := nearest_le ((div_le_iff₀ positive).mpr below)
  exact mul_le_mul_of_nonneg_right (Int.cast_le.mpr scaled) positive.le

theorem mul_le_round (above : n * unit x ≤ x) : n * unit x ≤ round x := by
  have positive := unit_pos x
  have scaled : n ≤ nearest (x / unit x) := le_nearest ((le_div_iff₀ positive).mpr above)
  exact mul_le_mul_of_nonneg_right (Int.cast_le.mpr scaled) positive.le

theorem round_nonpos (low : x ≤ 0) : round x ≤ 0 := by
  have none := round_le_mul (x := x) (n := 0) (by simpa using low)
  simpa using none

theorem round_nonneg (high : 0 ≤ x) : 0 ≤ round x := by
  have none := mul_le_round (x := x) (n := 0) (by simpa using high)
  simpa using none

/-- A power of two that is no smaller than the unit is a multiple of it. -/
theorem pow_eq_mul (above : exponent x ≤ e) : ∃ n : Int, (2 : Rat) ^ e = n * unit x := by
  obtain ⟨k, apart⟩ := Int.le.dest above
  refine ⟨2 ^ k, ?_⟩
  rw [unit, ← apart, zpow_add₀ two_ne_zero, zpow_natCast]
  push_cast
  exact mul_comm _ _

theorem exponent_le (some : x ≠ 0) (small : |x| < 2 ^ (e + 53)) (least : -1074 ≤ e) :
    exponent x ≤ e := by
  refine max_le ?_ least
  have log : Int.log 2 |x| < e + 53 := by
    rw [← Int.lt_zpow_iff_log_lt one_lt_two (abs_pos.mpr some)]
    exact_mod_cast small
  omega

@[simp] theorem round_zero : round 0 = 0 := le_antisymm (round_nonpos le_rfl) (round_nonneg le_rfl)

theorem round_le_pow (below : x ≤ 2 ^ e) (least : -1074 ≤ e) : round x ≤ 2 ^ e := by
  rcases le_or_gt x 0 with low | positive
  · exact (round_nonpos low).trans (zpow_pos two_pos e).le
  · have small : |x| < 2 ^ (e + 53) := by
      rw [abs_of_pos positive]
      exact below.trans_lt (zpow_lt_zpow_right₀ one_lt_two (by omega))
    obtain ⟨n, same⟩ := pow_eq_mul (exponent_le positive.ne' small least)
    rw [same] at below ⊢
    exact round_le_mul below

/-- The error of a number that is not too large. -/
theorem abs_round_sub_le_pow (small : |x| < 2 ^ (e + 53)) (least : -1074 ≤ e) :
    |round x - x| ≤ 2 ^ e / 2 := by
  rcases eq_or_ne x 0 with rfl | some
  · have positive : (0 : Rat) < 2 ^ e := zpow_pos two_pos e
    simpa using (half_pos positive).le
  · have units : unit x ≤ 2 ^ e := zpow_le_zpow_right₀ one_le_two (exponent_le some small least)
    exact (abs_round_sub_le x).trans (by linarith)

theorem least_pos : 0 < least := zpow_pos two_pos _

/-- The error of any number: half a unit of its last place, or of the least one. -/
theorem abs_round_sub_le_abs (x : Rat) : |round x - x| ≤ |x| / 2 ^ 53 + least / 2 := by
  rcases eq_or_ne x 0 with rfl | some
  · simpa using (half_pos least_pos).le
  refine (abs_round_sub_le x).trans ?_
  rcases max_choice (Int.log 2 |x| - 52) (-1074) with normal | tiny
  · have log : (2 : Rat) ^ Int.log 2 |x| ≤ |x| := by
      exact_mod_cast Int.zpow_log_le_self one_lt_two (abs_pos.mpr some)
    have scaled : unit x / 2 = 2 ^ Int.log 2 |x| / 2 ^ 53 := by
      rw [unit, exponent, normal, zpow_sub₀ two_ne_zero]
      norm_num [div_div]
    have bound := div_le_div_of_nonneg_right log (by positivity : (0 : Rat) ≤ 2 ^ 53)
    linarith [least_pos]
  · have bound : unit x = least := by rw [unit, exponent, tiny, least]
    have magnitude : 0 ≤ |x| / 2 ^ 53 := by positivity
    linarith

/-- The errors of a number that is not negative, on both sides. -/
theorem round_error (high : 0 ≤ x) :
    x - (x / 2 ^ 53 + least / 2) ≤ round x ∧ round x ≤ x + (x / 2 ^ 53 + least / 2) := by
  have near := abs_le.mp (abs_round_sub_le_abs x)
  rw [abs_of_nonneg high] at near
  constructor <;> linarith

/-- Where the exponents differ, a power of two lies between the magnitudes. -/
theorem pow_between (some : y ≠ 0) (less : exponent x < exponent y) :
    ∃ e, exponent x ≤ e ∧ exponent y ≤ e ∧ |x| < 2 ^ e ∧ 2 ^ e ≤ |y| := by
  have least : -1074 ≤ exponent x := le_max_right _ _
  have log : Int.log 2 |x| - 52 ≤ exponent x := le_max_left _ _
  have normal : exponent y = Int.log 2 |y| - 52 :=
    max_eq_left (le_of_not_ge fun tiny => absurd (max_eq_right tiny) (least.trans_lt less).ne')
  refine ⟨Int.log 2 |y|, by omega, by omega, ?_, ?_⟩
  · rcases eq_or_ne x 0 with rfl | other
    · rw [abs_zero]
      exact zpow_pos two_pos _
    · have below : Int.log 2 |x| < Int.log 2 |y| := by omega
      exact_mod_cast (Int.lt_zpow_iff_log_lt one_lt_two (abs_pos.mpr other)).mpr below
  · exact_mod_cast Int.zpow_log_le_self one_lt_two (abs_pos.mpr some)

theorem round_mono (ordered : x ≤ y) : round x ≤ round y := by
  rcases eq_or_ne x 0 with rfl | left_ne
  · exact round_zero.trans_le (round_nonneg ordered)
  rcases eq_or_ne y 0 with rfl | right_ne
  · exact (round_nonpos ordered).trans_eq round_zero.symm
  rcases lt_trichotomy (exponent x) (exponent y) with less | same | more
  · obtain ⟨e, left, right, below, above⟩ := pow_between right_ne less
    have reached : 2 ^ e ≤ y := by
      rcases le_abs.mp above with up | down
      · exact up
      · linarith [neg_abs_le x]
    obtain ⟨m, grid⟩ := pow_eq_mul left
    obtain ⟨n, grid'⟩ := pow_eq_mul right
    calc round x ≤ m * unit x := round_le_mul (grid ▸ (le_abs_self x).trans below.le)
      _ = n * unit y := grid.symm.trans grid'
      _ ≤ round y := mul_le_round (grid' ▸ reached)
  · have units : unit x = unit y := by rw [unit, unit, same]
    have positive := unit_pos y
    unfold round
    rw [units]
    have scaled := nearest_mono ((div_le_div_iff_of_pos_right positive).mpr ordered)
    exact mul_le_mul_of_nonneg_right (Int.cast_le.mpr scaled) positive.le
  · obtain ⟨e, right, left, below, above⟩ := pow_between left_ne more
    have reached : x ≤ -2 ^ e := by
      rcases le_abs.mp above with up | down
      · linarith [le_abs_self y]
      · linarith
    obtain ⟨m, grid⟩ := pow_eq_mul left
    obtain ⟨n, grid'⟩ := pow_eq_mul right
    have negated : -(2 : Rat) ^ e = (-m : Int) * unit x := by
      rw [grid]
      push_cast
      ring
    have negated' : -(2 : Rat) ^ e = (-n : Int) * unit y := by
      rw [grid']
      push_cast
      ring
    calc round x ≤ (-m : Int) * unit x := round_le_mul (negated ▸ reached)
      _ = (-n : Int) * unit y := negated.symm.trans negated'
      _ ≤ round y := mul_le_round (negated' ▸ by linarith [neg_abs_le y])

end Round

end Binary64
