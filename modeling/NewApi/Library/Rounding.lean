import Mathlib.Data.Int.Log
import Mathlib.Data.Rat.Floor
import Mathlib.Tactic.Positivity

/-!
# Rounding to integers and to decimal places

Rounding to the nearest integer with ties away from zero, the division of decimals that keeps a
fixed number of places, saturation at the ends of a range, and the doubles.
-/

namespace Rounding

universe u

variable {K : Type u} [Field K] [LinearOrder K] [IsStrictOrderedRing K] [FloorRing K]

def halfAway (val : K) : ℤ :=
  if 0 ≤ val then ⌊val + 1 / 2⌋ else ⌈val - 1 / 2⌉

theorem halfAway_nonneg {val : K} (nonneg : 0 ≤ val) : 0 ≤ halfAway val := by
  rw [halfAway, if_pos nonneg]
  apply Int.floor_nonneg.mpr
  linarith

theorem halfAway_neg_iff {val : K} : halfAway val < 0 ↔ val ≤ -(1 / 2) := by
  by_cases nonneg : 0 ≤ val
  · have rounded := halfAway_nonneg nonneg
    constructor
    · intro _
      omega
    · intro _
      linarith
  · rw [halfAway, if_neg nonneg]
    constructor
    · intro _
      have bound : ⌈val - 1 / 2⌉ ≤ -1 := by omega
      have := Int.ceil_le.mp bound
      push_cast at this
      linarith
    · intro _
      have bound : ⌈val - 1 / 2⌉ ≤ -1 := by
        apply Int.ceil_le.mpr
        push_cast
        linarith
      omega

theorem halfAway_pos_iff {val : K} : 0 < halfAway val ↔ 1 / 2 ≤ val := by
  by_cases nonneg : 0 ≤ val
  · rw [halfAway, if_pos nonneg]
    constructor
    · intro _
      have bound : (1 : ℤ) ≤ ⌊val + 1 / 2⌋ := by omega
      have := Int.le_floor.mp bound
      push_cast at this
      linarith
    · intro _
      have bound : (1 : ℤ) ≤ ⌊val + 1 / 2⌋ := by
        apply Int.le_floor.mpr
        push_cast
        linarith
      omega
  · rw [halfAway, if_neg nonneg]
    have small : ⌈val - 1 / 2⌉ ≤ 0 := by
      apply Int.ceil_le.mpr
      push_cast
      linarith
    constructor
    · intro _
      omega
    · intro _
      linarith

theorem halfAway_le_one {val : K} (below : val < 3 / 2) : halfAway val ≤ 1 := by
  by_cases nonneg : 0 ≤ val
  · rw [halfAway, if_pos nonneg]
    have bound : ⌊val + 1 / 2⌋ < 2 := by
      apply Int.floor_lt.mpr
      push_cast
      linarith
    omega
  · rw [halfAway, if_neg nonneg]
    apply Int.ceil_le.mpr
    push_cast
    linarith

theorem halfAway_mono {val larger : K} (le : val ≤ larger) :
    halfAway val ≤ halfAway larger := by
  by_cases nonneg : 0 ≤ val
  · rw [halfAway, halfAway, if_pos nonneg, if_pos (nonneg.trans le)]
    exact Int.floor_le_floor (by linarith)
  · rw [halfAway, if_neg nonneg]
    have small : ⌈val - 1 / 2⌉ ≤ 0 := by
      apply Int.ceil_le.mpr
      push_cast
      linarith
    by_cases largerNonneg : 0 ≤ larger
    · exact small.trans (halfAway_nonneg largerNonneg)
    · rw [halfAway, if_neg largerNonneg]
      exact Int.ceil_le_ceil (by linarith)

def quotientAt (places : ℕ) (dividend divisor : K) : K :=
  halfAway (dividend / divisor * 10 ^ places) / 10 ^ places

theorem quotientAt_nonneg {places : ℕ} {dividend divisor : K} (dividendNonneg : 0 ≤ dividend)
    (divisorNonneg : 0 ≤ divisor) : 0 ≤ quotientAt places dividend divisor := by
  have rounded : 0 ≤ halfAway (dividend / divisor * 10 ^ places) := by
    apply halfAway_nonneg
    positivity
  have cast : (0 : K) ≤ (halfAway (dividend / divisor * 10 ^ places) : K) := by
    exact_mod_cast rounded
  unfold quotientAt
  positivity

def saturate (low high val : ℤ) : ℤ :=
  if high ≤ val then high else if val ≤ low then low else val

theorem saturate_neg_iff {low high val : ℤ} (lowNeg : low < 0) (highPos : 0 < high) :
    saturate low high val < 0 ↔ val < 0 := by
  unfold saturate
  split
  · omega
  · split <;> omega

theorem saturate_pos_iff {low high val : ℤ} (lowNeg : low < 0) (highPos : 0 < high) :
    0 < saturate low high val ↔ 0 < val := by
  unfold saturate
  split
  · omega
  · split <;> omega

theorem saturate_mono {low high val larger : ℤ} (range : low ≤ high) (le : val ≤ larger) :
    saturate low high val ≤ saturate low high larger := by
  unfold saturate
  split_ifs <;> omega

theorem saturate_le {low high val bound : ℤ} (lowLe : low ≤ bound) (valueLe : val ≤ bound) :
    saturate low high val ≤ bound := by
  unfold saturate
  split
  · omega
  · split <;> omega

/-! ## Doubles -/

/-- The nearest integer, and of two the even one. -/
def halfEven (val : K) : ℤ :=
  if val - ⌊val⌋ < 1 / 2 ∨ (val - ⌊val⌋ = 1 / 2 ∧ ⌊val⌋ % 2 = 0) then ⌊val⌋ else ⌊val⌋ + 1

theorem halfEven_intCast (n : ℤ) : halfEven (n : K) = n := by
  have exact : (n : K) - ⌊(n : K)⌋ < 1 / 2 := by
    rw [Int.floor_intCast, sub_self]
    norm_num
  rw [halfEven, if_pos (.inl exact), Int.floor_intCast]

/-- The exponent of the last place of the doubles around a value. -/
def lastPlace (val : ℚ) : ℤ :=
  max (Int.log 2 |val| - 52) (-1074)

/-- The double nearest to a value below the largest one, with ties to even. -/
def float64 (val : ℚ) : ℚ :=
  halfEven (val / 2 ^ lastPlace val) * 2 ^ lastPlace val

theorem float64_of_multiple {val : ℚ} {n : ℤ} (multiple : val = n * 2 ^ lastPlace val) :
    float64 val = val := by
  have unit : (2 : ℚ) ^ lastPlace val ≠ 0 := zpow_ne_zero _ (by norm_num)
  have quotient : val / 2 ^ lastPlace val = n := (div_eq_iff unit).mpr multiple
  rw [float64, quotient, halfEven_intCast]
  exact multiple.symm

/-- The integers up to `2 ^ 53` are doubles. -/
theorem float64_intCast {n : ℤ} (exact : |n| ≤ 2 ^ 53) : float64 n = n := by
  by_cases whole : lastPlace n ≤ 0
  · obtain ⟨places, isPlaces⟩ := Int.eq_ofNat_of_zero_le (neg_nonneg.mpr whole)
    apply float64_of_multiple (n := n * 2 ^ places)
    have place : lastPlace n = -(places : ℤ) := by omega
    rw [place, zpow_neg, zpow_natCast]
    push_cast
    rw [mul_assoc, mul_inv_cancel₀ (pow_ne_zero _ (by norm_num)), mul_one]
  · -- Only the two ends of the range have their last place above the units.
    have log : 53 ≤ Int.log 2 |(n : ℚ)| := by
      simp only [lastPlace] at whole
      omega
    have nonzero : (0 : ℚ) < |(n : ℚ)| := by
      by_contra zero
      rw [Int.log_of_right_le_zero 2 (not_lt.mp zero)] at log
      omega
    have lower : (2 : ℚ) ^ (53 : ℤ) ≤ |(n : ℚ)| :=
      (zpow_le_zpow_right₀ (by norm_num) log).trans (Int.zpow_log_le_self (by norm_num) nonzero)
    have upper : |(n : ℚ)| ≤ 2 ^ (53 : ℤ) := by exact_mod_cast exact
    have isEnd := le_antisymm upper lower
    have place : lastPlace n = 1 := by
      have isLog : Int.log 2 ((2 : ℚ) ^ (53 : ℤ)) = 53 := Int.log_zpow (by norm_num) 53
      rw [lastPlace, isEnd, isLog]
      norm_num
    have ends : |n| = 2 ^ 53 := by exact_mod_cast isEnd
    rcases abs_eq (by norm_num) |>.mp ends with rfl | rfl
    · exact float64_of_multiple (n := 2 ^ 52) (by rw [place]; norm_num)
    · exact float64_of_multiple (n := -2 ^ 52) (by rw [place]; norm_num)

end Rounding
