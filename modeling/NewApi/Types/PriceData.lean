import NewApi.Library.Rounding
import Mathlib.Algebra.Order.BigOperators.GroupWithZero.List

/-!
# Quota conversions and price data

Prices and ratios are rational numbers: settlement converts them to decimals, whose sums
and products are exact, and rounds once at the end. A quotient of decimals keeps sixteen
places.
-/

namespace NewApi.Types

/-! ## Quota conversions -/

def maxQuota : ℤ :=
  2147483647

def minQuota : ℤ :=
  -2147483648

/-- `saturateQuota`; the event that it reports besides only feeds the audit fields of logs. -/
def saturateQuota (val : ℤ) : ℤ :=
  Rounding.saturate minQuota maxQuota val

def quotaFromDecimal (val : ℚ) : ℤ :=
  saturateQuota (Rounding.halfAway val)

def quotaRound (val : ℚ) : ℤ :=
  saturateQuota (Rounding.halfAway val)

def quotaRoundStrict (val : ℚ) : Option ℤ :=
  let rounded := Rounding.halfAway val
  if maxQuota ≤ rounded ∨ rounded ≤ minQuota then none else some rounded

/-- `decimal.Decimal.Div`. -/
def decimalDiv (dividend divisor : ℚ) : ℚ :=
  Rounding.quotientAt 16 dividend divisor

theorem quotaFromDecimal_neg_iff {val : ℚ} : quotaFromDecimal val < 0 ↔ val ≤ -(1 / 2) := by
  rw [quotaFromDecimal, saturateQuota, Rounding.saturate_neg_iff (by decide) (by decide),
    Rounding.halfAway_neg_iff]

theorem quotaFromDecimal_pos_iff {val : ℚ} : 0 < quotaFromDecimal val ↔ 1 / 2 ≤ val := by
  rw [quotaFromDecimal, saturateQuota, Rounding.saturate_pos_iff (by decide) (by decide),
    Rounding.halfAway_pos_iff]

theorem quotaFromDecimal_le_one {val : ℚ} (below : val < 3 / 2) : quotaFromDecimal val ≤ 1 :=
  Rounding.saturate_le (by decide) (Rounding.halfAway_le_one below)

theorem quotaFromDecimal_le_maxQuota (val : ℚ) : quotaFromDecimal val ≤ maxQuota := by
  simp only [quotaFromDecimal, saturateQuota, Rounding.saturate, maxQuota, minQuota]
  split_ifs <;> omega

theorem quotaFromDecimal_mono {val larger : ℚ} (le : val ≤ larger) :
    quotaFromDecimal val ≤ quotaFromDecimal larger :=
  Rounding.saturate_mono (by decide) (Rounding.halfAway_mono le)

/-! ## Price data -/

/-- The ratios of a group. -/
structure GroupRatioInfo where
  (groupRatio groupSpecialRatio : ℚ)
  hasSpecialRatio : Bool

/-- `PriceData`. The map of other ratios is the list of its entries, in any order. -/
structure PriceData where
  freeModel : Bool
  (modelPrice modelRatio completionRatio cacheRatio cacheCreationRatio cacheCreation5mRatio : ℚ)
  (cacheCreation1hRatio imageRatio audioRatio audioCompletionRatio : ℚ)
  otherRatios : List (String × ℚ)
  usePrice : Bool
  channelRatio : ℚ
  channelRatioSet : Bool
  (quota quotaToPreConsume : ℤ)
  groupRatioInfo : GroupRatioInfo

def isValidOtherRatio (ratio : ℚ) : Bool :=
  0 < ratio

namespace PriceData

def getChannelRatio (price : PriceData) : ℚ :=
  if price.channelRatio < 0 then
    1
  else if price.channelRatio = 0 ∧ price.channelRatioSet = false then
    1
  else
    price.channelRatio

def addOtherRatio (price : PriceData) (key : String) (ratio : ℚ) : PriceData :=
  if !isValidOtherRatio ratio then
    price
  else
    { price with otherRatios := (key, ratio) :: price.otherRatios.filter (·.1 ≠ key) }

def otherRatioMultiplier (price : PriceData) : ℚ :=
  price.otherRatios.foldl (fun factor entry =>
    if isValidOtherRatio entry.2 && entry.2 ≠ 1 then factor * entry.2 else factor) 1

def applyOtherRatiosToDecimal (price : PriceData) (val : ℚ) : ℚ :=
  price.otherRatios.foldl (fun val entry =>
    if isValidOtherRatio entry.2 && entry.2 ≠ 1 then val * entry.2 else val) val

theorem getChannelRatio_nonneg (price : PriceData) : 0 ≤ price.getChannelRatio := by
  unfold getChannelRatio
  split
  · norm_num
  · split
    · norm_num
    · linarith

def appliedRatio (entry : String × ℚ) : ℚ :=
  if isValidOtherRatio entry.2 && entry.2 ≠ 1 then entry.2 else 1

theorem appliedRatio_pos (entry : String × ℚ) : 0 < appliedRatio entry := by
  unfold appliedRatio
  split
  next applied =>
    simp only [isValidOtherRatio, Bool.and_eq_true, decide_eq_true_eq] at applied
    exact applied.1
  next => norm_num

theorem applyOtherRatiosToDecimal_eq_prod (price : PriceData) (val : ℚ) :
    price.applyOtherRatiosToDecimal val = val * (price.otherRatios.map appliedRatio).prod := by
  unfold applyOtherRatiosToDecimal
  induction price.otherRatios generalizing val with
  | nil => simp
  | cons _ _ ih =>
    rw [List.foldl_cons, ih, List.map_cons, List.prod_cons, ← mul_assoc]
    congr 1
    unfold appliedRatio
    split <;> simp

theorem otherRatioMultiplier_eq_prod (price : PriceData) :
    price.otherRatioMultiplier = (price.otherRatios.map appliedRatio).prod := by
  have := price.applyOtherRatiosToDecimal_eq_prod 1
  rw [one_mul] at this
  exact this

theorem applyOtherRatiosToDecimal_eq (price : PriceData) (val : ℚ) :
    price.applyOtherRatiosToDecimal val = val * price.otherRatioMultiplier := by
  rw [applyOtherRatiosToDecimal_eq_prod, otherRatioMultiplier_eq_prod]

theorem otherRatioMultiplier_pos (price : PriceData) : 0 < price.otherRatioMultiplier := by
  rw [otherRatioMultiplier_eq_prod]
  apply List.prod_pos
  intro _ inRatios
  rcases List.mem_map.mp inRatios with ⟨entry, _, rfl⟩
  exact appliedRatio_pos entry

end PriceData

end NewApi.Types
