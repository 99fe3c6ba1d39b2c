import NewApi.Billing.ServingCharge

/-!
# Tool surcharges on a tiered charge

The surcharge of tool calls is added before the channel ratio. The ratio that multiplies it is
that of the price data, the one that multiplies a charge without surcharge that of the snapshot.
-/

namespace NewApi.Relay

open NewApi.Dto NewApi.Types NewApi.Service

/-- The quota of a tiered charge with a surcharge. -/
def surchargedQuota (cfg : Settings) (relayInfo : RelayInfo) (params : TokenParams)
    (summary : TextQuotaSummary) (surcharge : ℚ) : Option ℤ :=
  (tryTieredSettle cfg relayInfo params).map fun (tieredQuota, tieredResult) =>
    composeTieredTextQuota relayInfo
      { summary with
        channelRatio := relayInfo.priceData.getChannelRatio
        toolCallSurchargeQuota := surcharge } tieredQuota tieredResult

/-- What is reserved, or the estimate if nothing is. -/
def reservedEstimate (relayInfo : RelayInfo) (snap : BillingSnapshot) : ℤ :=
  if relayInfo.finalPreConsumedQuota ≤ 0 then snap.estimatedQuotaAfterGroup
  else relayInfo.finalPreConsumedQuota

/-- A surcharge adds to the charge of the expression before the channel ratio and the rounding,
and is lost in the rounding when it is small; without a charge of the expression the reserved
estimate stays. -/
structure SurchargeLinear (relayInfo : RelayInfo) (snap : BillingSnapshot) : Prop where
  rounds : ∀ (cfg : Settings) params summary cost tier surcharge,
    cfg.runExpr snap.exprString snap.exprHash params
        (relayInfo.billingRequestInput.getD {}) = some (cost, tier) →
      surchargedQuota cfg relayInfo params summary surcharge =
        some (quotaRound ((cost / 1000000 * snap.quotaPerUnit * snap.groupRatio +
          surcharge) * snap.effectiveChannelRatio))
  vanishes : ∀ (cfg : Settings) params summary cost tier,
    cfg.runExpr snap.exprString snap.exprHash params
        (relayInfo.billingRequestInput.getD {}) = some (cost, tier) →
      0 ≤ cost / 1000000 * snap.quotaPerUnit * snap.groupRatio →
        ∃ bound > 0, ∀ surcharge, 0 ≤ surcharge → surcharge < bound →
          surchargedQuota cfg relayInfo params summary surcharge =
            surchargedQuota cfg relayInfo params summary 0
  monotone : ∀ (cfg : Settings) params summary cost tier surcharge more,
    cfg.runExpr snap.exprString snap.exprHash params
        (relayInfo.billingRequestInput.getD {}) = some (cost, tier) →
      surcharge ≤ more →
        ∀ quota ∈ surchargedQuota cfg relayInfo params summary surcharge,
          ∀ larger ∈ surchargedQuota cfg relayInfo params summary more, quota ≤ larger
  fallback : ∀ (cfg : Settings) params summary surcharge,
    cfg.runExpr snap.exprString snap.exprHash params
        (relayInfo.billingRequestInput.getD {}) = none →
      0 ≤ surcharge → ∀ quota ∈ surchargedQuota cfg relayInfo params summary surcharge,
        min maxQuota (reservedEstimate relayInfo snap) ≤ quota

/-! ## Rounding -/

theorem halfAway_intCast (val : ℤ) : Rounding.halfAway (val : ℚ) = val := by
  unfold Rounding.halfAway
  split
  · rw [Int.floor_eq_iff]
    constructor <;> linarith
  · rw [Int.ceil_eq_iff]
    constructor <;> linarith

theorem min_le_quotaFromDecimal {quota : ℤ} {val : ℚ} (le : (quota : ℚ) ≤ val) :
    min maxQuota quota ≤ quotaFromDecimal val := by
  refine le_trans ?_ (quotaFromDecimal_mono le)
  rw [quotaFromDecimal, halfAway_intCast, saturateQuota, Rounding.saturate]
  grind

/-- Rounding does not notice what is added to a value that is not negative if it is little. -/
theorem exists_halfAway_add {val : ℚ} (nonneg : 0 ≤ val) :
    ∃ bound > 0, ∀ added, 0 ≤ added → added < bound →
      Rounding.halfAway (val + added) = Rounding.halfAway val := by
  have below := Int.lt_floor_add_one (val + 1 / 2)
  refine ⟨⌊val + 1 / 2⌋ + 1 - (val + 1 / 2), by linarith, ?_⟩
  intro _ _ _
  have atLeast := Int.floor_le (val + 1 / 2)
  rw [Rounding.halfAway, Rounding.halfAway, if_pos (by linarith), if_pos nonneg, Int.floor_eq_iff]
  constructor <;> linarith

/-- Two ratios differ in the quota of some amount. -/
theorem exists_quotaRound_ne {one two : ℚ} (differ : one ≠ two) :
    ∃ amount ≠ 0, quotaRound (amount * one) ≠ quotaRound (amount * two) := by
  wlog le : |two| ≤ |one| generalizing one two
  · rcases this differ.symm (le_of_not_ge le) with ⟨amount, nonzero, apart⟩
    exact ⟨amount, nonzero, apart.symm⟩
  have nonzero : one ≠ 0 := by
    rintro rfl
    rw [abs_zero, abs_nonpos_iff] at le
    exact differ le.symm
  have quotient : two / one < 1 := by
    have bounds := abs_le.mp le
    rcases lt_or_gt_of_ne nonzero with neg | pos
    · rw [abs_of_neg neg, neg_neg] at bounds
      rw [div_lt_one_of_neg neg]
      exact lt_of_le_of_ne bounds.1 differ
    · rw [abs_of_pos pos] at bounds
      rw [div_lt_one pos]
      exact lt_of_le_of_ne bounds.2 differ.symm
  refine ⟨1 / (2 * one), by simp [nonzero], ?_⟩
  have half : 1 / (2 * one) * one = 1 / 2 := by
    field_simp
  have less : 1 / (2 * one) * two < 1 / 2 := by
    have same : 1 / (2 * one) * two = 1 / 2 * (two / one) := by ring
    rw [same]
    linarith
  have larger : 0 < quotaFromDecimal (1 / (2 * one) * one) :=
    quotaFromDecimal_pos_iff.mpr half.ge
  have smaller : ¬0 < quotaFromDecimal (1 / (2 * one) * two) :=
    fun pos => absurd (quotaFromDecimal_pos_iff.mp pos) (not_le.mpr less)
  intro same
  rw [quotaRound, quotaRound, ← quotaFromDecimal, ← quotaFromDecimal] at same
  exact smaller (lt_of_lt_of_eq larger same)

/-! ## The branches -/

section Branches

variable {cfg : Settings} {relayInfo : RelayInfo} {snap : BillingSnapshot}
  {params : TokenParams} {summary : TextQuotaSummary} {cost surcharge : ℚ} {tier : String}

theorem surchargedQuota_priced (found : relayInfo.tieredBillingSnapshot = some snap)
    (mode : snap.billingMode = "tiered_expr")
    (ran : cfg.runExpr snap.exprString snap.exprHash params
      (relayInfo.billingRequestInput.getD {}) = some (cost, tier)) :
    surchargedQuota cfg relayInfo params summary surcharge =
      some (quotaRound ((cost / 1000000 * snap.quotaPerUnit * snap.groupRatio +
        surcharge) * if surcharge = 0 then snap.effectiveChannelRatio
          else relayInfo.priceData.getChannelRatio)) := by
  simp only [surchargedQuota, tryTieredSettle, found, mode, ne_eq, not_true_eq_false, if_false,
    computeTieredQuotaWithRequest, ran, Option.map_some, composeTieredTextQuota]
  split
  next free => rw [free, add_zero]
  next => rfl

theorem surchargedQuota_fallback (found : relayInfo.tieredBillingSnapshot = some snap)
    (mode : snap.billingMode = "tiered_expr")
    (failed : cfg.runExpr snap.exprString snap.exprHash params
      (relayInfo.billingRequestInput.getD {}) = none) :
    surchargedQuota cfg relayInfo params summary surcharge =
      some (if surcharge = 0 then reservedEstimate relayInfo snap
        else quotaFromDecimal (reservedEstimate relayInfo snap +
          surcharge * relayInfo.priceData.getChannelRatio)) := by
  simp only [surchargedQuota, tryTieredSettle, found, mode, ne_eq, not_true_eq_false, if_false,
    computeTieredQuotaWithRequest, failed, Option.map_some, composeTieredTextQuota,
    reservedEstimate]

end Branches

/-- Surcharges are linear exactly if the price data and the snapshot have one channel ratio. -/
theorem surchargeLinear_iff {relayInfo : RelayInfo} {snap : BillingSnapshot}
    (found : relayInfo.tieredBillingSnapshot = some snap)
    (mode : snap.billingMode = "tiered_expr") :
    SurchargeLinear relayInfo snap ↔
      relayInfo.priceData.getChannelRatio = snap.effectiveChannelRatio := by
  have ratioNonneg := relayInfo.priceData.getChannelRatio_nonneg
  constructor
  · intro linear
    by_contra differ
    rcases exists_quotaRound_ne differ with ⟨amount, nonzero, apart⟩
    let cfg := { sampleSettings with runExpr := fun _ _ _ _ => some (0, "") }
    have rounds := linear.rounds cfg ⟨0, 0, 0, 0, 0, 0, 0, 0, 0, 0⟩
      (calculateTextQuotaSummary cfg sampleAnswer.ctx relayInfo none) 0 "" amount rfl
    rw [surchargedQuota_priced found mode rfl, if_neg nonzero] at rounds
    simp only [zero_div, zero_mul, zero_add, Option.some.injEq] at rounds
    exact apart rounds
  · intro same
    have rounds : ∀ (cfg : Settings) params summary cost tier surcharge,
        cfg.runExpr snap.exprString snap.exprHash params
            (relayInfo.billingRequestInput.getD {}) = some (cost, tier) →
          surchargedQuota cfg relayInfo params summary surcharge =
            some (quotaRound ((cost / 1000000 * snap.quotaPerUnit * snap.groupRatio +
              surcharge) * snap.effectiveChannelRatio)) := by
      intro _ _ _ _ _ _ ran
      rw [surchargedQuota_priced found mode ran, same, ite_self]
    rw [same] at ratioNonneg
    refine ⟨rounds, ?_, ?_, ?_⟩
    · intro _ _ _ _ _ ran nonneg
      rcases exists_halfAway_add (mul_nonneg nonneg ratioNonneg) with ⟨bound, pos, near⟩
      have ratioPositive : 0 < snap.effectiveChannelRatio + 1 := by linarith
      refine ⟨bound / (snap.effectiveChannelRatio + 1), div_pos pos ratioPositive, ?_⟩
      intro _ least small
      rw [rounds _ _ _ _ _ _ ran, rounds _ _ _ _ _ _ ran, add_zero, add_mul, quotaRound,
        quotaRound, near _ (mul_nonneg least ratioNonneg)]
      rw [lt_div_iff₀ ratioPositive] at small
      linarith
    · intro _ _ _ _ _ _ _ ran _ _ isQuota _ isLarger
      rw [rounds _ _ _ _ _ _ ran, Option.mem_some_iff] at isQuota isLarger
      rw [← isQuota, ← isLarger]
      apply quotaFromDecimal_mono
      apply mul_le_mul_of_nonneg_right _ ratioNonneg
      linarith
    · intro _ _ _ _ failed nonneg _ isQuota
      rw [surchargedQuota_fallback found mode failed, Option.mem_some_iff] at isQuota
      rw [← isQuota]
      split
      · exact min_le_right _ _
      · apply min_le_quotaFromDecimal
        rw [same]
        have added := mul_nonneg nonneg ratioNonneg
        linarith

/-! ## A compaction that is priced again -/

/-- One model that is billed by an expression, and others that are not. -/
def tieredPrices : PriceSettings :=
  { samplePrices with
    billedByExpr := fun model => model = "tiered"
    billingExpr := fun _ => some "p" }

def tieredSettings : Settings :=
  { sampleSettings with runExpr := fun _ _ params _ => some (params.p, "base") }

/-- A request that is priced by the expression for one channel and, before it settles, for
another one by a model. -/
def repricedInfo (modelName : String) (channelRatio : ℚ) : Option RelayInfo :=
  (priceByName tieredPrices tieredSettings sampleRelayRequest {} 10 "tiered" ⟨1, -1, false⟩ 1
    sampleOpening).bind
    (priceByName tieredPrices tieredSettings sampleRelayRequest {} 10 modelName ⟨1, -1, false⟩
      channelRatio)

theorem repriced_tiered : ∃ relayInfo snap, repricedInfo "tiered" 3 = some relayInfo ∧
    relayInfo.tieredBillingSnapshot = some snap ∧ SurchargeLinear relayInfo snap := by
  have priced : (repricedInfo "tiered" 3).isSome := by decide +kernel
  rcases Option.isSome_iff_exists.mp priced with ⟨relayInfo, isInfo⟩
  have ratios : (repricedInfo "tiered" 3).map (fun info => (info.priceData.getChannelRatio,
      info.tieredBillingSnapshot.map fun snap =>
        (snap.billingMode, snap.effectiveChannelRatio))) =
      some (3, some ("tiered_expr", 3)) := by
    decide +kernel
  simp only [isInfo, Option.map_some, Option.some.injEq, Prod.mk.injEq,
    Option.map_eq_some_iff] at ratios
  rcases ratios with ⟨price, snap, found, mode, ratio⟩
  exact ⟨relayInfo, snap, isInfo, found,
    (surchargeLinear_iff found mode).mpr (price.trans ratio.symm)⟩

/-- The snapshot keeps the ratio of the first channel, and the surcharge has that of the second. -/
theorem repriced_not_linear : ∃ relayInfo snap, repricedInfo "plain" 3 = some relayInfo ∧
    relayInfo.tieredBillingSnapshot = some snap ∧ ¬SurchargeLinear relayInfo snap := by
  have priced : (repricedInfo "plain" 3).isSome := by decide +kernel
  rcases Option.isSome_iff_exists.mp priced with ⟨relayInfo, isInfo⟩
  have ratios : (repricedInfo "plain" 3).map (fun info => (info.priceData.getChannelRatio,
      info.tieredBillingSnapshot.map fun snap =>
        (snap.exprString, snap.effectiveChannelRatio, snap.billingMode))) =
      some (3, some ("p", 1, "tiered_expr")) := by
    decide +kernel
  simp only [isInfo, Option.map_some, Option.some.injEq, Prod.mk.injEq,
    Option.map_eq_some_iff] at ratios
  rcases ratios with ⟨price, snap, found, _, ratio, mode⟩
  refine ⟨relayInfo, snap, isInfo, found, fun linear => ?_⟩
  have rounds := linear.rounds
    { sampleSettings with runExpr := fun _ _ _ _ => some (0, "") } ⟨0, 0, 0, 0, 0, 0, 0, 0, 0, 0⟩
    (calculateTextQuotaSummary sampleSettings sampleAnswer.ctx relayInfo none) 0 "" 100 rfl
  rw [surchargedQuota_priced found mode rfl, if_neg (by norm_num), price, ratio] at rounds
  revert rounds
  simp only [zero_div, zero_mul, zero_add]
  decide +kernel

end NewApi.Relay
