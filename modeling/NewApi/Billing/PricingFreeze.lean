import NewApi.Relay.ModelPrice
import NewApi.Service.PricingSnapshot

/-!
# Frozen prices

What a request costs before and after its price went through the pricing snapshot.
-/

namespace NewApi.Service

open NewApi.Dto NewApi.Types

def RelayInfo.priced (info : RelayInfo) (price : PriceData)
    (snap : Option BillingSnapshot) : RelayInfo :=
  { info with priceData := price, tieredBillingSnapshot := snap }

/-- Pricing by the frozen price gives every request the quota of the original price, in each
of the three computations of a settlement. -/
def PriceKept (price : PriceData) (snap : Option BillingSnapshot) : Prop :=
  ∀ (cfg : Settings) (ctx : RequestContext) (info : RelayInfo)
    (told : Option Usage) (params : TokenParams) (tieredQuota : ℤ)
    (tieredResult : Option TieredResult),
    ∃ frozen, (info.priced price snap).freezePricing = some frozen ∧
      (calculateTextQuotaSummary cfg ctx frozen told).quota =
        (calculateTextQuotaSummary cfg ctx (info.priced price snap) told).quota ∧
      tryTieredSettle cfg frozen params = tryTieredSettle cfg (info.priced price snap) params ∧
      composeTieredTextQuota frozen (calculateTextQuotaSummary cfg ctx frozen told)
          tieredQuota tieredResult =
        composeTieredTextQuota (info.priced price snap)
          (calculateTextQuotaSummary cfg ctx (info.priced price snap) told)
          tieredQuota tieredResult

def IgnoresOtherRatios (price : PriceData) : Prop :=
  price.otherRatioMultiplier = 1 ∨ price.groupRatioInfo.groupRatio = 0 ∨
    price.getChannelRatio = 0 ∨ (price.usePrice = true ∧ price.modelPrice = 0)

/-! ## What other ratios enter into -/

theorem unpricedSummary_otherRatios (cfg : Settings) (ctx : RequestContext)
    (info : RelayInfo) (price : PriceData) (snap : Option BillingSnapshot)
    (otherRatios : List (String × ℚ)) (told : Option Usage) :
    unpricedSummary cfg ctx (info.priced { price with otherRatios } snap) told =
      unpricedSummary cfg ctx (info.priced price snap) told :=
  rfl

def TextQuotaSummary.multiplied (summary : TextQuotaSummary) (cfg : Settings)
    (price : PriceData) (separate : Bool) : ℚ :=
  if price.usePrice then summary.callQuota cfg else summary.tokenQuota cfg separate

variable {price : PriceData}

theorem quotaDecimal_congr {summary : TextQuotaSummary} {cfg : Settings}
    {otherRatios : List (String × ℚ)} {separate : Bool}
    (same : summary.multiplied cfg price separate *
        { price with otherRatios }.otherRatioMultiplier * summary.channelRatio =
      summary.multiplied cfg price separate * price.otherRatioMultiplier * summary.channelRatio) :
    summary.quotaDecimal cfg { price with otherRatios } separate =
      summary.quotaDecimal cfg price separate := by
  simp only [TextQuotaSummary.quotaDecimal, PriceData.applyOtherRatiosToDecimal_eq]
  simp only [TextQuotaSummary.multiplied] at same
  rw [add_mul, add_mul, same]

theorem multiplied_eq_zero {summary : TextQuotaSummary} {cfg : Settings} {separate : Bool}
    (idle : summary.groupRatio = 0 ∨ (price.usePrice = true ∧ summary.modelPrice = 0)) :
    summary.multiplied cfg price separate = 0 := by
  rcases idle with group | ⟨perCall, free⟩
  · simp [TextQuotaSummary.multiplied, TextQuotaSummary.callQuota, TextQuotaSummary.tokenQuota,
      TextQuotaSummary.ratio, TextQuotaSummary.audioInputQuota, group]
  · simp [TextQuotaSummary.multiplied, perCall, TextQuotaSummary.callQuota, free]

theorem priceKept_of_ignores (snap : Option BillingSnapshot)
    (ignores : IgnoresOtherRatios price) : PriceKept price snap := by
  intro cfg ctx info told _ _ _
  refine ⟨info.priced { price with otherRatios := [] } snap, freezePricing_eq _, ?_, rfl, rfl⟩
  have none : { price with otherRatios := [] }.otherRatioMultiplier = 1 := rfl
  simp only [calculateTextQuotaSummary, unpricedSummary_otherRatios]
  congr 1
  apply quotaDecimal_congr
  rw [none]
  rcases ignores with one | group | chan | call
  · rw [one]
  · rw [multiplied_eq_zero (.inl group)]
    simp only [zero_mul]
  · have channelRatio : (unpricedSummary cfg ctx (info.priced price snap)
        told).channelRatio = 0 := chan
    rw [channelRatio, mul_zero, mul_zero]
  · rw [multiplied_eq_zero (.inr call)]
    simp only [zero_mul]

/-! ## A request that shows the difference

One prompt token, of audio, for a model whose audio has a price of its own: per call it
costs the price of a call, per token the price of the audio alone. The unit is chosen so
that one of the two prices is the smallest that rounds to two. -/

def probeSettings (unit : ℚ) : Settings where
  quotaPerUnit := unit
  toolPriceForModel _ _ := 0
  defaultModelRatio _ := none
  usedVars _ _ := false
  runExpr _ _ _ _ := none

def probeContext : RequestContext where
  tokenName := ""
  claudeWebSearchRequests := 0
  geminiGoogleSearchCall := false
  now := 0

def probeRelayInfo : RelayInfo where
  userId := 1
  tokenId := 1
  channelId := 1
  channelType := 1
  tokenUnlimited := false
  isPlayground := false
  isStream := false
  usingGroup := ""
  originModelName := "gemini-2.0-flash"
  startTime := 0
  relayMode := .other 1
  relayFormat := .openAI
  requestConversionChain := []
  finalRequestRelayFormat := none
  estimatePromptTokens := 1
  builtInTools := []
  priceData := zeroPriceData
  tieredBillingSnapshot := none
  billingRequestInput := none
  finalPreConsumedQuota := 0
  managedOutcomeCheckpoint := none

def probeUsage : Usage where
  promptTokens := 1
  completionTokens := 0
  totalTokens := 1
  promptTokensDetails := { audioTokens := 1 }

def probePrice (price : PriceData) : ℚ :=
  (if price.usePrice then price.modelPrice else 7 / 10000000) * price.groupRatioInfo.groupRatio

theorem probe_audioPrice :
    decimalDiv (getGeminiInputAudioPricePerMillionTokens "gemini-2.0-flash") 1000000 =
      7 / 10000000 := by
  decide +kernel

theorem probe_multiplied (unit : ℚ) (price : PriceData) (snap : Option BillingSnapshot) :
    (unpricedSummary (probeSettings unit) probeContext (probeRelayInfo.priced price snap)
      (some probeUsage)).multiplied (probeSettings unit) price false = unit * probePrice price := by
  have audioPrice : 0 < getGeminiInputAudioPricePerMillionTokens "gemini-2.0-flash" := by
    decide +kernel
  cases perCall : price.usePrice with
  | true =>
    simp [TextQuotaSummary.multiplied, perCall, TextQuotaSummary.callQuota, unpricedSummary,
      probePrice, RelayInfo.priced, probeSettings]
    ring
  | false =>
    have audio := probe_audioPrice
    simp [TextQuotaSummary.multiplied, perCall, TextQuotaSummary.tokenQuota, unpricedSummary,
      probePrice, RelayInfo.priced, probeSettings, TextQuotaSummary.baseTokens,
      TextQuotaSummary.audioPriced, TextQuotaSummary.audioInputQuota,
      TextQuotaSummary.cachedCreationTokensWithRatio, probeUsage, probeRelayInfo,
      isOpenRouterClaudeBilling,
      channelTypeOpenRouter, audioPrice, audio, InputTokenDetails.cacheCreationTokensTotal]
    ring

theorem probe_surcharge (unit : ℚ) (price : PriceData) (snap : Option BillingSnapshot) :
    (unpricedSummary (probeSettings unit) probeContext (probeRelayInfo.priced price snap)
      (some probeUsage)).toolCallSurchargeQuota = 0 := by
  have calls : collectToolCalls (probeSettings unit) probeContext
      (probeRelayInfo.priced price snap) = [] := by
    have notSearch : "gemini-2.0-flash".endsWith "search-preview" = false := by decide +kernel
    simp [collectToolCalls, collectToolSurchargeItem, probeContext, RelayInfo.priced,
      probeRelayInfo, notSearch]
  simp [unpricedSummary, calculateTextToolCallSurcharge, calls, mergeToolSurchargeItems]

def probeDecimal (unit : ℚ) (price : PriceData) : ℚ :=
  unit * probePrice price * price.otherRatioMultiplier * price.getChannelRatio

theorem probe_quota {unit : ℚ} (snap : Option BillingSnapshot) (pos : 0 < probeDecimal unit price) :
    (calculateTextQuotaSummary (probeSettings unit) probeContext
        (probeRelayInfo.priced price snap) (some probeUsage)).quota =
      (unpricedSummary (probeSettings unit) probeContext (probeRelayInfo.priced price snap)
        (some probeUsage)).finalQuota (probeDecimal unit price) := by
  have together : (unpricedSummary (probeSettings unit) probeContext
      (probeRelayInfo.priced price snap) (some probeUsage)).quotaDecimal (probeSettings unit)
        price false = probeDecimal unit price := by
    have multiplied := probe_multiplied unit price snap
    have channelRatio : (unpricedSummary (probeSettings unit) probeContext
      (probeRelayInfo.priced price snap) (some probeUsage)).channelRatio =
        price.getChannelRatio := rfl
    simp only [TextQuotaSummary.multiplied] at multiplied
    simp only [TextQuotaSummary.quotaDecimal, PriceData.applyOtherRatiosToDecimal_eq, multiplied,
      probe_surcharge, add_zero, channelRatio]
    have notFree : ¬unit * probePrice price * price.otherRatioMultiplier *
        price.getChannelRatio ≤ 0 := not_le.mpr pos
    simp only [notFree, and_false, if_false]
    rfl
  have plain : ((unpricedSummary (probeSettings unit) probeContext
      (probeRelayInfo.priced price snap) (some probeUsage)).isClaudeUsageSemantic ||
        isLegacyClaudeDerivedOpenAIUsage (probeRelayInfo.priced price snap) probeUsage) =
      false := by
    simp [unpricedSummary, usageSemanticFromUsage, usageSemanticFromUsage.formatSemantic,
      isLegacyClaudeDerivedOpenAIUsage, RelayInfo.getFinalRequestRelayFormat, RelayInfo.priced,
      probeRelayInfo, probeUsage]
  simp only [calculateTextQuotaSummary, Option.getD_some, plain]
  exact congrArg _ together

theorem probe_billable (unit : ℚ) (price : PriceData) (snap : Option BillingSnapshot) :
    (unpricedSummary (probeSettings unit) probeContext (probeRelayInfo.priced price snap)
      (some probeUsage)).hasBillableUsage = true := by
  have counted : 0 < intSum 1 0 := by decide
  simp [TextQuotaSummary.hasBillableUsage, unpricedSummary, probeUsage, counted]

theorem probe_quota_eq_two {unit : ℚ} {price : PriceData} (snap : Option BillingSnapshot)
    (exactly : probeDecimal unit price = 3 / 2) :
    (calculateTextQuotaSummary (probeSettings unit) probeContext
      (probeRelayInfo.priced price snap) (some probeUsage)).quota = 2 := by
  have two : quotaFromDecimal (3 / 2) = 2 := by decide +kernel
  rw [probe_quota snap (by rw [exactly]; norm_num), exactly]
  simp [TextQuotaSummary.finalQuota, probe_billable, two]

theorem probe_quota_le_one {unit : ℚ} {price : PriceData} (snap : Option BillingSnapshot)
    (pos : 0 < probeDecimal unit price) (below : probeDecimal unit price < 3 / 2) :
    (calculateTextQuotaSummary (probeSettings unit) probeContext
      (probeRelayInfo.priced price snap) (some probeUsage)).quota ≤ 1 := by
  have small := quotaFromDecimal_le_one below
  rw [probe_quota snap pos]
  simp only [TextQuotaSummary.finalQuota, probe_billable, Bool.not_true, Bool.false_eq_true,
    if_false]
  split
  · exact Int.le_refl 1
  · exact small

/-- A price that is kept does not depend on the other ratios. -/
theorem ignores_of_priceKept {snap : Option BillingSnapshot}
    (kept : PriceKept price snap) : IgnoresOtherRatios price := by
  by_contra matters
  simp only [IgnoresOtherRatios, not_or, not_and] at matters
  rcases matters with ⟨multiplies, group, _, call⟩
  have unitPrice : probePrice price ≠ 0 := by
    simp only [probePrice]
    refine mul_ne_zero ?_ group
    cases perCall : price.usePrice with
    | true => simpa using call perCall
    | false => norm_num
  have quotas : ∀ unit, (calculateTextQuotaSummary (probeSettings unit) probeContext
      (probeRelayInfo.priced { price with otherRatios := [] } snap) (some probeUsage)).quota =
      (calculateTextQuotaSummary (probeSettings unit) probeContext
        (probeRelayInfo.priced price snap) (some probeUsage)).quota := by
    intro unit
    rcases kept (probeSettings unit) probeContext probeRelayInfo (some probeUsage)
      ⟨0, 0, 0, 0, 0, 0, 0, 0, 0, 0⟩ 0 none with ⟨frozen, froze, same, _⟩
    rw [freezePricing_eq, Option.some.injEq] at froze
    rw [← froze] at same
    exact same
  have pos := price.otherRatioMultiplier_pos
  have scaled : ∀ unit, probeDecimal unit price =
      probeDecimal unit { price with otherRatios := [] } * price.otherRatioMultiplier := by
    intro unit
    have plain : probeDecimal unit { price with otherRatios := [] } =
        unit * probePrice price * 1 * price.getChannelRatio := rfl
    rw [plain, probeDecimal]
    ring
  have reaches : ∀ goal, ∃ unit, probeDecimal unit { price with otherRatios := [] } = goal := by
    intro goal
    refine ⟨goal / (probePrice price * price.getChannelRatio), ?_⟩
    have plain : ∀ unit, probeDecimal unit { price with otherRatios := [] } =
        unit * probePrice price * 1 * price.getChannelRatio := fun _ => rfl
    rw [plain]
    field_simp
  rcases lt_or_gt_of_ne multiplies with _ | _
  · rcases reaches (3 / 2) with ⟨unit, unitEq⟩
    have frozen := probe_quota_eq_two snap unitEq
    have original := @probe_quota_le_one unit price snap
      (by rw [scaled, unitEq]; positivity) (by rw [scaled, unitEq]; linarith)
    have := quotas unit
    omega
  · rcases reaches (3 / 2 / price.otherRatioMultiplier) with ⟨unit, unitEq⟩
    have original := @probe_quota_eq_two unit price snap (by rw [scaled, unitEq]; field_simp)
    have frozen := @probe_quota_le_one unit { price with otherRatios := [] } snap
      (by rw [unitEq]; positivity)
      (by rw [unitEq, div_lt_iff₀ pos]; linarith)
    have := quotas unit
    omega

/-! ## When a price survives -/

/-- Only a request with billing ratios, one for images, is priced with other ratios. -/
theorem priceByName_otherRatios {prices : Relay.PriceSettings} {cfg : Settings}
    {req : Relay.Request} {tokenCount : Relay.TokenCountMeta} {promptTokens : ℤ} {model : String}
    {groupRatioInfo : GroupRatioInfo} {channelRatio : ℚ} {info priced : RelayInfo}
    (plain : tokenCount.billingRatios = [])
    (byName : Relay.priceByName prices cfg req tokenCount promptTokens model groupRatioInfo
      channelRatio info = some priced) : priced.priceData.otherRatios = [] := by
  simp only [Relay.priceByName, Relay.callPrice, plain, List.foldl_nil] at byName
  split at byName
  · simp only [Relay.modelPriceHelperTiered, Option.bind_eq_bind, Option.bind_eq_some_iff, pure,
      Option.some.injEq] at byName
    obtain ⟨_, _, _, _, _, _, _, _, rfl⟩ := byName
    rfl
  · split at byName
    · simp only [Option.bind_eq_bind, Option.bind_eq_some_iff, pure, Option.some.injEq] at byName
      obtain ⟨_, _, rfl⟩ := byName
      rfl
    · split at byName
      · simp at byName
      · simp only [Option.bind_eq_bind, Option.bind_eq_some_iff, pure, Option.some.injEq]
          at byName
        obtain ⟨_, _, rfl⟩ := byName
        rfl

/-- Freezing the price of a request keeps everything but the other ratios, and keeps every
quota exactly when the other ratios multiply by one or have nothing to multiply. The price of
a request without billing ratios is kept. -/
theorem frozen_price_kept_iff (price : PriceData) (snap : Option BillingSnapshot) :
    (∀ info : RelayInfo, (info.priced price snap).freezePricing =
      some (info.priced { price with otherRatios := [] } snap)) ∧
    (PriceKept price snap ↔ IgnoresOtherRatios price) ∧
    (∀ (prices : Relay.PriceSettings) (cfg : Settings) (req : Relay.Request)
      (tokenCount : Relay.TokenCountMeta) (promptTokens : ℤ) (s priced : Relay.RelayState),
      tokenCount.billingRatios = [] →
      Relay.modelPriceHelper prices cfg req tokenCount promptTokens s = some priced →
      PriceKept priced.info.priceData priced.info.tieredBillingSnapshot) := by
  refine ⟨fun _ => freezePricing_eq _, ⟨ignores_of_priceKept, priceKept_of_ignores snap⟩, ?_⟩
  intro prices cfg req tokenCount promptTokens s priced plain helped
  obtain ⟨info, byName, rfl⟩ := Option.map_eq_some_iff.mp helped
  apply priceKept_of_ignores
  have none := priceByName_otherRatios plain byName
  exact .inl (by simp [PriceData.otherRatioMultiplier, none])

def samplePricePerCall : PriceData :=
  { zeroPriceData with
    modelPrice := 1 / 100
    usePrice := true
    otherRatios := [("n", 2)]
    channelRatio := 1
    channelRatioSet := true
    groupRatioInfo := ⟨1, 0, false⟩ }

theorem frozen_price_halved : ¬∀ price snap, PriceKept price snap := by
  intro kept
  rcases kept samplePricePerCall none (probeSettings 500000) probeContext probeRelayInfo
    (some probeUsage) ⟨0, 0, 0, 0, 0, 0, 0, 0, 0, 0⟩ 0 none with ⟨frozen, froze, same, _⟩
  rw [freezePricing_eq, Option.some.injEq] at froze
  rw [← froze] at same
  revert same
  decide +kernel

end NewApi.Service
