import NewApi.Billing.Effect
import NewApi.Service.TextConsume

/-!
# Which settlements are accepted

The settlement that the gateway builds against the validation of its own operation. The
total of a summary is taken from the billed usage, and its prompt may have lost cached
tokens since, so the two agree exactly when nothing was taken out of the prompt.
-/

namespace NewApi.Service

open NewApi.Dto NewApi.Types NewApi.Model Relational

/-! ## The summary that is settled -/

theorem settledSummary_eq (cfg : Settings) (ctx : RequestContext) (info : RelayInfo)
    (reported : Option Usage) :
    (settledSummary cfg ctx info reported).1 =
      { unpricedSummary cfg ctx info reported with
        quota := (settledSummary cfg ctx info reported).1.quota } := by
  simp only [settledSummary]
  split <;> rfl

namespace ConsumeRequest

def billedUsage (req : ConsumeRequest) : Usage :=
  req.usage.getD (estimatedUsage req.relayInfo)

def removedTokens (req : ConsumeRequest) : ℤ :=
  if isOpenRouterClaudeBilling req.relayInfo req.usage then
    req.billedUsage.promptTokensDetails.cachedTokens +
      openRouterCacheCreationTokens req.settings req.relayInfo req.billedUsage
  else
    0

theorem summary_promptTokens (req : ConsumeRequest) :
    req.summary.promptTokens = req.billedUsage.promptTokens - req.removedTokens := by
  rw [summary, settledSummary_eq]
  simp only [unpricedSummary, removedTokens, billedUsage]
  split <;> omega

theorem summary_completionTokens (req : ConsumeRequest) :
    req.summary.completionTokens = req.billedUsage.completionTokens := by
  rw [summary, settledSummary_eq]
  rfl

theorem summary_totalTokens (req : ConsumeRequest) :
    req.summary.totalTokens =
      intSum req.billedUsage.promptTokens req.billedUsage.completionTokens := by
  rw [summary, settledSummary_eq]
  rfl

/-- The operation is the one of the request. -/
structure Owns (req : ConsumeRequest) (op : BillingOperation) : Prop where
  user : op.userId = req.relayInfo.userId
  token : op.tokenId = req.relayInfo.tokenId
  channel : op.channelId = req.relayInfo.channelId

/-- The cached and the created tokens are two `int`s, so less than the range of an `int` is
taken out of the prompt. -/
def RemovesInts (req : ConsumeRequest) : Prop :=
  |req.removedTokens| < 2 ^ 64

/-- A wrapped total is refused: it is negative, or it misses the prompt and the completion. -/
theorem accepted_iff {req : ConsumeRequest} {op : BillingOperation} (owns : req.Owns op)
    (ints : req.RemovesInts) :
    req.settlement.accepted op = true ↔
      0 ≤ req.summary.quota ∧ req.billedUsage.totalFits = true ∧ req.removedTokens = 0 := by
  have mode : (req.settlement.billingMode = "fixed" ∨
      req.settlement.billingMode = "tiered_expr") ∨
      req.settlement.billingMode = "free" := by
    simp only [settlement]
    split
    · exact .inr rfl
    · split
      · exact .inl (.inr rfl)
      · exact .inl (.inl rfl)
  have prompt := req.summary_promptTokens
  have completion := req.summary_completionTokens
  have total := req.summary_totalTokens
  simp only [BillingOperationSettlement.accepted, Bool.and_eq_true, Bool.or_eq_true,
    decide_eq_true_eq, mode, and_true]
  simp only [settlement, logParams, owns.user, owns.token, owns.channel, and_true]
  rw [prompt, completion, total]
  rw [RemovesInts, abs_lt] at ints
  simp only [Usage.totalFits, Bool.and_eq_true, decide_eq_true_eq]
  constructor
  · rintro ⟨⟨⟨⟨quotaNonneg, promptNonneg⟩, nonneg⟩, totalNonneg⟩, agree⟩
    simp only [intSum, Int.bmod_def] at totalNonneg agree
    have kept : req.removedTokens = 0 := by
      split at agree <;> omega
    refine ⟨quotaNonneg, ⟨⟨?_, nonneg⟩, ?_⟩, kept⟩
    · omega
    · split at agree <;> omega
  · rintro ⟨quotaNonneg, ⟨⟨promptNonneg, nonneg⟩, fits⟩, kept⟩
    rw [intSum_of_small (by omega) fits, kept]
    refine ⟨⟨⟨⟨quotaNonneg, ?_⟩, nonneg⟩, ?_⟩, ?_⟩ <;> omega

end ConsumeRequest

/-! ## The exact price of a request -/

def tieredPrice (info : RelayInfo) (summary : TextQuotaSummary) (tieredQuota : ℤ)
    (tieredResult : Option TieredResult) : ℚ :=
  match tieredResult, info.tieredBillingSnapshot with
  | some result, some snap =>
    if summary.toolCallSurchargeQuota = 0 then
      result.actualQuotaBeforeGroup * snap.groupRatio * snap.effectiveChannelRatio
    else
      (result.actualQuotaBeforeGroup * snap.groupRatio + summary.toolCallSurchargeQuota) *
        summary.channelRatio
  | _, _ => tieredQuota + summary.toolCallSurchargeQuota * summary.channelRatio

/-- What the price data and the usage price a request at, before it is rounded. -/
def ConsumeRequest.exactPrice (req : ConsumeRequest) : ℚ :=
  let info := req.relayInfo
  let summary := calculateTextQuotaSummary req.settings req.ctx info req.usage
  match tieredSettlement req.settings info req.usage
      summary.isClaudeUsageSemantic with
  | some (tieredQuota, tieredResult) => tieredPrice info summary tieredQuota tieredResult
  | none =>
    if summary.hasBillableUsage then
      summary.quotaDecimal req.settings info.priceData (summary.isClaudeUsageSemantic ||
          isLegacyClaudeDerivedOpenAIUsage info req.billedUsage)
    else
      0

theorem finalQuota_neg_iff (summary : TextQuotaSummary) (decimal : ℚ) :
    summary.finalQuota decimal < 0 ↔
      (if summary.hasBillableUsage then decimal else 0) ≤ -(1 / 2) := by
  unfold TextQuotaSummary.finalQuota
  cases billable : summary.hasBillableUsage with
  | false => norm_num
  | true =>
    have sign := @quotaFromDecimal_neg_iff decimal
    simp only [Bool.not_true, Bool.false_eq_true, if_false, if_true]
    rw [← sign]
    split
    next rounded => simp [rounded.2]
    next => exact Iff.rfl

variable {cfg : Settings} {params : TokenParams} {tieredQuota : ℤ}
  {tieredResult : Option TieredResult} {summary : TextQuotaSummary}

theorem tryTieredSettle_eq_some {info : RelayInfo}
    (acts : tryTieredSettle cfg info params = some (tieredQuota, tieredResult)) :
    ∃ snap, info.tieredBillingSnapshot = some snap ∧
      ((tieredResult = none ∧
          tieredQuota = if info.finalPreConsumedQuota ≤ 0 then
            snap.estimatedQuotaAfterGroup else info.finalPreConsumedQuota) ∨
        ∃ result cost tier req, tieredResult = some result ∧
          cfg.runExpr snap.exprString snap.exprHash params req = some (cost, tier) ∧
          result.actualQuotaBeforeGroup = cost / 1000000 * snap.quotaPerUnit ∧
          tieredQuota = quotaRound (result.actualQuotaBeforeGroup * snap.groupRatio *
            snap.effectiveChannelRatio)) := by
  unfold tryTieredSettle at acts
  split at acts
  next => simp at acts
  next snap found =>
    refine ⟨snap, found, ?_⟩
    split at acts
    next => simp at acts
    next =>
      unfold computeTieredQuotaWithRequest at acts
      cases ran : cfg.runExpr snap.exprString snap.exprHash params
          (info.billingRequestInput.getD {}) with
      | none =>
        simp only [ran, Option.some.injEq, Prod.mk.injEq] at acts
        exact .inl ⟨acts.2.symm, acts.1.symm⟩
      | some reply =>
        rcases reply with ⟨cost, tier⟩
        simp only [ran, Option.some.injEq, Prod.mk.injEq] at acts
        refine .inr ⟨_, cost, tier, _, acts.2.symm, ran, rfl, ?_⟩
        exact acts.1.symm

theorem composeTieredTextQuota_rounds {info : RelayInfo} (summary : TextQuotaSummary)
    (acts : tryTieredSettle cfg info params = some (tieredQuota, tieredResult)) :
    let quota := composeTieredTextQuota info summary tieredQuota tieredResult
    let price := tieredPrice info summary tieredQuota tieredResult
    quota = quotaFromDecimal price ∨ (quota : ℚ) = price := by
  rcases tryTieredSettle_eq_some acts with ⟨_, found, fallback | priced⟩
  · rcases fallback with ⟨rfl, _⟩
    simp only [composeTieredTextQuota, tieredPrice]
    split
    next free => simp [free]
    next => exact .inl rfl
  · rcases priced with ⟨_, _, _, _, rfl, _, _, rfl⟩
    simp only [composeTieredTextQuota, tieredPrice, found]
    split <;> exact .inl rfl

theorem quota_signs {quota : ℤ} {price : ℚ}
    (rounds : quota = quotaFromDecimal price ∨ (quota : ℚ) = price) :
    (quota < 0 ↔ price ≤ -(1 / 2)) ∧ (0 < quota ↔ 1 / 2 ≤ price) := by
  rcases rounds with rounded | exactly
  · rw [rounded]
    exact ⟨quotaFromDecimal_neg_iff, quotaFromDecimal_pos_iff⟩
  · rw [← exactly]
    have low : quota < 0 ↔ quota ≤ -1 := by omega
    have high : 0 < quota ↔ 1 ≤ quota := by omega
    refine ⟨⟨?_, ?_⟩, ⟨?_, ?_⟩⟩
    · intro neg
      have cast : (quota : ℚ) ≤ -1 := by exact_mod_cast low.mp neg
      linarith
    · intro _
      have cast : (quota : ℚ) < 0 := by linarith
      exact_mod_cast cast
    · intro pos
      have cast : (1 : ℚ) ≤ quota := by exact_mod_cast high.mp pos
      linarith
    · intro _
      have cast : (0 : ℚ) < quota := by linarith
      exact_mod_cast cast

theorem ConsumeRequest.quota_neg_iff (req : ConsumeRequest) :
    req.summary.quota < 0 ↔ req.exactPrice ≤ -(1 / 2) := by
  simp only [summary, settledSummary, exactPrice]
  cases tiered : tieredSettlement req.settings req.relayInfo req.usage
      (calculateTextQuotaSummary req.settings req.ctx req.relayInfo
        req.usage).isClaudeUsageSemantic with
  | none => exact finalQuota_neg_iff _ _
  | some reply =>
    rcases reply with ⟨_, _⟩
    unfold tieredSettlement at tiered
    split at tiered
    next => simp at tiered
    next => exact (quota_signs (composeTieredTextQuota_rounds _ tiered)).1

/-! ## Prices without a negative part -/

/-- The item costs something. -/
structure ToolSurchargeItem.Charged (item : ToolSurchargeItem) : Prop where
  count : 0 < item.count
  price : 0 < item.price

theorem surchargeItem_charged {model name : String}
    {count : ℤ} {items : List ToolSurchargeItem} (charged : ∀ item ∈ items, item.Charged) :
    ∀ item ∈ collectToolSurchargeItem cfg model items name count, item.Charged := by
  intro item inItems
  simp only [collectToolSurchargeItem] at inItems
  split at inItems
  next => exact charged item inItems
  next counted =>
    split at inItems
    next => exact charged item inItems
    next priced =>
      rcases List.mem_append.mp inItems with inOld | inNew
      · exact charged item inOld
      · simp only [List.mem_singleton] at inNew
        subst inNew
        exact ⟨by simpa using counted, by simpa using priced⟩

theorem builtInTools_charged (cfg : Settings) (model : String) (tools : List (String × Option ℤ))
    (items : List ToolSurchargeItem) (charged : ∀ item ∈ items, item.Charged) :
    ∀ item ∈ tools.foldl (fun items tool =>
      match tool.2 with
      | none => items
      | some callCount => collectToolSurchargeItem cfg model items tool.1 callCount)
      items, item.Charged := by
  induction tools generalizing items with
  | nil => exact charged
  | cons tool _ ih =>
    rcases tool with ⟨_, callCount⟩
    apply ih
    cases callCount with
    | none => exact charged
    | some _ => exact surchargeItem_charged charged

theorem collectToolCalls_charged (cfg : Settings) (ctx : RequestContext) (info : RelayInfo) :
    ∀ item ∈ collectToolCalls cfg ctx info, item.Charged := by
  have builtIn := builtInTools_charged cfg info.originModelName info.builtInTools [] (by simp)
  simp only [collectToolCalls]
  split
  · apply surchargeItem_charged
    apply surchargeItem_charged
    split
    · exact surchargeItem_charged builtIn
    · exact builtIn
  · apply surchargeItem_charged
    split
    · exact surchargeItem_charged builtIn
    · exact builtIn

theorem mergeToolSurchargeItem_charged {merged : List ToolSurchargeItem} {item : ToolSurchargeItem}
    (charged : ∀ other ∈ merged, other.Charged) (itemCharged : item.Charged) :
    ∀ other ∈ mergeToolSurchargeItem merged item, other.Charged := by
  cases merged with
  | nil => simpa [mergeToolSurchargeItem] using itemCharged
  | cons last _ =>
    have lastCharged := charged last (by simp)
    simp only [mergeToolSurchargeItem]
    split
    · intro other inMerged
      rcases List.mem_cons.mp inMerged with rfl | isIn
      · refine ⟨?_, lastCharged.price⟩
        have lastCount := lastCharged.count
        have itemCount := itemCharged.count
        have bound : 0 < maxInt := by decide
        by_cases exceeds : item.count > maxInt - last.count
        · simp only [if_pos exceeds]
          exact bound
        · simp only [if_neg exceeds]
          omega
      · exact charged other (by simp [isIn])
    · intro other inMerged
      rcases List.mem_cons.mp inMerged with rfl | inOld
      · exact itemCharged
      · exact charged other inOld

theorem foldl_merge_charged (items merged : List ToolSurchargeItem)
    (itemsCharged : ∀ item ∈ items, item.Charged) (charged : ∀ item ∈ merged, item.Charged) :
    ∀ item ∈ items.foldl mergeToolSurchargeItem merged, item.Charged := by
  induction items generalizing merged with
  | nil => exact charged
  | cons item _ ih =>
    apply ih
    · intro other isIn
      exact itemsCharged other (by simp [isIn])
    · exact mergeToolSurchargeItem_charged charged (itemsCharged item (by simp))

theorem mergeToolSurchargeItems_charged {items : List ToolSurchargeItem}
    (charged : ∀ item ∈ items, item.Charged) :
    ∀ item ∈ mergeToolSurchargeItems items, item.Charged := by
  intro item inMerged
  simp only [mergeToolSurchargeItems, List.mem_reverse] at inMerged
  refine foldl_merge_charged _ [] ?_ (by simp) item inMerged
  intro other inSorted
  exact charged other (by simpa using inSorted)

theorem foldl_surcharge_nonneg {groupRatio : ℚ} (unitNonneg : 0 ≤ cfg.quotaPerUnit)
    (groupNonneg : 0 ≤ groupRatio) (items : List ToolSurchargeItem) (start : ℚ)
    (startNonneg : 0 ≤ start) (charged : ∀ item ∈ items, item.Charged) :
    0 ≤ items.foldl (fun surcharge item => surcharge + item.quota cfg groupRatio) start := by
  induction items generalizing start with
  | nil => exact startNonneg
  | cons item _ ih =>
    apply ih
    · have itemCharged := charged item (by simp)
      have cost : (0 : ℚ) ≤ item.price * item.count := by
        have count : (0 : ℚ) ≤ item.count := by exact_mod_cast itemCharged.count.le
        exact mul_nonneg itemCharged.price.le count
      have divided : 0 ≤ decimalDiv (item.price * item.count) 1000 :=
        Rounding.quotientAt_nonneg cost (by norm_num)
      have quota : 0 ≤ item.quota cfg groupRatio :=
        mul_nonneg (mul_nonneg divided groupNonneg) unitNonneg
      linarith
    · intro other isIn
      exact charged other (by simp [isIn])

theorem surcharge_nonneg (ctx : RequestContext) (info : RelayInfo)
    {groupRatio : ℚ} (unitNonneg : 0 ≤ cfg.quotaPerUnit) (groupNonneg : 0 ≤ groupRatio) :
    0 ≤ (calculateTextToolCallSurcharge cfg ctx info groupRatio).2 :=
  foldl_surcharge_nonneg unitNonneg groupNonneg _ 0 le_rfl
    (mergeToolSurchargeItems_charged (collectToolCalls_charged cfg ctx info))

/-- No part of the price is negative. The ratios of tokens may be anything. -/
structure ConsumeRequest.PricesNonneg (req : ConsumeRequest) : Prop where
  unit : 0 ≤ req.settings.quotaPerUnit
  groupRatio : 0 ≤ req.relayInfo.priceData.groupRatioInfo.groupRatio
  modelPrice : req.relayInfo.priceData.usePrice = true →
    0 ≤ req.relayInfo.priceData.modelPrice
  snapshot : ∀ snapshot ∈ req.relayInfo.tieredBillingSnapshot,
    0 ≤ snapshot.groupRatio ∧ 0 ≤ snapshot.channelRatio ∧ 0 ≤ snapshot.quotaPerUnit ∧
      0 ≤ snapshot.estimatedQuotaAfterGroup
  cost : ∀ expr hash params input cost tier,
    req.settings.runExpr expr hash params input = some (cost, tier) → 0 ≤ cost

theorem getGeminiInputAudioPrice_nonneg (model : String) :
    0 ≤ getGeminiInputAudioPricePerMillionTokens model := by
  unfold getGeminiInputAudioPricePerMillionTokens
  split_ifs <;> norm_num

theorem audioInputQuota_nonneg (unit : 0 ≤ cfg.quotaPerUnit) (groupRatio : 0 ≤ summary.groupRatio)
    (audioTokens : 0 ≤ summary.audioTokens) (audioPrice : 0 ≤ summary.audioInputPrice) :
    0 ≤ summary.audioInputQuota cfg := by
  unfold TextQuotaSummary.audioInputQuota
  split
  · have divided : 0 ≤ decimalDiv summary.audioInputPrice 1000000 :=
      Rounding.quotientAt_nonneg audioPrice (by norm_num)
    have tokens : (0 : ℚ) ≤ summary.audioTokens := by exact_mod_cast audioTokens
    exact mul_nonneg (mul_nonneg (mul_nonneg divided tokens) groupRatio) unit
  · exact le_rfl

theorem quotaDecimal_nonneg {price : PriceData} (separate : Bool) (unit : 0 ≤ cfg.quotaPerUnit)
    (groupRatio : 0 ≤ summary.groupRatio) (channelRatio : 0 ≤ summary.channelRatio)
    (modelPrice : price.usePrice = true → 0 ≤ summary.modelPrice)
    (audio : 0 ≤ summary.audioInputQuota cfg) (surcharge : 0 ≤ summary.toolCallSurchargeQuota) :
    0 ≤ summary.quotaDecimal cfg price separate := by
  have factor := price.otherRatioMultiplier_pos.le
  simp only [TextQuotaSummary.quotaDecimal, price.applyOtherRatiosToDecimal_eq]
  cases usePrice : price.usePrice with
  | true =>
    have base : 0 ≤ summary.callQuota cfg :=
      mul_nonneg (mul_nonneg (modelPrice usePrice) unit) groupRatio
    simp only [Bool.true_eq_false, false_and, if_false, if_true]
    exact mul_nonneg (add_nonneg (mul_nonneg base factor) surcharge) channelRatio
  | false =>
    simp only [Bool.false_eq_true, if_false, true_and]
    split
    next => norm_num
    next kept =>
      by_cases charges : summary.chargeRatio = 0
      · rcases mul_eq_zero.mp charges with ratioZero | channelZero
        · have base : summary.tokenQuota cfg separate = summary.audioInputQuota cfg := by
            simp [TextQuotaSummary.tokenQuota, ratioZero]
          rw [base]
          exact mul_nonneg (add_nonneg (mul_nonneg audio factor) surcharge) channelRatio
        · rw [channelZero, mul_zero]
      · simp only [ne_eq, charges, not_false_eq_true, true_and, not_le] at kept
        exact kept.le

theorem tieredPrice_nonneg {req : ConsumeRequest} (prices : req.PricesNonneg)
    (channelRatio : 0 ≤ summary.channelRatio) (surcharge : 0 ≤ summary.toolCallSurchargeQuota)
    (acts : tryTieredSettle req.settings req.relayInfo params = some (tieredQuota, tieredResult)) :
    0 ≤ tieredPrice req.relayInfo summary tieredQuota tieredResult := by
  rcases tryTieredSettle_eq_some acts with ⟨snap, found, fallback | priced⟩
  · rcases prices.snapshot snap found with ⟨_, _, _, _⟩
    rcases fallback with ⟨rfl, quotaEq⟩
    have quota : 0 ≤ tieredQuota := by
      rw [quotaEq]
      split <;> omega
    have cast : (0 : ℚ) ≤ tieredQuota := by exact_mod_cast quota
    exact add_nonneg cast (mul_nonneg surcharge channelRatio)
  · rcases prices.snapshot snap found with ⟨groupRatio, snapshotChannel, unit, _⟩
    rcases priced with ⟨result, _, _, _, rfl, ran, beforeEq, _⟩
    have costNonneg := prices.cost _ _ _ _ _ _ ran
    have past : 0 ≤ result.actualQuotaBeforeGroup := by
      rw [beforeEq]
      exact mul_nonneg (div_nonneg costNonneg (by norm_num)) unit
    have effective : 0 ≤ snap.effectiveChannelRatio := by
      unfold BillingSnapshot.effectiveChannelRatio
      split
      · norm_num
      · exact snapshotChannel
    simp only [tieredPrice, found]
    split
    · exact mul_nonneg (mul_nonneg past groupRatio) effective
    · exact mul_nonneg (add_nonneg (mul_nonneg past groupRatio) surcharge) channelRatio

theorem ConsumeRequest.PricesNonneg.exactPrice {req : ConsumeRequest} (prices : req.PricesNonneg)
    (audioTokens : 0 ≤ req.billedUsage.promptTokensDetails.audioTokens) :
    0 ≤ req.exactPrice := by
  have channelRatio := req.relayInfo.priceData.getChannelRatio_nonneg
  have surcharge := surcharge_nonneg req.ctx req.relayInfo prices.unit prices.groupRatio
  simp only [ConsumeRequest.exactPrice]
  split
  next tiered =>
    unfold tieredSettlement at tiered
    split at tiered
    next => simp at tiered
    next => exact tieredPrice_nonneg prices channelRatio surcharge tiered
  next =>
    split
    · refine quotaDecimal_nonneg _ prices.unit prices.groupRatio channelRatio
        prices.modelPrice ?_ surcharge
      refine audioInputQuota_nonneg prices.unit prices.groupRatio audioTokens ?_
      simp only [calculateTextQuotaSummary, unpricedSummary]
      split
      · exact getGeminiInputAudioPrice_nonneg _
      · exact le_rfl
    · exact le_rfl

/-! ## The validation is the only source of a conflict -/

theorem updateOne_ne_error {Row : Type} [Keyed Row ℤ] {result : UpdateResult Row}
    {err other : ModelError} (apart : err ≠ other) :
    updateOne result err ≠ .error other := by
  unfold updateOne
  split
  · simpa using apart
  · simp

theorem adjustToken_ne_conflict (faults : SettleFaults) (op : BillingOperation)
    (settlement : BillingOperationSettlement) (tokens : Table Token) :
    adjustToken faults op settlement tokens ≠ .error .billingOperationFingerprintConflict := by
  simp only [adjustToken]
  split
  · split
    · simp
    · split <;> exact updateOne_ne_error (by decide)
  · simp

theorem countUserUsage_ne_conflict (faults : SettleFaults) (op : BillingOperation)
    (settlement : BillingOperationSettlement) (users : Table User) :
    countUserUsage faults op settlement users ≠ .error .billingOperationFingerprintConflict := by
  simp only [countUserUsage]
  split
  · split
    · simp
    · exact updateOne_ne_error (by decide)
  · simp

theorem countChannelUsage_ne_conflict (faults : SettleFaults) (op : BillingOperation)
    (settlement : BillingOperationSettlement) (chans : Table Model.Channel) :
    countChannelUsage faults op settlement chans ≠ .error .billingOperationFingerprintConflict := by
  simp only [countChannelUsage]
  split
  · split
    · simp
    · split
      · split <;> simp
      · exact updateOne_ne_error (by decide)
  · simp

theorem leaveReserved_ne_conflict {fails : Bool} {op : BillingOperation}
    {fingerprint text : String} {change : RowUpdate BillingOperation}
    {ops : Table BillingOperation} :
    leaveReserved fails op fingerprint change (.message text) ops ≠
      .error .billingOperationFingerprintConflict := by
  simp only [leaveReserved]
  split
  · simp
  · exact updateOne_ne_error (by simp)

theorem createOutbox_ne_conflict (faults : SettleFaults) (op : BillingOperation)
    (settlement : BillingOperationSettlement) (outboxes : Table BillingOperationLogOutbox) :
    createOutbox faults op settlement outboxes ≠ .error .billingOperationFingerprintConflict := by
  simp only [createOutbox]
  split <;> simp

theorem checkpoint_ne_conflict (now : ℤ) (fails : Bool) (opId : ℤ)
    (checkpoint : Option ManagedContextOutcomeCheckpoint) (outcomes : Table ManagedContextOutcome) :
    applyManagedContextOutcomeCheckpoint now fails opId checkpoint outcomes ≠
      .error .billingOperationFingerprintConflict := by
  cases checkpoint with
  | none => simp [applyManagedContextOutcomeCheckpoint]
  | some checkpoint =>
    simp only [applyManagedContextOutcomeCheckpoint]
    split
    · simp
    · cases updates : checkpoint.updates opId with
      | error _ =>
        simp only [ManagedContextOutcomeCheckpoint.updates] at updates
        intro conflict
        simp only [Except.error.injEq] at conflict
        subst conflict
        split at updates
        · split at updates <;> simp at updates
        · split at updates <;> simp at updates
        · simp at updates
      | ok _ =>
        simp only
        split
        · simp
        · split <;> simp

theorem settleBillingOperation_conflict_iff {now : ℤ} {faults : SettleFaults} {fingerprint : String}
    {settlement : BillingOperationSettlement} {op : BillingOperation} {db : Database}
    (loads : faults.load = false) (valid : operationArgumentsInvalid op.id fingerprint = false)
    (found : db.operations.find? op.id = some op) (held : op.state = .reserved)
    (own : op.fingerprint = fingerprint) :
    (settleBillingOperation now faults op.id fingerprint settlement db).1.error =
        some .billingOperationFingerprintConflict ↔
      settlement.accepted op = false := by
  have locked : settleLocked now faults fingerprint settlement op db =
        .error .billingOperationFingerprintConflict ↔
      settlement.accepted op = false := by
    simp only [settleLocked, own, ne_eq, not_true_eq_false, if_false, held, reduceCtorEq]
    cases accepted : settlement.accepted op with
    | false => simp
    | true =>
      simp only [Bool.not_true, Bool.false_eq_true, if_false, Bool.true_eq_false, iff_false]
      split
      · simp
      · simp only [Fallible.bind_eq_error, adjustToken_ne_conflict, false_or,
          countUserUsage_ne_conflict, countChannelUsage_ne_conflict, leaveReserved_ne_conflict,
          createOutbox_ne_conflict, checkpoint_ne_conflict, pure, Except.pure, reduceCtorEq,
          and_false, exists_false, not_false_eq_true]
  rw [← locked]
  simp only [settleBillingOperation, valid, loads, found, Bool.false_eq_true, if_false]
  cases settles : settleLocked now faults fingerprint settlement op db with
  | error _ => simp
  | ok reply =>
    rcases reply with ⟨_, _, _⟩
    simp only
    split <;> simp

/-! ## Which requests settle -/

namespace ConsumeRequest

/-- OpenRouter bills the request with Claude's semantics, and there are cached tokens or
cache creation tokens, reported or inferred from the cost. -/
def removesCachedTokens (req : ConsumeRequest) : Bool :=
  isOpenRouterClaudeBilling req.relayInfo req.usage &&
    (req.billedUsage.promptTokensDetails.cachedTokens ≠ 0 ||
      openRouterCacheCreationTokens req.settings req.relayInfo req.billedUsage ≠ 0)

def ReportNonNegative (req : ConsumeRequest) : Prop :=
  ∀ usage ∈ req.reported, usage.NonNegative

theorem openRouterCacheCreationTokens_nonneg (cfg : Settings) (info : RelayInfo)
    (usage : Usage) : 0 ≤ openRouterCacheCreationTokens cfg info usage := by
  have total := usage.promptTokensDetails.cacheCreationTokensTotal_nonneg
  simp only [openRouterCacheCreationTokens]
  split
  · split
    next fits => exact fits.1
    next => exact total
  · exact total

theorem ReportNonNegative.cachedTokens {req : ConsumeRequest} (nonneg : req.ReportNonNegative) :
    0 ≤ req.billedUsage.promptTokensDetails.cachedTokens := by
  unfold ConsumeRequest.billedUsage ConsumeRequest.usage
  cases reported : req.reported with
  | none => exact Int.le_refl 0
  | some usage => exact effectiveBillingUsage_cachedTokens (nonneg usage reported)

theorem removedTokens_eq_zero_iff {req : ConsumeRequest}
    (cached : 0 ≤ req.billedUsage.promptTokensDetails.cachedTokens) :
    req.removedTokens = 0 ↔ req.removesCachedTokens = false := by
  have created := openRouterCacheCreationTokens_nonneg req.settings req.relayInfo req.billedUsage
  simp only [removedTokens, removesCachedTokens]
  cases isOpenRouterClaudeBilling req.relayInfo req.usage with
  | false => simp
  | true =>
    simp only [if_true, Bool.true_and, Bool.or_eq_false_iff, decide_eq_false_iff_not, ne_eq,
      not_not]
    omega

end ConsumeRequest

/-- The settlement of a request with a non-negative report passes the validation of its own
operation, and settling it reports no conflict, exactly when no cached tokens were taken out
of the prompt for OpenRouter, the billed prompt and completion are not negative and have a
sum, and the price does not round below zero. The last never happens with prices that have no
negative part, nor the second in a small report whose figures agree. -/
theorem text_settlement_accepted_iff (req : ConsumeRequest) (op : BillingOperation)
    (owns : req.Owns op) (nonneg : req.ReportNonNegative) (ints : req.RemovesInts) :
    (req.settlement.accepted op = true ↔
      req.removesCachedTokens = false ∧ req.billedUsage.totalFits = true ∧
        -(1 / 2) < req.exactPrice) ∧
    (∀ (now : ℤ) (faults : SettleFaults) (db : Database), faults.load = false →
      operationArgumentsInvalid op.id op.fingerprint = false →
      db.operations.find? op.id = some op → op.state = .reserved →
      ((settleBillingOperation now faults op.id op.fingerprint
          req.settlement db).1.error ≠ some .billingOperationFingerprintConflict ↔
        req.removesCachedTokens = false ∧ req.billedUsage.totalFits = true ∧
          -(1 / 2) < req.exactPrice)) ∧
    (req.PricesNonneg → 0 ≤ req.billedUsage.promptTokensDetails.audioTokens →
      -(1 / 2) < req.exactPrice) ∧
    (∀ usage ∈ req.reported, usage.Small →
      (req.billedUsage.totalFits = true ↔ usage.totalBelowPrompt = false)) := by
  have quota : 0 ≤ req.summary.quota ↔ -(1 / 2) < req.exactPrice := by
    rw [← not_lt, req.quota_neg_iff, not_le]
  have removed := ConsumeRequest.removedTokens_eq_zero_iff nonneg.cachedTokens
  have accepted : req.settlement.accepted op = true ↔
      req.removesCachedTokens = false ∧ req.billedUsage.totalFits = true ∧
        -(1 / 2) < req.exactPrice := by
    rw [ConsumeRequest.accepted_iff owns ints, quota, removed]
    constructor
    · rintro ⟨priced, fits, kept⟩
      exact ⟨kept, fits, priced⟩
    · rintro ⟨kept, fits, priced⟩
      exact ⟨priced, fits, kept⟩
  refine ⟨accepted, ?_, ?_, ?_⟩
  · intro _ _ _ loads valid found held
    rw [← accepted, ne_eq, settleBillingOperation_conflict_iff loads valid found held rfl]
    simp
  · intro prices audio
    have := prices.exactPrice audio
    linarith
  · intro usage reported small
    have billed : req.billedUsage = effectiveBillingUsage usage := by
      simp [ConsumeRequest.billedUsage, ConsumeRequest.usage, Option.mem_def.mp reported]
    rw [billed]
    exact totalFits_iff (nonneg usage reported) small

/-! ## Sample requests -/

def samplePriceData : PriceData where
  freeModel := false
  modelPrice := 0
  modelRatio := 1
  completionRatio := 1
  cacheRatio := 1 / 10
  cacheCreationRatio := 1
  cacheCreation5mRatio := 1
  cacheCreation1hRatio := 1
  imageRatio := 1
  audioRatio := 1
  audioCompletionRatio := 1
  otherRatios := []
  usePrice := false
  channelRatio := 1
  channelRatioSet := true
  quota := 0
  quotaToPreConsume := 30
  groupRatioInfo := ⟨1, -1, false⟩

def sampleSettings : Settings where
  quotaPerUnit := 500000
  toolPriceForModel tool _ := if tool = "web_search" then 10 else 0
  defaultModelRatio _ := none
  usedVars _ _ := false
  runExpr _ _ _ _ := none

def sampleRelayInfo (channelType : ℤ) : RelayInfo where
  userId := 3
  tokenId := 7
  channelId := 5
  channelType := channelType
  tokenUnlimited := false
  isPlayground := false
  isStream := false
  usingGroup := "default"
  originModelName := "claude"
  startTime := 0
  relayMode := .other 1
  relayFormat := .openAI
  requestConversionChain := []
  finalRequestRelayFormat := none
  estimatePromptTokens := 8
  builtInTools := []
  priceData := samplePriceData
  tieredBillingSnapshot := none
  billingRequestInput := none
  finalPreConsumedQuota := 30
  managedOutcomeCheckpoint := none

def sampleUsage : UpstreamUsage where
  promptTokens := 10
  completionTokens := 2
  totalTokens := 12
  usageSemantic := "anthropic"
  promptTokensDetails := { cachedTokens := 4 }

def sampleConsume (channelType : ℤ) (webSearches : ℤ) (reported : Option UpstreamUsage) :
    ConsumeRequest where
  settings := sampleSettings
  ctx := ⟨"token", webSearches, false, 1⟩
  logContext := ⟨true, false, "user", "request", "upstream", 0, ""⟩
  relayInfo := sampleRelayInfo channelType
  reported := reported
  render _ := ("", "")

def sampleOperation : BillingOperation :=
  newBillingOperation sampleRequest ⟨"lookup", "owner", "conversation", "v1"⟩ 1

theorem sampleUsage_nonneg : sampleUsage.NonNegative where
  reported := by constructor <;> decide
  figures := by simp [sampleUsage]

theorem text_settlement_accepted_iff_sample :
    (sampleConsume 14 0 (some sampleUsage)).settlement.accepted sampleOperation = true := by
  refine (text_settlement_accepted_iff (sampleConsume 14 0 (some sampleUsage)) sampleOperation
    ⟨rfl, rfl, rfl⟩ ?_ ?_).1.mpr ?_
  · intro _ reported
    simp only [sampleConsume, Option.mem_def, Option.some.injEq] at reported
    rw [← reported]
    exact sampleUsage_nonneg
  · unfold ConsumeRequest.RemovesInts
    decide +kernel
  · decide +kernel

/-- The same usage from OpenRouter is refused by the validation of the operation that was
reserved for it. -/
theorem openRouter_settlement_refused :
    ¬∀ (req : ConsumeRequest) (op : BillingOperation), req.Owns op →
      req.ReportNonNegative → req.RemovesInts → req.PricesNonneg →
      req.settlement.accepted op = true := by
  intro accepts
  have accepted := accepts (sampleConsume channelTypeOpenRouter 0 (some sampleUsage))
    sampleOperation ⟨rfl, rfl, rfl⟩
    (by
      intro _ reported
      simp only [sampleConsume, Option.mem_def, Option.some.injEq] at reported
      rw [← reported]
      exact sampleUsage_nonneg)
    (by
      unfold ConsumeRequest.RemovesInts
      decide +kernel)
    ⟨by decide, by decide, by decide,
      by simp [sampleConsume, sampleRelayInfo], by simp [sampleConsume, sampleSettings]⟩
  revert accepted
  decide +kernel

end NewApi.Service
