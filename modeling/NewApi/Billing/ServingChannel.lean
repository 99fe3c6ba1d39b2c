import NewApi.Billing.TextSettlement
import NewApi.Relay.Retry
import NewApi.Service.PricingSnapshot

/-!
# The price of the serving channel

A request is priced for the channel that was selected first, and may be served by another.
-/

namespace NewApi.Relay

open NewApi.Dto NewApi.Types NewApi.Service NewApi.Model

/-! ## What settlement reads of a price -/

def erasedSnapshot (snap : BillingSnapshot) : BillingSnapshot :=
  { snap with
    estimatedPromptTokens := 0
    estimatedCompletionTokens := 0
    estimatedQuotaBeforeGroup := 0
    estimatedQuotaAfterGroup := 0
    estimatedTier := "" }

def erased (info : RelayInfo) : RelayInfo :=
  { info with
    usingGroup := ""
    finalPreConsumedQuota := 0
    priceData := { info.priceData with freeModel := false, quotaToPreConsume := 0 }
    tieredBillingSnapshot := info.tieredBillingSnapshot.map erasedSnapshot }

def regrouped (info : RelayInfo) (group : GroupRatioInfo) : RelayInfo :=
  { info with
    priceData := { info.priceData with groupRatioInfo := group }
    tieredBillingSnapshot :=
      info.tieredBillingSnapshot.map ({ · with groupRatio := group.groupRatio }) }

theorem calculateTextQuotaSummary_erased (cfg : Settings) (ctx : RequestContext)
    (info : RelayInfo) (told : Option Usage) :
    calculateTextQuotaSummary cfg ctx (erased info) told =
      calculateTextQuotaSummary cfg ctx info told :=
  rfl

/-- The expression that a request is billed by, if any, has a value for its usage. -/
def Evaluates (cfg : Settings) (info : RelayInfo) (told : Option Usage)
    (isClaudeUsageSemantic : Bool) : Prop :=
  ∀ tieredQuota tieredResult, tieredSettlement cfg info told isClaudeUsageSemantic =
      some (tieredQuota, tieredResult) → tieredResult ≠ none

def fallbackQuota (info : RelayInfo) (snap : BillingSnapshot) : ℤ :=
  if info.finalPreConsumedQuota ≤ 0 then snap.estimatedQuotaAfterGroup
  else info.finalPreConsumedQuota

/-- The terms of a snapshot: what a settlement that has a cost reads of it. -/
structure SameTerms (left right : BillingSnapshot) : Prop where
  mode : left.billingMode = right.billingMode
  expr : left.exprString = right.exprString
  hash : left.exprHash = right.exprHash
  group : left.groupRatio = right.groupRatio
  channel : left.effectiveChannelRatio = right.effectiveChannelRatio
  unit : left.quotaPerUnit = right.quotaPerUnit

theorem sameTerms_of_erased {left right : BillingSnapshot}
    (same : erasedSnapshot left = erasedSnapshot right) : SameTerms left right := by
  simp only [erasedSnapshot, BillingSnapshot.mk.injEq, true_and] at same
  rcases same with ⟨mode, _, expr, hash, group, chan, channelSet, unit, _⟩
  exact ⟨mode, expr, hash, group, by simp only [BillingSnapshot.effectiveChannelRatio, chan,
    channelSet], unit⟩

theorem tryTieredSettle_of_cost {cfg : Settings} {info : RelayInfo}
    {snap : BillingSnapshot} {params : TokenParams} {cost : ℚ} {tier : String}
    (found : info.tieredBillingSnapshot = some snap)
    (mode : snap.billingMode = "tiered_expr")
    (ran : cfg.runExpr snap.exprString snap.exprHash params
      (info.billingRequestInput.getD {}) = some (cost, tier)) :
    ∃ result, result.actualQuotaBeforeGroup = cost / 1000000 * snap.quotaPerUnit ∧
      tryTieredSettle cfg info params =
        some (quotaRound (cost / 1000000 * snap.quotaPerUnit * snap.groupRatio *
          snap.effectiveChannelRatio), some result) := by
  refine ⟨⟨cost / 1000000 * snap.quotaPerUnit, quotaRound (cost / 1000000 * snap.quotaPerUnit *
    snap.groupRatio * snap.effectiveChannelRatio), tier, tier ≠ snap.estimatedTier⟩, rfl, ?_⟩
  simp only [tryTieredSettle, found, mode, ne_eq, not_true_eq_false, if_false,
    computeTieredQuotaWithRequest, ran]

theorem tryTieredSettle_of_failure {cfg : Settings} {info : RelayInfo}
    {snap : BillingSnapshot} {params : TokenParams}
    (found : info.tieredBillingSnapshot = some snap)
    (mode : snap.billingMode = "tiered_expr")
    (failed : cfg.runExpr snap.exprString snap.exprHash params
      (info.billingRequestInput.getD {}) = none) :
    tryTieredSettle cfg info params = some (fallbackQuota info snap, none) := by
  simp only [tryTieredSettle, found, mode, ne_eq, not_true_eq_false, if_false,
    computeTieredQuotaWithRequest, failed, fallbackQuota]

theorem settledQuota_congr {cfg : Settings} {ctx : RequestContext} {left right : RelayInfo}
    {told : Option Usage} (same : erased left = erased right)
    (settles : Evaluates cfg left told
        (calculateTextQuotaSummary cfg ctx left told).isClaudeUsageSemantic ∨
      left.tieredBillingSnapshot.map (fallbackQuota left) =
        right.tieredBillingSnapshot.map (fallbackQuota right)) :
    (settledSummary cfg ctx left told).1.quota = (settledSummary cfg ctx right told).1.quota := by
  have summaries : calculateTextQuotaSummary cfg ctx right told =
      calculateTextQuotaSummary cfg ctx left told := by
    rw [← calculateTextQuotaSummary_erased, ← same, calculateTextQuotaSummary_erased]
  have snapshots := congrArg RelayInfo.tieredBillingSnapshot same
  have inputs : left.billingRequestInput = right.billingRequestInput := by
    have fields := congrArg RelayInfo.billingRequestInput same
    exact fields
  simp only [erased] at snapshots
  simp only [settledSummary, summaries]
  generalize calculateTextQuotaSummary cfg ctx left told = summary at settles ⊢
  cases told with
  | none => rfl
  | some usage =>
    cases atLeft : left.tieredBillingSnapshot with
    | none =>
      have atRight : right.tieredBillingSnapshot = none := by
        simpa [atLeft] using snapshots.symm
      simp [tieredSettlement, tryTieredSettle, atLeft, atRight]
    | some old =>
      obtain ⟨new, atRight, erasedEq⟩ : ∃ new, right.tieredBillingSnapshot = some new ∧
          erasedSnapshot new = erasedSnapshot old := by
        simpa [atLeft] using snapshots.symm
      have terms := sameTerms_of_erased erasedEq
      by_cases mode : old.billingMode = "tiered_expr"
      · have newMode := terms.mode.trans mode
        simp only [tieredSettlement, atLeft, atRight, Option.any_some, terms.expr]
        obtain ⟨params, paramsEq⟩ : ∃ params, buildTieredTokenParams usage
            summary.isClaudeUsageSemantic (fun name => cfg.usedVars old.exprString name) =
          params := ⟨_, rfl⟩
        rw [paramsEq]
        cases ran : cfg.runExpr old.exprString old.exprHash params
            (left.billingRequestInput.getD {}) with
        | none =>
          have newRan := ran
          rw [← terms.expr, ← terms.hash, inputs] at newRan
          have failed := tryTieredSettle_of_failure atLeft mode ran
          rw [failed, tryTieredSettle_of_failure atRight newMode newRan]
          rcases settles with evaluates | fallback
          · have run : tieredSettlement cfg left (some usage)
                summary.isClaudeUsageSemantic = some (fallbackQuota left old, none) := by
              simp only [tieredSettlement, atLeft, Option.any_some, paramsEq, failed]
            exact absurd rfl (evaluates _ _ run)
          · simp only [atLeft, atRight, Option.map_some, Option.some.injEq] at fallback
            simp only [composeTieredTextQuota, fallback]
        | some reply =>
          rcases reply with ⟨_, _⟩
          have newRan := ran
          rw [← terms.expr, ← terms.hash, inputs] at newRan
          rcases tryTieredSettle_of_cost atLeft mode ran with ⟨_, before, settled⟩
          rcases tryTieredSettle_of_cost atRight newMode newRan with
            ⟨newResult, newBefore, newSettled⟩
          rw [settled, newSettled]
          simp only [composeTieredTextQuota, atLeft, atRight, before, newBefore,
            terms.unit, terms.group, terms.channel]
      · simp [tieredSettlement, tryTieredSettle, atLeft, atRight, terms.mode, mode]

/-! ## What a price is made of -/

def ungrouped (price : PriceData) : PriceData :=
  { price with freeModel := false, quotaToPreConsume := 0, groupRatioInfo := ⟨0, 0, false⟩ }

theorem addOtherRatio_ungrouped (price : PriceData) (key : String) (ratio : ℚ) :
    ungrouped (price.addOtherRatio key ratio) = (ungrouped price).addOtherRatio key ratio := by
  simp only [PriceData.addOtherRatio]
  split <;> rfl

theorem foldl_addOtherRatio_ungrouped (ratios : List (String × ℚ)) (price : PriceData) :
    ungrouped (ratios.foldl (fun price ratio => price.addOtherRatio ratio.1 ratio.2) price) =
      ratios.foldl (fun price ratio => price.addOtherRatio ratio.1 ratio.2) (ungrouped price) := by
  induction ratios generalizing price with
  | nil => rfl
  | cons _ _ ih =>
    rw [List.foldl_cons, List.foldl_cons, ih, addOtherRatio_ungrouped]

theorem foldl_addOtherRatio_group (ratios : List (String × ℚ)) (price : PriceData) :
    (ratios.foldl (fun price ratio => price.addOtherRatio ratio.1 ratio.2) price).groupRatioInfo =
      price.groupRatioInfo := by
  induction ratios generalizing price with
  | nil => rfl
  | cons _ _ ih =>
    rw [List.foldl_cons, ih]
    simp only [PriceData.addOtherRatio]
    split <;> rfl

section Pricing

variable {prices : PriceSettings} {cfg : Settings} {req : Request}
  {tokenCount : TokenCountMeta} {promptTokens : ℤ}

/-- The price of a model by its tokens or by the call, whatever the group. -/
def fixedPrice (prices : PriceSettings) (tokenCount : TokenCountMeta) (model : String)
    (channelRatio : ℚ) : PriceData :=
  if (prices.modelFixedPrice model).2 then
    ungrouped (callPrice prices tokenCount model ⟨0, 0, false⟩ channelRatio)
  else
    ungrouped (tokenPrice prices model ⟨0, 0, false⟩ channelRatio)

theorem callPrice_ungrouped (model : String) (group other : GroupRatioInfo) (channelRatio : ℚ) :
    ungrouped (callPrice prices tokenCount model group channelRatio) =
      ungrouped (callPrice prices tokenCount model other channelRatio) := by
  simp only [callPrice, foldl_addOtherRatio_ungrouped]
  rfl

/-- What a snapshot says of a model that is billed by an expression, whatever the group. -/
def exprTerms (prices : PriceSettings) (cfg : Settings) (model exprString : String)
    (groupRatio channelRatio : ℚ) : BillingSnapshot where
  billingMode := "tiered_expr"
  modelName := model
  exprString := exprString
  exprHash := prices.exprHash exprString
  groupRatio := groupRatio
  channelRatio := channelRatio
  channelRatioSet := true
  estimatedPromptTokens := 0
  estimatedCompletionTokens := 0
  estimatedQuotaBeforeGroup := 0
  estimatedQuotaAfterGroup := 0
  estimatedTier := ""
  quotaPerUnit := cfg.quotaPerUnit
  exprVersion := prices.exprVersion exprString

/-- How a price is made. -/
inductive Priced (prices : PriceSettings) (cfg : Settings) (req : Request)
    (tokenCount : TokenCountMeta) (model : String) (group : GroupRatioInfo)
    (channelRatio : ℚ) (info priced : RelayInfo) : Prop where
  | byExpr (exprString : String) (input : RequestInput) (snap : BillingSnapshot)
      (billed : prices.billedByExpr model = true)
      (expr : prices.billingExpr model = some exprString)
      (resolved : resolveIncomingBillingExprRequestInput req info = some input)
      (terms : erasedSnapshot snap =
        exprTerms prices cfg model exprString group.groupRatio channelRatio)
      (price : ungrouped priced.priceData =
        { zeroPriceData with channelRatio := channelRatio, channelRatioSet := true })
      (pricedGroup : priced.priceData.groupRatioInfo = group)
      (pricedEq : priced =
        { info with
          tieredBillingSnapshot := some snap
          billingRequestInput := some input
          priceData := priced.priceData })
  | fixed (billed : prices.billedByExpr model = false)
      (price : ungrouped priced.priceData = fixedPrice prices tokenCount model channelRatio)
      (pricedGroup : priced.priceData.groupRatioInfo = group)
      (pricedEq : priced = { info with priceData := priced.priceData })

theorem priceByName_priced {model : String} {group : GroupRatioInfo} {channelRatio : ℚ}
    {info priced : RelayInfo}
    (done : priceByName prices cfg req tokenCount promptTokens model group
      channelRatio info = some priced) :
    Priced prices cfg req tokenCount model group channelRatio info priced := by
  simp only [priceByName] at done
  split at done
  next billed =>
    simp only [modelPriceHelperTiered, Option.bind_eq_bind, Option.bind_eq_some_iff, pure,
      Option.some.injEq] at done
    rcases done with ⟨exprString, expr, input, resolved, ⟨_, _⟩, _, _, _, rfl⟩
    exact .byExpr exprString input _ billed expr resolved rfl rfl rfl rfl
  next notExpr =>
    have billed : prices.billedByExpr model = false := by simpa using notExpr
    split at done
    next perCall =>
      simp only [Option.bind_eq_bind, Option.bind_eq_some_iff, pure, Option.some.injEq] at done
      rcases done with ⟨quota, _, rfl⟩
      refine .fixed billed ?_ ?_ rfl
      · rw [fixedPrice, if_pos perCall]
        exact callPrice_ungrouped model group _ channelRatio
      · exact foldl_addOtherRatio_group _ _
    next perToken =>
      split at done
      next => simp at done
      next =>
        simp only [Option.bind_eq_bind, Option.bind_eq_some_iff, pure, Option.some.injEq] at done
        rcases done with ⟨_, _, rfl⟩
        refine .fixed billed ?_ rfl rfl
        rw [fixedPrice, if_neg perToken]
        rfl

theorem erased_regrouped_priced (info : RelayInfo) (group : GroupRatioInfo) (price : PriceData)
    (snap : Option BillingSnapshot) (input : Option RequestInput) :
    erased (regrouped
        { info with
          priceData := price
          tieredBillingSnapshot := snap
          billingRequestInput := input } group) =
      { erased (regrouped info group) with
        priceData := { ungrouped price with groupRatioInfo := group }
        tieredBillingSnapshot := (snap.map erasedSnapshot).map
          ({ · with groupRatio := group.groupRatio })
        billingRequestInput := input } := by
  simp only [erased, regrouped, ungrouped, Option.map_map]
  rfl

theorem Priced.erased_eq {model : String} {group other : GroupRatioInfo} {channelRatio : ℚ}
    {info otherInfo left right : RelayInfo}
    (pricedLeft : Priced prices cfg req tokenCount model group channelRatio info left)
    (pricedRight : Priced prices cfg req tokenCount model other channelRatio otherInfo right)
    (same : ∀ shared, erased (regrouped info shared) = erased (regrouped otherInfo shared))
    (shared : GroupRatioInfo) :
    erased (regrouped left shared) = erased (regrouped right shared) := by
  have infos := same shared
  have inputs : info.billingRequestInput = otherInfo.billingRequestInput := by
    have fields := congrArg RelayInfo.billingRequestInput infos
    exact fields
  have snapshots : (info.tieredBillingSnapshot.map erasedSnapshot).map
        ({ · with groupRatio := shared.groupRatio }) =
      (otherInfo.tieredBillingSnapshot.map erasedSnapshot).map
        ({ · with groupRatio := shared.groupRatio }) := by
    have fields := congrArg RelayInfo.tieredBillingSnapshot infos
    simp only [erased, regrouped, Option.map_map] at fields ⊢
    exact fields
  obtain ⟨leftPrice, leftPriceEq⟩ : ∃ price, left.priceData = price := ⟨_, rfl⟩
  obtain ⟨rightPrice, rightPriceEq⟩ : ∃ price, right.priceData = price := ⟨_, rfl⟩
  cases pricedLeft with
  | byExpr exprString input snap billed expr done terms price _ pricedEq =>
    cases pricedRight with
    | fixed notBilled => simp [billed] at notBilled
    | byExpr otherString otherInput otherSnapshot _ otherExpr otherResolved otherTerms
        otherPrice _ otherEq =>
        have strings : otherString = exprString := by simpa [expr] using otherExpr.symm
        have inputsEq : otherInput = input := by
          simp only [resolveIncomingBillingExprRequestInput, ← inputs] at otherResolved
          simp only [resolveIncomingBillingExprRequestInput] at done
          simpa [done] using otherResolved.symm
        rw [leftPriceEq] at pricedEq price
        rw [rightPriceEq] at otherEq otherPrice
        have leftEq := erased_regrouped_priced info shared leftPrice (some snap) (some input)
        have rightEq := erased_regrouped_priced otherInfo shared rightPrice (some otherSnapshot)
          (some otherInput)
        rw [price, Option.map_some, terms, infos] at leftEq
        rw [otherPrice, Option.map_some, otherTerms, strings, inputsEq] at rightEq
        rw [pricedEq, otherEq, inputsEq]
        exact leftEq.trans rightEq.symm
  | fixed billed price _ pricedEq =>
    cases pricedRight with
    | byExpr _ _ _ isBilled => simp [billed] at isBilled
    | fixed _ otherPrice _ otherEq =>
      rw [leftPriceEq] at pricedEq price
      rw [rightPriceEq] at otherEq otherPrice
      have leftEq := erased_regrouped_priced info shared leftPrice info.tieredBillingSnapshot
        info.billingRequestInput
      have rightEq := erased_regrouped_priced otherInfo shared rightPrice
        otherInfo.tieredBillingSnapshot otherInfo.billingRequestInput
      rw [price, snapshots, inputs, infos] at leftEq
      rw [otherPrice] at rightEq
      rw [pricedEq, otherEq, inputs]
      exact leftEq.trans rightEq.symm

theorem regrouped_self {info : RelayInfo} {group : GroupRatioInfo}
    (same : info.priceData.groupRatioInfo = group)
    (synced : ∀ snap ∈ info.tieredBillingSnapshot,
      snap.groupRatio = group.groupRatio) : regrouped info group = info := by
  subst same
  cases found : info.tieredBillingSnapshot with
  | none =>
    simp only [regrouped, found, Option.map_none]
    rw [← found]
  | some snap =>
    have current := synced snap found
    simp only [regrouped, found, Option.map_some, ← current]
    rw [← found]

end Pricing

/-! ## Conversions -/

section Converting

variable {prices : PriceSettings} {req : Request}

/-- Ratios are added to the other ratios of a price, whatever the price is. -/
theorem addOtherRatios_eq (ratios : List (String × ℚ)) :
    ∃ join : List (String × ℚ) → List (String × ℚ), ∀ price,
      addOtherRatios ratios price = { price with otherRatios := join price.otherRatios } := by
  induction ratios with
  | nil => exact ⟨id, fun _ => rfl⟩
  | cons ratio rest ih =>
    rcases ih with ⟨join, joins⟩
    have first : ∀ price, addOtherRatios (ratio :: rest) price =
        addOtherRatios rest (price.addOtherRatio ratio.1 ratio.2) := fun _ => rfl
    cases valid : isValidOtherRatio ratio.2 with
    | false =>
      refine ⟨join, fun price => ?_⟩
      simp only [first, PriceData.addOtherRatio, valid, Bool.not_false, if_true, joins]
    | true =>
      refine ⟨fun others => join (ratio :: others.filter (·.1 ≠ ratio.1)), fun price => ?_⟩
      simp only [first, PriceData.addOtherRatio, valid, Bool.not_true, Bool.false_eq_true,
        if_false, joins]

theorem erased_regrouped_converting (ratios : List (String × ℚ)) (info : RelayInfo)
    (group : GroupRatioInfo) : erased (regrouped (converting prices req ratios info) group) =
      converting prices req ratios (erased (regrouped info group)) := by
  rcases addOtherRatios_eq ratios with ⟨join, joins⟩
  simp only [converting, joins]
  rfl

/-- A request that goes by a name of its own keeps it. -/
theorem noThinkingModel_idem (mode : RelayMode) (model : String) :
    noThinkingModel prices req mode (noThinkingModel prices req mode model) =
      noThinkingModel prices req mode model := by
  by_cases renamed : mode = relayModeGemini ∧ req.noThinking ∧
      ¬"-nothinking".toList <:+: model.toList ∧
      prices.hasModelBillingConfig (model ++ "-nothinking")
  · have name : noThinkingModel prices req mode model = model ++ "-nothinking" := if_pos renamed
    rw [name]
    refine if_neg ?_
    rintro ⟨_, _, absent, _⟩
    apply absent
    rw [String.toList_append]
    exact (List.suffix_append _ _).isInfix
  · have name : noThinkingModel prices req mode model = model := if_neg renamed
    rw [name, name]

theorem converting_converting (ratios : List (String × ℚ)) (info : RelayInfo) :
    converting prices req ratios (converting prices req [] info) =
      converting prices req ratios info := by
  have name : noThinkingModelName prices req (converting prices req [] info) =
      noThinkingModelName prices req info := noThinkingModel_idem info.relayMode _
  rw [converting, name]
  rfl

end Converting

/-! ## The price along the loop -/

section Loop

variable {prices : PriceSettings} {req : Request} {info priced : RelayInfo} {s next : RelayState}

/-- A state whose price is that of `priced`, for the selected group. -/
structure Selected (prices : PriceSettings) (req : Request) (info priced : RelayInfo)
    (s : RelayState) : Prop where
  price : ∀ group, erased (regrouped s.info group) = erased (regrouped priced group)
  group : s.info.priceData.groupRatioInfo = handleGroupRatio prices req s.context info
  mode : ∀ snap ∈ s.info.tieredBillingSnapshot, snap.billingMode = "tiered_expr"
  unselected : s.context.autoGroup = none → s.info.usingGroup = info.usingGroup

/-- The price and the snapshot follow the selected group and channel. -/
structure Tracks (prices : PriceSettings) (req : Request) (info priced : RelayInfo)
    (s : RelayState) : Prop extends Selected prices req info priced s where
  synced : ∀ snap ∈ s.info.tieredBillingSnapshot,
    snap.groupRatio = (handleGroupRatio prices req s.context info).groupRatio

theorem Selected.usingGroup (chosen : Selected prices req info priced s) :
    s.context.usingGroup s.info = s.context.usingGroup info := by
  unfold Context.usingGroup
  cases auto : s.context.autoGroup with
  | none => simpa using chosen.unselected auto
  | some _ => rfl

theorem handleGroupRatio_congr {context : Context} {left right : RelayInfo}
    (same : context.usingGroup left = context.usingGroup right) :
    handleGroupRatio prices req context left = handleGroupRatio prices req context right := by
  simp only [handleGroupRatio, same]

theorem Selected.getChannel (chosen : Selected prices req info priced s)
    {pick : Option Pick} (selects : getChannel prices req pick s = some next) :
    Selected prices req info priced next := by
  simp only [Relay.getChannel] at selects
  split at selects
  next =>
    simp only [Option.some.injEq] at selects
    rwa [← selects]
  next =>
    rcases Option.map_eq_some_iff.mp selects with ⟨pick, _, rfl⟩
    have unselected : s.context.selectGroup req pick = none →
        s.info.usingGroup = info.usingGroup := by
      simp only [Context.selectGroup]
      split
      · simp
      · exact chosen.unselected
    have same :
        Context.usingGroup ⟨s.context.selectGroup req pick, pick.channel⟩ s.info =
          Context.usingGroup ⟨s.context.selectGroup req pick, pick.channel⟩ info := by
      unfold Context.usingGroup
      cases auto : s.context.selectGroup req pick with
      | none => simpa using unselected auto
      | some _ => rfl
    refine ⟨chosen.price, handleGroupRatio_congr same, chosen.mode, ?_⟩
    intro notAuto
    have notAuto : s.context.selectGroup req pick = none := notAuto
    simp only [Context.usingGroup, notAuto, Option.getD_none]
    exact unselected notAuto

def reservedFor (trust : TrustInputs) (quota : ℤ) : ℤ :=
  if trust.shouldTrust quota then 0 else quota

theorem openSession_reserves {isPlayground : Bool} {trust : TrustInputs}
    {out rollback : Option ModelError} {quota : ℤ}
    (done : (openSession isPlayground trust out rollback quota).error = none) :
    (openSession isPlayground trust out rollback quota).session.preConsumedQuota =
        reservedFor trust quota ∧
      (openSession isPlayground trust out rollback quota).session.trusted =
        trust.shouldTrust quota := by
  revert done
  simp only [openSession, BillingSession.preConsume, walletFundingPreConsume, reservedFor]
  cases trusts : trust.shouldTrust quota with
  | true => simp
  | false =>
    simp only [Bool.false_eq_true, if_false]
    split
    next => simp
    next =>
      intro _
      refine ⟨rfl, ?_⟩
      split <;> rfl

theorem preConsumeBilling_eq_some {out rollback : Option ModelError} {quota : ℤ}
    (done : preConsumeBilling req out rollback quota s = some next) :
    ∃ sess, next =
        { s with
          billing := some sess
          info := { s.info with finalPreConsumedQuota := sess.preConsumedQuota } } ∧
      sess.preConsumedQuota = reservedFor req.trust quota ∧
      sess.trusted = req.trust.shouldTrust quota := by
  simp only [preConsumeBilling] at done
  split at done
  next => simp at done
  next =>
    split at done
    next => simp at done
    next opened =>
      simp only [Option.some.injEq] at done
      exact ⟨_, done.symm, openSession_reserves opened⟩

theorem Tracks.reserved (tracks : Tracks prices req info priced s)
    (billing : Option BillingSession) (quota : ℤ) :
    Tracks prices req info priced
      { s with
        billing := billing
        info := { s.info with finalPreConsumedQuota := quota } } :=
  ⟨⟨tracks.price, tracks.group, tracks.mode, tracks.unselected⟩, tracks.synced⟩

theorem refreshTieredBillingGroup_eq_some {groupRatio : ℚ} {stale snap : BillingSnapshot}
    (renews : refreshTieredBillingGroup groupRatio stale = some snap) :
    snap.groupRatio = groupRatio ∧ snap.billingMode = stale.billingMode ∧
      ∀ ratio, erasedSnapshot { snap with groupRatio := ratio } =
        erasedSnapshot { stale with groupRatio := ratio } := by
  simp only [refreshTieredBillingGroup] at renews
  split at renews
  next current =>
    simp only [Option.some.injEq] at renews
    subst renews
    exact ⟨current, rfl, fun _ => rfl⟩
  next =>
    rcases Option.map_eq_some_iff.mp renews with ⟨_, _, rfl⟩
    exact ⟨rfl, rfl, fun _ => rfl⟩

theorem Selected.refreshed (chosen : Selected prices req info priced s)
    {stale snap : BillingSnapshot} (found : s.info.tieredBillingSnapshot = some stale)
    (renews : refreshTieredBillingGroup s.info.priceData.groupRatioInfo.groupRatio stale =
      some snap) (freeModel : Bool) :
    Tracks prices req info priced
      { s with
        info := { s.info with
          tieredBillingSnapshot := some snap
          priceData := { s.info.priceData with freeModel := freeModel } } } := by
  rcases refreshTieredBillingGroup_eq_some renews with ⟨groupEq, modeEq, terms⟩
  refine ⟨⟨?_, chosen.group, ?_, chosen.unselected⟩, ?_⟩
  · intro group
    rw [← chosen.price group]
    simp only [erased, regrouped, found, Option.map_some, terms]
  · intro _ isCurrent
    simp only [Option.mem_def, Option.some.injEq] at isCurrent
    rw [← isCurrent, modeEq]
    exact chosen.mode stale found
  · intro _ isCurrent
    simp only [Option.mem_def, Option.some.injEq] at isCurrent
    rw [← isCurrent, groupEq, chosen.group]

theorem Selected.prepared (chosen : Selected prices req info priced s) {attempt : Attempt}
    (ready : prepareTieredBillingForSelectedGroup req attempt s = some next) :
    Tracks prices req info priced next := by
  simp only [prepareTieredBillingForSelectedGroup] at ready
  split at ready
  next found =>
    simp only [Option.some.injEq] at ready
    subst ready
    exact ⟨chosen, by simp [found]⟩
  next stale found =>
    rw [if_neg (by simp [chosen.mode stale found])] at ready
    split at ready
    next => simp at ready
    next renews =>
      split at ready
      next =>
        simp only [Option.some.injEq] at ready
        subst ready
        exact chosen.refreshed found renews s.info.priceData.freeModel
      next =>
        have paid := chosen.refreshed found renews false
        split at ready
        next =>
          rcases preConsumeBilling_eq_some ready with ⟨sess, rfl, _⟩
          exact paid.reserved _ _
        next sess _ =>
          split at ready
          next => simp at ready
          next =>
            simp only [Option.some.injEq] at ready
            subst ready
            exact paid.reserved _ _

section

variable (tracks : Tracks prices req info priced s)

include tracks

theorem Tracks.converting (conversion : Conversion) :
    Tracks prices req info (Relay.converting prices req conversion.otherRatios priced)
      (s.converting prices req conversion) := by
  rcases addOtherRatios_eq conversion.otherRatios with ⟨join, joins⟩
  refine ⟨⟨?_, ?_, tracks.mode, tracks.unselected⟩, tracks.synced⟩
  · intro group
    simp only [RelayState.converting, erased_regrouped_converting, tracks.price]
  · simp only [RelayState.converting, Relay.converting, joins]
    exact tracks.group

/-- A failed attempt leaves its conversion in the price. -/
theorem Tracks.turn {attempt : Attempt} :
    (∀ next, turn prices req attempt s = .retries next → Tracks prices req info priced next ∨
      ∃ conversion, attempt.result = .failed (some conversion) ∧
        Tracks prices req info (Relay.converting prices req conversion.otherRatios priced) next) ∧
    (∀ next reply, turn prices req attempt s = .serves next reply →
      Tracks prices req info priced next) := by
  simp only [Relay.turn]
  cases moves : (Relay.getChannel prices req attempt.pick s).bind
      (prepareTieredBillingForSelectedGroup req attempt) with
  | none => simp
  | some prepared =>
    rcases Option.bind_eq_some_iff.mp moves with ⟨_, selects, ready⟩
    have kept := (tracks.toSelected.getChannel selects).prepared ready
    have described : ∀ chanMeta,
        Tracks prices req info priced { prepared with channelMeta := chanMeta } :=
      fun _ => ⟨⟨kept.price, kept.group, kept.mode, kept.unselected⟩, kept.synced⟩
    simp only [execute]
    split
    next => simp [kept]
    next => simp [described]
    next conversion failed =>
      split
      next => simp [described]
      next =>
        simp only [Turn.retries.injEq, reduceCtorEq, false_implies, implies_true, and_true]
        rintro _ rfl
        exact .inr ⟨conversion, failed, (described _).converting conversion⟩
    next =>
      split
      next => simp [described]
      next =>
        simp only [reduceCtorEq, false_implies, implies_true, Turn.serves.injEq, true_and]
        rintro _ _ ⟨rfl, _⟩
        exact described _

/-- What the conversions of the failed attempts keep of the price, the serving attempt finds. -/
theorem Tracks.served {attempts : List Attempt} {reply : Answer} {Keeps : RelayInfo → Prop}
    (start : Keeps priced) (kept : ∀ attempt ∈ attempts, ∀ conversion,
      attempt.result = .failed (some conversion) → ∀ found, Keeps found →
        Keeps (Relay.converting prices req conversion.otherRatios found))
    (serves : attemptChannels prices req attempts s = some (next, reply)) :
    ∃ found, Keeps found ∧ Tracks prices req info found next := by
  induction attempts generalizing s priced with
  | nil => simp [attemptChannels] at serves
  | cons attempt rest ih =>
    have keptLater : ∀ later ∈ rest, ∀ conversion,
        later.result = .failed (some conversion) → ∀ found, Keeps found →
          Keeps (Relay.converting prices req conversion.otherRatios found) :=
      fun later isLater => kept later (List.mem_cons_of_mem _ isLater)
    simp only [attemptChannels] at serves
    split at serves
    next => simp at serves
    next retried tries =>
      rcases tracks.turn.1 retried tries with same | ⟨conversion, failed, converted⟩
      · exact ih same start keptLater serves
      · exact ih converted (kept attempt List.mem_cons_self conversion failed priced start)
          keptLater serves
    next served answered servesNow =>
      simp only [Option.some.injEq, Prod.mk.injEq] at serves
      rw [← serves.1]
      exact ⟨priced, start, tracks.turn.2 served answered servesNow⟩

theorem Tracks.erased_eq :
    erased s.info = erased (regrouped priced (handleGroupRatio prices req s.context info)) := by
  rw [← tracks.price, regrouped_self tracks.group tracks.synced]

end

/-! ## Opening and serving -/

def openingModel (context : Context) (info : RelayInfo) : String :=
  billingModelName ⟨context, none, info, none⟩

theorem getPriceRatio_nonneg (chan : Channel) : 0 ≤ chan.getPriceRatio := by
  unfold Channel.getPriceRatio
  split
  · norm_num
  · split
    · norm_num
    · linarith

theorem Priced.tracks {cfg : Settings} {tokenCount : TokenCountMeta} {model : String}
    {channelRatio : ℚ} {context : Context} {chanMeta : Option ChannelMeta}
    {billing : Option BillingSession} {past : RelayInfo}
    (pricing : Priced prices cfg req tokenCount model
      (handleGroupRatio prices req context info) channelRatio past priced)
    (usingGroup : context.autoGroup = none → past.usingGroup = info.usingGroup)
    (mode : ∀ snap ∈ past.tieredBillingSnapshot, snap.billingMode = "tiered_expr")
    (synced : ∀ snap ∈ past.tieredBillingSnapshot,
      snap.groupRatio = (handleGroupRatio prices req context info).groupRatio) :
    Tracks prices req info priced ⟨context, chanMeta, priced, billing⟩ := by
  cases pricing with
  | byExpr _ _ snap _ _ _ terms _ group pricedEq =>
    have snapshotEq : priced.tieredBillingSnapshot = some snap := by rw [pricedEq]
    have usingEq : priced.usingGroup = past.usingGroup := by rw [pricedEq]
    have modeEq : snap.billingMode = "tiered_expr" := by
      have fields := congrArg BillingSnapshot.billingMode terms
      exact fields
    have groupEq : snap.groupRatio = (handleGroupRatio prices req context info).groupRatio := by
      have fields := congrArg BillingSnapshot.groupRatio terms
      exact fields
    refine ⟨⟨fun _ => rfl, group, ?_, ?_⟩, ?_⟩
    · intro _ isCurrent
      simp only [Option.mem_def, snapshotEq, Option.some.injEq] at isCurrent
      rwa [← isCurrent]
    · intro notAuto
      exact usingEq.trans (usingGroup notAuto)
    · intro _ isCurrent
      simp only [Option.mem_def, snapshotEq, Option.some.injEq] at isCurrent
      rwa [← isCurrent]
  | fixed _ _ group pricedEq =>
    have snapshotEq : priced.tieredBillingSnapshot = past.tieredBillingSnapshot := by
      rw [pricedEq]
    have usingEq : priced.usingGroup = past.usingGroup := by rw [pricedEq]
    refine ⟨⟨fun _ => rfl, group, ?_, fun notAuto => usingEq.trans (usingGroup notAuto)⟩, ?_⟩
    · simpa only [snapshotEq] using mode
    · simpa only [snapshotEq] using synced

end Loop

end NewApi.Relay
