import NewApi.Dto.Usage
import NewApi.Model.ManagedContextOutcome
import NewApi.Types.PriceData

/-!
# The quota of a text request

`calculateTextQuotaSummary` prices a usage by tokens or by call, `TryTieredSettle` prices
it by an expression, and `composeTieredTextQuota` adds the tool surcharge to the latter.

The administrator's settings and the evaluator of billing expressions are parameters of
the computation. The texts of the log entry are left out: nothing reads them back.
-/

namespace NewApi.Service

open NewApi.Dto NewApi.Types
open Rounding (float64)

/-! ## The request -/

/-- The formats of requests. -/
inductive RelayFormat where
  | openAI
  | claude
  | gemini
  | openAIResponses
  | openAIResponsesCompaction
  | openAIAlphaSearch
  | openAIAudio
  | openAIImage
  | openAIRealtime
  | rerank
  | embedding
  | task
  | mjProxy
deriving DecidableEq

/-- The relay modes; pricing only tells the Responses API from the others. -/
inductive RelayMode where
  | responses
  | other (code : ℕ)
deriving DecidableEq

def channelTypeOpenRouter : ℤ :=
  20

/-- What a billing expression can ask about its request. -/
structure RequestInput where
  headers : List (String × String) := []
  body : String := ""

/-- The frozen terms of tiered billing. -/
structure BillingSnapshot where
  (billingMode modelName exprString exprHash : String)
  (groupRatio channelRatio : ℚ)
  channelRatioSet : Bool
  (estimatedPromptTokens estimatedCompletionTokens : ℤ)
  estimatedQuotaBeforeGroup : ℚ
  estimatedQuotaAfterGroup : ℤ
  estimatedTier : String
  quotaPerUnit : ℚ
  exprVersion : ℤ

/-- The token counts that are variables of a billing expression. -/
structure TokenParams where
  (p c len cr cc cc1h img imgO ai ao : ℚ)

/-- The settings that pricing reads, and the evaluator of billing expressions: the variables
that an expression uses, and its cost together with the matched tier. -/
structure Settings where
  quotaPerUnit : ℚ
  toolPriceForModel : String → String → ℚ
  defaultModelRatio : String → Option ℚ
  usedVars : String → String → Bool
  runExpr : String → String → TokenParams → RequestInput → Option (ℚ × String)

/-- What a settlement reads in the context of its request. -/
structure RequestContext where
  tokenName : String
  claudeWebSearchRequests : ℤ
  geminiGoogleSearchCall : Bool
  now : ℤ
deriving DecidableEq

/-- The fields of `RelayInfo` that settlement reads. The channel is that of the attempt that
succeeded. A built-in tool without an entry has no call count. -/
structure RelayInfo where
  (userId tokenId channelId channelType : ℤ)
  (tokenUnlimited isPlayground isStream : Bool)
  (usingGroup originModelName : String)
  startTime : ℤ
  relayMode : RelayMode
  relayFormat : RelayFormat
  requestConversionChain : List RelayFormat
  finalRequestRelayFormat : Option RelayFormat
  estimatePromptTokens : ℕ
  builtInTools : List (String × Option ℤ)
  priceData : PriceData
  tieredBillingSnapshot : Option BillingSnapshot
  billingRequestInput : Option RequestInput
  finalPreConsumedQuota : ℤ
  managedOutcomeCheckpoint : Option Model.ManagedContextOutcomeCheckpoint

def RelayInfo.getFinalRequestRelayFormat (info : RelayInfo) : RelayFormat :=
  match info.finalRequestRelayFormat with
  | some format => format
  | none => info.requestConversionChain.getLast?.getD info.relayFormat

/-! ## Tool surcharges -/

/-- A tool with the number of its calls and the price of a thousand. -/
structure ToolSurchargeItem where
  name : String
  count : ℤ
  price : ℚ

def maxInt : ℤ :=
  9223372036854775807

def collectToolSurchargeItem (cfg : Settings) (model : String)
    (items : List ToolSurchargeItem) (name : String) (count : ℤ) : List ToolSurchargeItem :=
  if count ≤ 0 then
    items
  else
    let price := cfg.toolPriceForModel name model
    if price ≤ 0 then items else items ++ [⟨name, count, price⟩]

def ToolSurchargeItem.precedes (left right : ToolSurchargeItem) : Bool :=
  if left.name = right.name then left.price ≤ right.price else left.name ≤ right.name

/-- One turn of the merge loop; the last merged item is at the head. -/
def mergeToolSurchargeItem (merged : List ToolSurchargeItem) (item : ToolSurchargeItem) :
    List ToolSurchargeItem :=
  match merged with
  | [] => [item]
  | last :: rest =>
    if last.name = item.name ∧ last.price = item.price then
      { last with count := if item.count > maxInt - last.count then maxInt
                           else last.count + item.count } :: rest
    else
      item :: last :: rest

def mergeToolSurchargeItems (items : List ToolSurchargeItem) : List ToolSurchargeItem :=
  ((items.mergeSort ToolSurchargeItem.precedes).foldl mergeToolSurchargeItem []).reverse

/-- The calls that `calculateTextToolCallSurcharge` collects. -/
def collectToolCalls (cfg : Settings) (ctx : RequestContext) (info : RelayInfo) :
    List ToolSurchargeItem :=
  let model := info.originModelName
  let items := info.builtInTools.foldl (fun items tool =>
    match tool.2 with
    | none => items
    | some callCount => collectToolSurchargeItem cfg model items tool.1 callCount) []
  let items :=
    if info.relayMode ≠ .responses ∧ model.endsWith "search-preview" = true then
      collectToolSurchargeItem cfg model items "web_search_preview" 1
    else
      items
  let items := collectToolSurchargeItem cfg model items "web_search" ctx.claudeWebSearchRequests
  if ctx.geminiGoogleSearchCall then
    collectToolSurchargeItem cfg model items "google_search" 1
  else
    items

def ToolSurchargeItem.quota (cfg : Settings) (groupRatio : ℚ) (item : ToolSurchargeItem) :
    ℚ :=
  decimalDiv (item.price * item.count) 1000 * groupRatio * cfg.quotaPerUnit

def calculateTextToolCallSurcharge (cfg : Settings) (ctx : RequestContext)
    (info : RelayInfo) (groupRatio : ℚ) : List ToolSurchargeItem × ℚ :=
  let items := mergeToolSurchargeItems (collectToolCalls cfg ctx info)
  (items, items.foldl (fun surcharge item => surcharge + item.quota cfg groupRatio) 0)

/-! ## The summary -/

/-- The counts, ratios and quota of a text request. -/
structure TextQuotaSummary where
  (promptTokens completionTokens totalTokens cacheTokens cacheCreationTokens : ℤ)
  (cacheCreationTokens5m cacheCreationTokens1h imageTokens audioTokens : ℤ)
  (modelName tokenName : String)
  useTimeSeconds : ℤ
  (completionRatio cacheRatio imageRatio modelRatio groupRatio channelRatio modelPrice : ℚ)
  (cacheCreationRatio cacheCreationRatio5m cacheCreationRatio1h : ℚ)
  quota : ℤ
  isClaudeUsageSemantic : Bool
  usageSemantic : String
  audioInputPrice : ℚ
  toolSurchargeItems : List ToolSurchargeItem
  toolCallSurchargeQuota : ℚ

def TextQuotaSummary.hasBillableUsage (summary : TextQuotaSummary) : Bool :=
  summary.totalTokens > 0 || summary.toolCallSurchargeQuota ≠ 0

def usageSemanticFromUsage (info : RelayInfo) (usage : Option Usage) : String :=
  match usage with
  | some usage =>
    if usage.usageSemantic ≠ "" then usage.usageSemantic else formatSemantic
  | none => formatSemantic
where
  formatSemantic : String :=
    if info.getFinalRequestRelayFormat = .claude then "anthropic" else "openai"

def isLegacyClaudeDerivedOpenAIUsage (info : RelayInfo) (usage : Usage) : Bool :=
  if info.getFinalRequestRelayFormat = .claude then
    false
  else if usage.usageSource ≠ "" ∨ usage.usageSemantic ≠ "" then
    false
  else
    usage.claudeCacheCreation5mTokens > 0 || usage.claudeCacheCreation1hTokens > 0

def hasCustomModelRatio (cfg : Settings) (model : String) (currentRatio : ℚ) : Bool :=
  match cfg.defaultModelRatio model with
  | none => true
  | some defaultRatio => currentRatio ≠ defaultRatio

/-- `CalcOpenRouterCacheCreateTokens`, each operation rounded to a double. With a model ratio
of zero the source divides by zero and converts the result to a count that its caller refuses;
here it is the count zero, which changes nothing either. -/
def calcOpenRouterCacheCreateTokens (cfg : Settings) (usage : Usage) (price : PriceData) :
    ℤ :=
  if price.cacheCreationRatio = 1 then
    0
  else
    let quotaPrice := float64 (price.modelRatio / cfg.quotaPerUnit)
    let promptCacheCreatePrice := float64 (quotaPrice * price.cacheCreationRatio)
    let promptCacheReadPrice := float64 (quotaPrice * price.cacheRatio)
    let completionPrice := float64 (quotaPrice * price.completionRatio)
    let cost : ℚ := match usage.cost with
      | .float val => val
      | _ => 0
    let totalPromptTokens := float64 usage.promptTokens
    let completionTokens := float64 usage.completionTokens
    let promptCacheReadTokens := float64 usage.promptTokensDetails.cachedTokens
    let unexplained := float64 (cost - float64 (totalPromptTokens * quotaPrice))
    let unexplained := float64 (unexplained + float64 (promptCacheReadTokens *
      float64 (quotaPrice - promptCacheReadPrice)))
    let unexplained := float64 (unexplained - float64 (completionTokens * completionPrice))
    Rounding.halfAway (float64 (unexplained / float64 (promptCacheCreatePrice - quotaPrice)))

/-- OpenRouter reports Claude usage with the cached tokens inside the prompt. -/
def isOpenRouterClaudeBilling (info : RelayInfo) (usage : Option Usage) : Bool :=
  info.channelType = channelTypeOpenRouter && usageSemanticFromUsage info usage = "anthropic"

/-- The cache creation tokens that OpenRouter billing works with: the reported ones, or when
there are none those that explain the cost, as long as they fit into the prompt. -/
def openRouterCacheCreationTokens (cfg : Settings) (info : RelayInfo) (usage : Usage) :
    ℤ :=
  let told := usage.promptTokensDetails.cacheCreationTokensTotal
  let isUsingCustomSettings := info.priceData.usePrice ||
    hasCustomModelRatio cfg info.originModelName info.priceData.modelRatio
  if told = 0 ∧ info.priceData.cacheCreationRatio ≠ 1 ∧ usage.cost ≠ .integer 0 ∧
      isUsingCustomSettings = false then
    let maybeCacheCreationTokens :=
      calcOpenRouterCacheCreateTokens cfg usage info.priceData
    if 0 ≤ maybeCacheCreationTokens ∧
        maybeCacheCreationTokens ≤ usage.promptTokens - usage.promptTokensDetails.cachedTokens then
      maybeCacheCreationTokens
    else
      told
  else
    told

def getGeminiInputAudioPricePerMillionTokens (model : String) : ℚ :=
  if model.startsWith "gemini-2.5-flash-preview-native-audio" then 3
  else if model.startsWith "gemini-2.5-flash-preview-lite" then 1 / 2
  else if model.startsWith "gemini-2.5-flash-preview" then 1
  else if model.startsWith "gemini-2.5-flash" then 1
  else if model.startsWith "gemini-2.0-flash" then 7 / 10
  else if model.startsWith "gemini-robotics-er-1.5" then 1
  else 0

def estimatedUsage (info : RelayInfo) : Usage where
  promptTokens := info.estimatePromptTokens
  completionTokens := 0
  totalTokens := info.estimatePromptTokens

/-- The summary before it is priced. The total is the sum of the program, unless another one
is asked for. -/
def unpricedSummary (cfg : Settings) (ctx : RequestContext) (info : RelayInfo)
    (told : Option Usage) (sum : ℤ → ℤ → ℤ := intSum) : TextQuotaSummary :=
  let price := info.priceData
  let usage := told.getD (estimatedUsage info)
  let semantic := usageSemanticFromUsage info told
  let openRouterClaude := isOpenRouterClaudeBilling info told
  let cacheTokens := usage.promptTokensDetails.cachedTokens
  let cacheCreationTokens :=
    if openRouterClaude then openRouterCacheCreationTokens cfg info usage
    else usage.promptTokensDetails.cacheCreationTokensTotal
  let surcharge := calculateTextToolCallSurcharge cfg ctx info price.groupRatioInfo.groupRatio
  { promptTokens :=
      if openRouterClaude then usage.promptTokens - cacheTokens - cacheCreationTokens
      else usage.promptTokens
    completionTokens := usage.completionTokens
    -- The total is taken before OpenRouter's cached tokens leave the prompt.
    totalTokens := sum usage.promptTokens usage.completionTokens
    cacheTokens := cacheTokens
    cacheCreationTokens := cacheCreationTokens
    cacheCreationTokens5m := usage.claudeCacheCreation5mTokens
    cacheCreationTokens1h := usage.claudeCacheCreation1hTokens
    imageTokens := usage.promptTokensDetails.imageTokens
    audioTokens := usage.promptTokensDetails.audioTokens
    modelName := info.originModelName
    tokenName := ctx.tokenName
    useTimeSeconds := ctx.now - info.startTime
    completionRatio := price.completionRatio
    cacheRatio := price.cacheRatio
    imageRatio := price.imageRatio
    modelRatio := price.modelRatio
    groupRatio := price.groupRatioInfo.groupRatio
    channelRatio := price.getChannelRatio
    modelPrice := price.modelPrice
    cacheCreationRatio := price.cacheCreationRatio
    cacheCreationRatio5m := price.cacheCreation5mRatio
    cacheCreationRatio1h := price.cacheCreation1hRatio
    quota := 0
    isClaudeUsageSemantic := semantic = "anthropic"
    usageSemantic := semantic
    audioInputPrice :=
      if price.usePrice = false ∧ usage.promptTokensDetails.audioTokens ≠ 0 then
        getGeminiInputAudioPricePerMillionTokens info.originModelName
      else
        0
    toolSurchargeItems := surcharge.1
    toolCallSurchargeQuota := surcharge.2 }

namespace TextQuotaSummary

def ratio (summary : TextQuotaSummary) : ℚ :=
  summary.modelRatio * summary.groupRatio

def chargeRatio (summary : TextQuotaSummary) : ℚ :=
  summary.ratio * summary.channelRatio

def cachedCreationTokensWithRatio (summary : TextQuotaSummary) (separate : Bool) : ℚ :=
  if summary.cacheCreationTokens ≠ 0 ∨ summary.cacheCreationTokens5m > 0 ∨
      summary.cacheCreationTokens1h > 0 then
    if separate then
      let remaining := summary.cacheCreationTokens - summary.cacheCreationTokens5m -
        summary.cacheCreationTokens1h
      (if remaining < 0 then 0 else remaining : ℤ) * summary.cacheCreationRatio +
        summary.cacheCreationTokens5m * summary.cacheCreationRatio5m +
        summary.cacheCreationTokens1h * summary.cacheCreationRatio1h
    else
      summary.cacheCreationTokens * summary.cacheCreationRatio
  else
    0

def audioPriced (summary : TextQuotaSummary) : Bool :=
  summary.audioTokens ≠ 0 && summary.audioInputPrice > 0

/-- The prompt tokens that are priced as plain text. `separate` says that the usage reports
cached tokens beside the prompt and not inside it. -/
def baseTokens (summary : TextQuotaSummary) (separate : Bool) : ℚ :=
  let tokens : ℤ := summary.promptTokens -
    (if separate then 0 else summary.cacheTokens + summary.cacheCreationTokens) -
    summary.imageTokens - (if summary.audioPriced then summary.audioTokens else 0)
  if tokens < 0 then 0 else tokens

def audioInputQuota (summary : TextQuotaSummary) (cfg : Settings) : ℚ :=
  if summary.audioPriced then
    decimalDiv summary.audioInputPrice 1000000 * summary.audioTokens * summary.groupRatio *
      cfg.quotaPerUnit
  else
    0

def tokenQuota (summary : TextQuotaSummary) (cfg : Settings) (separate : Bool) : ℚ :=
  let promptQuota := summary.baseTokens separate + summary.cacheTokens * summary.cacheRatio +
    summary.imageTokens * summary.imageRatio + summary.cachedCreationTokensWithRatio separate
  let completionQuota := summary.completionTokens * summary.completionRatio
  (promptQuota + completionQuota) * summary.ratio + summary.audioInputQuota cfg

def callQuota (summary : TextQuotaSummary) (cfg : Settings) : ℚ :=
  summary.modelPrice * cfg.quotaPerUnit * summary.groupRatio

def quotaDecimal (summary : TextQuotaSummary) (cfg : Settings) (price : PriceData)
    (separate : Bool) : ℚ :=
  let base := if price.usePrice then summary.callQuota cfg
    else summary.tokenQuota cfg separate
  let quota := (price.applyOtherRatiosToDecimal base + summary.toolCallSurchargeQuota) *
    summary.channelRatio
  if price.usePrice = false ∧ summary.chargeRatio ≠ 0 ∧ quota ≤ 0 then 1 else quota

/-- The quota, with the rules for usage that cannot be billed and for prices that round to
nothing. -/
def finalQuota (summary : TextQuotaSummary) (decimal : ℚ) : ℤ :=
  if !summary.hasBillableUsage then
    0
  else if summary.chargeRatio ≠ 0 ∧ quotaFromDecimal decimal = 0 then
    1
  else
    quotaFromDecimal decimal

end TextQuotaSummary

def calculateTextQuotaSummary (cfg : Settings) (ctx : RequestContext) (info : RelayInfo)
    (told : Option Usage) (sum : ℤ → ℤ → ℤ := intSum) : TextQuotaSummary :=
  let summary := unpricedSummary cfg ctx info told sum
  let usage := told.getD (estimatedUsage info)
  let separate := summary.isClaudeUsageSemantic || isLegacyClaudeDerivedOpenAIUsage info usage
  { summary with
    quota := summary.finalQuota (summary.quotaDecimal cfg info.priceData separate) }

/-! ## Tiered settlement -/

/-- The tokens by class, each number a double. -/
def buildTieredTokenParams (usage : Usage) (isClaudeUsageSemantic : Bool)
    (vars : String → Bool) : TokenParams :=
  let details := usage.promptTokensDetails
  let cr := float64 details.cachedTokens
  let cc5m := float64 (if usage.usageSemantic = "anthropic" then usage.claudeCacheCreation5mTokens
    else details.cacheCreationTokensTotal)
  let cc1h := if usage.usageSemantic = "anthropic" then float64 usage.claudeCacheCreation1hTokens
    else 0
  let img := float64 details.imageTokens
  let ai := float64 details.audioTokens
  let imgO := float64 usage.completionTokenDetails.imageTokens
  let ao := float64 usage.completionTokenDetails.audioTokens
  let without (rest : ℚ) (name : String) (tokens : ℚ) : ℚ :=
    if !isClaudeUsageSemantic && vars name then float64 (rest - tokens) else rest
  let prompt := float64 usage.promptTokens
  let p := without (without (without (without (without prompt "cr" cr) "cc" cc5m) "cc1h" cc1h)
    "img" img) "ai" ai
  let c := without (without (float64 usage.completionTokens) "img_o" imgO) "ao" ao
  { p := if p < 0 then 0 else p
    c := if c < 0 then 0 else c
    len := if isClaudeUsageSemantic then
        float64 (float64 (float64 (prompt + cr) + cc5m) + cc1h)
      else prompt
    cr := cr
    cc := cc5m
    cc1h := cc1h
    img := img
    imgO := imgO
    ai := ai
    ao := ao }

/-- What tiered billing charges, and the tier it charges by. -/
structure TieredResult where
  actualQuotaBeforeGroup : ℚ
  actualQuotaAfterGroup : ℤ
  matchedTier : String
  crossedTier : Bool

def BillingSnapshot.effectiveChannelRatio (snap : BillingSnapshot) : ℚ :=
  if snap.channelRatio = 0 ∧ snap.channelRatioSet = false then 1
  else snap.channelRatio

def computeTieredQuotaWithRequest (cfg : Settings) (snap : BillingSnapshot)
    (params : TokenParams) (req : RequestInput) : Option TieredResult :=
  match cfg.runExpr snap.exprString snap.exprHash params req with
  | none => none
  | some (cost, matchedTier) =>
    let quotaBeforeGroup := cost / 1000000 * snap.quotaPerUnit
    some
      { actualQuotaBeforeGroup := quotaBeforeGroup
        actualQuotaAfterGroup :=
          quotaRound (quotaBeforeGroup * snap.groupRatio * snap.effectiveChannelRatio)
        matchedTier := matchedTier
        crossedTier := matchedTier ≠ snap.estimatedTier }

def tryTieredSettle (cfg : Settings) (info : RelayInfo) (params : TokenParams) :
    Option (ℤ × Option TieredResult) :=
  match info.tieredBillingSnapshot with
  | none => none
  | some snap =>
    if snap.billingMode ≠ "tiered_expr" then
      none
    else
      match computeTieredQuotaWithRequest cfg snap params
          (info.billingRequestInput.getD {}) with
      | none =>
        some (if info.finalPreConsumedQuota ≤ 0 then snap.estimatedQuotaAfterGroup
          else info.finalPreConsumedQuota, none)
      | some result => some (result.actualQuotaAfterGroup, some result)

def composeTieredTextQuota (info : RelayInfo) (summary : TextQuotaSummary)
    (tieredQuota : ℤ) (tieredResult : Option TieredResult) : ℤ :=
  if summary.toolCallSurchargeQuota = 0 then
    tieredQuota
  else
    match tieredResult, info.tieredBillingSnapshot with
    | some result, some snap =>
      quotaFromDecimal ((result.actualQuotaBeforeGroup * snap.groupRatio +
        summary.toolCallSurchargeQuota) * summary.channelRatio)
    | _, _ =>
      quotaFromDecimal (tieredQuota + summary.toolCallSurchargeQuota * summary.channelRatio)

/-- The tiered price of a request, when it has one. A request without a reported usage has
none. -/
def tieredSettlement (cfg : Settings) (info : RelayInfo) (told : Option Usage)
    (isClaudeUsageSemantic : Bool) : Option (ℤ × Option TieredResult) :=
  match told with
  | none => none
  | some usage =>
    tryTieredSettle cfg info (buildTieredTokenParams usage isClaudeUsageSemantic
      (fun name => info.tieredBillingSnapshot.any fun snap => cfg.usedVars snap.exprString name))

/-- The summary that `PostTextConsumeQuotaResult` settles, and whether tiered billing applied. -/
def settledSummary (cfg : Settings) (ctx : RequestContext) (info : RelayInfo)
    (told : Option Usage) : TextQuotaSummary × Bool :=
  let summary := calculateTextQuotaSummary cfg ctx info told
  match tieredSettlement cfg info told summary.isClaudeUsageSemantic with
  | none => (summary, false)
  | some (tieredQuota, tieredResult) =>
    ({ summary with
        quota := composeTieredTextQuota info summary tieredQuota tieredResult }, true)

end NewApi.Service
