import NewApi.Service.BillingSession
import NewApi.Service.TextQuota

/-!
# The price of a request

`ModelPriceHelper` prices a request for the channel that the request's context carries. The
price tables of the administrator are parameters, and they are looked up by the name of the
model that is billed: the one that the channel maps the requested model to.
-/

namespace NewApi.Relay

open NewApi.Types NewApi.Service NewApi.Model

/-- The columns of a channel that pricing reads. The mapping is the decoded JSON of its
column; `none` when the column does not decode. -/
structure Channel where
  (id type : ℤ)
  priceRatio : Option ℚ
  modelMapping : Option (List (String × String))
deriving DecidableEq

def Channel.getPriceRatio (chan : Channel) : ℚ :=
  match chan.priceRatio with
  | none => 1
  | some ratio => if ratio < 0 then 1 else ratio

/-- The keys of the request's context that change with the selected channel. -/
structure Context where
  autoGroup : Option String
  channel : Channel
deriving DecidableEq

/-- What the relay knows of its channel. -/
structure ChannelMeta where
  (channelId channelType : ℤ)
  channelPriceRatio : ℚ
  channelPriceRatioSet : Bool
  upstreamModelName : String
  isModelMapped : Bool

/-- The settings that a price is made of. -/
structure PriceSettings where
  modelFixedPrice : String → ℚ × Bool
  groupGroupRatio : String → String → Option ℚ
  groupRatio : String → ℚ
  billedByExpr : String → Bool
  billingExpr : String → Option String
  exprHash : String → String
  exprVersion : String → ℤ
  modelRatio : String → ℚ × Bool
  completionRatio : String → ℚ
  cacheRatio : String → ℚ
  createCacheRatio : String → ℚ
  imageRatio : String → ℚ
  audioRatio : String → ℚ
  audioCompletionRatio : String → ℚ
  preConsumedQuota : ℤ
  enableFreeModelPreConsume : Bool

/-- What the counting of tokens says about a request. -/
structure TokenCountMeta where
  maxTokens : ℤ := 0
  imagePriceRatio : ℚ := 0
  billingRatios : List (String × ℚ) := []

/-- What a request brings along. `body` is what billing expressions may read of it; `none`
when it cannot be read. `noThinking` is set for a thinking budget of 0 while the thinking adapter
of Gemini is enabled. -/
structure Request where
  (userGroup tokenGroup : String)
  promptTokens : ℤ
  tokenCount : TokenCountMeta
  acceptUnsetRatioModel : Bool
  headers : List (String × String)
  body : Option String
  trust : TrustInputs
  noThinking : Bool := false

/-- What a request has come to. The channel of `info` is filled in when it settles. -/
structure RelayState where
  context : Context
  channelMeta : Option ChannelMeta
  info : RelayInfo
  billing : Option BillingSession

/-! ## The billed model -/

/-- The loop of `resolveUpstreamModelForBilling`. -/
def followMapping (mapping : List (String × String)) : ℕ → List String → String → String
  | 0, _, current => current
  | steps + 1, visited, current =>
    match mapping.lookup current with
    | none => current
    | some next =>
      if next = "" ∨ next ∈ visited then current
      else followMapping mapping steps (next :: visited) next

def resolveUpstreamModelForBilling (base : String)
    (modelMapping : Option (List (String × String))) : String :=
  match modelMapping with
  | none => base
  | some mapping => followMapping mapping mapping.length [base] base

def billingModelName (s : RelayState) : String :=
  match s.channelMeta with
  | some chanMeta =>
    if chanMeta.isModelMapped ∧ chanMeta.upstreamModelName ≠ "" then
      chanMeta.upstreamModelName
    else resolved
  | none => resolved
where
  resolved : String :=
    if s.info.originModelName ≠ "" then
      resolveUpstreamModelForBilling s.info.originModelName s.context.channel.modelMapping
    else s.info.originModelName

/-! ## Ratios -/

/-- The group that a request uses: the automatically selected one, if there is one. -/
def Context.usingGroup (ctx : Context) (info : RelayInfo) : String :=
  ctx.autoGroup.getD info.usingGroup

def handleGroupRatio (prices : PriceSettings) (req : Request) (ctx : Context)
    (info : RelayInfo) : GroupRatioInfo :=
  match prices.groupGroupRatio req.userGroup (ctx.usingGroup info) with
  | some ratio => ⟨ratio, ratio, true⟩
  | none => ⟨prices.groupRatio (ctx.usingGroup info), -1, false⟩

def getChannelPriceRatio (chanMeta : Option ChannelMeta) : ℚ :=
  match chanMeta with
  | none => 1
  | some chanMeta =>
    if chanMeta.channelPriceRatio < 0 then 1
    else if chanMeta.channelPriceRatio = 0 ∧ chanMeta.channelPriceRatioSet = false then 1
    else chanMeta.channelPriceRatio

/-- `channelPriceRatioForBilling`. The context always carries the ratio of its channel. -/
def channelPriceRatioForBilling (s : RelayState) : ℚ :=
  if s.channelMeta.any (·.channelPriceRatioSet) then
    getChannelPriceRatio s.channelMeta
  else if 0 ≤ s.context.channel.getPriceRatio then
    s.context.channel.getPriceRatio
  else
    getChannelPriceRatio s.channelMeta

/-! ## `ModelPriceHelper` -/

def quotaFromFloatStrict (val : ℚ) : Option ℤ :=
  if maxQuota ≤ val ∨ val ≤ minQuota then none
  else some (if 0 ≤ val then ⌊val⌋ else ⌈val⌉)

def resolveIncomingBillingExprRequestInput (req : Request) (info : RelayInfo) :
    Option RequestInput :=
  match info.billingRequestInput with
  | some input =>
    some { input with
      headers := input.headers ++
        req.headers.filter fun header => !input.headers.any (·.1 = header.1) }
  | none => req.body.map fun body => ⟨req.headers, body⟩

def defaultTieredPreConsumeMaxTokens : ℤ :=
  8192

def claudeCacheCreation1hMultiplier : ℚ :=
  6 / (15 / 4)

/-- Nothing is reserved for a model that costs nothing, unless the setting says otherwise. -/
def isFreeModel (prices : PriceSettings) (groupRatio channelRatio : ℚ) (freeBase : Bool) : Bool :=
  channelRatio = 0 ||
    (!prices.enableFreeModelPreConsume && (groupRatio = 0 || channelRatio = 0 || freeBase))

def modelPriceHelperTiered (prices : PriceSettings) (cfg : Settings) (req : Request)
    (tokenCount : TokenCountMeta) (promptTokens : ℤ) (model : String)
    (groupRatioInfo : GroupRatioInfo) (channelRatio : ℚ) (info : RelayInfo) : Option RelayInfo := do
  let exprString ← prices.billingExpr model
  let estimatedCompletionTokens :=
    if tokenCount.maxTokens = 0 ∧ groupRatioInfo.groupRatio ≠ 0 then
      defaultTieredPreConsumeMaxTokens
    else tokenCount.maxTokens
  let requestInput ← resolveIncomingBillingExprRequestInput req info
  let (rawCost, matchedTier) ← cfg.runExpr exprString (prices.exprHash exprString)
    ⟨promptTokens, estimatedCompletionTokens, promptTokens, 0, 0, 0, 0, 0, 0, 0⟩ requestInput
  let quotaBeforeGroup := rawCost / 1000000 * cfg.quotaPerUnit
  let rounded ← quotaRoundStrict (quotaBeforeGroup * groupRatioInfo.groupRatio * channelRatio)
  let freeModel := isFreeModel prices groupRatioInfo.groupRatio channelRatio false
  let preConsumedQuota := if freeModel then 0 else rounded
  return { info with
    tieredBillingSnapshot := some
      { billingMode := "tiered_expr"
        modelName := model
        exprString := exprString
        exprHash := prices.exprHash exprString
        groupRatio := groupRatioInfo.groupRatio
        channelRatio := channelRatio
        channelRatioSet := true
        estimatedPromptTokens := promptTokens
        estimatedCompletionTokens := estimatedCompletionTokens
        estimatedQuotaBeforeGroup := quotaBeforeGroup
        estimatedQuotaAfterGroup := preConsumedQuota
        estimatedTier := matchedTier
        quotaPerUnit := cfg.quotaPerUnit
        exprVersion := prices.exprVersion exprString }
    billingRequestInput := some requestInput
    priceData :=
      { freeModel := freeModel
        modelPrice := 0
        modelRatio := 0
        completionRatio := 0
        cacheRatio := 0
        cacheCreationRatio := 0
        cacheCreation5mRatio := 0
        cacheCreation1hRatio := 0
        imageRatio := 0
        audioRatio := 0
        audioCompletionRatio := 0
        otherRatios := []
        usePrice := false
        channelRatio := channelRatio
        channelRatioSet := true
        quota := 0
        quotaToPreConsume := preConsumedQuota
        groupRatioInfo := groupRatioInfo } }

/-- The price of a model that is billed by its tokens, without what is reserved for it. -/
def tokenPrice (prices : PriceSettings) (model : String) (groupRatioInfo : GroupRatioInfo)
    (channelRatio : ℚ) : PriceData where
  freeModel := isFreeModel prices groupRatioInfo.groupRatio channelRatio
    ((prices.modelRatio model).1 = 0)
  modelPrice := (prices.modelFixedPrice model).1
  modelRatio := (prices.modelRatio model).1
  completionRatio := prices.completionRatio model
  cacheRatio := prices.cacheRatio model
  cacheCreationRatio := prices.createCacheRatio model
  cacheCreation5mRatio := prices.createCacheRatio model
  cacheCreation1hRatio := prices.createCacheRatio model * claudeCacheCreation1hMultiplier
  imageRatio := prices.imageRatio model
  audioRatio := prices.audioRatio model
  audioCompletionRatio := prices.audioCompletionRatio model
  otherRatios := []
  usePrice := false
  channelRatio := channelRatio
  channelRatioSet := true
  quota := 0
  quotaToPreConsume := 0
  groupRatioInfo := groupRatioInfo

/-- The price of a model that is billed by the call, without what is reserved for it. -/
def callPrice (prices : PriceSettings) (tokenCount : TokenCountMeta) (model : String)
    (groupRatioInfo : GroupRatioInfo) (channelRatio : ℚ) : PriceData :=
  let modelPrice := (prices.modelFixedPrice model).1 *
    (if tokenCount.imagePriceRatio ≠ 0 then tokenCount.imagePriceRatio else 1)
  tokenCount.billingRatios.foldl (fun price ratio => price.addOtherRatio ratio.1 ratio.2)
    { freeModel := isFreeModel prices groupRatioInfo.groupRatio channelRatio (modelPrice = 0)
      modelPrice := modelPrice
      modelRatio := 0
      completionRatio := 0
      cacheRatio := 0
      cacheCreationRatio := 0
      cacheCreation5mRatio := 0
      cacheCreation1hRatio := 0
      imageRatio := 0
      audioRatio := 0
      audioCompletionRatio := 0
      otherRatios := []
      usePrice := true
      channelRatio := channelRatio
      channelRatioSet := true
      quota := 0
      quotaToPreConsume := 0
      groupRatioInfo := groupRatioInfo }

/-- `ModelPriceHelper` for a model name and ratios; `none` when the price is refused. -/
def priceByName (prices : PriceSettings) (cfg : Settings) (req : Request)
    (tokenCount : TokenCountMeta) (promptTokens : ℤ) (model : String)
    (groupRatioInfo : GroupRatioInfo) (channelRatio : ℚ) (info : RelayInfo) : Option RelayInfo :=
  if prices.billedByExpr model then
    modelPriceHelperTiered prices cfg req tokenCount promptTokens model
      groupRatioInfo channelRatio info
  else if (prices.modelFixedPrice model).2 then do
    let price := callPrice prices tokenCount model groupRatioInfo channelRatio
    let quota ← quotaFromFloatStrict (price.modelPrice * cfg.quotaPerUnit *
      groupRatioInfo.groupRatio * channelRatio * price.otherRatioMultiplier)
    return { info with priceData := { price with quotaToPreConsume := quota } }
  else if (prices.modelRatio model).2 = false ∧ req.acceptUnsetRatioModel = false then
    none
  else do
    let price := tokenPrice prices model groupRatioInfo channelRatio
    let preConsumedTokens := max promptTokens prices.preConsumedQuota + tokenCount.maxTokens
    let quota ← quotaFromFloatStrict
      (preConsumedTokens * (price.modelRatio * groupRatioInfo.groupRatio * channelRatio))
    return { info with
      priceData := { price with quotaToPreConsume := if price.freeModel then 0 else quota } }

def modelPriceHelper (prices : PriceSettings) (cfg : Settings) (req : Request)
    (tokenCount : TokenCountMeta) (promptTokens : ℤ) (s : RelayState) : Option RelayState :=
  let groupRatioInfo := handleGroupRatio prices req s.context s.info
  let info := { s.info with usingGroup := s.context.usingGroup s.info }
  (priceByName prices cfg req tokenCount promptTokens (billingModelName s)
    groupRatioInfo (channelPriceRatioForBilling s) info).map
    fun info => { s with info := info }

end NewApi.Relay
