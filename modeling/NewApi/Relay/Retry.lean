import NewApi.Billing.DirectSession
import NewApi.Relay.ModelPrice

/-!
# The retry loop

`Relay` prices a request for the channel that was selected first, reserves the price, and then
tries channels until one answers.
-/

namespace NewApi.Relay

open NewApi.Dto NewApi.Types NewApi.Service NewApi.Model

/-- A selected channel and its group, from the smart routing candidates or from the cache. -/
structure Pick where
  smart : Bool
  channel : Channel
  group : String

/-- What an adaptor notes while it converts the request of an attempt: the ratios that it adds to
the price, and the model that it sends in the place of the mapped one. -/
structure Conversion where
  otherRatios : List (String × ℚ) := []
  upstreamModelName : Option String := none
deriving DecidableEq

/-- What an upstream answered, with what the attempt noted about the request. -/
structure Answer where
  usage : Option UpstreamUsage
  ctx : RequestContext
  requestConversionChain : List RelayFormat
  finalRequestRelayFormat : Option RelayFormat
  builtInTools : List (String × Option ℤ)
  conversion : Conversion := {}
deriving DecidableEq

/-- What comes of an attempt. -/
inductive AttemptResult where
  | probing
  /-- Nothing was served; the request may have been converted before. -/
  | failed (converted : Option Conversion)
  | answered (reply : Answer)

/-- What one turn of the loop meets: the selection that it would make, the outcome of its
token calls, and the result of the upstream. -/
structure Attempt where
  pick : Option Pick
  (outcome rollback : Option ModelError)
  result : AttemptResult

/-! ## Selecting a channel -/

/-- `auto_group` after a selection. -/
def Context.selectGroup (context : Context) (req : Request) (pick : Pick) : Option String :=
  if req.tokenGroup = "auto" ∧ (pick.smart = true → pick.group ≠ "") then some pick.group
  else context.autoGroup

/-- `getChannel`. Without a channel chanMeta the attempt takes the channel of the context. -/
def getChannel (prices : PriceSettings) (req : Request) (pick : Option Pick)
    (s : RelayState) : Option RelayState :=
  match s.channelMeta with
  | none => some s
  | some _ =>
    pick.map fun pick =>
      let context := ⟨s.context.selectGroup req pick, pick.channel⟩
      let groupRatioInfo := handleGroupRatio prices req context s.info
      { s with
        context := context
        info := { s.info with
          usingGroup := context.usingGroup s.info
          priceData := { s.info.priceData with groupRatioInfo := groupRatioInfo } } }

/-! ## Reserving -/

def preConsumeBilling (req : Request) (out rollback : Option ModelError) (quota : ℤ)
    (s : RelayState) : Option RelayState :=
  if quota < 0 then
    none
  else
    let opened := openSession s.info.isPlayground req.trust out rollback quota
    match opened.error with
    | some _ => none
    | none =>
      some { s with
        billing := some opened.session
        info := { s.info with finalPreConsumedQuota := opened.session.preConsumedQuota } }

def refreshTieredBillingGroup (groupRatio : ℚ) (snap : BillingSnapshot) :
    Option BillingSnapshot :=
  if snap.groupRatio = groupRatio then
    some snap
  else
    (quotaRoundStrict (snap.estimatedQuotaBeforeGroup * groupRatio)).map fun estimated =>
      { snap with groupRatio := groupRatio, estimatedQuotaAfterGroup := estimated }

def prepareTieredBillingForSelectedGroup (req : Request) (attempt : Attempt)
    (s : RelayState) : Option RelayState :=
  match s.info.tieredBillingSnapshot with
  | none => some s
  | some stale =>
    if stale.billingMode ≠ "tiered_expr" then
      some s
    else
      match refreshTieredBillingGroup s.info.priceData.groupRatioInfo.groupRatio stale with
      | none => none
      | some snap =>
        let fresh : RelayState := { s with
          info := { s.info with tieredBillingSnapshot := some snap } }
        if snap.groupRatio = 0 then
          some fresh
        else
          let paid : RelayState := { fresh with
            info := { fresh.info with
              priceData := { fresh.info.priceData with freeModel := false } } }
          match paid.billing with
          | none =>
            preConsumeBilling req attempt.outcome attempt.rollback
              snap.estimatedQuotaAfterGroup paid
          | some sess =>
            let held := sess.reserve attempt.outcome snap.estimatedQuotaAfterGroup 0
            match held.error with
            | some _ => none
            | none =>
              some { paid with
                billing := some held.session
                info := { paid.info with
                  finalPreConsumedQuota := held.session.preConsumedQuota } }

/-! ## The attempt -/

def initChannelMeta (s : RelayState) : ChannelMeta where
  channelId := s.context.channel.id
  channelType := s.context.channel.type
  channelPriceRatio := s.context.channel.getPriceRatio
  channelPriceRatioSet := true
  upstreamModelName := s.info.originModelName
  isModelMapped := false

/-- The loop of `ModelMappedHelper`: the model at the end of the chain and whether it was
mapped; `none` for a cycle. -/
def mapModel (base : String) (mapping : List (String × String)) :
    ℕ → List String → String → Bool → Option (String × Bool)
  | 0, _, _, _ => none
  | steps + 1, visited, current, mapped =>
    match mapping.lookup current with
    | none => some (current, mapped)
    | some next =>
      if next = "" then
        some (current, mapped)
      else if next ∈ visited then
        if next = current then some (current, current ≠ base) else none
      else
        mapModel base mapping steps (next :: visited) next true

/-- `ModelMappedHelper`; every turn of its loop visits a new key of the mapping. -/
def modelMappedHelper (s : RelayState) (chanMeta : ChannelMeta) : Option ChannelMeta :=
  match s.context.channel.modelMapping with
  | none => none
  | some mapping =>
    (mapModel s.info.originModelName mapping (mapping.length + 1)
      [s.info.originModelName] s.info.originModelName chanMeta.isModelMapped).map
      fun (model, mapped) =>
        { chanMeta with
          isModelMapped := mapped
          upstreamModelName := if mapped then model else chanMeta.upstreamModelName }

/-- `HasModelBillingConfig`. -/
def PriceSettings.hasModelBillingConfig (prices : PriceSettings) (model : String) : Bool :=
  (prices.modelFixedPrice model).2 || (prices.modelRatio model).2 ||
    (prices.billedByExpr model &&
      (prices.billingExpr model).any fun expr => Text.trimSpace expr ≠ "")

def relayModeGemini : RelayMode :=
  .other 35

/-- The name that the Gemini handler gives a model: a request without thinking goes by a name of
its own if that name has a price. -/
def noThinkingModel (prices : PriceSettings) (req : Request) (mode : RelayMode)
    (model : String) : String :=
  if mode = relayModeGemini ∧ req.noThinking ∧ ¬"-nothinking".toList <:+: model.toList ∧
      prices.hasModelBillingConfig (model ++ "-nothinking") then
    model ++ "-nothinking"
  else
    model

/-- The name of the requested model after an attempt has been prepared. -/
def noThinkingModelName (prices : PriceSettings) (req : Request) (info : RelayInfo) : String :=
  noThinkingModel prices req info.relayMode info.originModelName

def addOtherRatios (ratios : List (String × ℚ)) (price : PriceData) : PriceData :=
  ratios.foldl (fun price ratio => price.addOtherRatio ratio.1 ratio.2) price

/-- What the preparation of an attempt leaves in the information about the request. Nothing
resets it before the next attempt. -/
def converting (prices : PriceSettings) (req : Request) (ratios : List (String × ℚ))
    (info : RelayInfo) : RelayInfo :=
  { info with
    originModelName := noThinkingModelName prices req info
    priceData := addOtherRatios ratios info.priceData }

def ChannelMeta.converting (prices : PriceSettings) (req : Request) (conversion : Conversion)
    (info : RelayInfo) (chanMeta : ChannelMeta) : ChannelMeta :=
  let model := noThinkingModelName prices req info
  { chanMeta with
    upstreamModelName := conversion.upstreamModelName.getD
      (if model = info.originModelName then chanMeta.upstreamModelName else model) }

def RelayState.converting (prices : PriceSettings) (req : Request) (conversion : Conversion)
    (s : RelayState) : RelayState :=
  { s with
    channelMeta := s.channelMeta.map (·.converting prices req conversion s.info)
    info := Relay.converting prices req conversion.otherRatios s.info }

/-- What the loop does after an attempt. -/
inductive Turn where
  | stops
  | retries (s : RelayState)
  | serves (s : RelayState) (reply : Answer)

/-- What an attempt leads to once its channel is selected and its price refreshed. A request whose
model is not mapped is not converted. An attempt that serves leaves its own conversion to
`relay`. -/
def execute (prices : PriceSettings) (req : Request) (attempt : Attempt) (s : RelayState) : Turn :=
  match attempt.result with
  | .probing => .retries s
  | .failed none => .retries { s with channelMeta := some (initChannelMeta s) }
  | .failed (some conversion) =>
    match modelMappedHelper s (initChannelMeta s) with
    | none => .retries { s with channelMeta := some (initChannelMeta s) }
    | some chanMeta =>
      .retries (RelayState.converting prices req conversion { s with channelMeta := some chanMeta })
  | .answered reply =>
    match modelMappedHelper s (initChannelMeta s) with
    | none => .retries { s with channelMeta := some (initChannelMeta s) }
    | some chanMeta => .serves { s with channelMeta := some chanMeta } reply

def turn (prices : PriceSettings) (req : Request) (attempt : Attempt) (s : RelayState) :
    Turn :=
  match (getChannel prices req attempt.pick s).bind
      (prepareTieredBillingForSelectedGroup req attempt) with
  | none => .stops
  | some s => execute prices req attempt s

/-- The loop; an attempt that is not followed by another one ended it. -/
def attemptChannels (prices : PriceSettings) (req : Request) :
    List Attempt → RelayState → Option (RelayState × Answer)
  | [], _ => none
  | attempt :: rest, s =>
    match turn prices req attempt s with
    | .stops => none
    | .retries s => attemptChannels prices req rest s
    | .serves s reply => some (s, reply)

/-! ## The whole request -/

def relayModeResponsesCompact : RelayMode :=
  .other 36

/-- A compaction is priced again before it settles, by the channel that served it. -/
def priceToSettle (prices : PriceSettings) (cfg : Settings) (req : Request)
    (s : RelayState) : Option RelayState :=
  if s.info.relayMode = relayModeResponsesCompact then
    modelPriceHelper prices cfg req {} s.info.estimatePromptTokens s
  else
    some s

/-- What settlement reads of the request once a channel has answered. -/
def RelayState.settling (s : RelayState) (reply : Answer) : RelayInfo :=
  { s.info with
    channelId := (s.channelMeta.map (·.channelId)).getD 0
    channelType := (s.channelMeta.map (·.channelType)).getD 0
    requestConversionChain := reply.requestConversionChain
    finalRequestRelayFormat := reply.finalRequestRelayFormat
    builtInTools := reply.builtInTools }

/-- The quota that `PostTextConsumeQuotaResult` settles. -/
def settledQuota (cfg : Settings) (reply : Answer) (s : RelayState) : ℤ :=
  (settledSummary cfg reply.ctx (s.settling reply) (reply.usage.map effectiveBillingUsage)).1.quota

/-- The state that the loop starts from: priced, and reserved unless the model is free. -/
def openRequest (prices : PriceSettings) (cfg : Settings) (req : Request)
    (out rollback : Option ModelError) (context : Context) (info : RelayInfo) :
    Option RelayState :=
  (modelPriceHelper prices cfg req req.tokenCount req.promptTokens
    ⟨context, none, info, none⟩).bind fun s =>
      if s.info.priceData.freeModel then some s
      else preConsumeBilling req out rollback s.info.priceData.quotaToPreConsume s

/-- A request that was served: the context and the state of the serving attempt, the answer,
and the quota. -/
structure Served where
  state : RelayState
  answer : Answer
  quota : ℤ

def relay (prices : PriceSettings) (cfg : Settings) (req : Request)
    (out rollback : Option ModelError) (context : Context) (info : RelayInfo)
    (attempts : List Attempt) : Option Served := do
  let opened ← openRequest prices cfg req out rollback context info
  let (served, reply) ← attemptChannels prices req attempts opened
  let sent := served.converting prices req reply.conversion
  let priced ← priceToSettle prices cfg req sent
  return ⟨sent, reply, settledQuota cfg reply priced⟩

end NewApi.Relay
