import NewApi.Model.ConsumeLog
import NewApi.Service.BillingSession
import NewApi.Service.TextQuota

/-!
# Settling a text request

`PostTextConsumeQuotaResult` on both of its paths: with a durable operation, and directly on the
token, the user and the channel. Every statement of the databases succeeds here; what their
failures do to an operation, a session and a log is the subject of the machines in other files.
-/

namespace NewApi.Service

open NewApi.Dto NewApi.Types NewApi.Model Relational

/-- What a settled text request reports of itself. -/
structure TextConsumeResult where
  promptTokens : ℤ := 0
  completionTokens : ℤ := 0
  totalTokens : ℤ := 0
  actualQuota : ℤ := 0
  logRecorded : Bool := false
  settlementError : List ModelError := []
  logError : List ModelError := []

/-- The answer of a settlement, its errors, and the databases after it. -/
structure ConsumeOutcome where
  result : TextConsumeResult
  error : List ModelError
  stores : Stores

def TextConsumeResult.returns (result : TextConsumeResult) (stores : Stores) : ConsumeOutcome :=
  ⟨result, result.settlementError ++ result.logError, stores⟩

/-- Everything the settlement of one request reads besides the databases. -/
structure ConsumeRequest where
  settings : Settings
  ctx : RequestContext
  logContext : LogContext
  relayInfo : RelayInfo
  reported : Option UpstreamUsage
  render : TextQuotaSummary → String × String

namespace ConsumeRequest

def usage (req : ConsumeRequest) : Option Usage :=
  req.reported.map effectiveBillingUsage

def summary (req : ConsumeRequest) : TextQuotaSummary :=
  (settledSummary req.settings req.ctx req.relayInfo req.usage).1

def tieredBillingApplied (req : ConsumeRequest) : Bool :=
  (settledSummary req.settings req.ctx req.relayInfo req.usage).2

end ConsumeRequest

def logModelName (model : String) : String :=
  if model.startsWith "gpt-4-gizmo" then "gpt-4-gizmo-*"
  else if model.startsWith "gpt-4o-gizmo" then "gpt-4o-gizmo-*"
  else model

namespace ConsumeRequest

def logParams (req : ConsumeRequest) : RecordConsumeLogParams where
  channelId := req.relayInfo.channelId
  promptTokens := req.summary.promptTokens
  completionTokens := req.summary.completionTokens
  modelName := logModelName req.summary.modelName
  tokenName := req.summary.tokenName
  quota := req.summary.quota
  content := (req.render req.summary).1
  tokenId := req.relayInfo.tokenId
  useTimeSeconds := req.summary.useTimeSeconds
  isStream := req.relayInfo.isStream
  group := req.relayInfo.usingGroup
  other := (req.render req.summary).2
  billingOperationId := none

def settlement (req : ConsumeRequest) : BillingOperationSettlement where
  actualQuota := req.summary.quota
  promptTokens := req.summary.promptTokens
  completionTokens := req.summary.completionTokens
  totalTokens := req.summary.totalTokens
  billingMode :=
    if req.relayInfo.priceData.freeModel then "free"
    else if req.tieredBillingApplied then "tiered_expr"
    else "fixed"
  countUsage := req.summary.totalTokens ≠ 0
  logUserId := req.relayInfo.userId
  logParams := req.logParams
  outcomeCheckpoint := req.relayInfo.managedOutcomeCheckpoint

def result (req : ConsumeRequest) : TextConsumeResult where
  promptTokens := req.summary.promptTokens
  completionTokens := req.summary.completionTokens
  totalTokens := req.summary.totalTokens
  actualQuota := req.summary.quota

end ConsumeRequest

def failures : Except ModelError Bool → List ModelError
  | .ok _ => []
  | .error err => [err]

/-! ## The direct path -/

/-- Whether the token can be charged: the check of `PreConsumeTokenQuota` on the stored row. -/
def tokenOutcome (info : RelayInfo) (quota : ℤ) (db : Database) : Option ModelError :=
  if quota ≤ 0 then
    none
  else
    match db.tokens.find? info.tokenId with
    | none => some .recordNotFound
    | some token =>
      if !info.tokenUnlimited && token.remainQuota < quota then
        some (.message "token quota is not enough")
      else
        none

/-- `PostConsumeQuota`: the error and the amount taken from the token. -/
def postConsumeQuota (info : RelayInfo) (quota : ℤ) (db : Database) :
    Option ModelError × ℤ :=
  if info.isPlayground then
    (none, 0)
  else if quota > 0 then
    preConsumeTokenQuota info.isPlayground (tokenOutcome info quota db) quota 0
  else
    increaseTokenQuota none (-quota) 0

/-- `SettleBilling`: through the session, or without one by the amount reserved so far. -/
def settleBilling (info : RelayInfo) (sess : Option BillingSession) (actualQuota : ℤ)
    (db : Database) : Option ModelError × Database :=
  let call : Option ModelError × ℤ := match sess with
    | some sess =>
      let result := sess.settle
        (tokenOutcome info (actualQuota - sess.preConsumedQuota) db) actualQuota 0
      (result.error, result.taken)
    | none =>
      if actualQuota - info.finalPreConsumedQuota ≠ 0 then
        postConsumeQuota info (actualQuota - info.finalPreConsumedQuota) db
      else
        (none, 0)
  (call.1, { db with tokens := db.tokens.modify info.tokenId (Token.consume call.2) })

/-- `UpdateUserUsedQuotaAndRequestCount` and `UpdateChannelUsedQuota`. -/
def updateUsedQuota (info : RelayInfo) (quota : ℤ) (db : Database) : Database :=
  { db with
    users := db.users.modify info.userId (User.countRequest quota)
    channels := db.channels.modify info.channelId (Channel.countUsage quota) }

/-- `PostTextConsumeQuotaResult` without a durable operation. -/
def postTextConsumeDirect (req : ConsumeRequest) (sess : Option BillingSession)
    (stores : Stores) : ConsumeOutcome :=
  let summary := req.summary
  let db := if summary.hasBillableUsage then
      updateUsedQuota req.relayInfo summary.quota stores.db
    else
      stores.db
  let settled := settleBilling req.relayInfo sess summary.quota db
  let logged := recordConsumeLogResult false false req.logContext
    req.relayInfo.userId req.logParams stores.logs
  { req.result with
    settlementError := settled.1.toList
    logRecorded := logged.1.toOption.getD false
    logError := failures logged.1 }.returns ⟨settled.2, logged.2⟩

/-! ## The durable path -/

def frozenResult (frozen : BillingOperationFrozenResult) (recorded : Bool)
    (logError : List ModelError) : TextConsumeResult where
  promptTokens := frozen.promptTokens
  completionTokens := frozen.completionTokens
  totalTokens := frozen.totalTokens
  actualQuota := frozen.actualQuota
  logRecorded := recorded
  logError := logError

/-- `frozenTextSettlement` once the operation is known to be settled. -/
def deliverFrozen (logContext : LogContext) (opId : ℤ)
    (frozen : BillingOperationFrozenResult) (stores : Stores) : ConsumeOutcome :=
  if frozen.logDelivered then
    (frozenResult frozen frozen.logRecorded []).returns stores
  else
    match deliverBillingOperationConsumeLog logContext opId stores with
    | (stores, .ok recorded) => (frozenResult frozen recorded []).returns stores
    | (stores, .error err) =>
      (frozenResult frozen frozen.logRecorded [err]).returns stores

def settleTextBillingOperation (now : ℤ) (req : ConsumeRequest) (opId : ℤ)
    (fingerprint : String) (stores : Stores) : ConsumeOutcome :=
  let settled := settleBillingOperation now {} opId fingerprint req.settlement stores.db
  match settled.1.error with
  | some err =>
    match getBillingOperationFrozenResult false opId fingerprint settled.2 with
    | .ok (some frozen) =>
      let delivered := deliverBillingOperationConsumeLog req.logContext opId
        ⟨settled.2, stores.logs⟩
      (frozenResult frozen (delivered.2.toOption.getD false) (failures delivered.2)).returns
        delivered.1
    | .ok none =>
      { req.result with settlementError := [err] }.returns ⟨settled.2, stores.logs⟩
    | .error lookup =>
      { req.result with settlementError := [err, lookup] }.returns ⟨settled.2, stores.logs⟩
  | none =>
    let delivered := deliverBillingOperationConsumeLog req.logContext opId ⟨settled.2, stores.logs⟩
    match getBillingOperationFrozenResult false opId fingerprint delivered.1.db with
    | .ok (some frozen) =>
      (frozenResult frozen (delivered.2.toOption.getD false) (failures delivered.2)).returns
        delivered.1
    | .ok none =>
      { req.result with
        settlementError := [.message "billing operation settlement did not reach a terminal state"]
        logRecorded := delivered.2.toOption.getD false
        logError := failures delivered.2 }.returns delivered.1
    | .error lookup =>
      { req.result with
        settlementError := [lookup]
        logRecorded := delivered.2.toOption.getD false
        logError := failures delivered.2 }.returns delivered.1

/-- `PostTextConsumeQuotaResult` with a durable operation. -/
def postTextConsumeDurable (now : ℤ) (req : ConsumeRequest) (opId : ℤ)
    (fingerprint : String) (stores : Stores) : ConsumeOutcome :=
  if opId = 0 then
    ⟨{}, [.message "durable billing operation session is unavailable"], stores⟩
  else
    match getBillingOperationFrozenResult false opId fingerprint stores.db with
    | .error err => ⟨{}, [err], stores⟩
    | .ok (some frozen) => deliverFrozen req.logContext opId frozen stores
    | .ok none => settleTextBillingOperation now req opId fingerprint stores

end NewApi.Service
