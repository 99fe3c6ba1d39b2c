import NewApi.Model.ManagedContextOutcome

/-!
# Durable billing operations

The accounting rows of a managed request and the three transactions on them.
`SettleBillingOperation` and `RefundBillingOperation` return a struct that the closure of the
transaction fills in, so their results carry that struct on every exit, also when the commit fails
after the closure has changed it.
-/

namespace NewApi.Model

open Relational

/-- The states of a billing operation. -/
inductive BillingOperationState where
  | reserved
  | settled
  | refunded
deriving DecidableEq

/-- `BillingOperation`, without the timestamps that nothing reads back. -/
structure BillingOperation where
  id : ℤ
  (lookupHMAC ownerHMAC conversationHMAC lookupKeyVersion : String)
  expectedRevision : UInt64
  (purpose fingerprint : String)
  state : BillingOperationState
  (userId tokenId channelId reservedQuota actualQuota promptTokens completionTokens totalTokens : ℤ)
  (billingMode pricingSnapshot : String)
  (countUsage isPlayground : Bool)
deriving DecidableEq

/-- A row of `tokens`, as far as billing reads and writes it. -/
structure Token where
  (id remainQuota usedQuota : ℤ)
  unlimitedQuota : Bool
deriving DecidableEq

/-- A row of `users`, as far as billing reads and writes it. -/
structure User where
  (id usedQuota requestCount : ℤ)
deriving DecidableEq

/-- A row of `channels`, as far as billing reads and writes it. -/
structure Channel where
  (id usedQuota : ℤ)
deriving DecidableEq

/-- `RecordConsumeLogParams`: what a consume log is made of. -/
structure RecordConsumeLogParams where
  (channelId promptTokens completionTokens : ℤ)
  (modelName tokenName : String)
  quota : ℤ
  content : String
  (tokenId useTimeSeconds : ℤ)
  isStream : Bool
  (group other : String)
  billingOperationId : Option ℤ

/-- The payload of an outbox row. -/
structure BillingOperationConsumeLogPayload where
  userId : ℤ
  params : RecordConsumeLogParams

/-- `BillingOperationLogOutbox`. The payload column holds the JSON of this payload. -/
structure BillingOperationLogOutbox where
  (id billingOperationId : ℤ)
  payload : BillingOperationConsumeLogPayload
  (delivered recordCreated : Bool)

instance : Keyed BillingOperation ℤ :=
  ⟨BillingOperation.id⟩

instance : Keyed Token ℤ :=
  ⟨Token.id⟩

instance : Keyed User ℤ :=
  ⟨User.id⟩

instance : Keyed Channel ℤ :=
  ⟨Channel.id⟩

instance : Keyed BillingOperationLogOutbox ℤ :=
  ⟨BillingOperationLogOutbox.id⟩

/-- The tables that the transactions of billing read and write. -/
structure Database where
  tokens : Table Token
  users : Table User
  channels : Table Channel
  operations : Table BillingOperation
  outboxes : Table BillingOperationLogOutbox
  outcomes : Table ManagedContextOutcome

/-- The digests of a request under one key version. -/
structure BillingOperationLookupCandidate where
  (lookupHMAC ownerHMAC conversationHMAC keyVersion : String)
deriving DecidableEq

/-- What identifies an operation: its candidates, revision, purpose and fingerprint. -/
structure BillingOperationIdentity where
  candidates : List BillingOperationLookupCandidate
  expectedRevision : UInt64
  (purpose fingerprint : String)

/-- What a reservation asks for. -/
structure BillingOperationReserveRequest where
  identity : BillingOperationIdentity
  (userId tokenId channelId reservedQuota : ℤ)
  isPlayground : Bool
  pricingSnapshot : String

/-- What a settlement writes. -/
structure BillingOperationSettlement where
  (actualQuota promptTokens completionTokens totalTokens : ℤ)
  billingMode : String
  countUsage : Bool
  logUserId : ℤ
  logParams : RecordConsumeLogParams
  outcomeCheckpoint : Option ManagedContextOutcomeCheckpoint

/-! ## Identities and lookup -/

namespace BillingOperationLookupCandidate

/-- The four columns of a candidate are present and fit their columns. -/
def wellFormed (cand : BillingOperationLookupCandidate) : Bool :=
  Text.fits 64 cand.lookupHMAC && Text.fits 64 cand.ownerHMAC &&
    Text.fits 64 cand.conversationHMAC && Text.fits 64 cand.keyVersion

def owns (cand : BillingOperationLookupCandidate) (op : BillingOperation) : Bool :=
  op.lookupHMAC = cand.lookupHMAC && op.ownerHMAC = cand.ownerHMAC &&
    op.conversationHMAC = cand.conversationHMAC &&
    op.lookupKeyVersion = cand.keyVersion

/-- The `UPDATE` that moves a row to this candidate's columns. -/
def adopt (cand : BillingOperationLookupCandidate) : RowUpdate BillingOperation where
  apply op :=
    { op with
      lookupHMAC := cand.lookupHMAC
      ownerHMAC := cand.ownerHMAC
      conversationHMAC := cand.conversationHMAC
      lookupKeyVersion := cand.keyVersion }
  key_apply _ := rfl

end BillingOperationLookupCandidate

/-- The loop over the candidates; `seen` holds the lookup HMACs met so far. -/
def validateLookupCandidates :
    List String → List BillingOperationLookupCandidate → Except ModelError Unit
  | _, [] => .ok ()
  | seen, cand :: rest =>
    if !cand.wellFormed then
      .error (.message "billing operation lookup candidate is invalid")
    else if cand.lookupHMAC ∈ seen then
      .error (.message "billing operation lookup candidates contain duplicates")
    else
      validateLookupCandidates (cand.lookupHMAC :: seen) rest

def validateBillingOperationIdentity (ident : BillingOperationIdentity) :
    Except ModelError Unit :=
  if ident.candidates.length = 0 ∨ ident.candidates.length > 5 then
    .error (.message "billing operation requires between one and five lookup candidates")
  else if !Text.fits 32 ident.purpose then
    .error (.message "billing operation purpose is invalid")
  else if !Text.fits 64 ident.fingerprint then
    .error (.message "billing operation fingerprint is invalid")
  else
    validateLookupCandidates [] ident.candidates

/-- The `WHERE` clause of the lookup. -/
def BillingOperationIdentity.selects (ident : BillingOperationIdentity)
    (op : BillingOperation) : Bool :=
  op.lookupHMAC ∈ ident.candidates.map (·.lookupHMAC) &&
    op.expectedRevision = ident.expectedRevision &&
    op.purpose = ident.purpose

def findBillingOperation (db : Database) (ident : BillingOperationIdentity) :
    Except ModelError BillingOperation :=
  match (db.operations.rows.filter ident.selects).take 2 with
  | [] => .error .recordNotFound
  | [op] =>
    if op.fingerprint ≠ ident.fingerprint then
      .error .billingOperationFingerprintConflict
    else if ident.candidates.any (·.owns op) then
      .ok op
    else
      .error .billingOperationFingerprintConflict
  | _ => .error .billingOperationLookupConflict

/-- The unique index `idx_billing_operation_business`. -/
def sameBusinessKey (left right : BillingOperation) : Bool :=
  left.ownerHMAC = right.ownerHMAC && left.conversationHMAC = right.conversationHMAC &&
    left.expectedRevision = right.expectedRevision && left.purpose = right.purpose

def Database.businessKeyTaken (db : Database) (op : BillingOperation) : Bool :=
  db.operations.rows.any fun other => other.id ≠ op.id && sameBusinessKey other op

/-- The check that follows every guarded `UPDATE`: exactly one row was changed. -/
def updateOne {Row : Type} [Keyed Row ℤ] (result : UpdateResult Row) (failure : ModelError) :
    Except ModelError (Table Row) :=
  if result.rowsAffected ≠ 1 then .error failure else .ok result.table

/-! ## Token accounting -/

/-- `remain_quota - amount`, `used_quota + amount`. -/
def Token.consume (amount : ℤ) : RowUpdate Token where
  apply token :=
    { token with
      remainQuota := token.remainQuota - amount
      usedQuota := token.usedQuota + amount }
  key_apply _ := rfl

/-- `unlimited_quota = true OR remain_quota >= amount`. -/
def Token.covers (amount : ℤ) (token : Token) : Bool :=
  token.unlimitedQuota || amount ≤ token.remainQuota

/-- `used_quota >= amount`. -/
def Token.hasUsed (amount : ℤ) (token : Token) : Bool :=
  amount ≤ token.usedQuota

/-! ## Reserve -/

/-- The statements of a reservation that fail. -/
structure ReserveFaults where
  find : Bool := false
  updateLookup : Bool := false
  updateToken : Bool := false
  create : Bool := false
  commit : Bool := false
  reload : Bool := false

/-- The request repeats the charged parties of an existing operation. -/
def BillingOperationReserveRequest.sameParties (req : BillingOperationReserveRequest)
    (old : BillingOperation) : Bool :=
  old.userId = req.userId && old.tokenId = req.tokenId &&
    old.channelId = req.channelId && old.isPlayground = req.isPlayground

def newBillingOperation (req : BillingOperationReserveRequest)
    (live : BillingOperationLookupCandidate) (id : ℤ) : BillingOperation where
  id := id
  lookupHMAC := live.lookupHMAC
  ownerHMAC := live.ownerHMAC
  conversationHMAC := live.conversationHMAC
  lookupKeyVersion := live.keyVersion
  expectedRevision := req.identity.expectedRevision
  purpose := req.identity.purpose
  fingerprint := req.identity.fingerprint
  state := .reserved
  userId := req.userId
  tokenId := req.tokenId
  channelId := req.channelId
  reservedQuota := req.reservedQuota
  actualQuota := 0
  promptTokens := 0
  completionTokens := 0
  totalTokens := 0
  billingMode := ""
  pricingSnapshot := req.pricingSnapshot
  countUsage := false
  isPlayground := req.isPlayground

theorem key_newBillingOperation (req : BillingOperationReserveRequest)
    (live : BillingOperationLookupCandidate) (id : ℤ) :
    Keyed.key (newBillingOperation req live id) = id :=
  rfl

def reserveExisting (faults : ReserveFaults) (req : BillingOperationReserveRequest)
    (live : BillingOperationLookupCandidate) (old : BillingOperation) (db : Database) :
    Except ModelError (BillingOperation × Database) :=
  if !req.sameParties old then
    .error .billingOperationFingerprintConflict
  else if old.state = .refunded then
    .error .billingOperationRefunded
  else if old.lookupHMAC = live.lookupHMAC then
    .ok (old, db)
  else if faults.updateLookup || db.businessKeyTaken (live.adopt.apply old) then
    .error .database
  else
    match updateOne (db.operations.updateWhere old.id
        (fun row => row.lookupHMAC = old.lookupHMAC) live.adopt)
        .billingOperationLookupConflict with
    | .error failure => .error failure
    | .ok operations => .ok (live.adopt.apply old, { db with operations })

/-- The token `UPDATE` of a new reservation. -/
def chargeReservation (faults : ReserveFaults) (req : BillingOperationReserveRequest)
    (tokens : Table Token) : Except ModelError (Table Token) :=
  if !req.isPlayground && req.reservedQuota > 0 then
    if faults.updateToken then
      .error .database
    else
      updateOne (tokens.updateWhere req.tokenId (Token.covers req.reservedQuota)
        (Token.consume req.reservedQuota)) .billingOperationQuotaInsufficient
  else
    .ok tokens

/-- `INSERT` of the operation, which has a unique index on its business key. -/
def createOperation (faults : ReserveFaults) (req : BillingOperationReserveRequest)
    (live : BillingOperationLookupCandidate) (db : Database) :
    Except ModelError (Table BillingOperation) :=
  if faults.create || db.businessKeyTaken (newBillingOperation req live db.operations.nextKey) then
    .error .database
  else
    .ok (db.operations.insert (newBillingOperation req live) (key_newBillingOperation req live))

def reserveNew (faults : ReserveFaults) (req : BillingOperationReserveRequest)
    (live : BillingOperationLookupCandidate) (db : Database) :
    Except ModelError (BillingOperation × Database) := do
  let tokens ← chargeReservation faults req db.tokens
  let operations ← createOperation faults req live db
  return (newBillingOperation req live db.operations.nextKey, { db with tokens, operations })

def reserveTransaction (faults : ReserveFaults) (req : BillingOperationReserveRequest)
    (live : BillingOperationLookupCandidate) (db : Database) :
    Except ModelError (BillingOperation × Database) :=
  if faults.find then
    .error .database
  else
    match findBillingOperation db req.identity with
    | .ok old => reserveExisting faults req live old db
    | .error .recordNotFound => reserveNew faults req live db
    | .error failure => .error failure

/-- After a failed transaction: a concurrent creator may have won, so look once more. -/
def reloadReservation (faults : ReserveFaults) (req : BillingOperationReserveRequest)
    (failure : ModelError) (db : Database) : Except ModelError BillingOperation :=
  if faults.reload then
    .error failure
  else
    match findBillingOperation db req.identity with
    | .ok old =>
      if !req.sameParties old then
        .error .billingOperationFingerprintConflict
      else if old.state = .refunded then
        .error .billingOperationRefunded
      else
        .ok old
    | .error _ => .error failure

def BillingOperationReserveRequest.invalid (req : BillingOperationReserveRequest) : Bool :=
  req.userId ≤ 0 || req.tokenId ≤ 0 || req.channelId ≤ 0 ||
    req.reservedQuota < 0 || Text.isBlank req.pricingSnapshot

/-- `ReserveBillingOperation`: the answer of the call and the database after it. -/
def reserveBillingOperation (faults : ReserveFaults) (req : BillingOperationReserveRequest)
    (db : Database) : Except ModelError BillingOperation × Database :=
  match validateBillingOperationIdentity req.identity with
  | .error failure => (.error failure, db)
  | .ok () =>
    if req.invalid then
      (.error (.message "billing operation reserve request is invalid"), db)
    else
      match req.identity.candidates with
      | [] => (.error .database, db)
      | live :: _ =>
        match reserveTransaction faults req live db with
        | .ok (op, committed) =>
          if faults.commit then
            (reloadReservation faults req .database db, db)
          else
            (.ok op, committed)
        | .error failure => (reloadReservation faults req failure db, db)

/-! ## Settle -/

/-- Which statements of a settlement the database refuses, and whether the log payload
fails to marshal. -/
structure SettleFaults where
  load : Bool := false
  marshal : Bool := false
  updateToken : Bool := false
  updateUser : Bool := false
  channel : Bool := false
  casOperation : Bool := false
  createOutbox : Bool := false
  checkpoint : Bool := false
  commit : Bool := false

def BillingOperationSettlement.accepted (settlement : BillingOperationSettlement)
    (op : BillingOperation) : Bool :=
  0 ≤ settlement.actualQuota && 0 ≤ settlement.promptTokens &&
    0 ≤ settlement.completionTokens && 0 ≤ settlement.totalTokens &&
    settlement.totalTokens = settlement.promptTokens + settlement.completionTokens &&
    (settlement.billingMode = "fixed" || settlement.billingMode = "tiered_expr" ||
      settlement.billingMode = "free") &&
    settlement.logUserId = op.userId &&
    settlement.logParams.tokenId = op.tokenId &&
    settlement.logParams.channelId = op.channelId &&
    settlement.logParams.quota = settlement.actualQuota &&
    settlement.logParams.promptTokens = settlement.promptTokens &&
    settlement.logParams.completionTokens = settlement.completionTokens

/-- The token `UPDATE` of a settlement: charge or return the difference to the reservation. -/
def adjustToken (faults : SettleFaults) (op : BillingOperation)
    (settlement : BillingOperationSettlement) (tokens : Table Token) :
    Except ModelError (Table Token) :=
  let delta := settlement.actualQuota - op.reservedQuota
  if !op.isPlayground && delta ≠ 0 then
    if faults.updateToken then
      .error .database
    else if delta > 0 then
      updateOne (tokens.updateWhere op.tokenId (Token.covers delta) (Token.consume delta))
        .billingOperationQuotaInsufficient
    else
      updateOne (tokens.updateWhere op.tokenId (Token.hasUsed (-delta))
        (Token.consume delta)) .billingOperationQuotaInsufficient
  else
    .ok tokens

/-- `used_quota + amount`, `request_count + 1`. -/
def User.countRequest (amount : ℤ) : RowUpdate User where
  apply user :=
    { user with
      usedQuota := user.usedQuota + amount
      requestCount := user.requestCount + 1 }
  key_apply _ := rfl

/-- `used_quota + amount`. -/
def Channel.countUsage (amount : ℤ) : RowUpdate Channel where
  apply chan := { chan with usedQuota := chan.usedQuota + amount }
  key_apply _ := rfl

def countUserUsage (faults : SettleFaults) (op : BillingOperation)
    (settlement : BillingOperationSettlement) (users : Table User) :
    Except ModelError (Table User) :=
  if settlement.countUsage then
    if faults.updateUser then
      .error .database
    else
      updateOne (users.updateWhere op.userId (fun _ => true)
        (User.countRequest settlement.actualQuota))
        (.message "billing operation user does not exist")
  else
    .ok users

/-- The usage counter of the channel. A zero charge only checks that the channel exists. -/
def countChannelUsage (faults : SettleFaults) (op : BillingOperation)
    (settlement : BillingOperationSettlement) (chans : Table Channel) :
    Except ModelError (Table Channel) :=
  if settlement.countUsage then
    if faults.channel then
      .error .database
    else if settlement.actualQuota = 0 then
      if (chans.find? op.channelId).isNone then
        .error (.message "billing operation channel does not exist")
      else
        .ok chans
    else
      updateOne (chans.updateWhere op.channelId (fun _ => true)
        (Channel.countUsage settlement.actualQuota))
        (.message "billing operation channel does not exist")
  else
    .ok chans

def BillingOperationSettlement.freeze (settlement : BillingOperationSettlement) :
    RowUpdate BillingOperation where
  apply op :=
    { op with
      state := .settled
      actualQuota := settlement.actualQuota
      promptTokens := settlement.promptTokens
      completionTokens := settlement.completionTokens
      totalTokens := settlement.totalTokens
      billingMode := settlement.billingMode
      countUsage := settlement.countUsage }
  key_apply _ := rfl

def leaveReserved (statementFails : Bool) (op : BillingOperation) (fingerprint : String)
    (change : RowUpdate BillingOperation) (failure : ModelError)
    (operations : Table BillingOperation) : Except ModelError (Table BillingOperation) :=
  if statementFails then
    .error .database
  else
    updateOne (operations.updateWhere op.id
      (fun row => row.state = .reserved && row.fingerprint = fingerprint) change) failure

def newOutbox (op : BillingOperation) (settlement : BillingOperationSettlement) (id : ℤ) :
    BillingOperationLogOutbox where
  id := id
  billingOperationId := op.id
  payload := ⟨settlement.logUserId, settlement.logParams⟩
  delivered := false
  recordCreated := false

theorem key_newOutbox (op : BillingOperation) (settlement : BillingOperationSettlement)
    (id : ℤ) : Keyed.key (newOutbox op settlement id) = id :=
  rfl

/-- `INSERT` into the outbox, which has a unique index on the operation. -/
def createOutbox (faults : SettleFaults) (op : BillingOperation)
    (settlement : BillingOperationSettlement) (outboxes : Table BillingOperationLogOutbox) :
    Except ModelError (Table BillingOperationLogOutbox) :=
  if faults.createOutbox || outboxes.rows.any (·.billingOperationId = op.id) then
    .error .database
  else
    .ok (outboxes.insert (newOutbox op settlement) (key_newOutbox op settlement))

/-- The closure of the settlement's transaction from the locked row on. It returns the row
struct, whether this call settled it, and the database to commit. -/
def settleLocked (now : ℤ) (faults : SettleFaults) (fingerprint : String)
    (settlement : BillingOperationSettlement) (op : BillingOperation) (db : Database) :
    Except ModelError (BillingOperation × Bool × Database) :=
  if op.fingerprint ≠ fingerprint then
    .error .billingOperationFingerprintConflict
  else if op.state = .settled then
    .ok (op, false, db)
  else if op.state = .refunded then
    .error .billingOperationRefunded
  else if !settlement.accepted op then
    .error .billingOperationFingerprintConflict
  else if faults.marshal then
    .error (.message "marshal billing operation log payload")
  else do
    let tokens ← adjustToken faults op settlement db.tokens
    let users ← countUserUsage faults op settlement db.users
    let chans ← countChannelUsage faults op settlement db.channels
    let operations ← leaveReserved faults.casOperation op fingerprint settlement.freeze
      (.message "billing operation settlement compare-and-swap failed") db.operations
    let outboxes ← createOutbox faults op settlement db.outboxes
    let outcomes ← applyManagedContextOutcomeCheckpoint now faults.checkpoint op.id
      settlement.outcomeCheckpoint db.outcomes
    return (settlement.freeze.apply op, true,
      { tokens, users, channels := chans, operations, outboxes, outcomes })

/-- What `SettleBillingOperation` returns: the struct (`none` while it still holds no row),
whether this call settled it, and the error. -/
structure SettleResult where
  operation : Option BillingOperation
  settledNow : Bool
  error : Option ModelError

/-- The arguments of a settle or refund call are refused before the transaction starts. -/
def operationArgumentsInvalid (operationId : ℤ) (fingerprint : String) : Bool :=
  operationId ≤ 0 || Text.isBlank fingerprint

/-- `SettleBillingOperation`: the answer of the call and the database after it. -/
def settleBillingOperation (now : ℤ) (faults : SettleFaults) (operationId : ℤ)
    (fingerprint : String) (settlement : BillingOperationSettlement) (db : Database) :
    SettleResult × Database :=
  if operationArgumentsInvalid operationId fingerprint then
    (⟨none, false, some (.message "billing operation settlement is invalid")⟩, db)
  else if faults.load then
    (⟨none, false, some .database⟩, db)
  else
    match db.operations.find? operationId with
    | none => (⟨none, false, some .recordNotFound⟩, db)
    | some op =>
      match settleLocked now faults fingerprint settlement op db with
      | .error failure => (⟨some op, false, some failure⟩, db)
      | .ok (filled, settledNow, committed) =>
        -- The closure has already filled the struct in when the commit is refused.
        if faults.commit then
          (⟨some filled, settledNow, some .database⟩, db)
        else
          (⟨some filled, settledNow, none⟩, committed)

/-! ## Refund -/

/-- The statements of a refund that fail. -/
structure RefundFaults where
  load : Bool := false
  updateToken : Bool := false
  casOperation : Bool := false
  commit : Bool := false

def markRefunded : RowUpdate BillingOperation where
  apply op := { op with state := .refunded }
  key_apply _ := rfl

/-- The token `UPDATE` of a refund. -/
def returnReservation (faults : RefundFaults) (op : BillingOperation)
    (tokens : Table Token) : Except ModelError (Table Token) :=
  if !op.isPlayground && op.reservedQuota > 0 then
    if faults.updateToken then
      .error .database
    else
      updateOne (tokens.updateWhere op.tokenId (Token.hasUsed op.reservedQuota)
        (Token.consume (-op.reservedQuota)))
        (.message "billing operation token does not exist")
  else
    .ok tokens

def refundLocked (faults : RefundFaults) (fingerprint : String) (op : BillingOperation)
    (db : Database) : Except ModelError (BillingOperation × Database) :=
  if op.fingerprint ≠ fingerprint then
    .error .billingOperationFingerprintConflict
  else if op.state = .settled ∨ op.state = .refunded then
    .ok (op, db)
  else do
    let tokens ← returnReservation faults op db.tokens
    let operations ← leaveReserved faults.casOperation op fingerprint markRefunded
      (.message "billing operation refund compare-and-swap failed") db.operations
    return (markRefunded.apply op, { db with tokens, operations })

/-- What `RefundBillingOperation` returns. -/
structure RefundResult where
  operation : Option BillingOperation
  error : Option ModelError
deriving DecidableEq

/-- `RefundBillingOperation`: the answer of the call and the database after it. -/
def refundBillingOperation (faults : RefundFaults) (operationId : ℤ) (fingerprint : String)
    (db : Database) : RefundResult × Database :=
  if operationArgumentsInvalid operationId fingerprint then
    (⟨none, some (.message "billing operation refund is invalid")⟩, db)
  else if faults.load then
    (⟨none, some .database⟩, db)
  else
    match db.operations.find? operationId with
    | none => (⟨none, some .recordNotFound⟩, db)
    | some op =>
      match refundLocked faults fingerprint op db with
      | .error failure => (⟨some op, some failure⟩, db)
      | .ok (filled, committed) =>
        if faults.commit then
          (⟨some filled, some .database⟩, db)
        else
          (⟨some filled, none⟩, committed)

/-! ## The frozen result -/

/-- The result that a settled operation repeats. -/
structure BillingOperationFrozenResult where
  (promptTokens completionTokens totalTokens actualQuota : ℤ)
  billingMode : String
  (logDelivered logRecorded : Bool)

def getBillingOperationFrozenResult (readFails : Bool) (operationId : ℤ) (fingerprint : String)
    (db : Database) : Except ModelError (Option BillingOperationFrozenResult) :=
  if readFails then
    .error .database
  else
    match db.operations.find? operationId with
    | none => .error .recordNotFound
    | some op =>
      if op.fingerprint ≠ fingerprint then
        .error .billingOperationFingerprintConflict
      else if op.state ≠ .settled then
        .ok none
      else
        match db.outboxes.rows.find? (·.billingOperationId = operationId) with
        | none => .error .recordNotFound
        | some box =>
          .ok (some
            { promptTokens := op.promptTokens
              completionTokens := op.completionTokens
              totalTokens := op.totalTokens
              actualQuota := op.actualQuota
              billingMode := op.billingMode
              logDelivered := box.delivered
              logRecorded := box.recordCreated })

end NewApi.Model
