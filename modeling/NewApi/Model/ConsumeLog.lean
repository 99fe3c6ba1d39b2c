import NewApi.Library.Fallible
import NewApi.Model.BillingOperation

/-!
# Consume logs and the outbox of a settlement

The log table lives in a database of its own, so a delivery is a sequence of separate
statements: read the outbox row, insert the log unless the operation already has one,
compare an existing log with the frozen payload, acknowledge the outbox row. A
`DeliveryCall` is a call between two statements, and `DeliveryCall.proceed` runs the next
one; `fails` says that the database refuses it.
-/

namespace NewApi.Model

open Relational
open NewApi.Model renaming BillingOperationLogOutbox → LogOutbox

/-- The types of logs. -/
inductive LogType where
  | unknown
  | topup
  | consume
  | manage
  | system
  | error
  | refund
  | login
deriving DecidableEq

/-- A row of `logs`. -/
structure Log where
  (id userId createdAt : ℤ)
  type : LogType
  (content username tokenName modelName : String)
  (quota promptTokens completionTokens useTime : ℤ)
  isStream : Bool
  (channelId tokenId : ℤ)
  (group ip requestId upstreamRequestId : String)
  billingOperationId : Option ℤ
  other : String

instance : Keyed Log ℤ :=
  ⟨Log.id⟩

/-- What a call reads outside of its arguments: two process-wide settings, the request's
context, the clock, and the address when the user wants it recorded. -/
structure LogContext where
  (logConsumeEnabled usingClickHouse : Bool)
  (username requestId upstreamRequestId : String)
  createdAt : ℤ
  ip : String

/-! ## Recording a log -/

/-- The row that `RecordConsumeLogResult` builds. -/
def newLog (ctx : LogContext) (userId : ℤ) (params : RecordConsumeLogParams) (id : ℤ) :
    Log where
  id := id
  userId := userId
  createdAt := ctx.createdAt
  type := .consume
  content := params.content
  username := ctx.username
  tokenName := params.tokenName
  modelName := params.modelName
  quota := params.quota
  promptTokens := params.promptTokens
  completionTokens := params.completionTokens
  useTime := params.useTimeSeconds
  isStream := params.isStream
  channelId := params.channelId
  tokenId := params.tokenId
  group := params.group
  ip := ctx.ip
  requestId := ctx.requestId
  upstreamRequestId := ctx.upstreamRequestId
  billingOperationId := params.billingOperationId
  other := params.other

theorem key_newLog (ctx : LogContext) (userId : ℤ) (params : RecordConsumeLogParams)
    (id : ℤ) : Keyed.key (newLog ctx userId params id) = id :=
  rfl

/-- A row of the unique index `idx_logs_billing_operation_id` stands in the way. -/
def operationLogged (params : RecordConsumeLogParams) (logs : Table Log) : Bool :=
  params.billingOperationId.isSome &&
    logs.rows.any fun log => log.billingOperationId = params.billingOperationId

/-- How far `RecordConsumeLogResult` is after its insert. -/
inductive RecordStep where
  | returns (reply : Except ModelError Bool)
  | compares

/-- `RecordConsumeLogResult` up to and including its insert. -/
def recordInsert (fails : Bool) (ctx : LogContext) (userId : ℤ)
    (params : RecordConsumeLogParams) (logs : Table Log) : RecordStep × Table Log :=
  if params.billingOperationId.isSome && ctx.usingClickHouse then
    (.returns (.error (.message ("billing operation consume logs require SQL uniqueness and " ++
      "are unsupported by ClickHouse"))), logs)
  else if !ctx.logConsumeEnabled then
    (.returns (.ok false), logs)
  else if fails then
    (.returns (.error .database), logs)
  else if operationLogged params logs then
    (.compares, logs)
  else
    (.returns (.ok true), logs.insert (newLog ctx userId params) (key_newLog ctx userId params))

def Log.agrees (old : Log) (userId : ℤ) (params : RecordConsumeLogParams) : Bool :=
  old.userId = userId && old.type = .consume &&
    old.channelId = params.channelId && old.tokenId = params.tokenId &&
    old.quota = params.quota && old.promptTokens = params.promptTokens &&
    old.completionTokens = params.completionTokens &&
    old.modelName = params.modelName && old.tokenName = params.tokenName &&
    old.group = params.group && old.content = params.content &&
    old.isStream = params.isStream && old.other = params.other

/-- `RecordConsumeLogResult` after an ignored insert. -/
def recordCompare (fails : Bool) (userId : ℤ) (params : RecordConsumeLogParams)
    (logs : Table Log) : Except ModelError Bool :=
  if fails then
    .error .database
  else
    match logs.rows.find? fun log => log.billingOperationId = params.billingOperationId with
    | none => .error .recordNotFound
    | some old =>
      if old.agrees userId params then
        .ok true
      else
        .error (.message "billing operation consume log conflicts with the frozen payload")

def recordConsumeLogResult (insertFails readFails : Bool) (ctx : LogContext) (userId : ℤ)
    (params : RecordConsumeLogParams) (logs : Table Log) :
    Except ModelError Bool × Table Log :=
  match recordInsert insertFails ctx userId params logs with
  | (.returns reply, logs) => (reply, logs)
  | (.compares, logs) => (recordCompare readFails userId params logs, logs)

/-! ## Delivering the outbox -/

namespace BillingOperationLogOutbox

def params (box : LogOutbox) : RecordConsumeLogParams :=
  { box.payload.params with billingOperationId := some box.billingOperationId }

def acknowledge (recorded : Bool) : RowUpdate LogOutbox where
  apply box := { box with delivered := true, recordCreated := recorded }
  key_apply _ := rfl

end BillingOperationLogOutbox

/-- `DeliverBillingOperationConsumeLog` between two of its statements. -/
inductive DeliveryCall where
  | reading (operationId : ℤ)
  | recording (box : LogOutbox)
  | comparing (box : LogOutbox)
  | acknowledging (box : LogOutbox) (recorded : Bool)
  | rereading (box : LogOutbox)

/-- The main database and the table of the log database. -/
structure Stores where
  db : Database
  logs : Table Log

/-- What a step of a delivery leads to. -/
inductive Progress where
  | goesOn (call : DeliveryCall)
  | returns (reply : Except ModelError Bool)

namespace DeliveryCall

def operationId : DeliveryCall → ℤ
  | reading operationId => operationId
  | recording box => box.billingOperationId
  | comparing box => box.billingOperationId
  | acknowledging box _ => box.billingOperationId
  | rereading box => box.billingOperationId

def afterRecord (box : LogOutbox) : Except ModelError Bool → Progress
  | .ok recorded => .goesOn (acknowledging box recorded)
  | .error err => .returns (.error err)

def proceed (fails : Bool) (ctx : LogContext) (stores : Stores) :
    DeliveryCall → Stores × Progress
  | reading operationId =>
    if fails then
      (stores, .returns (.error .database))
    else
      match stores.db.outboxes.rows.find? fun row => row.billingOperationId = operationId with
      | none => (stores, .returns (.error .recordNotFound))
      | some box =>
        if box.delivered then
          (stores, .returns (.ok box.recordCreated))
        else
          (stores, .goesOn (recording box))
  | recording box =>
    match recordInsert fails ctx box.payload.userId box.params stores.logs with
    | (.returns reply, logs) => ({ stores with logs }, afterRecord box reply)
    | (.compares, logs) => ({ stores with logs }, .goesOn (comparing box))
  | comparing box =>
    (stores, afterRecord box (recordCompare fails box.payload.userId box.params stores.logs))
  | acknowledging box recorded =>
    if fails then
      (stores, .returns (.error .database))
    else
      let result := stores.db.outboxes.updateWhere box.id (fun row => !row.delivered)
        (LogOutbox.acknowledge recorded)
      ({ stores with db := { stores.db with outboxes := result.table } },
        if result.rowsAffected = 0 then .goesOn (rereading box) else .returns (.ok recorded))
  | rereading box =>
    if fails then
      (stores, .returns (.error .database))
    else
      match stores.db.outboxes.find? box.id with
      | none => (stores, .returns (.error .recordNotFound))
      | some row => (stores, .returns (.ok row.recordCreated))

end DeliveryCall

/-! ## What a statement can do -/

/-- There is a log of the operation. -/
def Logged (logs : Table Log) (operationId : ℤ) : Prop :=
  ∃ log ∈ logs.rows, log.billingOperationId = some operationId

/-- Everything the next statement of a call can do, and what the call goes on to. -/
inductive Statement (ctx : LogContext) (stores : Stores) :
    DeliveryCall → Stores → Progress → Prop where
  | refused (call : DeliveryCall) (err : ModelError) :
      Statement ctx stores call stores (.returns (.error err))
  | alreadyDelivered (box : LogOutbox)
      (stored : box ∈ stores.db.outboxes.rows) (isDelivered : box.delivered = true) :
      Statement ctx stores (.reading box.billingOperationId) stores
        (.returns (.ok box.recordCreated))
  | pending (box : LogOutbox) (stored : box ∈ stores.db.outboxes.rows) :
      Statement ctx stores (.reading box.billingOperationId) stores (.goesOn (.recording box))
  | disabled (box : LogOutbox) (off : ctx.logConsumeEnabled = false) :
      Statement ctx stores (.recording box) stores (.goesOn (.acknowledging box false))
  | ignored (box : LogOutbox) :
      Statement ctx stores (.recording box) stores (.goesOn (.comparing box))
  | inserted (box : LogOutbox)
      (free : operationLogged box.params stores.logs = false) :
      Statement ctx stores (.recording box)
        { stores with
          logs := stores.logs.insert (newLog ctx box.payload.userId box.params)
            (key_newLog ctx box.payload.userId box.params) }
        (.goesOn (.acknowledging box true))
  | agreed (box : LogOutbox)
      (logged : Logged stores.logs box.billingOperationId) :
      Statement ctx stores (.comparing box) stores (.goesOn (.acknowledging box true))
  | tooLate (box : LogOutbox) (recorded : Bool)
      (delivered : ∀ row, stores.db.outboxes.find? box.id = some row → row.delivered = true) :
      Statement ctx stores (.acknowledging box recorded) stores (.goesOn (.rereading box))
  | acknowledged (box row : LogOutbox) (recorded : Bool)
      (found : stores.db.outboxes.find? box.id = some row)
      (undelivered : row.delivered = false) :
      Statement ctx stores (.acknowledging box recorded)
        { stores with
          db :=
            { stores.db with
              outboxes := stores.db.outboxes.modify box.id (LogOutbox.acknowledge recorded) } }
        (.returns (.ok recorded))
  | reread (box row : LogOutbox)
      (found : stores.db.outboxes.find? box.id = some row) :
      Statement ctx stores (.rereading box) stores (.returns (.ok row.recordCreated))

theorem recordCompare_eq_ok {fails recorded : Bool} {userId opId : ℤ}
    {params : RecordConsumeLogParams} {logs : Table Log}
    (opEq : params.billingOperationId = some opId)
    (done : recordCompare fails userId params logs = .ok recorded) :
    recorded = true ∧ Logged logs opId := by
  simp only [recordCompare, Fallible.guard_eq_ok] at done
  rcases done with ⟨_, done⟩
  split at done
  next => simp at done
  next old found =>
    split at done
    next =>
      simp only [Except.ok.injEq] at done
      refine ⟨done.symm, old, List.mem_of_find?_eq_some found, ?_⟩
      simpa [opEq] using List.find?_some found
    next => simp at done

theorem recording_statement (fails : Bool) (ctx : LogContext) (stores : Stores) (box : LogOutbox) :
    Statement ctx stores (.recording box) ((DeliveryCall.recording box).proceed fails ctx stores).1
      ((DeliveryCall.recording box).proceed fails ctx stores).2 := by
  simp only [DeliveryCall.proceed, recordInsert]
  by_cases clickHouse :
      (box.params.billingOperationId.isSome && ctx.usingClickHouse) = true
  · rw [if_pos clickHouse]
    exact .refused _ _
  · rw [if_neg clickHouse]
    by_cases off : (!ctx.logConsumeEnabled) = true
    · rw [if_pos off]
      exact .disabled box (by simpa using off)
    · rw [if_neg off]
      by_cases refused : fails = true
      · rw [if_pos refused]
        exact .refused _ _
      · rw [if_neg refused]
        by_cases taken : operationLogged box.params stores.logs = true
        · rw [if_pos taken]
          exact .ignored box
        · rw [if_neg taken]
          exact .inserted box (by simpa using taken)

theorem acknowledging_statement (fails : Bool) (ctx : LogContext) (stores : Stores)
    (box : LogOutbox) (recorded : Bool) :
    Statement ctx stores (.acknowledging box recorded)
      ((DeliveryCall.acknowledging box recorded).proceed fails ctx stores).1
      ((DeliveryCall.acknowledging box recorded).proceed fails ctx stores).2 := by
  simp only [DeliveryCall.proceed]
  split
  next => exact .refused _ _
  next =>
    rcases stores.db.outboxes.updateWhere_cases box.id (fun row => !row.delivered)
      (LogOutbox.acknowledge recorded) with kept |
      ⟨row, found, unsent, moved⟩
    · rw [kept]
      refine .tooLate box recorded ?_
      intro row found
      cases given : row.delivered with
      | true => rfl
      | false =>
        rw [Table.updateWhere_of_find? found (by simp [given])] at kept
        simp at kept
    · rw [moved]
      exact .acknowledged box row recorded found (by simpa using unsent)

theorem DeliveryCall.proceed_statement (fails : Bool) (ctx : LogContext) (stores : Stores)
    (call : DeliveryCall) :
    Statement ctx stores call (call.proceed fails ctx stores).1
      (call.proceed fails ctx stores).2 := by
  cases call with
  | reading opId =>
    simp only [proceed]
    split
    next => exact .refused _ _
    next =>
      split
      next => exact .refused _ _
      next box found =>
        have opEq : box.billingOperationId = opId := by
          simpa using List.find?_some found
        have stored := List.mem_of_find?_eq_some found
        subst opEq
        split
        next given => exact .alreadyDelivered box stored given
        next => exact .pending box stored
  | recording box => exact recording_statement fails ctx stores box
  | comparing box =>
    simp only [proceed]
    cases reply : recordCompare fails box.payload.userId box.params stores.logs with
    | error err => exact .refused _ err
    | ok _ =>
      rcases recordCompare_eq_ok rfl reply with ⟨rfl, logged⟩
      exact .agreed box logged
  | acknowledging box recorded =>
    exact acknowledging_statement fails ctx stores box recorded
  | rereading box =>
    simp only [proceed]
    split
    next => exact .refused _ _
    next =>
      split
      next => exact .refused _ _
      next row found => exact .reread box row found

/-! ## Uninterrupted calls -/

namespace DeliveryCall

def remaining : DeliveryCall → ℕ
  | reading _ => 5
  | recording _ => 4
  | comparing _ => 3
  | acknowledging _ _ => 2
  | rereading _ => 1

/-- Run a call to its end, without interruption and without a fault. -/
def run (ctx : LogContext) : ℕ → Stores → DeliveryCall → Stores × Except ModelError Bool
  | 0, stores, _ => (stores, .error .database)
  | fuel + 1, stores, call =>
    match call.proceed false ctx stores with
    | (after, .returns reply) => (after, reply)
    | (after, .goesOn rest) => rest.run ctx fuel after

end DeliveryCall

def deliverBillingOperationConsumeLog (ctx : LogContext) (operationId : ℤ)
    (stores : Stores) : Stores × Except ModelError Bool :=
  let call := DeliveryCall.reading operationId
  call.run ctx call.remaining stores

end NewApi.Model
