import NewApi.Library.Split
import Mathlib.Algebra.Ring.Int.Defs

/-!
# The compaction child

One internal request that summarizes a conversation is prepared, paid for in advance, run, settled
and recorded, by five dependencies that may fail at any call.
-/

namespace NewApi.ContextConsensus

/-- The states of a child. -/
inductive CompactionChildState where
  | ready
  | preparing
  | prepared
  | preconsuming
  | preconsumed
  | executing
  | executed
  | settling
  | settled
  | logged
  | auditFailed
  | settlementFailed
  | rejected
  | refunding
  | refunded
  | failed

/-- What a child is asked for. -/
structure CompactionChildRequest where
  (parentRequestID model policyVersion sourceDigest : String)
  maxOutputTokens : ℤ

/-- The request of a child with its identifier. -/
structure CompactionChildDescriptor where
  (parentRequestID childRequestID model policyVersion sourceDigest : String)
  maxOutputTokens : ℤ

/-- What the preparation returns. -/
structure PreparedCompactionChild where
  (preparationID preparedRequestDigest : String)

/-- The tokens of a child. -/
structure CompactionUsage where
  (inputTokens outputTokens : ℤ)

namespace CompactionUsage

def totalTokens (usage : CompactionUsage) : ℤ :=
  usage.inputTokens + usage.outputTokens

end CompactionUsage

/-- What the run returns. -/
structure CompactionExecutionOutput (Summary : Type) where
  summary : Summary
  summaryDigest : String
  usage : CompactionUsage

/-- What the payment in advance returns. -/
structure CompactionBillingReceipt where
  billingReference : String
  reservedQuota : ℤ

/-- What is recorded of a child. -/
structure CompactionAuditRecord where
  (requestPurpose parentRequestID childRequestID model policyVersion sourceDigest : String)
  (preparedRequestDigest summaryDigest : String)
  state : CompactionChildState
  resultCode : String
  (inputTokens outputTokens totalTokens maxOutputTokens reservedQuota settledQuota : ℤ)
  (refunded billableExecutionFailure : Bool)

/-- What a child returns. -/
structure CompactionChildResult (Summary : Type) where
  parentRequestID : String := ""
  childRequestID : String := ""
  model : String := ""
  state : CompactionChildState
  resultCode : String := ""
  succeeded : Bool := false
  preparedRequestDigest : String := ""
  summaryDigest : String := ""
  summary : Option Summary := none
  usage : CompactionUsage := ⟨0, 0⟩
  reservedQuota : ℤ := 0
  settledQuota : ℤ := 0
  refunded : Bool := false
  billableExecutionFailure : Bool := false
  auditRecorded : Bool := false

/-- The errors of a child, as they are wrapped and joined. -/
inductive ExecutionError (Failure : Type) where
  | text (message : String)
  | given (err : Failure)
  | wrapped (context : String) (cause : ExecutionError Failure)
  | joined (errors : List (ExecutionError Failure))

/-- `errors.Join`. -/
def joinErrors {Failure : Type} (errors : List (Option (ExecutionError Failure))) :
    Option (ExecutionError Failure) :=
  if errors.filterMap id = [] then none else some (.joined (errors.filterMap id))

/-- The five dependencies, over a world that their calls read and change. A call answers with what
it returns and its error. -/
structure CompactionChildDependencies (World Failure Summary : Type) where
  newChildRequestID : String → World → World × String × Option Failure
  prepareCompactionChild : CompactionChildDescriptor → World →
    World × PreparedCompactionChild × Option Failure
  preconsumeCompactionChild : CompactionChildDescriptor → PreparedCompactionChild → World →
    World × Option CompactionBillingReceipt × Option Failure
  needsRefund : CompactionBillingReceipt → World → Bool
  settleCompactionChild : CompactionBillingReceipt → CompactionExecutionOutput Summary → World →
    World × ℤ × Option Failure
  refundCompactionChild : CompactionBillingReceipt → World → World × Option Failure
  executeCompactionChild : CompactionChildDescriptor → PreparedCompactionChild → World →
    World × CompactionExecutionOutput Summary × Option Failure
  recordCompactionChild : CompactionAuditRecord → World → World × Option Failure
  /-- `AsBillableCompactionExecutionError`, with the output that the error carries. -/
  asBillable : Failure → Option (CompactionExecutionOutput Summary)

/-- A call of a dependency that moves money or records it, with whether it succeeded. -/
inductive ChildCall where
  | preconsumed (slip : Option CompactionBillingReceipt) (succeeded : Bool)
  | ran (succeeded : Bool)
  | settled (slip : CompactionBillingReceipt) (succeeded : Bool)
  | refunded (slip : CompactionBillingReceipt) (succeeded : Bool)
  | recorded (succeeded : Bool)

/-- `CompactionChildExecutor`, with the world of its dependencies and the calls so far, oldest
first. -/
structure CompactionChildExecutor (World : Type) where
  world : World
  state : CompactionChildState
  started : Bool
  calls : List ChildCall

/-- The executor after `Execute`, and what it returns. -/
structure ExecuteAnswer (World Failure Summary : Type) where
  executor : CompactionChildExecutor World
  result : CompactionChildResult Summary
  error : Option (ExecutionError Failure)

def newCompactionChildExecutor {World : Type} (world : World) : CompactionChildExecutor World where
  world := world
  state := .ready
  started := false
  calls := []

section Execute

variable {World Failure Summary : Type} (deps : CompactionChildDependencies World Failure Summary)
  (toLower : String → String)

def validateExplicitCompactionModel (model : String) : Option (ExecutionError Failure) :=
  let normalized := toLower (Text.trimSpace model)
  if normalized = "" then some (.text "compaction model is required")
  else if normalized = "auto" ∨ normalized = "smart" ∨
      Text.hasPrefix normalized "auto:" ∨ Text.hasPrefix normalized "smart:" then
    some (.text "compaction model must be an explicit real model")
  else none

def validateCompactionExecutionOutput (output : CompactionExecutionOutput Summary) :
    Option (String × ExecutionError Failure) :=
  if Text.trimSpace output.summaryDigest = "" then
    some ("invalid_execution_result", .text "compaction summary digest is required")
  else if output.usage.inputTokens < 0 ∨ output.usage.outputTokens < 0 then
    some ("invalid_execution_usage", .text "compaction usage tokens must not be negative")
  else none

def buildCompactionAuditRecord (req : CompactionChildRequest)
    (result : CompactionChildResult Summary) : CompactionAuditRecord where
  requestPurpose := "context_compaction"
  parentRequestID := result.parentRequestID
  childRequestID := result.childRequestID
  model := result.model
  policyVersion := Text.trimSpace req.policyVersion
  sourceDigest := Text.trimSpace req.sourceDigest
  preparedRequestDigest := result.preparedRequestDigest
  summaryDigest := result.summaryDigest
  state := result.state
  resultCode := result.resultCode
  inputTokens := result.usage.inputTokens
  outputTokens := result.usage.outputTokens
  totalTokens := result.usage.totalTokens
  maxOutputTokens := req.maxOutputTokens
  reservedQuota := result.reservedQuota
  settledQuota := result.settledQuota
  refunded := result.refunded
  billableExecutionFailure := result.billableExecutionFailure

namespace CompactionChildExecutor

variable (exec : CompactionChildExecutor World) (req : CompactionChildRequest)
  (result : CompactionChildResult Summary)

def setState (s : CompactionChildState) : CompactionChildExecutor World :=
  { exec with state := s }

def called (world : World) (call : ChildCall) : CompactionChildExecutor World :=
  { exec with world := world, calls := exec.calls ++ [call] }

/-- `RecordCompactionChild` on the audit record of a result. -/
def record : CompactionChildExecutor World × Option Failure :=
  let reply := deps.recordCompactionChild (buildCompactionAuditRecord req result) exec.world
  (exec.called reply.1 (.recorded reply.2.isNone), reply.2)

/-- `refundIfNeeded`, with whether the result is marked as refunded. -/
def refundIfNeeded (slip : Option CompactionBillingReceipt) :
    CompactionChildExecutor World × Bool × Option (ExecutionError Failure) :=
  match slip with
  | none => (exec, false, none)
  | some slip =>
    if deps.needsRefund slip exec.world = false then (exec, false, none)
    else
      let exec := exec.setState .refunding
      let reply := deps.refundCompactionChild slip exec.world
      let exec := exec.called reply.1 (.refunded slip reply.2.isNone)
      match reply.2 with
      | some err =>
        (exec, false, some (.wrapped "refund compaction child" (.given err)))
      | none => (exec, true, none)

def failureState (resultCode : String) : CompactionChildState :=
  if Text.hasPrefix resultCode "invalid_" then .rejected
  else if resultCode = "settle_failed" then .settlementFailed
  else .failed

def fail (resultCode : String) (slip : Option CompactionBillingReceipt)
    (cause : Option (ExecutionError Failure)) : ExecuteAnswer World Failure Summary :=
  let refund := exec.refundIfNeeded deps slip
  let s := if refund.2.1 then .refunded else failureState resultCode
  let failed : CompactionChildResult Summary :=
    { result with
      succeeded := false
      resultCode := resultCode
      refunded := result.refunded || refund.2.1
      state := s }
  let audit := (refund.1.setState s).record deps req failed
  { executor := audit.1
    result := { failed with auditRecorded := audit.2.isNone }
    error := joinErrors [cause, refund.2.2, audit.2.map .given] }

/-- `SettleCompactionChild`, with the settled quota and the error. -/
def settle (slip : CompactionBillingReceipt) (output : CompactionExecutionOutput Summary) :
    CompactionChildExecutor World × ℤ × Option Failure :=
  let settling := exec.setState .settling
  let reply := deps.settleCompactionChild slip output settling.world
  (settling.called reply.1 (.settled slip reply.2.2.isNone), reply.2)

def finishBillableExecutionFailure (slip : CompactionBillingReceipt)
    (output : CompactionExecutionOutput Summary) (executionFailure : Failure) :
    ExecuteAnswer World Failure Summary :=
  let settlement := (exec.setState .executed).settle deps slip output
  let billable : CompactionChildResult Summary :=
    { result with
      billableExecutionFailure := true
      succeeded := false
      summary := some output.summary
      settledQuota := settlement.2.1 }
  match settlement.2.2 with
  | some settlementFailure =>
    let unsettled : CompactionChildResult Summary :=
      { billable with
        state := .settlementFailed, resultCode := "billable_execution_settle_failed" }
    let audit := (settlement.1.setState .settlementFailed).record deps req unsettled
    { executor := audit.1
      result := { unsettled with auditRecorded := audit.2.isNone }
      error := joinErrors [some (.given executionFailure),
        some (.wrapped "settle billable compaction execution" (.given settlementFailure)),
        audit.2.map .given] }
  | none =>
    let settled : CompactionChildResult Summary :=
      { billable with state := .logged, resultCode := "billable_execution_failed" }
    let audit := (settlement.1.setState .settled).record deps req settled
    match audit.2 with
    | some auditFailure =>
      { executor := audit.1.setState .auditFailed
        result :=
          { settled with
            state := .auditFailed, resultCode := "billable_execution_audit_failed" }
        error := joinErrors [some (.given executionFailure),
          some (.wrapped "record billable compaction execution audit after settlement"
            (.given auditFailure))] }
    | none =>
      { executor := audit.1.setState .logged
        result := { settled with auditRecorded := true }
        error := some (.given executionFailure) }

/-- The end of `Execute`, with an output that is valid. -/
def finish (slip : CompactionBillingReceipt) (output : CompactionExecutionOutput Summary) :
    ExecuteAnswer World Failure Summary :=
  let settlement := (exec.setState .executed).settle deps slip output
  let result := { result with settledQuota := settlement.2.1 }
  match settlement.2.2 with
  | some err =>
    settlement.1.fail deps req result "settle_failed" (some slip) (some (.given err))
  | none =>
    let settled : CompactionChildResult Summary :=
      { result with
        state := .logged
        resultCode := "success"
        succeeded := true
        summary := some output.summary }
    let audit := (settlement.1.setState .settled).record deps req settled
    match audit.2 with
    | some auditFailure =>
      { executor := audit.1.setState .auditFailed
        result :=
          { settled with
            succeeded := false, resultCode := "audit_failed", state := .auditFailed }
        error := some (.wrapped "record compaction child audit after settlement"
          (.given auditFailure)) }
    | none =>
      { executor := audit.1.setState .logged
        result := { settled with auditRecorded := true }
        error := none }

def runChild (descriptor : CompactionChildDescriptor) (prepared : PreparedCompactionChild)
    (slip : CompactionBillingReceipt) : ExecuteAnswer World Failure Summary :=
  let executing := exec.setState .executing
  let reply := deps.executeCompactionChild descriptor prepared executing.world
  let exec := executing.called reply.1 (.ran reply.2.2.isNone)
  match reply.2.2 with
  | some err =>
    match deps.asBillable err with
    | some output =>
      let result :=
        { result with summaryDigest := output.summaryDigest, usage := output.usage }
      match validateCompactionExecutionOutput output with
      | some (code, invalid) =>
        exec.fail deps req result code (some slip) (joinErrors [some (.given err), some invalid])
      | none =>
        exec.finishBillableExecutionFailure deps req result slip output err
    | none =>
      let result :=
        { result with
          summaryDigest := reply.2.1.summaryDigest, usage := reply.2.1.usage }
      exec.fail deps req result "execute_failed" (some slip) (some (.given err))
  | none =>
    let result :=
      { result with summaryDigest := reply.2.1.summaryDigest, usage := reply.2.1.usage }
    match validateCompactionExecutionOutput reply.2.1 with
    | some (code, invalid) =>
      exec.fail deps req result code (some slip) (some invalid)
    | none => exec.finish deps req result slip reply.2.1

def preconsume (descriptor : CompactionChildDescriptor) (prepared : PreparedCompactionChild) :
    ExecuteAnswer World Failure Summary :=
  let preconsuming := exec.setState .preconsuming
  let reply := deps.preconsumeCompactionChild descriptor prepared preconsuming.world
  let exec := preconsuming.called reply.1 (.preconsumed reply.2.1 reply.2.2.isNone)
  let result :=
    match reply.2.1 with
    | some slip => { result with reservedQuota := slip.reservedQuota }
    | none => result
  match reply.2.2 with
  | some err =>
    exec.fail deps req result "preconsume_failed" reply.2.1 (some (.given err))
  | none =>
    match reply.2.1 with
    | none =>
      exec.fail deps req result "invalid_billing_receipt" none
        (some (.text "compaction billing receipt is required"))
    | some slip =>
      if Text.trimSpace slip.billingReference = "" then
        exec.fail deps req result "invalid_billing_receipt" (some slip)
          (some (.text "compaction billing receipt is required"))
      else
        (exec.setState .preconsumed).runChild deps req result descriptor prepared slip

def prepare (descriptor : CompactionChildDescriptor) : ExecuteAnswer World Failure Summary :=
  let preparing := exec.setState .preparing
  let reply := deps.prepareCompactionChild descriptor preparing.world
  let exec := { preparing with world := reply.1 }
  let result := { result with preparedRequestDigest := reply.2.1.preparedRequestDigest }
  match reply.2.2 with
  | some err =>
    exec.fail deps req result "prepare_failed" none (some (.given err))
  | none =>
    if Text.trimSpace reply.2.1.preparationID = "" ∨
        Text.trimSpace reply.2.1.preparedRequestDigest = "" then
      exec.fail deps req result "invalid_prepared_request" none
        (some (.text "prepared compaction child identifiers are required"))
    else
      (exec.setState .prepared).preconsume deps req result descriptor reply.2.1

def identify : ExecuteAnswer World Failure Summary :=
  let reply := deps.newChildRequestID req.parentRequestID exec.world
  let exec := { exec with world := reply.1 }
  match reply.2.2 with
  | some err =>
    exec.fail deps req result "request_id_failed" none (some (.given err))
  | none =>
    let childRequestID := Text.trimSpace reply.2.1
    let result := { result with childRequestID := childRequestID }
    if childRequestID = "" ∨ childRequestID = req.parentRequestID then
      exec.fail deps req result "invalid_child_request_id" none (some (.text
          "child request ID must be non-empty and independent from parent request ID"))
    else
      exec.prepare deps req result
        { parentRequestID := req.parentRequestID
          childRequestID := childRequestID
          model := Text.trimSpace req.model
          policyVersion := Text.trimSpace req.policyVersion
          sourceDigest := Text.trimSpace req.sourceDigest
          maxOutputTokens := req.maxOutputTokens }

/-- The checks of the request, in their order, with the code of the first that fails. -/
def rejectRequest : Option (String × ExecutionError Failure) :=
  if Text.trimSpace req.parentRequestID = "" then
    some ("invalid_parent_request_id", .text "parent request ID is required")
  else
    match validateExplicitCompactionModel toLower req.model with
    | some invalid => some ("invalid_compaction_model", invalid)
    | none =>
      if Text.trimSpace req.policyVersion = "" then
        some ("invalid_policy_version", .text "compaction policy version is required")
      else if Text.trimSpace req.sourceDigest = "" then
        some ("invalid_source_digest", .text "compaction source digest is required")
      else if req.maxOutputTokens ≤ 0 then
        some ("invalid_max_output_tokens", .text "compaction max output tokens must be positive")
      else none

def execute : ExecuteAnswer World Failure Summary :=
  if exec.started then
    { executor := exec
      result := { state := exec.state, resultCode := "already_executed" }
      error := some (.text "compaction child executor can only execute once") }
  else
    let exec := { exec with started := true }
    -- The zero value of the state is no state of the executor; it is set before any return.
    let result : CompactionChildResult Summary :=
      { parentRequestID := req.parentRequestID
        model := Text.trimSpace req.model
        state := .ready }
    match rejectRequest toLower req with
    | some (code, invalid) => exec.fail deps req result code none (some invalid)
    | none => exec.identify deps req result

end CompactionChildExecutor

end Execute

end NewApi.ContextConsensus
