import NewApi.Library.Table
import NewApi.Library.Text
import NewApi.Model.Errors

/-!
# Managed context outcomes

The durable record of one managed revision intent, and the checkpoint that a settlement
writes into it inside its own transaction. Timestamps that no function reads back are
left out; `expiresAt` is kept, because a checkpoint is refused once it has passed.
-/

namespace NewApi.Model

open Relational

/-- The phases of an outcome. -/
inductive ManagedContextOutcomePhase where
  | intent
  | mainDispatched
  | mainSettled
  | summaryDispatched
  | settledPendingCommit
  | committed
  | terminalFailed
  | expired
deriving DecidableEq

/-- `ManagedContextOutcome`: the resumable result of one managed revision intent. -/
structure ManagedContextOutcome where
  id : ℤ
  (lookupHMAC revisionIntentHMAC ownerHMAC conversationHMAC lookupKeyVersion : String)
  expectedRevision : UInt64
  requestFingerprint : String
  phase : ManagedContextOutcomePhase
  responseStatus : ℤ
  responseContentType : String
  (responsePayload assistantPayload summaryExecutionPayload summaryResultPayload : List UInt8)
  nextStatePayload : List UInt8
  (mainBillingOperationId summaryBillingOperationId expiresAt : ℤ)

instance : Keyed ManagedContextOutcome ℤ :=
  ⟨ManagedContextOutcome.id⟩

/-- What a settlement checks and writes of an outcome. -/
structure ManagedContextOutcomeCheckpoint where
  outcomeId : ℤ
  requestFingerprint : String
  (expectedPhase nextPhase : ManagedContextOutcomePhase)
  responseStatus : ℤ
  responseContentType : String
  (responsePayload assistantPayload summaryExecutionPayload summaryResultPayload : List UInt8)
  nextStatePayload : List UInt8

namespace ManagedContextOutcomeCheckpoint

def recordMain (checkpoint : ManagedContextOutcomeCheckpoint) (billingOperationId : ℤ) :
    RowUpdate ManagedContextOutcome where
  apply out :=
    { out with
      phase := checkpoint.nextPhase
      responseStatus := checkpoint.responseStatus
      responseContentType := checkpoint.responseContentType
      responsePayload := checkpoint.responsePayload
      assistantPayload := checkpoint.assistantPayload
      summaryExecutionPayload := checkpoint.summaryExecutionPayload
      mainBillingOperationId := billingOperationId }
  key_apply _ := rfl

def recordSummary (checkpoint : ManagedContextOutcomeCheckpoint) (billingOperationId : ℤ) :
    RowUpdate ManagedContextOutcome where
  apply out :=
    { out with
      phase := checkpoint.nextPhase
      summaryResultPayload := checkpoint.summaryResultPayload
      nextStatePayload := checkpoint.nextStatePayload
      summaryBillingOperationId := billingOperationId }
  key_apply _ := rfl

/-- The switch on the next phase: the columns to write, or why the checkpoint is refused. -/
def updates (checkpoint : ManagedContextOutcomeCheckpoint) (billingOperationId : ℤ) :
    Except ModelError (RowUpdate ManagedContextOutcome) :=
  match checkpoint.nextPhase with
  | .mainSettled =>
    if checkpoint.expectedPhase ≠ .mainDispatched ∨ checkpoint.responseStatus < 200 ∨
        checkpoint.responseStatus ≥ 300 ∨ checkpoint.responsePayload = [] ∨
        checkpoint.assistantPayload = [] ∨ checkpoint.summaryExecutionPayload = [] ∨
        Text.isBlank checkpoint.responseContentType then
      .error (.message "managed context main checkpoint is invalid")
    else
      .ok (checkpoint.recordMain billingOperationId)
  | .settledPendingCommit =>
    if checkpoint.expectedPhase ≠ .summaryDispatched ∨ checkpoint.summaryResultPayload = [] ∨
        checkpoint.nextStatePayload = [] then
      .error (.message "managed context summary checkpoint is invalid")
    else
      .ok (checkpoint.recordSummary billingOperationId)
  | _ => .error (.message "managed context outcome checkpoint target is invalid")

end ManagedContextOutcomeCheckpoint

def applyManagedContextOutcomeCheckpoint (now : ℤ) (statementFails : Bool)
    (billingOperationId : ℤ) (checkpoint : Option ManagedContextOutcomeCheckpoint)
    (outcomes : Table ManagedContextOutcome) :
    Except ModelError (Table ManagedContextOutcome) :=
  match checkpoint with
  | none => .ok outcomes
  | some checkpoint =>
    if checkpoint.outcomeId ≤ 0 ∨ Text.isBlank checkpoint.requestFingerprint ∨
        billingOperationId ≤ 0 then
      .error (.message "managed context outcome checkpoint is invalid")
    else
      match checkpoint.updates billingOperationId with
      | .error err => .error err
      | .ok change =>
        let result := outcomes.updateWhere checkpoint.outcomeId
          (fun out => out.requestFingerprint = checkpoint.requestFingerprint &&
            out.phase = checkpoint.expectedPhase && out.expiresAt > now) change
        if statementFails then
          .error .database
        else if result.rowsAffected ≠ 1 then
          .error .managedContextOutcomePhaseConflict
        else
          .ok result.table

end NewApi.Model
