import NewApi.ProviderFile.Store

/-!
# Deletion of managed provider files

The transactions of `provider_file.go` and `provider_file_deletion.go` on the deletion
outbox: listing what is due, claiming a lease, marking the dispatch, scheduling a retry,
finishing, and quarantining a row without a lifecycle.
-/

namespace NewApi.ProviderFile

open Relational
open NewApi.ProviderFile renaming ManagedProviderFileDeletionOutbox → Outbox,
  ManagedProviderFileLifecycle → Lifecycle

/-- The condition of `ListDueManagedProviderFileDeletions`. -/
def ManagedProviderFileDeletionOutbox.due (now : ℤ) (box : Outbox) :
    Bool :=
  ((box.state = .pending || box.state = .retryWait) &&
      box.attemptCount < box.maxAttempts && box.nextAttemptAt ≤ now &&
      box.leaseExpiresAt.all fun expiry => expiry < now) ||
    (box.state = .inProgress && box.leaseExpiresAt.any fun expiry => expiry < now)

/-- No `UPDATE` of the lifecycle besides the event head. -/
def noUpdates : RowUpdate Lifecycle where
  apply life := life
  key_apply _ := rfl

/-- `UPDATE ... WHERE` of one outbox row and what follows when it changed it. -/
def updateOutbox {Result : Type} (db : Database) (box : Outbox) (guard : Outbox → Bool)
    (change : RowUpdate Outbox) (otherwise : Outcome Result)
    (proceed : Database → Outcome Result) : Outcome Result :=
  let result := db.outboxes.updateWhere box.id guard change
  if result.rowsAffected ≠ 1 then otherwise else proceed { db with outboxes := result.table }

/-! ## Claim -/

/-- What a worker claims an outbox row with. -/
structure ManagedProviderFileDeletionClaim where
  (outboxId expectedVersion : ℤ)
  leaseTokenHMAC : String
  leaseExpiresAt : ℤ
  expectedState : DeletionOutboxState
  expectedAttemptCount : ℤ
  event : ManagedProviderFileLifecycleEvent

/-- The first check of `ClaimManagedProviderFileDeletion`. -/
def ManagedProviderFileDeletionClaim.Valid (claim : ManagedProviderFileDeletionClaim) (now : ℤ) :
    Prop :=
  0 < claim.outboxId ∧ 0 < claim.expectedVersion ∧
    validManagedProviderFileDigest claim.leaseTokenHMAC ∧ now < claim.leaseExpiresAt ∧
    0 ≤ claim.expectedAttemptCount ∧
    (claim.expectedState = .pending ∨ claim.expectedState = .retryWait ∨
      claim.expectedState = .inProgress)

instance (claim : ManagedProviderFileDeletionClaim) (now : ℤ) : Decidable (claim.Valid now) :=
  inferInstanceAs (Decidable (_ ∧ _))

/-- The row is no longer what the claim expects, or not claimable now. -/
def ManagedProviderFileDeletionClaim.Stale (claim : ManagedProviderFileDeletionClaim)
    (box : Outbox) (now : ℤ) : Prop :=
  box.state ≠ claim.expectedState ∨ box.version ≠ claim.expectedVersion ∨
    box.attemptCount ≠ claim.expectedAttemptCount ∨
    (box.state ≠ .inProgress ∧ box.maxAttempts ≤ box.attemptCount) ∨
    (box.state ≠ .inProgress ∧ now < box.nextAttemptAt) ∨
    ∃ expiry ∈ box.leaseExpiresAt, now ≤ expiry
deriving Decidable

/-- The attempt that a claim starts; the recovery of an expired lease keeps the count. -/
def nextAttemptCount (box : Outbox) : ℤ :=
  if box.state = .inProgress then box.attemptCount else box.attemptCount + 1

def claimEventType (box : Outbox) (life : Lifecycle) : Outcome LifecycleEventType :=
  if box.state = .inProgress then .ok .deletionRecoveryStarted
  else if life.state = .active ∨ life.state = .verificationFailed then
    .ok .deletionStarted
  else if life.state ≠ .deletionPending then .error .lifecycleStateConflict
  else .ok .deletionAttemptStarted

def ManagedProviderFileDeletionClaim.outboxUpdates (claim : ManagedProviderFileDeletionClaim)
    (box : Outbox) (now : ℤ) :
    RowUpdate Outbox where
  apply row :=
    { row with
      state := .inProgress
      version := box.version + 1
      attemptCount := nextAttemptCount box
      leaseTokenHMAC := claim.leaseTokenHMAC
      leaseExpiresAt := some claim.leaseExpiresAt
      lastAttemptAt := some now
      dispatchedAt := if box.state = .inProgress then row.dispatchedAt else none }
  key_apply _ := rfl

def claimLifecycleUpdates (life : Lifecycle) (now : ℤ) :
    RowUpdate Lifecycle where
  apply row :=
    if life.state = .active ∨ life.state = .verificationFailed then
      { row with state := .deletionPending, deletionStartedAt := some now }
    else row
  key_apply row := by split <;> rfl

/-- `ClaimManagedProviderFileDeletion`: the claimed row, or none when it was not claimable. -/
def claimManagedProviderFileDeletion (db : Database) (claim : ManagedProviderFileDeletionClaim)
    (now : ℤ) : Outcome (Option Outbox × Database) :=
  if ¬claim.Valid now then
    .error (.message "managed provider file deletion claim is invalid")
  else
    match db.outboxes.find? claim.outboxId with
    | none => .error .recordNotFound
    | some box =>
      match db.lifecycles.find? box.lifecycleId with
      | none => .error .recordNotFound
      | some life =>
        if claim.Stale box now then .ok (none, db)
        else
          (claimEventType box life).bind fun expectedEventType =>
            if claim.event.lifecycleId ≠ life.id ∨
                claim.event.eventType ≠ expectedEventType ∨
                claim.event.attemptCount ≠ nextAttemptCount box then
              .error (.message "managed provider file deletion claim event is invalid")
            else
              updateOutbox db box (fun row => row.version = claim.expectedVersion &&
                  row.state = claim.expectedState &&
                  row.attemptCount = claim.expectedAttemptCount &&
                  row.leaseExpiresAt.all fun expiry => expiry < now)
                (claim.outboxUpdates box now) (.ok (none, db)) fun leased =>
                  (appendEventAndAdvanceManagedProviderFileLifecycle leased life
                    life.version (claimLifecycleUpdates life now) claim.event).bind
                      fun claimed =>
                        .ok (some ((claim.outboxUpdates box now).apply box), claimed)

/-! ## Under a lease -/

/-- The row is held under the lease, at the version and the attempt that the caller knows. -/
def ManagedProviderFileDeletionOutbox.heldUnder (expected : ℤ) (leaseTokenHMAC : String)
    (attemptCount : ℤ) (box : Outbox) : Bool :=
  box.state = .inProgress && box.version = expected &&
    box.leaseTokenHMAC = leaseTokenHMAC && box.attemptCount = attemptCount

/-- What a worker marks its row with before the request. -/
structure ManagedProviderFileDeletionDispatch where
  (outboxId lifecycleId expectedVersion : ℤ)
  leaseTokenHMAC : String
  (attemptCount dispatchedAt : ℤ)
  event : ManagedProviderFileLifecycleEvent

def ManagedProviderFileDeletionDispatch.outboxUpdates
    (dispatch : ManagedProviderFileDeletionDispatch) :
    RowUpdate Outbox where
  apply row :=
    { row with
      version := dispatch.expectedVersion + 1
      dispatchedAt := some dispatch.dispatchedAt }
  key_apply _ := rfl

def markManagedProviderFileDeletionDispatched (db : Database)
    (dispatch : ManagedProviderFileDeletionDispatch) (now : ℤ) :
    Outcome (Outbox × Database) :=
  if dispatch.outboxId ≤ 0 ∨ dispatch.lifecycleId ≤ 0 ∨ dispatch.expectedVersion ≤ 0 ∨
      dispatch.attemptCount ≤ 0 ∨ !validManagedProviderFileDigest dispatch.leaseTokenHMAC ∨
      dispatch.dispatchedAt = 0 then
    .error (.message "managed provider file deletion dispatch marker is invalid")
  else
    match db.lifecycles.find? dispatch.lifecycleId with
    | none => .error .recordNotFound
    | some life =>
      match db.outboxes.find? dispatch.outboxId with
      | none => .error .recordNotFound
      | some box =>
        if box.lifecycleId ≠ dispatch.lifecycleId then .error .recordNotFound
        else if !box.heldUnder dispatch.expectedVersion dispatch.leaseTokenHMAC
              dispatch.attemptCount ∨
            box.dispatchedAt ≠ none ∨
            ¬∃ expiry ∈ box.leaseExpiresAt, dispatch.dispatchedAt < expiry ∧ now < expiry then
          .error .deletionLeaseLost
        else if dispatch.event.lifecycleId ≠ life.id ∨
            dispatch.event.eventType ≠ .deletionDispatched ∨
            dispatch.event.attemptCount ≠ box.attemptCount then
          .error (.message "managed provider file deletion dispatch event is invalid")
        else
          updateOutbox db box
            (fun row => row.heldUnder dispatch.expectedVersion dispatch.leaseTokenHMAC
              dispatch.attemptCount && row.dispatchedAt = none)
            dispatch.outboxUpdates (.error .deletionLeaseLost) fun marked =>
              (appendEventAndAdvanceManagedProviderFileLifecycle marked life
                life.version noUpdates dispatch.event).bind fun dispatched =>
                  .ok (dispatch.outboxUpdates.apply box, dispatched)

/-- What a worker puts a deletion off with. -/
structure ManagedProviderFileDeletionRetry where
  (outboxId expectedVersion : ℤ)
  leaseTokenHMAC : String
  (attemptCount nextAttemptAt : ℤ)
  errorCode : String
  event : ManagedProviderFileLifecycleEvent

def ManagedProviderFileDeletionRetry.outboxUpdates (retry : ManagedProviderFileDeletionRetry)
    (box : Outbox) :
    RowUpdate Outbox where
  apply row :=
    { row with
      state := .retryWait
      version := box.version + 1
      nextAttemptAt := retry.nextAttemptAt
      leaseTokenHMAC := ""
      leaseExpiresAt := none
      lastErrorCode := retry.errorCode
      dispatchedAt := none }
  key_apply _ := rfl

def retryManagedProviderFileDeletion (db : Database) (retry : ManagedProviderFileDeletionRetry)
    (first now : ℤ) : Outcome Database :=
  if retry.outboxId ≤ 0 ∨ retry.expectedVersion ≤ 0 ∨
      !validManagedProviderFileDigest retry.leaseTokenHMAC ∨ retry.attemptCount ≤ 0 ∨
      retry.nextAttemptAt ≤ first ∨ Text.isBlank retry.errorCode ∨
      64 < retry.errorCode.utf8ByteSize then
    .error (.message "managed provider file deletion retry is invalid")
  else
    match db.outboxes.find? retry.outboxId with
    | none => .error .recordNotFound
    | some box =>
      match db.lifecycles.find? box.lifecycleId with
      | none => .error .recordNotFound
      | some life =>
        if !box.heldUnder retry.expectedVersion retry.leaseTokenHMAC retry.attemptCount ∨
            ¬∃ expiry ∈ box.leaseExpiresAt, now ≤ expiry then
          .error .deletionLeaseLost
        else if box.maxAttempts ≤ box.attemptCount then .error .lifecycleStateConflict
        else if retry.event.lifecycleId ≠ box.lifecycleId ∨
            retry.event.eventType ≠ .deletionRetryScheduled ∨
            retry.event.attemptCount ≠ box.attemptCount ∨
            retry.event.resultCode ≠ retry.errorCode then
          .error (.message "managed provider file deletion retry event is invalid")
        else
          updateOutbox db box
            (fun row => row.heldUnder retry.expectedVersion retry.leaseTokenHMAC retry.attemptCount)
            (retry.outboxUpdates box) (.error .deletionLeaseLost) fun waiting =>
              appendEventAndAdvanceManagedProviderFileLifecycle waiting life
                life.version noUpdates retry.event

/-- What a worker ends a deletion with. -/
structure ManagedProviderFileDeletionTerminal where
  (outboxId expectedVersion : ℤ)
  leaseTokenHMAC : String
  attemptCount : ℤ
  (result errorCode evidenceDigest : String)
  event : ManagedProviderFileLifecycleEvent

def ManagedProviderFileDeletionTerminal.outboxUpdates
    (terminal : ManagedProviderFileDeletionTerminal)
    (box : Outbox) (outboxState : DeletionOutboxState) (now : ℤ) :
    RowUpdate Outbox where
  apply row :=
    { row with
      state := outboxState
      version := box.version + 1
      leaseTokenHMAC := ""
      leaseExpiresAt := none
      lastErrorCode := terminal.errorCode
      terminalResult := terminal.result
      completedAt := some now }
  key_apply _ := rfl

def ManagedProviderFileDeletionTerminal.lifecycleUpdates
    (terminal : ManagedProviderFileDeletionTerminal) (lifecycleState : LifecycleState) (now : ℤ) :
    RowUpdate Lifecycle where
  apply row :=
    if lifecycleState = .deleted then
      { row with state := lifecycleState, deletedAt := some now, providerPayload := [] }
    else
      { row with
        state := lifecycleState
        deletionFailedAt := some now
        terminalReasonCode := terminal.errorCode }
  key_apply row := by split <;> rfl

def finishManagedProviderFileDeletion (db : Database)
    (terminal : ManagedProviderFileDeletionTerminal) (outboxState : DeletionOutboxState)
    (lifecycleState : LifecycleState) (eventType : LifecycleEventType) (now : ℤ) :
    Outcome Database :=
  if terminal.outboxId ≤ 0 ∨ terminal.expectedVersion ≤ 0 ∨
      !validManagedProviderFileDigest terminal.leaseTokenHMAC ∨ terminal.attemptCount ≤ 0 ∨
      !validManagedProviderFileDigest terminal.evidenceDigest then
    .error (.message "managed provider file deletion terminal transition is invalid")
  else
    match db.outboxes.find? terminal.outboxId with
    | none => .error .recordNotFound
    | some box =>
      match db.lifecycles.find? box.lifecycleId with
      | none => .error .recordNotFound
      | some life =>
        if !box.heldUnder terminal.expectedVersion terminal.leaseTokenHMAC terminal.attemptCount ∨
            ¬∃ expiry ∈ box.leaseExpiresAt, now ≤ expiry then
          .error .deletionLeaseLost
        else if lifecycleState = .deleted ∧ box.dispatchedAt = none then
          .error .lifecycleStateConflict
        else if terminal.event.lifecycleId ≠ box.lifecycleId ∨
            terminal.event.eventType ≠ eventType ∨
            terminal.event.attemptCount ≠ box.attemptCount ∨
            terminal.event.evidenceDigest ≠ terminal.evidenceDigest then
          .error (.message "managed provider file deletion terminal event is invalid")
        else if lifecycleState = .deleted ∧ terminal.event.resultCode ≠ terminal.result then
          .error (.message "managed provider file deletion completion event is invalid")
        else if lifecycleState = .deletionFailed ∧
            terminal.event.resultCode ≠ terminal.errorCode then
          .error (.message "managed provider file deletion failure event is invalid")
        else
          updateOutbox db box
            (fun row => row.heldUnder terminal.expectedVersion terminal.leaseTokenHMAC
              terminal.attemptCount)
            (terminal.outboxUpdates box outboxState now) (.error .deletionLeaseLost)
            fun finished =>
              appendEventAndAdvanceManagedProviderFileLifecycle finished life
                life.version (terminal.lifecycleUpdates lifecycleState now)
                terminal.event

def completeManagedProviderFileDeletion (db : Database)
    (terminal : ManagedProviderFileDeletionTerminal) (now : ℤ) : Outcome Database :=
  if terminal.result ≠ managedProviderFileDeletionResultDeleted then
    .error (.message "managed provider file deletion completion result is invalid")
  else
    finishManagedProviderFileDeletion db terminal .completed .deleted .deletionCompleted now

def failManagedProviderFileDeletion (db : Database)
    (terminal : ManagedProviderFileDeletionTerminal) (now : ℤ) : Outcome Database :=
  if terminal.result ≠ managedProviderFileDeletionResultFailed ∨
      Text.isBlank terminal.errorCode ∨ 64 < terminal.errorCode.utf8ByteSize then
    .error (.message "managed provider file deletion failure is invalid")
  else
    finishManagedProviderFileDeletion db terminal .terminalFailed .deletionFailed
      .deletionTerminalFailed now

/-! ## Quarantine -/

def quarantineUpdates (expected now : ℤ) :
    RowUpdate Outbox where
  apply row :=
    { row with
      state := .terminalFailed
      version := expected + 1
      attemptCount := if row.attemptCount < 1 then 1 else row.attemptCount
      leaseTokenHMAC := ""
      leaseExpiresAt := none
      lastErrorCode := "lifecycle_missing"
      terminalResult := managedProviderFileDeletionResultFailed
      completedAt := some now }
  key_apply _ := rfl

def quarantineOrphanedManagedProviderFileDeletion (db : Database)
    (boxId expected now : ℤ) : Outcome (Bool × Database) :=
  if boxId ≤ 0 ∨ expected ≤ 0 then
    .error (.message "managed provider file deletion quarantine identity is invalid")
  else
    let result := db.outboxes.updateWhere boxId (fun row => row.version = expected &&
        (row.state = .pending || row.state = .retryWait || row.state = .inProgress))
      (quarantineUpdates expected now)
    .ok (result.rowsAffected = 1, { db with outboxes := result.table })

end NewApi.ProviderFile
