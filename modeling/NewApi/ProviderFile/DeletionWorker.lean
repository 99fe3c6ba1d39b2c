import Mathlib.Data.List.Sort
import NewApi.ProviderFile.Runtime

/-!
# The deletion worker

`deletion_worker.go` as the program of the calls that it makes, and what each call does to the
database. Between any two calls other workers may run; a worker that is not scheduled again has
crashed.
-/

namespace NewApi.ProviderFile

open Concurrent (Program)
open Relational
open NewApi.ProviderFile renaming ManagedProviderFileDeletionOutbox → Outbox

/-! ## The provider and the settings -/

/-- The codes of failed deletions. -/
inductive ProviderFileDeleteFailureCode where
  | notFound
  | rateLimited
  | upstreamServer
  | authentication
  | unexpectedStatus
  | timeout
  | transport
  | responseTooLarge
  | invalidResponse
deriving DecidableEq

def ProviderFileDeleteFailureCode.text : ProviderFileDeleteFailureCode → String
  | .notFound => "not_found"
  | .rateLimited => "rate_limited"
  | .upstreamServer => "upstream_server_error"
  | .authentication => "authentication_failed"
  | .unexpectedStatus => "unexpected_status"
  | .timeout => "timeout"
  | .transport => "transport_error"
  | .responseTooLarge => "response_too_large"
  | .invalidResponse => "invalid_response"

/-- What `ProviderFileClient.Delete` returns. -/
inductive DeleteAnswer where
  | deleted
  | failed (code : ProviderFileDeleteFailureCode)
  /-- An error that is no `ProviderFileDeleteError`. -/
  | refused
deriving DecidableEq

/-- The settings of deletions. -/
structure DeletionSettings where
  (providerFileOpenAIChannelId providerFileDeletionBatchSize providerFileDeletionMaxAttempts : ℤ)
  providerFileDeletionTimeoutSeconds : ℤ

def validateProviderFileDeletionSettings (cfg : DeletionSettings) : Outcome Unit := do
  check (0 < cfg.providerFileOpenAIChannelId)
    "provider file lifecycle requires a dedicated OpenAI channel"
  check (0 < cfg.providerFileDeletionBatchSize ∧ cfg.providerFileDeletionBatchSize ≤ 100)
    "provider file lifecycle deletion batch size is invalid"
  check (0 < cfg.providerFileDeletionMaxAttempts ∧
      cfg.providerFileDeletionMaxAttempts ≤ 100)
    "provider file lifecycle deletion attempts are invalid"
  check (0 < cfg.providerFileDeletionTimeoutSeconds ∧
      cfg.providerFileDeletionTimeoutSeconds ≤ 120)
    "provider file lifecycle deletion timeout is invalid"

/-- The options of a worker. -/
structure DeletionWorkerOptions where
  keyVersion : String
  settings : DeletionSettings
  (batchSize timeout : ℤ)

def minimumDeletionWorkerTimeout : ℤ := second

def maximumDeletionWorkerTimeout : ℤ := 120 * second

def maximumDeletionRetryDelay : ℤ := 15 * 60 * second

/-- What a batch reports. -/
structure DeletionSummary where
  (due claimed deleted retried failed skipped errors : ℕ)

/-! ## Calls -/

/-- The statements and requests of a worker, one at a time. -/
inductive WorkerCall where
  /-- `ctx.Err()`. -/
  | contextError
  | now
  | listDue (now limit : ℤ)
  | getLifecycle (lifeId : ℤ)
  | quarantine (boxId expected : ℤ)
  /-- `loadDeletionTarget` and the bindings of the target. -/
  | loadDeletionTarget (channelId : ℤ)
  /-- `DeriveProviderFileDeletionLeaseHMAC` of a random nonce. -/
  | deriveLease (boxId : ℤ)
  | deriveEvent (ident : ManagedProviderFileEventIdentity)
  | deriveEvidence (operationHMAC : String) (attemptCount : ℤ) (resultCode : String)
  | claim (claim : ManagedProviderFileDeletionClaim)
  /-- `DecryptProviderFileReference`: the provider's name of the file. -/
  | decryptReference (ownerHMAC uploadIntentHMAC : String) (payload : List UInt8)
  | markDispatched (dispatch : ManagedProviderFileDeletionDispatch)
  /-- The request of `client.Delete` leaves the worker that holds the row. -/
  | sendDelete (box : Outbox) (providerFileId : String)
  /-- `client.Delete` returns. -/
  | awaitDelete (box : Outbox)
  | retry (retry : ManagedProviderFileDeletionRetry)
  | complete (terminal : ManagedProviderFileDeletionTerminal)
  | fail (terminal : ManagedProviderFileDeletionTerminal)

abbrev WorkerCall.Answer : WorkerCall → Type
  | .contextError => Bool
  | .now => ℤ
  | .listDue _ _ => Outcome (List Outbox)
  | .getLifecycle _ => Outcome ManagedProviderFileLifecycle
  | .quarantine _ _ => Outcome Bool
  | .loadDeletionTarget _ => Option (Target × List ManagedProviderFileTargetBinding)
  | .deriveLease _ => Outcome String
  | .deriveEvent _ => Outcome String
  | .deriveEvidence _ _ _ => Outcome String
  | .claim _ => Outcome (Option Outbox)
  | .decryptReference _ _ _ => Outcome String
  | .markDispatched _ => Outcome Outbox
  | .sendDelete _ _ => Unit
  | .awaitDelete _ => DeleteAnswer
  | .retry _ => Outcome Unit
  | .complete _ => Outcome Unit
  | .fail _ => Outcome Unit

abbrev WorkerProgram := Program WorkerCall WorkerCall.Answer

def request (call : WorkerCall) : WorkerProgram call.Answer :=
  Program.ask call

/-- What a worker does with one outbox row: the summary after it, and its error. -/
abbrev Processed := DeletionSummary × Outcome Unit

/-! ## The program -/

section Worker

variable (opts : DeletionWorkerOptions) (summary : DeletionSummary)
  (life : ManagedProviderFileLifecycle)

/-- An event of the worker, for the lifecycle as the worker knows it. -/
def workerEvent (eventType : LifecycleEventType) (toState : LifecycleState) (attemptCount : ℤ)
    (resultCode evidenceDigest : String) (createdAt : ℤ) :
    WorkerProgram (Outcome ManagedProviderFileLifecycleEvent) :=
  providerFileEventWithAttempt (fun ident => request (.deriveEvent ident)) life.id
    opts.keyVersion (some life.state)
    { lifecycleHMAC := life.uploadIntentHMAC
      sequence := life.lastEventSequence + 1
      previousEventHMAC := life.lastEventHMAC
      eventType := eventType
      fromState := some life.state
      toState := toState
      attemptCount := attemptCount
      resultCode := resultCode
      evidenceDigest := evidenceDigest
      createdAt := createdAt }

def deletionTerminal (box : Outbox)
    (result errorCode evidenceHMAC : String) (event : ManagedProviderFileLifecycleEvent) :
    ManagedProviderFileDeletionTerminal where
  outboxId := box.id
  expectedVersion := box.version
  leaseTokenHMAC := box.leaseTokenHMAC
  attemptCount := box.attemptCount
  result := result
  errorCode := errorCode
  evidenceDigest := evidenceHMAC
  event := event

def finishDeletionSuccess (box : Outbox) :
    WorkerProgram Processed := do
  let resultCode := managedProviderFileDeletionResultDeleted
  match ← request (.deriveEvidence box.operationHMAC box.attemptCount resultCode) with
  | .error err => return (summary, .error err)
  | .ok evidenceHMAC =>
    let now ← request .now
    match ← workerEvent opts life .deletionCompleted .deleted box.attemptCount
        resultCode evidenceHMAC now with
    | .error err => return (summary, .error err)
    | .ok event =>
      match ← request
          (.complete (deletionTerminal box resultCode "" evidenceHMAC event)) with
      | .error err => return (summary, .error err)
      | .ok _ => return ({ summary with deleted := summary.deleted + 1 }, .ok ())

def finishDeletionFailure (box : Outbox) (resultCode : String) :
    WorkerProgram Processed := do
  match ← request (.deriveEvidence box.operationHMAC box.attemptCount resultCode) with
  | .error err => return (summary, .error err)
  | .ok evidenceHMAC =>
    let now ← request .now
    match ← workerEvent opts life .deletionTerminalFailed .deletionFailed
        box.attemptCount resultCode evidenceHMAC now with
    | .error err => return (summary, .error err)
    | .ok event =>
      match ← request
          (.fail (deletionTerminal box managedProviderFileDeletionResultFailed resultCode
            evidenceHMAC event)) with
      | .error err => return (summary, .error err)
      | .ok _ => return ({ summary with failed := summary.failed + 1 }, .ok ())

def doubleDelay : ℕ → ℤ → ℤ
  | 0, delay => delay
  | attempts + 1, delay =>
    if delay < maximumDeletionRetryDelay then doubleDelay attempts (delay * 2) else delay

def retryDelay (attemptCount : ℤ) : ℤ :=
  min (doubleDelay (attemptCount - 1).toNat (15 * second)) maximumDeletionRetryDelay

def scheduleDeletionRetry (box : Outbox) (resultCode : String) :
    WorkerProgram Processed := do
  if box.maxAttempts ≤ box.attemptCount then
    finishDeletionFailure opts summary life box resultCode
  else
    let now ← request .now
    match ← workerEvent opts life .deletionRetryScheduled life.state
        box.attemptCount resultCode box.operationHMAC now with
    | .error err => return (summary, .error err)
    | .ok event =>
      match ← request (.retry
          { outboxId := box.id
            expectedVersion := box.version
            leaseTokenHMAC := box.leaseTokenHMAC
            attemptCount := box.attemptCount
            nextAttemptAt := now + retryDelay box.attemptCount
            errorCode := resultCode
            event := event }) with
      | .error err => return (summary, .error err)
      | .ok _ => return ({ summary with retried := summary.retried + 1 }, .ok ())

/-- The result code of a failed `Delete` that is not retried. -/
def deleteFailureCode : DeleteAnswer → String
  | .failed .timeout | .failed .transport | .failed .responseTooLarge | .failed .invalidResponse
  | .failed .upstreamServer => "delete_outcome_unknown"
  | .failed .notFound => "provider_not_found_unverified"
  | .failed code => "provider_" ++ code.text
  | _ => "provider_delete_failed"

/-- After `client.Delete` has returned. -/
def finishDelete (dispatched : Outbox) :
    DeleteAnswer → WorkerProgram Processed
  | .deleted => finishDeletionSuccess opts summary life dispatched
  | .failed .rateLimited =>
    scheduleDeletionRetry opts summary life dispatched "provider_rate_limited"
  | reply => finishDeletionFailure opts summary life dispatched (deleteFailureCode reply)

def ManagedProviderFileLifecycle.advanced (event : ManagedProviderFileLifecycleEvent) :
    ManagedProviderFileLifecycle :=
  { life with
    version := life.version + 1
    lastEventSequence := event.sequence
    lastEventHMAC := event.eventHMAC }

def dispatchDelete (claimed : Outbox) : WorkerProgram Processed := do
  match ← request (.decryptReference life.ownerHMAC life.uploadIntentHMAC
      life.providerPayload) with
  | .error _ => scheduleDeletionRetry opts summary life claimed "reference_unavailable"
  | .ok providerFileId =>
    let createdAt ← request .now
    match ← workerEvent opts life .deletionDispatched life.state
        claimed.attemptCount "" claimed.operationHMAC createdAt with
    | .error err => return (summary, .error err)
    | .ok event =>
      let dispatchedAt ← request .now
      match ← request (.markDispatched
          { outboxId := claimed.id
            lifecycleId := life.id
            expectedVersion := claimed.version
            leaseTokenHMAC := claimed.leaseTokenHMAC
            attemptCount := claimed.attemptCount
            dispatchedAt := dispatchedAt
            event := event }) with
      | .error err => return (summary, .error err)
      | .ok dispatched =>
        request (.sendDelete dispatched providerFileId)
        let reply ← request (.awaitDelete dispatched)
        finishDelete opts summary (life.advanced event) dispatched reply

/-- The event type of a claim, as the worker sees the row and its lifecycle. -/
def workerClaimEventType (cand : Outbox) : LifecycleEventType :=
  if cand.state = .inProgress then .deletionRecoveryStarted
  else if life.state = .active ∨ life.state = .verificationFailed then .deletionStarted
  else .deletionAttemptStarted

/-- Claim a row whose lifecycle and target are known, and delete its file. -/
def claimAndDelete (cand : Outbox) (now : ℤ) :
    WorkerProgram Processed := do
  match ← request (.deriveLease cand.id) with
  | .error err => return (summary, .error err)
  | .ok leaseHMAC =>
    match ← workerEvent opts life (workerClaimEventType life cand)
        .deletionPending (nextAttemptCount cand) "" cand.operationHMAC now with
    | .error err => return (summary, .error err)
    | .ok event =>
      match ← request (.claim
          { outboxId := cand.id
            expectedVersion := cand.version
            leaseTokenHMAC := leaseHMAC
            leaseExpiresAt := now + (opts.timeout + 30 * second)
            expectedState := cand.state
            expectedAttemptCount := cand.attemptCount
            event := event }) with
      | .error err => return (summary, .error err)
      | .ok none => return ({ summary with skipped := summary.skipped + 1 }, .ok ())
      | .ok (some claimed) =>
        let counted := { summary with claimed := summary.claimed + 1 }
        let pending := { life with state := .deletionPending }.advanced event
        if cand.dispatchedAt ≠ none then
          finishDeletionFailure opts counted pending claimed "delete_outcome_unknown"
        else dispatchDelete opts counted pending claimed

end Worker

def processDeletionOutbox (opts : DeletionWorkerOptions) (summary : DeletionSummary)
    (cand : Outbox) : WorkerProgram Processed := do
  match ← request (.getLifecycle cand.lifecycleId) with
  | .error .recordNotFound =>
    match ← request (.quarantine cand.id cand.version) with
    | .error err => return (summary, .error err)
    | .ok false => return ({ summary with skipped := summary.skipped + 1 }, .ok ())
    | .ok true => return ({ summary with failed := summary.failed + 1 }, .ok ())
  | .error err => return (summary, .error err)
  | .ok life =>
    let now ← request .now
    match ← request (.loadDeletionTarget life.channelId) with
    | none =>
      return (summary, .error (.message "managed provider file deletion target is unavailable"))
    | some (goal, bindings) =>
      if !matchesLifecycleTarget life goal bindings then
        return (summary,
          .error (.message "managed provider file deletion target binding is unavailable"))
      else claimAndDelete opts summary life cand now

/-- The loop over the rows of a batch; an error of one row does not stop the others. -/
def processBatch (opts : DeletionWorkerOptions) :
    DeletionSummary → List Outbox → WorkerProgram Processed
  | summary, [] =>
    if 0 < summary.errors then
      return (summary,
        .error (.message "managed provider file deletion batch contains isolated errors"))
    else return (summary, .ok ())
  | summary, cand :: rest => do
      if ← request .contextError then
        return (summary, .error (.message "context is done"))
      else
        let processed ← processDeletionOutbox opts summary cand
        match processed.2 with
        | .ok _ => processBatch opts processed.1 rest
        | .error _ =>
          processBatch opts { processed.1 with errors := processed.1.errors + 1 } rest

def runDeletionBatch (opts : DeletionWorkerOptions) : WorkerProgram Processed := do
  let summary : DeletionSummary := ⟨0, 0, 0, 0, 0, 0, 0⟩
  if opts.batchSize ≠ opts.settings.providerFileDeletionBatchSize ∨
      opts.timeout ≠ opts.settings.providerFileDeletionTimeoutSeconds * second ∨
      opts.timeout < minimumDeletionWorkerTimeout ∨
      maximumDeletionWorkerTimeout < opts.timeout then
    return (summary,
      .error (.message "managed provider file deletion worker configuration is invalid"))
  else
    match validateProviderFileDeletionSettings opts.settings with
    | .error _ =>
      return (summary, .error (.message "managed provider file deletion settings are invalid"))
    | .ok _ =>
      let now ← request .now
      match ← request (.listDue now opts.batchSize) with
      | .error err => return (summary, .error err)
      | .ok outboxes => processBatch opts { summary with due := outboxes.length } outboxes

/-! ## What the calls do -/

/-- What workers have done. -/
inductive NoteKind where
  | listed
  | claimed
  | marked
  | sent
  /-- `held` says that the row was still as the worker knew it. -/
  | answered (reply : DeleteAnswer) (held : Bool)
  | retried (errorCode : String)
  | completed
  | failed
  | quarantined
deriving DecidableEq

/-- A note with its worker. -/
structure DeletionNote where
  thread : ℕ
  outbox : Outbox
  kind : NoteKind

/-- The database and the notes of all workers. -/
structure DeletionSystem where
  db : Database
  history : List DeletionNote

/-- What the database does to a transaction. -/
inductive Fault where
  | none
  | refused
  | unanswered
deriving DecidableEq

/-- What a call of a worker meets. -/
structure WorkerChoice where
  (first now : ℤ)
  fault : Fault
  contextError : Bool
  target : Option (Target × List ManagedProviderFileTargetBinding)
  digest : Outcome String
  answer : DeleteAnswer

def listDueManagedProviderFileDeletions (db : Database) (now limit : ℤ) :
    Outcome (List Outbox) :=
  if now = 0 then
    .error (.message "managed provider file deletion query time is invalid")
  else
    let bounded := if limit ≤ 0 then 1 else if 100 < limit then 100 else limit
    let sorted := (db.outboxes.rows.filter fun box => box.due now).mergeSort
      fun left right =>
        left.nextAttemptAt < right.nextAttemptAt ||
          (left.nextAttemptAt = right.nextAttemptAt && left.id ≤ right.id)
    .ok (sorted.take bounded.toNat)

def getManagedProviderFileDeletionLifecycle (db : Database) (lifeId : ℤ) :
    Outcome ManagedProviderFileLifecycle :=
  if lifeId ≤ 0 then
    .error (.message "managed provider file deletion lifecycle identity is invalid")
  else
    match db.lifecycles.find? lifeId with
    | none => .error .recordNotFound
    | some life => .ok life

namespace DeletionSystem

variable (s : DeletionSystem)

def read {Result : Type} (fault : Fault) (result : Outcome Result)
    (notes : Result → List DeletionNote) : Outcome Result × DeletionSystem :=
  match fault, result with
  | .none, .ok reply => (.ok reply, { s with history := s.history ++ notes reply })
  | .none, .error err => (.error err, s)
  | _, _ => (.error .database, s)

/-- A transaction under a fault, with the notes it leaves when it commits. -/
def transact {Result : Type} (fault : Fault) (result : Outcome (Result × Database))
    (notes : Result → List DeletionNote) : Outcome Result × DeletionSystem :=
  match fault, result with
  | .refused, _ => (.error .database, s)
  | _, .error err => (.error err, s)
  | .none, .ok (reply, after) => (.ok reply, ⟨after, s.history ++ notes reply⟩)
  | .unanswered, .ok (reply, after) =>
    (.error .database, ⟨after, s.history ++ notes reply⟩)

def noteOf (t : ℕ) (boxId : ℤ) (kind : NoteKind) : List DeletionNote :=
  (s.db.outboxes.find? boxId).toList.map fun row => ⟨t, row, kind⟩

def unit (result : Outcome Database) : Outcome (Unit × Database) :=
  result.map fun after => ((), after)

def perform (t : ℕ) (call : WorkerCall) (pick : WorkerChoice)
    (s : DeletionSystem) : call.Answer × DeletionSystem :=
  match call with
  | .contextError => (pick.contextError, s)
  | .now => (pick.now, s)
  | .listDue now limit =>
    s.read pick.fault (listDueManagedProviderFileDeletions s.db now limit)
      fun due => due.map fun row => ⟨t, row, .listed⟩
  | .getLifecycle lifeId =>
    s.read pick.fault (getManagedProviderFileDeletionLifecycle s.db lifeId) fun _ => []
  | .quarantine boxId expected =>
    s.transact pick.fault
      (quarantineOrphanedManagedProviderFileDeletion s.db boxId expected pick.now)
      fun changed => if changed then s.noteOf t boxId .quarantined else []
  | .loadDeletionTarget _ => (pick.target, s)
  | .deriveLease _ => (pick.digest, s)
  | .deriveEvent _ => (pick.digest, s)
  | .deriveEvidence _ _ _ => (pick.digest, s)
  | .claim claim =>
    s.transact pick.fault (claimManagedProviderFileDeletion s.db claim pick.now)
      fun claimed => claimed.toList.map fun row => ⟨t, row, .claimed⟩
  | .decryptReference _ _ _ => (pick.digest, s)
  | .markDispatched dispatch =>
    s.transact pick.fault (markManagedProviderFileDeletionDispatched s.db dispatch pick.now)
      fun row => [⟨t, row, .marked⟩]
  | .sendDelete box _ =>
    ((), { s with history := s.history ++ [⟨t, box, .sent⟩] })
  | .awaitDelete box =>
    let held := s.db.outboxes.find? box.id = some box
    (pick.answer,
      { s with
        history := s.history ++ [⟨t, box, .answered pick.answer held⟩] })
  | .retry retry =>
    s.transact pick.fault (unit (retryManagedProviderFileDeletion s.db retry pick.first pick.now))
      fun _ => s.noteOf t retry.outboxId (.retried retry.errorCode)
  | .complete terminal =>
    s.transact pick.fault (unit (completeManagedProviderFileDeletion s.db terminal pick.now))
      fun _ => s.noteOf t terminal.outboxId .completed
  | .fail terminal =>
    s.transact pick.fault (unit (failManagedProviderFileDeletion s.db terminal pick.now))
      fun _ => s.noteOf t terminal.outboxId .failed

end DeletionSystem

end NewApi.ProviderFile
