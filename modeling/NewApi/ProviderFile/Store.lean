import NewApi.ProviderFile.Records

/-!
# The store of managed provider files

The transactions of `provider_file.go` that create a lifecycle, advance its upload and bind the
provider reference. The row locks make each one atomic. The clock readings of a call are
arguments.
-/

namespace NewApi.ProviderFile

open Relational
open NewApi.ProviderFile renaming ManagedProviderFileLifecycle → Lifecycle,
  ManagedProviderFileLifecycleEvent → LifecycleEvent

/-- The tables of provider files. -/
structure Database where
  channelIds : List ℤ
  lifecycles : Table Lifecycle
  outboxes : Table ManagedProviderFileDeletionOutbox
  events : List LifecycleEvent

abbrev Outcome := Except ManagedProviderFileError

def second : ℤ := 1000000000

/-- `Truncate(time.Second)`. -/
def truncate (time : ℤ) : ℤ :=
  time - time % second

/-! ## Unique indexes -/

namespace Database

def lifecyclesClash (left right : Lifecycle) : Bool :=
  left.uploadIntentHMAC = right.uploadIntentHMAC ||
    left.handleLookupHMAC = right.handleLookupHMAC ||
    (left.providerLookupHMAC.isSome && left.providerLookupHMAC = right.providerLookupHMAC)

def lifecycleTaken (db : Database) (life : Lifecycle) : Bool :=
  db.lifecycles.rows.any fun other => other.id ≠ life.id && lifecyclesClash other life

def outboxTaken (db : Database) (lifeId : ℤ) (operationHMAC : String) : Bool :=
  db.outboxes.rows.any fun other =>
    other.lifecycleId = lifeId || other.operationHMAC = operationHMAC

/-! ## Events -/

def nextEventId (db : Database) : ℤ :=
  (db.events.map LifecycleEvent.id).foldr max 0 + 1

def eventTaken (db : Database) (event : LifecycleEvent) : Bool :=
  db.events.any fun other =>
    other.id = event.id || other.eventHMAC = event.eventHMAC ||
      (other.lifecycleId = event.lifecycleId && other.sequence = event.sequence)

/-- `tx.Create(event)`; a zero key is replaced by the next one. -/
def createEvent (db : Database) (event : LifecycleEvent) : Outcome Database :=
  let stored := { event with id := if event.id = 0 then db.nextEventId else event.id }
  if db.eventTaken stored then .error .database
  else .ok { db with events := db.events ++ [stored] }

/-- The events of one lifecycle, in the order in which they were appended. -/
def eventsOf (db : Database) (lifeId : ℤ) : List LifecycleEvent :=
  db.events.filter fun event => event.lifecycleId = lifeId

def latestEvent : List LifecycleEvent → Option LifecycleEvent
  | [] => none
  | event :: rest =>
    match latestEvent rest with
    | some later => if event.sequence < later.sequence then some later else some event
    | none => some event

end Database

def appendManagedProviderFileLifecycleEvent (db : Database)
    (event : LifecycleEvent) : Outcome Database :=
  match Database.latestEvent (db.eventsOf event.lifecycleId) with
  | none =>
    if event.sequence ≠ 1 ∨ event.previousEventHMAC ≠ "" then .error .lifecycleStateConflict
    else event.validate.bind fun _ => db.createEvent event
  | some latest =>
    if event.sequence ≠ latest.sequence + 1 ∨ event.fromState ≠ some latest.toState ∨
        event.previousEventHMAC ≠ latest.eventHMAC then .error .lifecycleStateConflict
    else event.validate.bind fun _ => db.createEvent event

/-- The columns that the append of an event writes, on top of the other updates. -/
def advance (updates : RowUpdate Lifecycle) (expected : ℤ)
    (event : LifecycleEvent) : RowUpdate Lifecycle where
  apply life :=
    { updates.apply life with
      version := expected + 1
      lastEventSequence := event.sequence
      lastEventHMAC := event.eventHMAC }
  key_apply life := updates.key_apply life

def appendEventAndAdvanceManagedProviderFileLifecycle (db : Database)
    (life : Lifecycle) (expected : ℤ)
    (updates : RowUpdate Lifecycle)
    (event : LifecycleEvent) : Outcome Database :=
  if life.version ≠ expected ∨ expected ≤ 0 then
    .error .lifecycleStateConflict
  else if event.lifecycleId ≠ life.id ∨
      event.sequence ≠ life.lastEventSequence + 1 ∨
      event.previousEventHMAC ≠ life.lastEventHMAC ∨
      event.fromState ≠ some life.state then
    .error .lifecycleStateConflict
  else
    (appendManagedProviderFileLifecycleEvent db event).bind fun appended =>
      let change := advance updates expected event
      let result := appended.lifecycles.updateWhere life.id
        (fun row => row.version = expected && row.state = life.state &&
          row.lastEventSequence = life.lastEventSequence &&
          row.lastEventHMAC = life.lastEventHMAC) change
      if appended.lifecycleTaken (change.apply life) then .error .database
      else if result.rowsAffected ≠ 1 then .error .lifecycleStateConflict
      else .ok { appended with lifecycles := result.table }

/-! ## Creation -/

def sameManagedProviderFileIntent (old requested : Lifecycle) : Bool :=
  old.uploadIntentHMAC = requested.uploadIntentHMAC && old.ownerHMAC = requested.ownerHMAC &&
    old.lookupKeyVersion = requested.lookupKeyVersion &&
    old.requestFingerprint = requested.requestFingerprint &&
    old.provider = requested.provider && old.channelId = requested.channelId &&
    old.channelType = requested.channelType &&
    old.channelIsMultiKey = requested.channelIsMultiKey &&
    old.channelMultiKeyIndex = requested.channelMultiKeyIndex &&
    old.credentialFingerprint = requested.credentialFingerprint &&
    old.credentialFingerprintKeyVersion = requested.credentialFingerprintKeyVersion &&
    old.endpointFingerprint = requested.endpointFingerprint &&
    old.providerScopeFingerprint = requested.providerScopeFingerprint &&
    old.payloadKeyVersion = requested.payloadKeyVersion &&
    old.purpose = requested.purpose

def findIntentOrHandle (db : Database) (life : Lifecycle) :
    Option Lifecycle :=
  db.lifecycles.rows.find? fun old =>
    old.uploadIntentHMAC = life.uploadIntentHMAC || old.handleLookupHMAC = life.handleLookupHMAC

/-- `UPDATE` of the event head of a new lifecycle. -/
def setEventHead (event : LifecycleEvent) :
    RowUpdate Lifecycle where
  apply life :=
    { life with
      lastEventSequence := event.sequence
      lastEventHMAC := event.eventHMAC }
  key_apply _ := rfl

/-- The row that `tx.Create` stores under a new key. -/
def ManagedProviderFileLifecycle.withId (life : Lifecycle) (id : ℤ) :
    Lifecycle :=
  { life with id := id }

theorem ManagedProviderFileLifecycle.key_withId (life : Lifecycle)
    (id : ℤ) : Keyed.key (life.withId id) = id :=
  rfl

/-- The transaction of a creation: the found or the created row, and whether it is new. -/
def createManagedProviderFileLifecycleTransaction (db : Database)
    (life : Lifecycle) (event : LifecycleEvent) :
    Outcome (Lifecycle × Bool × Database) :=
  if life.channelId ∉ db.channelIds then .error .recordNotFound
  else
    match findIntentOrHandle db life with
    | some old =>
      if !sameManagedProviderFileIntent old life then .error .lifecycleConflict
      else .ok (old, false, db)
    | none =>
      let id := db.lifecycles.nextKey
      let created :=
        { db with lifecycles := db.lifecycles.insert life.withId life.key_withId }
      let numbered := { event with lifecycleId := id }
      if db.lifecycleTaken (life.withId id) then .error .database
      else
        (appendManagedProviderFileLifecycleEvent created numbered).bind fun appended =>
          let result := appended.lifecycles.updateWhere id
            (fun row => row.version = life.version && row.lastEventSequence = 0)
            (setEventHead numbered)
          if result.rowsAffected ≠ 1 then .error .lifecycleStateConflict
          else
            .ok ((setEventHead numbered).apply (life.withId id), true,
              { appended with lifecycles := result.table })

def freshIntent (life : Lifecycle) : Lifecycle :=
  { life with version := 1, lastEventSequence := 0, lastEventHMAC := "" }

/-- The checks of `CreateManagedProviderFileLifecycleIntent` on its arguments; the event is
validated with a placeholder for the lifecycle. -/
def checkIntent (life : Lifecycle) (event : LifecycleEvent) : Outcome Unit :=
  if life.id ≠ 0 ∨ life.state ≠ .intent ∨ event.id ≠ 0 ∨ event.lifecycleId ≠ 0 then
    .error (.message "managed provider file upload intent is invalid")
  else
    (freshIntent life).validate.bind fun _ =>
      LifecycleEvent.validate { event with lifecycleId := 1 }

def findAfterError (db : Database) (life : Lifecycle)
    (err : ManagedProviderFileError) : Outcome (Lifecycle × Bool) :=
  match findIntentOrHandle db life with
  | some old =>
    if sameManagedProviderFileIntent old life then .ok (old, false)
    else .error .lifecycleConflict
  | none => .error err

def attemptCreation (db : Database) (life : Lifecycle) (event : LifecycleEvent) (refused : Bool) :
    Outcome (Lifecycle × Bool × Database) :=
  if refused then .error .database
  else createManagedProviderFileLifecycleTransaction db life event

/-- `CreateManagedProviderFileLifecycleIntent`; `refused` says that the database refused the
transaction. -/
def createManagedProviderFileLifecycleIntent (db : Database)
    (life : Lifecycle) (event : LifecycleEvent)
    (refused : Bool) : Outcome (Lifecycle × Bool) × Database :=
  match checkIntent life event with
  | .error err => (.error err, db)
  | .ok _ =>
    match attemptCreation db (freshIntent life) event refused with
    | .ok (row, created, after) => (.ok (row, created), after)
    | .error err => (findAfterError db (freshIntent life) err, db)

/-! ## Upload -/

/-- A step of an upload from one state to the next. -/
structure ManagedProviderFileUploadTransition where
  (lifecycleId expectedVersion : ℤ)
  requestFingerprint : String
  (expectedState nextState : LifecycleState)
  reasonCode : String
  event : LifecycleEvent

/-- The transitions that `AdvanceManagedProviderFileUploadState` accepts. -/
def ManagedProviderFileUploadTransition.Valid (move : ManagedProviderFileUploadTransition) : Prop :=
  (move.expectedState = .intent ∧ move.nextState = .uploadDispatched ∧
      move.reasonCode = "") ∨
    ((move.expectedState = .intent ∨ move.expectedState = .uploadDispatched) ∧
      move.nextState = .uploadFailed ∧ Text.isBlank move.reasonCode = false) ∨
    (move.expectedState = .uploadDispatched ∧ move.nextState = .uploadUnknown ∧
      Text.isBlank move.reasonCode = false)
deriving Decidable

def ManagedProviderFileUploadTransition.updates (move : ManagedProviderFileUploadTransition)
    (now : ℤ) : RowUpdate Lifecycle where
  apply life :=
    { life with
      state := move.nextState
      terminalReasonCode := move.reasonCode
      uploadDispatchedAt :=
        if move.nextState = .uploadDispatched then some now
        else life.uploadDispatchedAt
      uploadFailedAt :=
        if move.nextState = .uploadFailed then some now else life.uploadFailedAt
      uploadUnknownAt :=
        if move.nextState = .uploadUnknown then some now else life.uploadUnknownAt }
  key_apply _ := rfl

def advanceManagedProviderFileUploadState (db : Database)
    (move : ManagedProviderFileUploadTransition) (now : ℤ) : Outcome Database :=
  if move.lifecycleId ≤ 0 ∨ move.expectedVersion ≤ 0 ∨
      !validManagedProviderFileDigest move.requestFingerprint ∨
      64 < move.reasonCode.utf8ByteSize then
    .error (.message "managed provider file upload transition is invalid")
  else if ¬move.Valid then
    .error (.message "managed provider file upload transition is invalid")
  else
    match db.lifecycles.find? move.lifecycleId with
    | none => .error .recordNotFound
    | some life =>
      if life.version ≠ move.expectedVersion ∨
          life.state ≠ move.expectedState ∨
          life.requestFingerprint ≠ move.requestFingerprint then
        .error .lifecycleStateConflict
      else
        appendEventAndAdvanceManagedProviderFileLifecycle db life
          move.expectedVersion (move.updates now) move.event

/-! ## Binding of the provider reference -/

/-- `tx.Create(&outbox)` of a pending deletion. -/
def Database.createOutbox (db : Database) (box : ManagedProviderFileDeletionOutbox) :
    Outcome Database :=
  if db.outboxTaken box.lifecycleId box.operationHMAC then .error .database
  else
    .ok { db with
      outboxes := db.outboxes.insert (fun id => { box with id := id }) fun _ => rfl }

def pendingDeletion (lifeId : ℤ) (operationHMAC : String) (maxAttempts nextAttemptAt : ℤ) :
    ManagedProviderFileDeletionOutbox where
  id := 0
  lifecycleId := lifeId
  operationHMAC := operationHMAC
  state := .pending
  version := 1
  attemptCount := 0
  maxAttempts := maxAttempts
  nextAttemptAt := nextAttemptAt
  leaseTokenHMAC := ""
  leaseExpiresAt := none
  lastErrorCode := ""
  terminalResult := ""
  lastAttemptAt := none
  dispatchedAt := none
  completedAt := none

/-- What a failed verification stores. -/
structure ManagedProviderFileVerificationFailure where
  (lifecycleId expectedVersion : ℤ)
  (requestFingerprint providerLookupHMAC : String)
  providerPayload : List UInt8
  (providerBytes providerCreatedAt expiresAt : ℤ)
  (reasonCode deletionOperationHMAC : String)
  (deletionNextAttemptAt maxDeletionAttempts : ℤ)
  event : LifecycleEvent

/-- The times of a failure, truncated; `now` stands in for a missing deletion time. -/
def ManagedProviderFileVerificationFailure.truncated
    (err : ManagedProviderFileVerificationFailure) (now : ℤ) :
    ManagedProviderFileVerificationFailure :=
  { err with
    providerCreatedAt := truncate err.providerCreatedAt
    expiresAt := truncate err.expiresAt
    deletionNextAttemptAt :=
      if err.deletionNextAttemptAt = 0 then truncate now
      else truncate err.deletionNextAttemptAt }

/-- The checks of `RecordManagedProviderFileVerificationFailure` on its truncated argument. -/
def ManagedProviderFileVerificationFailure.Valid
    (err : ManagedProviderFileVerificationFailure) : Prop :=
  0 < err.lifecycleId ∧ 0 < err.expectedVersion ∧
    validManagedProviderFileDigest err.requestFingerprint ∧
    validManagedProviderFileDigest err.providerLookupHMAC ∧ err.providerPayload ≠ [] ∧
    0 < err.providerBytes ∧ err.providerCreatedAt ≠ 0 ∧
    err.providerCreatedAt < err.expiresAt ∧ Text.isBlank err.reasonCode = false ∧
    err.reasonCode.utf8ByteSize ≤ 64 ∧
    validManagedProviderFileDigest err.deletionOperationHMAC ∧
    err.deletionNextAttemptAt ≤ err.expiresAt ∧ 0 < err.maxDeletionAttempts ∧
    err.maxDeletionAttempts ≤ maxManagedProviderFileDeletionAttempts

instance (err : ManagedProviderFileVerificationFailure) : Decidable err.Valid :=
  inferInstanceAs (Decidable (_ ∧ _))

def ManagedProviderFileVerificationFailure.updates
    (err : ManagedProviderFileVerificationFailure) (now : ℤ) :
    RowUpdate Lifecycle where
  apply life :=
    { life with
      state := .verificationFailed
      providerLookupHMAC := some err.providerLookupHMAC
      providerPayload := err.providerPayload
      providerBytes := err.providerBytes
      providerCreatedAt := some err.providerCreatedAt
      expiresAt := some err.expiresAt
      verificationFailedAt := some now
      terminalReasonCode := err.reasonCode }
  key_apply _ := rfl

/-- The body of `RecordManagedProviderFileVerificationFailure` on its truncated argument. -/
def recordTruncatedVerificationFailure (db : Database)
    (err : ManagedProviderFileVerificationFailure) (now : ℤ) : Outcome Database :=
  if ¬err.Valid then .error (.message "managed provider file verification failure is invalid")
  else
    match db.lifecycles.find? err.lifecycleId with
    | none => .error .recordNotFound
    | some life =>
      if life.version ≠ err.expectedVersion ∨ life.state ≠ .uploadDispatched ∨
          life.requestFingerprint ≠ err.requestFingerprint ∨
          err.event.lifecycleId ≠ life.id ∨
          err.event.eventType ≠ .verificationFailed then
        .error .lifecycleStateConflict
      else
        let box := pendingDeletion life.id err.deletionOperationHMAC
          err.maxDeletionAttempts err.deletionNextAttemptAt
        box.validate.bind fun _ =>
          (db.createOutbox box).bind fun scheduled =>
            appendEventAndAdvanceManagedProviderFileLifecycle scheduled life
              err.expectedVersion (err.updates now) err.event

def recordManagedProviderFileVerificationFailure (db : Database)
    (err : ManagedProviderFileVerificationFailure) (first now : ℤ) : Outcome Database :=
  recordTruncatedVerificationFailure db (err.truncated first) now

/-- What an activation stores. -/
structure ManagedProviderFileLifecycleActivation where
  (lifecycleId expectedVersion : ℤ)
  (requestFingerprint providerLookupHMAC : String)
  providerPayload : List UInt8
  (providerBytes providerCreatedAt metadataVerifiedAt expiresAt : ℤ)
  deletionOperationHMAC : String
  (deletionNextAttemptAt maxDeletionAttempts : ℤ)
  event : LifecycleEvent

def ManagedProviderFileLifecycleActivation.truncated
    (activation : ManagedProviderFileLifecycleActivation) :
    ManagedProviderFileLifecycleActivation :=
  { activation with
    providerCreatedAt := truncate activation.providerCreatedAt
    metadataVerifiedAt := truncate activation.metadataVerifiedAt
    expiresAt := truncate activation.expiresAt
    deletionNextAttemptAt :=
      if activation.deletionNextAttemptAt = 0 then truncate activation.expiresAt
      else truncate activation.deletionNextAttemptAt }

/-- The checks of `ActivateManagedProviderFileLifecycle` on its truncated argument. -/
def ManagedProviderFileLifecycleActivation.Valid
    (activation : ManagedProviderFileLifecycleActivation) (now : ℤ) : Prop :=
  0 < activation.lifecycleId ∧ 0 < activation.expectedVersion ∧
    validManagedProviderFileDigest activation.requestFingerprint ∧
    validManagedProviderFileDigest activation.providerLookupHMAC ∧
    activation.providerPayload ≠ [] ∧ 0 < activation.providerBytes ∧
    activation.providerCreatedAt ≠ 0 ∧ activation.metadataVerifiedAt ≠ 0 ∧
    activation.expiresAt ≠ 0 ∧ now < activation.expiresAt ∧
    activation.providerCreatedAt < activation.expiresAt ∧
    validManagedProviderFileDigest activation.deletionOperationHMAC ∧
    activation.deletionNextAttemptAt ≤ activation.expiresAt ∧
    0 < activation.maxDeletionAttempts ∧
    activation.maxDeletionAttempts ≤ maxManagedProviderFileDeletionAttempts

instance (activation : ManagedProviderFileLifecycleActivation) (now : ℤ) :
    Decidable (activation.Valid now) :=
  inferInstanceAs (Decidable (_ ∧ _))

def sameManagedProviderFileActivation (life : Lifecycle)
    (activation : ManagedProviderFileLifecycleActivation) : Bool :=
  life.providerLookupHMAC = some activation.providerLookupHMAC &&
    life.providerPayload = activation.providerPayload &&
    life.providerBytes = activation.providerBytes &&
    life.providerCreatedAt = some activation.providerCreatedAt &&
    life.metadataVerifiedAt = some activation.metadataVerifiedAt &&
    life.expiresAt = some activation.expiresAt

def ManagedProviderFileLifecycleActivation.updates
    (activation : ManagedProviderFileLifecycleActivation) (now : ℤ) :
    RowUpdate Lifecycle where
  apply life :=
    { life with
      providerLookupHMAC := some activation.providerLookupHMAC
      providerPayload := activation.providerPayload
      providerBytes := activation.providerBytes
      providerCreatedAt := some activation.providerCreatedAt
      metadataVerifiedAt := some activation.metadataVerifiedAt
      expiresAt := some activation.expiresAt
      state := .active
      activatedAt := some now }
  key_apply _ := rfl

/-- The body of `ActivateManagedProviderFileLifecycle` on its truncated argument. -/
def activateTruncated (db : Database) (activation : ManagedProviderFileLifecycleActivation)
    (first now : ℤ) : Outcome (Bool × Database) :=
  if ¬activation.Valid first then
    .error (.message "managed provider file activation is invalid")
  else
    match db.lifecycles.find? activation.lifecycleId with
    | none => .error .recordNotFound
    | some life =>
      if life.requestFingerprint ≠ activation.requestFingerprint then
        .error .lifecycleConflict
      else if life.state = .active then
        if !sameManagedProviderFileActivation life activation then
          .error .lifecycleConflict
        else
          match db.outboxes.rows.find? fun box => box.lifecycleId = life.id with
          | none => .error .recordNotFound
          | some box =>
            if box.operationHMAC ≠ activation.deletionOperationHMAC ∨
                box.maxAttempts ≠ activation.maxDeletionAttempts then
              .error .lifecycleConflict
            else .ok (false, db)
      else if life.state ≠ .uploadDispatched ∨
          life.version ≠ activation.expectedVersion then
        .error .lifecycleStateConflict
      else
        let box := pendingDeletion life.id activation.deletionOperationHMAC
          activation.maxDeletionAttempts activation.deletionNextAttemptAt
        box.validate.bind fun _ =>
          (db.createOutbox box).bind fun scheduled =>
            if activation.event.lifecycleId ≠ life.id ∨
                activation.event.eventType ≠ .activated then
              .error (.message "managed provider file activation event is invalid")
            else
              (appendEventAndAdvanceManagedProviderFileLifecycle scheduled life
                activation.expectedVersion (activation.updates now) activation.event).bind
                  fun activated => .ok (true, activated)

/-- `ActivateManagedProviderFileLifecycle`: whether it activated, and the database after it. -/
def activateManagedProviderFileLifecycle (db : Database)
    (activation : ManagedProviderFileLifecycleActivation) (first now : ℤ) :
    Outcome (Bool × Database) :=
  activateTruncated db activation.truncated first now

/-! ## Lookup -/

/-- The digests of an intent that a lookup tries. -/
structure ManagedProviderFileUploadIntentLookupCandidate where
  (uploadIntentHMAC ownerHMAC keyVersion : String)

def ManagedProviderFileUploadIntentLookupCandidate.matches
    (cand : ManagedProviderFileUploadIntentLookupCandidate)
    (life : Lifecycle) : Bool :=
  life.uploadIntentHMAC = cand.uploadIntentHMAC && life.ownerHMAC = cand.ownerHMAC &&
    life.lookupKeyVersion = cand.keyVersion

/-- The loop over the candidates; `seen` holds the digests of the earlier ones. -/
def checkUploadIntentCandidates :
    List String → List ManagedProviderFileUploadIntentLookupCandidate → Outcome Unit
  | _, [] => .ok ()
  | seen, cand :: rest => do
      check (validManagedProviderFileDigest cand.uploadIntentHMAC ∧
          validManagedProviderFileDigest cand.ownerHMAC ∧
          validManagedProviderFileKeyVersion cand.keyVersion)
        "managed provider file upload intent candidate is invalid"
      check (cand.uploadIntentHMAC ∉ seen)
        "managed provider file upload intent candidates contain duplicates"
      checkUploadIntentCandidates (cand.uploadIntentHMAC :: seen) rest

/-- The rows that `upload_intent_hmac IN ?` selects. -/
def Database.withIntent (db : Database) (uploadIntentHMACs : List String) :
    List Lifecycle :=
  db.lifecycles.rows.filter fun life => life.uploadIntentHMAC ∈ uploadIntentHMACs

def findManagedProviderFileLifecycleByUploadIntent (db : Database)
    (cands : List ManagedProviderFileUploadIntentLookupCandidate) :
    Outcome Lifecycle := do
  check (cands ≠ [] ∧ cands.length ≤ 5) "managed provider file upload intent candidates are invalid"
  checkUploadIntentCandidates [] cands
  match db.withIntent
      (cands.map ManagedProviderFileUploadIntentLookupCandidate.uploadIntentHMAC) with
  | [] => .error .recordNotFound
  | [life] =>
    if cands.any fun cand => cand.matches life then .ok life
    else .error .lifecycleConflict
  | _ => .error .lifecycleLookupConflict

end NewApi.ProviderFile
