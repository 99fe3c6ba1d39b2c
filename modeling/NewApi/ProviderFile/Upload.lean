import NewApi.ProviderFile.DeletionWorker
import NewApi.ProviderFile.Keys

/-!
# The upload

`Upload` of `lifecycle.go` as the program of the calls that it makes, and what each call does
to the database. Keys are derived without a call. Every call but the clock is bound to the
context of the caller, so a cancelled one fails.
-/

namespace NewApi.ProviderFile

open Concurrent (Program)
open Relational
open NewApi.ProviderFile renaming ManagedProviderFileLifecycle → Lifecycle,
  ManagedProviderFileReferencePayload → ReferencePayload,
  ManagedProviderFileUploadBinding → UploadBinding

/-! ## Requests and answers -/

def managedProviderFileEndpointFamily : String := "openai_provider_file"

/-- The errors of an upload. -/
inductive UploadError where
  | lifecycleConflict
  /-- `ErrLifecycleUnavailable`, with what its wrapping says. -/
  | lifecycleUnavailable (detail : String)
  | uploadOutcomeUnknown

/-- The answer to an upload. -/
structure File where
  (id object : String)
  (bytes createdAt expiresAt : ℤ)
  (filename purpose : String)

/-- What the provider says about a file. -/
structure ProviderFileMetadata where
  (providerFileId filename object purpose : String)
  (bytes createdAtUnix expiresAtUnix : ℤ)
deriving DecidableEq

/-- What the provider is sent beside the content. -/
structure ProviderFileUploadRequest where
  filename : String
  (sizeBytes expiresAfterSeconds : ℤ)

/-- The settings that `Upload` reads. -/
structure UploadSettings extends DeletionSettings where
  providerFileLifecycleEnabled : Bool
  (providerFileExpirationSeconds providerFileMetadataVerifyTTLSeconds : ℤ)
  providerFileDeletionLeadSeconds : ℤ

def validateProviderFileLifecycleSettings (cfg : UploadSettings) : Outcome Unit := do
  check cfg.providerFileLifecycleEnabled "provider file lifecycle is disabled"
  validateProviderFileDeletionSettings cfg.toDeletionSettings
  check (60 ≤ cfg.providerFileExpirationSeconds ∧
      cfg.providerFileExpirationSeconds ≤ 30 * 24 * 60 * 60)
    "provider file lifecycle expiration must be between 60 seconds and 30 days"
  check (0 ≤ cfg.providerFileMetadataVerifyTTLSeconds ∧
      cfg.providerFileMetadataVerifyTTLSeconds < cfg.providerFileExpirationSeconds)
    "provider file lifecycle metadata verification TTL is invalid"
  check (0 ≤ cfg.providerFileDeletionLeadSeconds ∧
      cfg.providerFileDeletionLeadSeconds < cfg.providerFileExpirationSeconds)
    "provider file lifecycle deletion lead is invalid"

/-- The body of an upload, as far as it is read. -/
structure UploadBody where
  filename : String
  sizeBytes : ℤ
  contentDigest : String

/-- A request to upload a file, with the node that serves it. -/
structure UploadRequest where
  owner : ManagedConsensusOwner
  idempotencyKey : String
  body : UploadBody
  settings : UploadSettings
  runtime : ManagedConsensusRuntime
  target : Target

/-! ## The provider's client -/

def openAIProviderFileMaximumUploadBytes : ℤ := 50 * 1024 * 1024

def validProviderFileFilename (filename : String) : Bool :=
  filename ≠ "" && filename.utf8ByteSize ≤ 255 && trimmed filename &&
    filename.toList.all fun char => char ∉ ['\x00', '\r', '\n', '/', '\\']

/-- `ProviderFileClient.Upload` sends the request. -/
def ProviderFileUploadRequest.Valid (upload : ProviderFileUploadRequest) : Prop :=
  validProviderFileFilename upload.filename ∧ 0 < upload.sizeBytes ∧
    upload.sizeBytes ≤ openAIProviderFileMaximumUploadBytes ∧ 60 ≤ upload.expiresAfterSeconds ∧
    upload.expiresAfterSeconds ≤ 30 * 24 * 60 * 60
deriving Decidable

/-- The numbers of an `int64` field. -/
def FitsInt64 (val : ℤ) : Prop :=
  -2 ^ 63 ≤ val ∧ val < 2 ^ 63
deriving Decidable

/-- `decodeMetadataResponse` accepts the metadata at a time of the client's clock. -/
def ProviderFileMetadata.Accepted (mdata : ProviderFileMetadata) (now : ℤ) : Prop :=
  mdata.object = "file" ∧ mdata.purpose = managedProviderFilePurposeUserData ∧
    validProviderFileId mdata.providerFileId ∧ validProviderFileFilename mdata.filename ∧
    0 < mdata.bytes ∧ 0 < mdata.createdAtUnix ∧
    mdata.createdAtUnix < mdata.expiresAtUnix ∧ unixSeconds now < mdata.expiresAtUnix ∧
    FitsInt64 mdata.bytes ∧ FitsInt64 mdata.expiresAtUnix
deriving Decidable

/-- The metadata of an uploaded file also names the file that was sent. -/
def ProviderFileMetadata.Acknowledges (mdata : ProviderFileMetadata)
    (upload : ProviderFileUploadRequest) (now : ℤ) : Prop :=
  mdata.Accepted now ∧ mdata.filename = upload.filename ∧
    mdata.bytes = upload.sizeBytes
deriving Decidable

def sameProviderFileMetadata (left right : ProviderFileMetadata) : Bool :=
  left.providerFileId = right.providerFileId && left.filename = right.filename &&
    left.object = right.object && left.purpose = right.purpose && left.bytes = right.bytes &&
    left.createdAtUnix = right.createdAtUnix && left.expiresAtUnix = right.expiresAtUnix

/-- `time.Unix(seconds, 0)`; the seconds since the zero time are an `int64`. -/
def timeUnix (seconds : ℤ) : ℤ :=
  ((seconds + unixEpochSeconds + 2 ^ 63) % 2 ^ 64 - 2 ^ 63) * second

def publicFile (handle : String) (mdata : ProviderFileMetadata) : File where
  id := handle
  object := "file"
  bytes := mdata.bytes
  createdAt := mdata.createdAtUnix
  expiresAt := mdata.expiresAtUnix
  filename := mdata.filename
  purpose := mdata.purpose

/-! ## Calls -/

/-- The statements and requests of an upload, one at a time. -/
inductive UploadCall where
  | now
  | findByUploadIntent (cands : List ManagedProviderFileUploadIntentLookupCandidate)
  /-- `GenerateManagedProviderFileHandle`. -/
  | generateHandle
  | create (life : Lifecycle) (event : ManagedProviderFileLifecycleEvent)
  /-- The channel of `LoadTarget`. -/
  | loadChannel (channelId : ℤ)
  | advance (move : ManagedProviderFileUploadTransition)
  /-- `body.Open()`. -/
  | openBody
  /-- The request of `client.Upload` leaves. -/
  | sendUpload (upload : ProviderFileUploadRequest)
  /-- `client.Upload` returns. -/
  | awaitUpload (upload : ProviderFileUploadRequest)
  | encrypt (repositoryKey : String) (payload : ReferencePayload)
  | retrieve (providerFileId : String)
  | recordVerificationFailure (err : ManagedProviderFileVerificationFailure)
  | activate (activation : ManagedProviderFileLifecycleActivation)
  | decrypt (repositoryKey : String) (payload : List UInt8)

abbrev UploadCall.Answer : UploadCall → Type
  | .now => ℤ
  | .findByUploadIntent _ => Outcome Lifecycle
  | .generateHandle => Outcome String
  | .create _ _ => Outcome (Lifecycle × Bool)
  | .loadChannel _ => Option Target
  | .advance _ => Outcome Unit
  | .openBody => Bool
  | .sendUpload _ => Unit
  | .awaitUpload _ => Option ProviderFileMetadata
  | .encrypt _ _ => Outcome (List UInt8)
  | .retrieve _ => Option ProviderFileMetadata
  | .recordVerificationFailure _ => Outcome Unit
  | .activate _ => Outcome Lifecycle
  | .decrypt _ _ => Outcome ReferencePayload

abbrev UploadProgram := Program UploadCall UploadCall.Answer

abbrev UploadResult := Except UploadError File

def ask (call : UploadCall) : UploadProgram call.Answer :=
  Program.ask call

/-! ## The program -/

section Programs

variable (keys : HexHMAC)

/-- `ErrLifecycleUnavailable` as it is. -/
def unavailable : UploadProgram UploadResult :=
  return .error (.lifecycleUnavailable "")

def conflicting : UploadProgram UploadResult :=
  return .error .lifecycleConflict

def providerFileEvent (env : ManagedConsensusRuntime) (lifeId : ℤ)
    (eventFromState : Option LifecycleState) (ident : ManagedProviderFileEventIdentity) :
    UploadProgram (Outcome ManagedProviderFileLifecycleEvent) :=
  providerFileEventWithAttempt
    (fun ident => return deriveProviderFileEventHMAC keys env.activeVersion ident)
    lifeId env.activeVersion eventFromState ident

def encryptProviderFileReference (env : ManagedConsensusRuntime)
    (key : ManagedProviderFileUploadIntentKey) (payload : ReferencePayload) :
    UploadProgram (Outcome (List UInt8 × String)) := do
  if key.keyVersion ≠ env.activeVersion then
    return .error (.message "managed consensus active provider file key is unavailable")
  else if ¬payload.Valid then
    return .error (.message "managed provider file reference is invalid")
  else
    let envelope ← ask (.encrypt key.repositoryKey payload)
    return envelope.map fun encoded => (encoded, env.activeVersion)

def decryptProviderFileReference (repositoryKey : String) (encodedEnvelope : List UInt8) :
    UploadProgram (Outcome ReferencePayload) := do
  if Text.isBlank repositoryKey ∨ encodedEnvelope = [] then
    return .error (.message "managed provider file reference is unavailable")
  else
    match ← ask (.decrypt repositoryKey encodedEnvelope) with
    | .error err => return .error err
    | .ok payload =>
      if ¬payload.Valid then
        return .error (.message "managed provider file reference is invalid")
      else return .ok payload

/-- `ManagedProviderFileRepositoryKey`. -/
def repositoryKeyOf (life : Lifecycle) : Outcome String := do
  check (validManagedProviderFileDigest life.ownerHMAC ∧
      validManagedProviderFileDigest life.uploadIntentHMAC)
    "managed provider file repository identity is invalid"
  return managedProviderFileRepositoryKey life.ownerHMAC life.uploadIntentHMAC

def loadTarget (cfg : UploadSettings) : UploadProgram (Option Target) :=
  match validateProviderFileLifecycleSettings cfg with
  | .error _ => return none
  | .ok _ => ask (.loadChannel cfg.providerFileOpenAIChannelId)

def Target.identity (goal : Target) : ManagedProviderFileTargetIdentity where
  channelId := goal.channelId
  channelType := goal.channelType
  multiKeyIndex := 0
  channelIsMultiKey := false
  endpoint := goal.endpoint
  organization := goal.organization
  project := goal.project

/-- `ProviderFileUploadBindings` of a request. -/
def UploadRequest.bindings (req : UploadRequest) :
    Outcome (List UploadBinding) :=
  providerFileUploadBindings keys req.runtime req.owner req.idempotencyKey
    req.body.contentDigest req.target.identity req.target.credential
    managedProviderFilePurposeUserData req.settings.providerFileExpirationSeconds

def lookupCandidate (binding : UploadBinding) :
    ManagedProviderFileUploadIntentLookupCandidate where
  uploadIntentHMAC := binding.intentKey.uploadIntentHMAC
  ownerHMAC := binding.intentKey.ownerHMAC
  keyVersion := binding.intentKey.keyVersion

def ManagedProviderFileUploadBinding.keyed (binding : UploadBinding) (life : Lifecycle) : Bool :=
  life.lookupKeyVersion = binding.intentKey.keyVersion &&
    life.uploadIntentHMAC = binding.intentKey.uploadIntentHMAC

/-- The row was made by a request with the content, the expiry and the target of this one. -/
def sameUpload (life : Lifecycle) (goal : Target) (binding : UploadBinding) : Bool :=
  life.requestFingerprint = binding.requestFingerprint &&
    life.channelId = goal.channelId && life.channelType = goal.channelType &&
    !life.channelIsMultiKey && life.channelMultiKeyIndex = 0 &&
    life.credentialFingerprint = binding.credentialFingerprint &&
    life.endpointFingerprint = binding.endpointFingerprint &&
    life.providerScopeFingerprint = binding.scopeFingerprint

def replayedFile (life : Lifecycle) (expiresAt : ℤ)
    (payload : ReferencePayload) (handleKeys : List ManagedProviderFileHandleKey) :
    UploadResult :=
  if ¬handleKeys.any fun key =>
      key.keyVersion = life.lookupKeyVersion && key.handleHMAC = life.handleLookupHMAC then
    .error (.lifecycleUnavailable "")
  else
    match life.providerCreatedAt with
    | none => .error (.lifecycleUnavailable "")
    | some providerCreatedAt =>
      .ok (publicFile payload.gatewayHandle
        { providerFileId := payload.providerFileId
          filename := payload.filename
          object := "file"
          purpose := life.purpose
          bytes := life.providerBytes
          createdAtUnix := unixSeconds providerCreatedAt
          expiresAtUnix := unixSeconds expiresAt })

def replayUpload (req : UploadRequest) (life : Lifecycle)
    (bindings : List UploadBinding) : UploadProgram UploadResult :=
  match bindings.find? fun binding => binding.keyed life with
  | none => conflicting
  | some matched =>
    if !sameUpload life req.target matched then conflicting
    else if life.state ≠ .active then conflicting
    else
      match life.expiresAt with
      | none => conflicting
      | some expiresAt => do
          if expiresAt ≤ (← ask .now) then conflicting
          else
            match repositoryKeyOf life with
            | .error _ => unavailable
            | .ok repositoryKey =>
              match ← decryptProviderFileReference repositoryKey life.providerPayload with
              | .error _ => unavailable
              | .ok payload =>
                match providerFileHandleKeys keys req.runtime req.owner
                    payload.gatewayHandle with
                | .error _ => unavailable
                | .ok handleKeys =>
                  return replayedFile life expiresAt payload handleKeys

def markUploadUnknown (env : ManagedConsensusRuntime)
    (life : Lifecycle) (requestFingerprint reason : String) :
    UploadProgram Unit := do
  let now := truncate (← ask .now)
  match ← providerFileEvent keys env life.id (some life.state)
      { lifecycleHMAC := life.uploadIntentHMAC
        sequence := life.lastEventSequence + 1
        previousEventHMAC := life.lastEventHMAC
        eventType := .uploadUnknown
        fromState := some life.state
        toState := .uploadUnknown
        attemptCount := 0
        resultCode := reason
        evidenceDigest := requestFingerprint
        createdAt := now } with
  | .error _ => return ()
  | .ok event =>
    let _ ← ask (.advance
      { lifecycleId := life.id
        expectedVersion := life.version
        requestFingerprint := requestFingerprint
        expectedState := life.state
        nextState := .uploadUnknown
        reasonCode := reason
        event := event })
    return ()

/-- `providerReference`: the lookup digest, the envelope and its key version. -/
def providerReference (req : UploadRequest) (binding : UploadBinding)
    (handle : String) (mdata : ProviderFileMetadata) :
    UploadProgram (Outcome (String × List UInt8 × String)) := do
  match deriveProviderFileReferenceHMAC keys req.runtime.activeVersion req.owner
      mdata.providerFileId with
  | .error err => return .error err
  | .ok providerLookupHMAC =>
    let sealed ← encryptProviderFileReference req.runtime binding.intentKey
      { providerFileId := mdata.providerFileId
        filename := mdata.filename
        gatewayHandle := handle }
    return sealed.map fun envelope => (providerLookupHMAC, envelope)

def recordEncryptedVerificationFailure (req : UploadRequest)
    (life : Lifecycle) (binding : UploadBinding)
    (handle : String) (mdata : ProviderFileMetadata) (providerLookupHMAC : String)
    (encryptedPayload : List UInt8) (reason : String) : UploadProgram UploadResult :=
  match deriveProviderFileDeletionOperationHMAC keys req.runtime.activeVersion req.owner
      handle with
  | .error _ => unavailable
  | .ok deletionOperationHMAC => do
      let now := truncate (← ask .now)
      match ← providerFileEvent keys req.runtime life.id (some .uploadDispatched)
          { lifecycleHMAC := life.uploadIntentHMAC
            sequence := 3
            previousEventHMAC := life.lastEventHMAC
            eventType := .verificationFailed
            fromState := some .uploadDispatched
            toState := .verificationFailed
            attemptCount := 0
            resultCode := reason
            evidenceDigest := binding.requestFingerprint
            createdAt := now } with
      | .error _ => unavailable
      | .ok event =>
        let _ ← ask (.recordVerificationFailure
          { lifecycleId := life.id
            expectedVersion := life.version
            requestFingerprint := binding.requestFingerprint
            providerLookupHMAC := providerLookupHMAC
            providerPayload := encryptedPayload
            providerBytes := mdata.bytes
            providerCreatedAt := timeUnix mdata.createdAtUnix
            expiresAt := timeUnix mdata.expiresAtUnix
            reasonCode := reason
            deletionOperationHMAC := deletionOperationHMAC
            deletionNextAttemptAt := now
            maxDeletionAttempts := req.settings.providerFileDeletionMaxAttempts
            event := event })
        unavailable

def recordVerificationFailure (req : UploadRequest) (life : Lifecycle) (binding : UploadBinding)
    (handle : String) (mdata : ProviderFileMetadata) (reason : String) :
    UploadProgram UploadResult := do
  match ← providerReference keys req binding handle mdata with
  | .error _ => unavailable
  | .ok (providerLookupHMAC, encryptedPayload, _) =>
    recordEncryptedVerificationFailure keys req life binding handle mdata
      providerLookupHMAC encryptedPayload reason

/-- `Upload` after the metadata has been verified. -/
def activateUpload (req : UploadRequest) (life : Lifecycle)
    (binding : UploadBinding) (handle : String)
    (retrieved : ProviderFileMetadata) (providerLookupHMAC : String)
    (encryptedPayload : List UInt8) (payloadKeyVersion : String) : UploadProgram UploadResult :=
  match deriveProviderFileDeletionOperationHMAC keys req.runtime.activeVersion req.owner
      handle with
  | .error _ => unavailable
  | .ok deletionOperationHMAC => do
      let verifiedAt := truncate (← ask .now)
      match ← providerFileEvent keys req.runtime life.id (some .uploadDispatched)
          { lifecycleHMAC := life.uploadIntentHMAC
            sequence := 3
            previousEventHMAC := life.lastEventHMAC
            eventType := .activated
            fromState := some .uploadDispatched
            toState := .active
            attemptCount := 0
            resultCode := ""
            evidenceDigest := binding.requestFingerprint
            createdAt := verifiedAt } with
      | .error _ => unavailable
      | .ok event =>
        let expiresAt := timeUnix retrieved.expiresAtUnix
        match ← ask (.activate
            { lifecycleId := life.id
              expectedVersion := life.version
              requestFingerprint := binding.requestFingerprint
              providerLookupHMAC := providerLookupHMAC
              providerPayload := encryptedPayload
              providerBytes := retrieved.bytes
              providerCreatedAt := timeUnix retrieved.createdAtUnix
              metadataVerifiedAt := verifiedAt
              expiresAt := expiresAt
              deletionOperationHMAC := deletionOperationHMAC
              deletionNextAttemptAt :=
                expiresAt - req.settings.providerFileDeletionLeadSeconds * second
              maxDeletionAttempts := req.settings.providerFileDeletionMaxAttempts
              event := event }) with
        | .error _ => unavailable
        | .ok activated =>
          if activated.payloadKeyVersion ≠ payloadKeyVersion then unavailable
          else return .ok (publicFile handle retrieved)

/-- `Upload` after the provider has acknowledged the file. -/
def finishUpload (req : UploadRequest) (life : Lifecycle)
    (binding : UploadBinding) (handle : String)
    (mdata : ProviderFileMetadata) : UploadProgram UploadResult := do
  if mdata.bytes ≠ req.body.sizeBytes then
    recordVerificationFailure keys req life binding handle mdata "upload_metadata_mismatch"
  else
    match ← providerReference keys req binding handle mdata with
    | .error _ => unavailable
    | .ok (providerLookupHMAC, encryptedPayload, payloadKeyVersion) =>
      match ← ask (.retrieve mdata.providerFileId) with
      | none =>
        recordEncryptedVerificationFailure keys req life binding handle mdata
          providerLookupHMAC encryptedPayload "metadata_unverified"
      | some retrieved =>
        if !sameProviderFileMetadata mdata retrieved then
          recordEncryptedVerificationFailure keys req life binding handle mdata
            providerLookupHMAC encryptedPayload "metadata_unverified"
        else
          activateUpload keys req life binding handle retrieved providerLookupHMAC
            encryptedPayload payloadKeyVersion

/-- `ProviderFileClient.Upload`. -/
def clientUpload (upload : ProviderFileUploadRequest) :
    UploadProgram (Option ProviderFileMetadata) := do
  if ¬upload.Valid then return none
  else
    ask (.sendUpload upload)
    ask (.awaitUpload upload)

/-- `Upload` from the dispatched lifecycle on. -/
def sendBody (req : UploadRequest) (life : Lifecycle)
    (binding : UploadBinding) (handle : String) : UploadProgram UploadResult := do
  if ← ask .openBody then
    match ← clientUpload
        { filename := req.body.filename
          sizeBytes := req.body.sizeBytes
          expiresAfterSeconds := req.settings.providerFileExpirationSeconds } with
    | none =>
      markUploadUnknown keys req.runtime life binding.requestFingerprint "provider_upload_unknown"
      return .error .uploadOutcomeUnknown
    | some mdata => finishUpload keys req life binding handle mdata
  else
    markUploadUnknown keys req.runtime life binding.requestFingerprint "upload_body_unavailable"
    return .error .uploadOutcomeUnknown

/-- The identity of the event that follows the intent of a created lifecycle. -/
def secondEvent (life : Lifecycle) (eventType : LifecycleEventType)
    (toState : LifecycleState) (resultCode requestFingerprint : String) (createdAt : ℤ) :
    ManagedProviderFileEventIdentity where
  lifecycleHMAC := life.uploadIntentHMAC
  sequence := 2
  previousEventHMAC := life.lastEventHMAC
  eventType := eventType
  fromState := some .intent
  toState := toState
  attemptCount := 0
  resultCode := resultCode
  evidenceDigest := requestFingerprint
  createdAt := createdAt

/-- `Upload` of a created intent whose target is gone or has changed. -/
def failChangedTarget (req : UploadRequest) (life : Lifecycle)
    (requestFingerprint detail : String) : UploadProgram UploadResult := do
  let failedAt := truncate (← ask .now)
  match ← providerFileEvent keys req.runtime life.id (some .intent)
      (secondEvent life .uploadFailed .uploadFailed "target_changed_before_dispatch"
        requestFingerprint failedAt) with
  | .error _ => return .error (.lifecycleUnavailable detail)
  | .ok event =>
    let _ ← ask (.advance
      { lifecycleId := life.id
        expectedVersion := life.version
        requestFingerprint := requestFingerprint
        expectedState := .intent
        nextState := .uploadFailed
        reasonCode := "target_changed_before_dispatch"
        event := event })
    return .error (.lifecycleUnavailable detail)

/-- The lifecycle after its dispatch, as the program goes on with it. -/
def ManagedProviderFileLifecycle.dispatched (life : Lifecycle) (eventHMAC : String) : Lifecycle :=
  { life with
    version := life.version + 1
    state := .uploadDispatched
    lastEventSequence := 2
    lastEventHMAC := eventHMAC }

/-- `Upload` of a created intent. -/
def dispatchUpload (req : UploadRequest) (life : Lifecycle)
    (binding : UploadBinding) (handle : String) : UploadProgram UploadResult := do
  match ← loadTarget req.settings with
  | none =>
    failChangedTarget keys req life binding.requestFingerprint
      "target snapshot unavailable before dispatch"
  | some currentTarget =>
    if currentTarget ≠ req.target then
      failChangedTarget keys req life binding.requestFingerprint
        "target snapshot changed before dispatch"
    else
      let dispatchedAt := truncate (← ask .now)
      match ← providerFileEvent keys req.runtime life.id (some .intent)
          (secondEvent life .uploadDispatched .uploadDispatched ""
            binding.requestFingerprint dispatchedAt) with
      | .error _ => unavailable
      | .ok event =>
        match ← ask (.advance
            { lifecycleId := life.id
              expectedVersion := life.version
              requestFingerprint := binding.requestFingerprint
              expectedState := .intent
              nextState := .uploadDispatched
              reasonCode := ""
              event := event }) with
        | .error _ => unavailable
        | .ok _ => sendBody keys req (life.dispatched event.eventHMAC) binding handle

def lifecycleIntent (req : UploadRequest) (binding : UploadBinding)
    (handleHMAC : String) : Lifecycle where
  id := 0
  uploadIntentHMAC := binding.intentKey.uploadIntentHMAC
  handleLookupHMAC := handleHMAC
  providerLookupHMAC := none
  ownerHMAC := binding.intentKey.ownerHMAC
  lookupKeyVersion := binding.intentKey.keyVersion
  requestFingerprint := binding.requestFingerprint
  provider := managedProviderFileProviderOpenAI
  state := .intent
  version := 0
  lastEventSequence := 0
  lastEventHMAC := ""
  channelId := req.target.channelId
  channelType := req.target.channelType
  channelIsMultiKey := false
  channelMultiKeyIndex := 0
  credentialFingerprint := binding.credentialFingerprint
  credentialFingerprintKeyVersion := binding.intentKey.keyVersion
  endpointFingerprint := binding.endpointFingerprint
  providerScopeFingerprint := binding.scopeFingerprint
  providerPayload := []
  payloadKeyVersion := binding.intentKey.keyVersion
  purpose := managedProviderFilePurposeUserData
  providerBytes := 0
  providerCreatedAt := none
  metadataVerifiedAt := none
  expiresAt := none
  activatedAt := none
  uploadDispatchedAt := none
  uploadFailedAt := none
  uploadUnknownAt := none
  verificationFailedAt := none
  terminalReasonCode := ""
  deletionStartedAt := none
  deletedAt := none
  deletionFailedAt := none

/-- `Upload` when the lookup has found nothing. -/
def createUpload (req : UploadRequest) (activeBinding : UploadBinding)
    (bindings : List UploadBinding) : UploadProgram UploadResult := do
  match ← ask .generateHandle with
  | .error _ => unavailable
  | .ok handle =>
    match deriveProviderFileHandleKey keys req.runtime.activeVersion req.owner handle with
    | .error _ => unavailable
    | .ok handleKey =>
      let now := truncate (← ask .now)
      match ← providerFileEvent keys req.runtime 0 none
          { lifecycleHMAC := activeBinding.intentKey.uploadIntentHMAC
            sequence := 1
            previousEventHMAC := ""
            eventType := .intentCreated
            fromState := none
            toState := .intent
            attemptCount := 0
            resultCode := ""
            evidenceDigest := activeBinding.requestFingerprint
            createdAt := now } with
      | .error _ => unavailable
      | .ok intentEvent =>
        match ← ask (.create
            (lifecycleIntent req activeBinding handleKey.handleHMAC) intentEvent) with
        | .error _ => conflicting
        | .ok (life, false) => replayUpload keys req life bindings
        | .ok (life, true) =>
          dispatchUpload keys req life activeBinding handle

def upload (req : UploadRequest) : UploadProgram UploadResult :=
  if req.owner.endpointFamily ≠ managedProviderFileEndpointFamily then unavailable
  else
    match req.bindings keys with
    | .error _ => unavailable
    | .ok [] => unavailable
    | .ok (activeBinding :: rest) => do
        match ← ask (.findByUploadIntent ((activeBinding :: rest).map lookupCandidate)) with
        | .ok old => replayUpload keys req old (activeBinding :: rest)
        | .error .recordNotFound => createUpload keys req activeBinding (activeBinding :: rest)
        | .error _ => conflicting

end Programs

/-! ## What the calls do -/

/-- What uploads have done. -/
inductive UploadNoteKind where
  | found (life : Lifecycle)
  | generated (handle : String)
  | created (life : Lifecycle)
  | sent
  | acknowledged (mdata : ProviderFileMetadata)
  | refused
deriving DecidableEq

/-- A note with its upload. -/
structure UploadNote where
  thread : ℕ
  kind : UploadNoteKind

/-- The database and the notes of all uploads. -/
structure UploadSystem where
  db : Database
  history : List UploadNote

/-- What a call of an upload meets. -/
structure UploadChoice where
  (first now : ℤ)
  cancelled : Bool
  fault : Fault
  handle : String
  target : Option Target
  bodyOpens : Bool
  metadata : Option ProviderFileMetadata
  envelope : List UInt8

def createdRow : Outcome (Lifecycle × Bool) →
    Option Lifecycle
  | .ok (life, true) => some life
  | _ => none

/-- A creation that commits while its caller is told that it failed. -/
def createUnanswered (db : Database) (life : Lifecycle)
    (event : ManagedProviderFileLifecycleEvent) :
    Outcome (Lifecycle × Bool) × Option Lifecycle ×
      Database :=
  match checkIntent life event with
  | .error err => (.error err, none, db)
  | .ok _ =>
    match createManagedProviderFileLifecycleTransaction db (freshIntent life) event with
    | .ok (row, created, after) =>
      (findAfterError after (freshIntent life) .database, createdRow (.ok (row, created)), after)
    | .error err => (findAfterError db (freshIntent life) err, none, db)

/-- A creation under a fault: its answer, the row it stored, and the database after it. -/
def createUnder (fault : Fault) (db : Database) (life : Lifecycle)
    (event : ManagedProviderFileLifecycleEvent) :
    Outcome (Lifecycle × Bool) × Option Lifecycle ×
      Database :=
  match fault with
  | .unanswered => createUnanswered db life event
  | fault =>
    let done := createManagedProviderFileLifecycleIntent db life event (fault = .refused)
    (done.1, createdRow done.1, done.2)

def lookupNotes : Outcome Lifecycle → List UploadNoteKind
  | .ok life => [.found life]
  | .error _ => []

/-- The notes of a creation: the row that it stored, and the one that it found instead. -/
def creationNotes (reply : Outcome (Lifecycle × Bool))
    (stored : Option Lifecycle) : List UploadNoteKind :=
  stored.toList.map UploadNoteKind.created ++
    match reply with
    | .ok (life, false) => [.found life]
    | _ => []

/-- `context.Canceled`. -/
def contextCanceled : ManagedProviderFileError :=
  .message "context canceled"

def activatedRow (lifeId : ℤ) (result : Outcome (Bool × Database)) :
    Outcome (Lifecycle × Database) :=
  result.bind fun done =>
    match done.2.lifecycles.find? lifeId with
    | none => .error .recordNotFound
    | some life => .ok (life, done.2)

namespace UploadSystem

variable (s : UploadSystem)

def noted (t : ℕ) (kinds : List UploadNoteKind) : UploadSystem :=
  { s with history := s.history ++ kinds.map fun kind => ⟨t, kind⟩ }

def transact {Result : Type} (t : ℕ) (pick : UploadChoice)
    (result : Outcome (Result × Database)) : Outcome Result × UploadSystem :=
  if pick.cancelled then (.error contextCanceled, s)
  else
    match pick.fault, result with
    | .refused, _ => (.error .database, s.noted t [.refused])
    | _, .error .database => (.error .database, s.noted t [.refused])
    | _, .error err => (.error err, s)
    | .none, .ok (reply, after) => (.ok reply, { s with db := after })
    | .unanswered, .ok (_, after) => (.error .database, { s with db := after })

def read {Result : Type} (pick : UploadChoice) (result : Outcome Result) : Outcome Result :=
  if pick.cancelled then .error contextCanceled
  else if pick.fault ≠ .none then .error .database
  else result

def unit (result : Outcome Database) : Outcome (Unit × Database) :=
  result.map fun after => ((), after)

/-- The effect of a call; `unlock` is what an envelope decrypts to under a repository key. -/
def perform (unlock : String → List UInt8 → Option ReferencePayload)
    (t : ℕ) (call : UploadCall) (pick : UploadChoice) (s : UploadSystem) :
    call.Answer × UploadSystem :=
  match call with
  | .now => (pick.now, s)
  | .findByUploadIntent cands =>
    let found := read pick (findManagedProviderFileLifecycleByUploadIntent s.db cands)
    (found, s.noted t (lookupNotes found))
  | .generateHandle =>
    if pick.fault = .none ∧ validManagedProviderFileHandle pick.handle then
      (.ok pick.handle, s.noted t [.generated pick.handle])
    else (.error (.message "generate managed provider file handle"), s)
  | .create life event =>
    if pick.cancelled then (.error contextCanceled, s)
    else
      let done := createUnder pick.fault s.db life event
      (done.1, { s with db := done.2.2 }.noted t (creationNotes done.1 done.2.1))
  | .loadChannel _ => (pick.target, s)
  | .advance move =>
    s.transact t pick (unit (advanceManagedProviderFileUploadState s.db move pick.now))
  | .openBody => (pick.bodyOpens, s)
  | .sendUpload _ => ((), s.noted t [.sent])
  | .awaitUpload sent =>
    match pick.metadata with
    | none => (none, s)
    | some mdata =>
      if pick.cancelled ∨ ¬mdata.Acknowledges sent pick.now then (none, s)
      else (some mdata, s.noted t [.acknowledged mdata])
  | .encrypt _ _ => (read pick (.ok pick.envelope), s)
  | .retrieve providerFileId =>
    let retrieved := pick.metadata.filter fun mdata =>
      !pick.cancelled && decide (mdata.Accepted pick.now) && mdata.providerFileId = providerFileId
    (retrieved, s)
  | .recordVerificationFailure err =>
    s.transact t pick
      (unit (recordManagedProviderFileVerificationFailure s.db err pick.first pick.now))
  | .activate activation =>
    s.transact t pick (activatedRow activation.lifecycleId
        (activateManagedProviderFileLifecycle s.db activation pick.first pick.now))
  | .decrypt repositoryKey payload =>
    let unsealed : Outcome ReferencePayload :=
      match unlock repositoryKey payload with
      | none => .error (.message "decrypt managed consensus ciphertext")
      | some opened => .ok opened
    (read pick unsealed, s)

end UploadSystem

end NewApi.ProviderFile
