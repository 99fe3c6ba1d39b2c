import NewApi.Library.Fallible
import NewApi.Library.Journal
import NewApi.Library.Table
import NewApi.Library.Text

/-!
# Records of managed provider files

The lifecycle, the deletion outbox and the lifecycle event of `provider_file.go` with
their `Validate` methods. Times are counted in nanoseconds from the zero time of Go, and
a nil pointer is `none`. The columns `created_at` and `updated_at` are left out: no
function reads them.
-/

namespace NewApi.ProviderFile

open Relational Fallible

/-- The errors of the store. -/
inductive ManagedProviderFileError where
  | lifecycleConflict
  | lifecycleStateConflict
  | lifecycleLookupConflict
  | deletionLeaseLost
  | recordNotFound
  /-- An error made by `fmt.Errorf`. -/
  | message (text : String)
  | database
deriving DecidableEq

/-- The states of a file. -/
inductive LifecycleState where
  | intent
  | uploadDispatched
  | uploadFailed
  | uploadUnknown
  | verificationFailed
  | active
  | deletionPending
  | deleted
  | deletionFailed
deriving DecidableEq

/-- The states of a deletion. -/
inductive DeletionOutboxState where
  | pending
  | inProgress
  | retryWait
  | completed
  | terminalFailed
deriving DecidableEq

/-- The types of events. -/
inductive LifecycleEventType where
  | intentCreated
  | uploadDispatched
  | uploadFailed
  | uploadUnknown
  | verificationFailed
  | activated
  | deletionStarted
  | deletionAttemptStarted
  | deletionRecoveryStarted
  | deletionDispatched
  | deletionRetryScheduled
  | deletionCompleted
  | deletionTerminalFailed
deriving DecidableEq

def managedProviderFileProviderOpenAI : String := "openai"

def managedProviderFilePurposeUserData : String := "user_data"

def managedProviderFileDeletionResultDeleted : String := "deleted"

def managedProviderFileDeletionResultFailed : String := "failed"

def maxManagedProviderFileDeletionAttempts : ℤ := 100

def channelTypeOpenAI : ℤ := 1

def validManagedProviderFileDigest (val : String) : Bool :=
  val.utf8ByteSize = 64 && val.toList.all fun digit => digit ∈ "0123456789abcdef".toList

def validManagedProviderFileKeyVersion (val : String) : Bool :=
  !Text.isBlank val && val = Text.trimSpace val && val.utf8ByteSize ≤ 64

/-- A row of the lifecycles. -/
structure ManagedProviderFileLifecycle where
  id : ℤ
  (uploadIntentHMAC handleLookupHMAC : String)
  providerLookupHMAC : Option String
  (ownerHMAC lookupKeyVersion requestFingerprint provider : String)
  state : LifecycleState
  (version lastEventSequence : ℤ)
  lastEventHMAC : String
  (channelId channelType : ℤ)
  channelIsMultiKey : Bool
  channelMultiKeyIndex : ℤ
  (credentialFingerprint credentialFingerprintKeyVersion endpointFingerprint : String)
  providerScopeFingerprint : String
  providerPayload : List UInt8
  (payloadKeyVersion purpose : String)
  providerBytes : ℤ
  (providerCreatedAt metadataVerifiedAt expiresAt activatedAt uploadDispatchedAt : Option ℤ)
  (uploadFailedAt uploadUnknownAt verificationFailedAt : Option ℤ)
  terminalReasonCode : String
  (deletionStartedAt deletedAt deletionFailedAt : Option ℤ)
deriving DecidableEq

instance : Keyed ManagedProviderFileLifecycle ℤ where
  key := ManagedProviderFileLifecycle.id

/-- A row of the deletion outbox. -/
structure ManagedProviderFileDeletionOutbox where
  (id lifecycleId : ℤ)
  operationHMAC : String
  state : DeletionOutboxState
  (version attemptCount maxAttempts nextAttemptAt : ℤ)
  leaseTokenHMAC : String
  leaseExpiresAt : Option ℤ
  (lastErrorCode terminalResult : String)
  (lastAttemptAt dispatchedAt completedAt : Option ℤ)
deriving DecidableEq

instance : Keyed ManagedProviderFileDeletionOutbox ℤ where
  key := ManagedProviderFileDeletionOutbox.id

/-- A row of the lifecycle events. -/
structure ManagedProviderFileLifecycleEvent where
  (id lifecycleId sequence : ℤ)
  (previousEventHMAC eventHMAC : String)
  eventType : LifecycleEventType
  fromState : Option LifecycleState
  toState : LifecycleState
  attemptCount : ℤ
  (resultCode evidenceDigest keyVersion : String)

instance : Journal.Chained ManagedProviderFileLifecycleEvent String (Option LifecycleState) where
  sequence := ManagedProviderFileLifecycleEvent.sequence
  previous := ManagedProviderFileLifecycleEvent.previousEventHMAC
  digest := ManagedProviderFileLifecycleEvent.eventHMAC
  source := ManagedProviderFileLifecycleEvent.fromState
  target event := some event.toState

def check (holds : Prop) [Decidable holds] (text : String) :
    Except ManagedProviderFileError Unit :=
  if holds then .ok () else .error (.message text)

theorem check_eq_ok {holds : Prop} [Decidable holds] {text : String} {result : Unit} :
    check holds text = .ok result ↔ holds := by
  by_cases decided : holds
  · simp [check, decided]
  · simp [check, decided]

def setTime (time : Option ℤ) : Prop :=
  ∃ val ∈ time, val ≠ 0

instance (time : Option ℤ) : Decidable (setTime time) :=
  inferInstanceAs (Decidable (∃ val ∈ time, val ≠ 0))

namespace ManagedProviderFileLifecycle

variable (life : ManagedProviderFileLifecycle)

def ValidIdentity : Prop :=
  validManagedProviderFileDigest life.uploadIntentHMAC ∧
    validManagedProviderFileDigest life.handleLookupHMAC ∧
    validManagedProviderFileDigest life.ownerHMAC ∧
    validManagedProviderFileDigest life.requestFingerprint ∧
    validManagedProviderFileKeyVersion life.lookupKeyVersion ∧
    validManagedProviderFileKeyVersion life.payloadKeyVersion ∧
    life.provider = managedProviderFileProviderOpenAI ∧ 0 < life.channelId ∧
    life.channelType = channelTypeOpenAI ∧ life.channelIsMultiKey = false ∧
    life.channelMultiKeyIndex = 0 ∧
    validManagedProviderFileDigest life.credentialFingerprint ∧
    validManagedProviderFileKeyVersion life.credentialFingerprintKeyVersion ∧
    validManagedProviderFileDigest life.endpointFingerprint ∧
    validManagedProviderFileDigest life.providerScopeFingerprint ∧
    life.purpose = managedProviderFilePurposeUserData ∧ 0 < life.version ∧
    0 ≤ life.providerBytes ∧ life.terminalReasonCode.utf8ByteSize ≤ 64
deriving Decidable

def ValidEventHead : Prop :=
  (life.lastEventSequence = 0 → life.id = 0 ∧ life.lastEventHMAC = "") ∧
    (life.lastEventSequence ≠ 0 →
      0 ≤ life.lastEventSequence ∧ validManagedProviderFileDigest life.lastEventHMAC)
deriving Decidable

/-- `!hasBinding`. -/
def Unbound : Prop :=
  life.providerLookupHMAC = none ∧ life.providerPayload = [] ∧
    life.providerBytes = 0 ∧ life.providerCreatedAt = none ∧
    life.metadataVerifiedAt = none ∧ life.expiresAt = none ∧
    life.activatedAt = none
deriving Decidable

def ValidBinding : Prop :=
  (∃ lookup ∈ life.providerLookupHMAC, validManagedProviderFileDigest lookup) ∧
    0 < life.providerBytes ∧ setTime life.providerCreatedAt ∧
    setTime life.expiresAt ∧
    ∃ created ∈ life.providerCreatedAt, ∃ expires ∈ life.expiresAt, created < expires
deriving Decidable

def VerifiedBinding : Prop :=
  life.verificationFailedAt = none ∧ setTime life.metadataVerifiedAt ∧
    life.activatedAt.isSome
deriving Decidable

def RecoveryBinding : Prop :=
  setTime life.verificationFailedAt ∧ life.metadataVerifiedAt = none ∧
    life.activatedAt = none
deriving Decidable

def Undeleted : Prop :=
  life.deletionStartedAt = none ∧ life.deletedAt = none ∧
    life.deletionFailedAt = none
deriving Decidable

def ValidIntent : Prop :=
  life.Unbound ∧ life.uploadDispatchedAt = none ∧ life.uploadFailedAt = none ∧
    life.uploadUnknownAt = none ∧ life.verificationFailedAt = none ∧
    life.Undeleted ∧ life.terminalReasonCode = ""
deriving Decidable

def ValidUploadDispatched : Prop :=
  life.Unbound ∧ setTime life.uploadDispatchedAt ∧ life.uploadFailedAt = none ∧
    life.uploadUnknownAt = none ∧ life.verificationFailedAt = none ∧
    life.terminalReasonCode = ""
deriving Decidable

def ValidUploadFailed : Prop :=
  life.Unbound ∧ setTime life.uploadFailedAt ∧ life.verificationFailedAt = none ∧
    Text.isBlank life.terminalReasonCode = false
deriving Decidable

def ValidUploadUnknown : Prop :=
  life.Unbound ∧ life.uploadDispatchedAt.isSome ∧ setTime life.uploadUnknownAt ∧
    life.verificationFailedAt = none ∧ Text.isBlank life.terminalReasonCode = false
deriving Decidable

def ValidVerificationFailed : Prop :=
  life.ValidBinding ∧ life.providerPayload ≠ [] ∧ life.metadataVerifiedAt = none ∧
    life.activatedAt = none ∧ life.uploadDispatchedAt.isSome ∧
    setTime life.verificationFailedAt ∧
    Text.isBlank life.terminalReasonCode = false ∧ life.Undeleted
deriving Decidable

/-- The payload is present in every bound state but the deleted one. -/
def ValidPayload : Prop :=
  life.state ≠ .deleted → life.providerPayload ≠ []
deriving Decidable

def ValidActiveBinding : Prop :=
  life.ValidBinding ∧ (life.VerifiedBinding ∨ life.RecoveryBinding) ∧
    life.ValidPayload
deriving Decidable

def ValidActive : Prop :=
  life.ValidActiveBinding ∧ life.VerifiedBinding ∧ life.Undeleted ∧
    life.terminalReasonCode = ""
deriving Decidable

def ValidDeletionPending : Prop :=
  life.ValidActiveBinding ∧ life.deletionStartedAt.isSome ∧
    life.deletedAt = none ∧ life.deletionFailedAt = none
deriving Decidable

def ValidDeleted : Prop :=
  life.ValidActiveBinding ∧ life.deletionStartedAt.isSome ∧
    life.deletedAt.isSome ∧ life.deletionFailedAt = none ∧
    life.providerPayload = []
deriving Decidable

def ValidDeletionFailed : Prop :=
  life.ValidActiveBinding ∧ life.deletionStartedAt.isSome ∧
    life.deletedAt = none ∧ life.deletionFailedAt.isSome ∧
    Text.isBlank life.terminalReasonCode = false
deriving Decidable

def ValidState : Prop :=
  match life.state with
  | .intent => life.ValidIntent
  | .uploadDispatched => life.ValidUploadDispatched
  | .uploadFailed => life.ValidUploadFailed
  | .uploadUnknown => life.ValidUploadUnknown
  | .verificationFailed => life.ValidVerificationFailed
  | .active => life.ValidActive
  | .deletionPending => life.ValidDeletionPending
  | .deleted => life.ValidDeleted
  | .deletionFailed => life.ValidDeletionFailed

/-- `Validate` returns nil. -/
def Valid : Prop :=
  life.ValidIdentity ∧ life.ValidEventHead ∧ life.ValidState

/-- The two checks shared by the active state and the states of a deletion. -/
def validateActiveBinding : Except ManagedProviderFileError Unit := do
  check (life.ValidBinding ∧ (life.VerifiedBinding ∨ life.RecoveryBinding))
    "managed provider file active binding is invalid"
  check life.ValidPayload "managed provider file active payload is invalid"

def validate : Except ManagedProviderFileError Unit := do
  check life.ValidIdentity "managed provider file lifecycle identity is invalid"
  check life.ValidEventHead "managed provider file lifecycle event head is invalid"
  match life.state with
  | .intent => check life.ValidIntent "managed provider file intent state is invalid"
  | .uploadDispatched =>
    check life.ValidUploadDispatched "managed provider file upload-dispatched state is invalid"
  | .uploadFailed =>
    check life.ValidUploadFailed "managed provider file upload-failed state is invalid"
  | .uploadUnknown =>
    check life.ValidUploadUnknown "managed provider file upload-unknown state is invalid"
  | .verificationFailed =>
    check life.ValidVerificationFailed "managed provider file verification-failed state is invalid"
  | .active =>
    life.validateActiveBinding
    check life.ValidActive "managed provider file active state is invalid"
  | .deletionPending =>
    life.validateActiveBinding
    check life.ValidDeletionPending "managed provider file deletion-pending state is invalid"
  | .deleted =>
    life.validateActiveBinding
    check life.ValidDeleted "managed provider file deleted state is invalid"
  | .deletionFailed =>
    life.validateActiveBinding
    check life.ValidDeletionFailed "managed provider file deletion failure state is invalid"

theorem validateActiveBinding_eq_ok {result : Unit} :
    life.validateActiveBinding = .ok result ↔ life.ValidActiveBinding := by
  simp only [validateActiveBinding, bind_eq_ok, check_eq_ok, exists_const, ValidActiveBinding]
  tauto

theorem validate_eq_ok : life.validate = .ok () ↔ life.Valid := by
  simp only [validate, bind_eq_ok, check_eq_ok, exists_const, Valid, ValidState]
  cases state : life.state with
  | intent | uploadDispatched | uploadFailed | uploadUnknown | verificationFailed =>
    simp only [check_eq_ok]
  | active =>
    simp only [bind_eq_ok, check_eq_ok, exists_const, validateActiveBinding_eq_ok]
    have includes : life.ValidActive → life.ValidActiveBinding := fun valid => valid.1
    tauto
  | deletionPending =>
    simp only [bind_eq_ok, check_eq_ok, exists_const, validateActiveBinding_eq_ok]
    have includes : life.ValidDeletionPending → life.ValidActiveBinding :=
      fun valid => valid.1
    tauto
  | deleted =>
    simp only [bind_eq_ok, check_eq_ok, exists_const, validateActiveBinding_eq_ok]
    have includes : life.ValidDeleted → life.ValidActiveBinding :=
      fun valid => valid.1
    tauto
  | deletionFailed =>
    simp only [bind_eq_ok, check_eq_ok, exists_const, validateActiveBinding_eq_ok]
    have includes : life.ValidDeletionFailed → life.ValidActiveBinding :=
      fun valid => valid.1
    tauto

end ManagedProviderFileLifecycle

namespace ManagedProviderFileDeletionOutbox

variable (box : ManagedProviderFileDeletionOutbox)

def ValidHead : Prop :=
  0 < box.lifecycleId ∧ validManagedProviderFileDigest box.operationHMAC ∧
    0 < box.version ∧ 0 ≤ box.attemptCount ∧ 0 < box.maxAttempts ∧
    box.maxAttempts ≤ maxManagedProviderFileDeletionAttempts ∧
    box.attemptCount ≤ box.maxAttempts ∧ box.nextAttemptAt ≠ 0 ∧
    box.lastErrorCode.utf8ByteSize ≤ 64
deriving Decidable

def ValidPending : Prop :=
  box.attemptCount = 0 ∧ box.leaseTokenHMAC = "" ∧ box.leaseExpiresAt = none ∧
    box.lastAttemptAt = none ∧ box.dispatchedAt = none ∧ box.completedAt = none ∧
    box.terminalResult = ""
deriving Decidable

def ValidInProgress : Prop :=
  0 < box.attemptCount ∧ validManagedProviderFileDigest box.leaseTokenHMAC ∧
    setTime box.leaseExpiresAt ∧ box.lastAttemptAt.isSome ∧ box.completedAt = none ∧
    box.terminalResult = ""
deriving Decidable

def ValidRetryWait : Prop :=
  0 < box.attemptCount ∧ box.attemptCount < box.maxAttempts ∧
    box.leaseTokenHMAC = "" ∧ box.leaseExpiresAt = none ∧ box.lastAttemptAt.isSome ∧
    box.dispatchedAt = none ∧ Text.isBlank box.lastErrorCode = false ∧
    box.completedAt = none ∧ box.terminalResult = ""
deriving Decidable

def ValidCompleted : Prop :=
  0 < box.attemptCount ∧ box.leaseTokenHMAC = "" ∧ box.leaseExpiresAt = none ∧
    box.completedAt.isSome ∧ box.terminalResult = managedProviderFileDeletionResultDeleted
deriving Decidable

def ValidTerminalFailed : Prop :=
  0 < box.attemptCount ∧ box.leaseTokenHMAC = "" ∧ box.leaseExpiresAt = none ∧
    box.completedAt.isSome ∧ box.terminalResult = managedProviderFileDeletionResultFailed ∧
    Text.isBlank box.lastErrorCode = false
deriving Decidable

def ValidState : Prop :=
  match box.state with
  | .pending => box.ValidPending
  | .inProgress => box.ValidInProgress
  | .retryWait => box.ValidRetryWait
  | .completed => box.ValidCompleted
  | .terminalFailed => box.ValidTerminalFailed

/-- `Validate` returns nil. -/
def Valid : Prop :=
  box.ValidHead ∧ box.ValidState

def validate : Except ManagedProviderFileError Unit := do
  check box.ValidHead "managed provider file deletion outbox is invalid"
  match box.state with
  | .pending => check box.ValidPending "managed provider file deletion pending state is invalid"
  | .inProgress =>
    check box.ValidInProgress "managed provider file deletion in-progress state is invalid"
  | .retryWait =>
    check box.ValidRetryWait "managed provider file deletion retry state is invalid"
  | .completed =>
    check box.ValidCompleted "managed provider file deletion completed state is invalid"
  | .terminalFailed =>
    check box.ValidTerminalFailed "managed provider file deletion terminal failure state is invalid"

theorem validate_eq_ok : box.validate = .ok () ↔ box.Valid := by
  simp only [validate, bind_eq_ok, check_eq_ok, Valid, ValidState]
  cases box.state with
  | pending | inProgress | retryWait | completed | terminalFailed => simp [check_eq_ok]

end ManagedProviderFileDeletionOutbox

namespace ManagedProviderFileLifecycleEvent

variable (event : ManagedProviderFileLifecycleEvent)

def ValidHead : Prop :=
  0 < event.lifecycleId ∧ 0 < event.sequence ∧ validManagedProviderFileDigest event.eventHMAC ∧
    validManagedProviderFileDigest event.evidenceDigest ∧
    validManagedProviderFileKeyVersion event.keyVersion ∧ 0 ≤ event.attemptCount ∧
    event.resultCode.utf8ByteSize ≤ 64 ∧ (event.sequence = 1 → event.previousEventHMAC = "") ∧
    (1 < event.sequence → validManagedProviderFileDigest event.previousEventHMAC)

def ValidTransition : Prop :=
  match event.eventType with
  | .intentCreated =>
    event.sequence = 1 ∧ event.fromState = none ∧ event.toState = .intent ∧
      event.attemptCount = 0 ∧ event.resultCode = ""
  | .uploadDispatched =>
    event.fromState = some .intent ∧ event.toState = .uploadDispatched ∧
      event.attemptCount = 0 ∧ event.resultCode = ""
  | .uploadFailed =>
    (event.fromState = some .intent ∨ event.fromState = some .uploadDispatched) ∧
      event.toState = .uploadFailed ∧ event.attemptCount = 0 ∧
      Text.isBlank event.resultCode = false
  | .uploadUnknown =>
    event.fromState = some .uploadDispatched ∧ event.toState = .uploadUnknown ∧
      event.attemptCount = 0 ∧ Text.isBlank event.resultCode = false
  | .verificationFailed =>
    event.fromState = some .uploadDispatched ∧ event.toState = .verificationFailed ∧
      event.attemptCount = 0 ∧ Text.isBlank event.resultCode = false
  | .activated =>
    event.fromState = some .uploadDispatched ∧ event.toState = .active ∧
      event.attemptCount = 0 ∧ event.resultCode = ""
  | .deletionStarted =>
    (event.fromState = some .active ∨ event.fromState = some .verificationFailed) ∧
      event.toState = .deletionPending ∧ event.attemptCount = 1 ∧ event.resultCode = ""
  | .deletionAttemptStarted =>
    event.fromState = some .deletionPending ∧ event.toState = .deletionPending ∧
      1 < event.attemptCount ∧ event.resultCode = ""
  | .deletionRecoveryStarted =>
    event.fromState = some .deletionPending ∧ event.toState = .deletionPending ∧
      0 < event.attemptCount ∧ event.resultCode = ""
  | .deletionDispatched =>
    event.fromState = some .deletionPending ∧ event.toState = .deletionPending ∧
      0 < event.attemptCount ∧ event.resultCode = ""
  | .deletionRetryScheduled =>
    event.fromState = some .deletionPending ∧ event.toState = .deletionPending ∧
      0 < event.attemptCount ∧ Text.isBlank event.resultCode = false
  | .deletionCompleted =>
    event.fromState = some .deletionPending ∧ event.toState = .deleted ∧
      0 < event.attemptCount ∧ event.resultCode = managedProviderFileDeletionResultDeleted
  | .deletionTerminalFailed =>
    event.fromState = some .deletionPending ∧ event.toState = .deletionFailed ∧
      0 < event.attemptCount ∧ Text.isBlank event.resultCode = false

/-- `Validate` returns nil. -/
def Valid : Prop :=
  event.ValidHead ∧ event.ValidTransition

instance : Decidable event.ValidHead :=
  inferInstanceAs (Decidable (_ ∧ _))

instance : Decidable event.ValidTransition := by
  unfold ValidTransition
  cases event.eventType <;> infer_instance

def validate : Except ManagedProviderFileError Unit := do
  check event.ValidHead "managed provider file lifecycle event is invalid"
  check event.ValidTransition "managed provider file lifecycle event transition is invalid"

theorem validate_eq_ok : event.validate = .ok () ↔ event.Valid := by
  simp [validate, bind_eq_ok, check_eq_ok, Valid]

end ManagedProviderFileLifecycleEvent

end NewApi.ProviderFile
