import NewApi.ProviderFile.Runtime

/-!
# Keys of managed provider files

The digests that `managed_keys.go` derives for an upload, and the bindings of a request under
every key version that a node holds. A digest is a keyed hash of a payload; what the hash of
a key version is, is a parameter.
-/

namespace NewApi.ProviderFile

/-- The owner of a file. -/
structure ManagedConsensusOwner where
  (userId tokenId : ℤ)
  endpointFamily : String
deriving DecidableEq

/-- The target of an upload, as far as it is hashed. -/
structure ManagedProviderFileTargetIdentity where
  (channelId channelType multiKeyIndex : ℤ)
  channelIsMultiKey : Bool
  (endpoint organization project : String)
deriving DecidableEq

/-- What the fingerprint of an upload is made of. -/
structure ManagedProviderFileUploadFingerprintIdentity where
  (ownerHMAC contentDigest targetFingerprint purpose : String)
  expirationSeconds : ℤ
deriving DecidableEq

/-- What `calculateHexHMAC` is applied to: a scope with the value that goes with it. -/
inductive HMACPayload where
  | owner (userId tokenId : ℤ) (endpointFamily : String)
  | uploadIntent (ownerHMAC idempotencyKey : String)
  | handle (ownerHMAC handle : String)
  | reference (ownerHMAC providerReference : String)
  | deletion (ownerHMAC handle : String)
  | target (ident : ManagedProviderFileTargetIdentity)
  | endpoint (endpoint : String)
  | scope (organization project : String)
  | uploadFingerprint (ident : ManagedProviderFileUploadFingerprintIdentity)
  | credential (channelId multiKeyIndex : ℤ) (credential : String)
  | event (ident : ManagedProviderFileEventIdentity)
deriving DecidableEq

/-- The hash of a payload under a key version. -/
abbrev HexHMAC := String → HMACPayload → String

/-- The digests of an intent under one key version. -/
structure ManagedProviderFileUploadIntentKey where
  (repositoryKey ownerHMAC uploadIntentHMAC keyVersion : String)

structure ManagedProviderFileHandleKey where
  (repositoryKey ownerHMAC handleHMAC keyVersion : String)

/-- The digests that an upload is bound to. -/
structure ManagedProviderFileUploadBinding where
  intentKey : ManagedProviderFileUploadIntentKey
  (targetFingerprint credentialFingerprint endpointFingerprint scopeFingerprint : String)
  requestFingerprint : String

/-- What the envelope of a row holds. -/
structure ManagedProviderFileReferencePayload where
  (providerFileId filename gatewayHandle : String)
deriving DecidableEq

/-! ## Checks -/

def managedProviderFileHandlePrefix : String := "file-managed-"

def base64Digits : List Char :=
  "ABCDEFGHIJKLMNOPQRSTUVWXYZabcdefghijklmnopqrstuvwxyz0123456789-_".toList

def withoutPrefix (start text : String) : Option (List Char) :=
  if start.toList.isPrefixOf text.toList then some (text.toList.drop start.toList.length) else none

/-- Strict base64 of 32 bytes: 43 digits, of which the last one has two zero bits. -/
def encodesHandle (encoded : List Char) : Bool :=
  encoded.length = 43 && encoded.all (fun digit => digit ∈ base64Digits) &&
    encoded.getLast?.all fun digit => base64Digits.idxOf digit % 4 = 0

def validManagedProviderFileHandle (handle : String) : Bool :=
  (withoutPrefix managedProviderFileHandlePrefix handle).any encodesHandle

def isControl (char : Char) : Bool :=
  char.toNat < 0x20 || 0x7f ≤ char.toNat && char.toNat < 0xa0

def validProviderFileId (providerFileId : String) : Bool :=
  (withoutPrefix "file-" providerFileId).any fun rest =>
    !rest.isEmpty && providerFileId.utf8ByteSize ≤ 512 && rest.all fun char => char ∈ base64Digits

/-- `TrimSpace` leaves the text as it is. -/
def trimmed (text : String) : Bool :=
  Text.trimSpace text = text

/-- `ManagedProviderFileReferencePayload.Validate` returns nil. -/
def ManagedProviderFileReferencePayload.Valid (body : ManagedProviderFileReferencePayload) :
    Prop :=
  trimmed body.providerFileId ∧ validProviderFileId body.providerFileId ∧
    Text.isBlank body.filename = false ∧ trimmed body.filename ∧
    body.filename.utf8ByteSize ≤ 1024 ∧ body.filename.toList.any isControl = false ∧
    validManagedProviderFileHandle body.gatewayHandle

instance (body : ManagedProviderFileReferencePayload) : Decidable body.Valid :=
  inferInstanceAs (Decidable (_ ∧ _))

def namesWithin (limit : ℕ) (text : String) : Bool :=
  !Text.isBlank text && trimmed text && text.utf8ByteSize ≤ limit

/-- `DeriveProviderFileTargetFingerprint` accepts the identity. -/
def ManagedProviderFileTargetIdentity.Valid (ident : ManagedProviderFileTargetIdentity) :
    Prop :=
  0 < ident.channelId ∧ 0 < ident.channelType ∧ 0 ≤ ident.multiKeyIndex ∧
    (ident.channelIsMultiKey = false → ident.multiKeyIndex = 0) ∧
    namesWithin 512 ident.endpoint ∧ ident.organization.utf8ByteSize ≤ 256 ∧
    ident.project.utf8ByteSize ≤ 256 ∧ trimmed ident.organization ∧
    trimmed ident.project

instance (ident : ManagedProviderFileTargetIdentity) : Decidable ident.Valid :=
  inferInstanceAs (Decidable (_ ∧ _))

/-- `DeriveProviderFileUploadFingerprint` accepts the identity. -/
def ManagedProviderFileUploadFingerprintIdentity.Valid
    (ident : ManagedProviderFileUploadFingerprintIdentity) : Prop :=
  validManagedProviderFileDigest ident.ownerHMAC ∧
    validManagedProviderFileDigest ident.contentDigest ∧
    validManagedProviderFileDigest ident.targetFingerprint ∧
    ident.purpose = managedProviderFilePurposeUserData ∧ 60 ≤ ident.expirationSeconds ∧
    ident.expirationSeconds ≤ 30 * 24 * 60 * 60
deriving Decidable

def unixEpochSeconds : ℤ := 62135596800

/-- `Time.Unix`. -/
def unixSeconds (time : ℤ) : ℤ :=
  time / second - unixEpochSeconds

/-- `DeriveProviderFileEventHMAC` accepts the identity; the lengths of the names of states and
event types are within its bounds. -/
def ManagedProviderFileEventIdentity.Valid (ident : ManagedProviderFileEventIdentity) : Prop :=
  validManagedProviderFileDigest ident.lifecycleHMAC ∧ 0 < ident.sequence ∧
    0 ≤ ident.attemptCount ∧ 0 < unixSeconds ident.createdAt ∧
    ident.resultCode.utf8ByteSize ≤ 64 ∧
    validManagedProviderFileDigest ident.evidenceDigest ∧
    (ident.sequence = 1 → ident.previousEventHMAC = "") ∧
    (1 < ident.sequence → validManagedProviderFileDigest ident.previousEventHMAC)

instance (ident : ManagedProviderFileEventIdentity) : Decidable ident.Valid :=
  inferInstanceAs (Decidable (_ ∧ _))

/-! ## Derivations under one key version -/

section Derivations

variable (keys : HexHMAC) (keyVersion : String)

def managedProviderFileRepositoryPrefix : String :=
  "new-api:context_consensus:provider_file:v1"

/-- `deriveProviderFileOwnerHMAC`; the endpoint family of every owner is in ASCII. -/
def deriveProviderFileOwnerHMAC (owner : ManagedConsensusOwner) : Outcome String := do
  check (0 < owner.userId ∧ 0 < owner.tokenId) "managed provider file owner identity is invalid"
  let endpointFamily := (Text.trimSpace owner.endpointFamily).toLower
  check (endpointFamily ≠ "") "managed provider file owner endpoint family is required"
  return keys keyVersion (.owner owner.userId owner.tokenId endpointFamily)

def managedProviderFileRepositoryKey (ownerHMAC uploadIntentHMAC : String) : String :=
  managedProviderFileRepositoryPrefix ++ ":" ++ ownerHMAC ++ ":intent:" ++ uploadIntentHMAC

def deriveProviderFileUploadIntentKey (owner : ManagedConsensusOwner) (idempotencyKey : String) :
    Outcome ManagedProviderFileUploadIntentKey := do
  let ownerHMAC ← deriveProviderFileOwnerHMAC keys keyVersion owner
  check (namesWithin 256 idempotencyKey) "managed provider file idempotency key is invalid"
  let uploadIntentHMAC := keys keyVersion (.uploadIntent ownerHMAC idempotencyKey)
  return {
    repositoryKey := managedProviderFileRepositoryKey ownerHMAC uploadIntentHMAC
    ownerHMAC := ownerHMAC
    uploadIntentHMAC := uploadIntentHMAC
    keyVersion := keyVersion }

def deriveProviderFileHandleKey (owner : ManagedConsensusOwner) (handle : String) :
    Outcome ManagedProviderFileHandleKey := do
  let ownerHMAC ← deriveProviderFileOwnerHMAC keys keyVersion owner
  check (namesWithin 256 handle) "managed provider file handle is invalid"
  let handleHMAC := keys keyVersion (.handle ownerHMAC handle)
  return {
    repositoryKey := managedProviderFileRepositoryPrefix ++ ":" ++ ownerHMAC ++ ":" ++ handleHMAC
    ownerHMAC := ownerHMAC
    handleHMAC := handleHMAC
    keyVersion := keyVersion }

def deriveProviderFileReferenceHMAC (owner : ManagedConsensusOwner) (providerReference : String) :
    Outcome String := do
  let ownerHMAC ← deriveProviderFileOwnerHMAC keys keyVersion owner
  check (namesWithin 512 providerReference) "managed provider file reference is invalid"
  return keys keyVersion (.reference ownerHMAC providerReference)

def deriveProviderFileDeletionOperationHMAC (owner : ManagedConsensusOwner) (handle : String) :
    Outcome String := do
  let ownerHMAC ← deriveProviderFileOwnerHMAC keys keyVersion owner
  check (namesWithin 256 handle) "managed provider file handle is invalid"
  return keys keyVersion (.deletion ownerHMAC handle)

def deriveProviderFileTargetFingerprint (ident : ManagedProviderFileTargetIdentity) :
    Outcome String := do
  check ident.Valid "managed provider file target identity is invalid"
  return keys keyVersion (.target ident)

def deriveProviderFileEndpointFingerprint (endpoint : String) : Outcome String := do
  check (namesWithin 512 endpoint) "managed provider file endpoint is invalid"
  return keys keyVersion (.endpoint endpoint)

def deriveProviderFileScopeFingerprint (organization project : String) : Outcome String := do
  check (organization.utf8ByteSize ≤ 256 ∧ project.utf8ByteSize ≤ 256 ∧ trimmed organization ∧
    trimmed project) "managed provider file scope is invalid"
  return keys keyVersion (.scope organization project)

def deriveProviderFileUploadFingerprint
    (ident : ManagedProviderFileUploadFingerprintIdentity) : Outcome String := do
  check ident.Valid "managed provider file upload fingerprint identity is invalid"
  return keys keyVersion (.uploadFingerprint ident)

def deriveProviderFileCredentialFingerprint (channelId multiKeyIndex : ℤ) (credential : String) :
    Outcome String := do
  check (0 < channelId ∧ 0 ≤ multiKeyIndex ∧ credential ≠ "")
    "managed provider file credential identity is invalid"
  return keys keyVersion (.credential channelId multiKeyIndex credential)

def deriveProviderFileEventHMAC (ident : ManagedProviderFileEventIdentity) :
    Outcome String := do
  check ident.Valid "managed provider file event identity is invalid"
  return keys keyVersion (.event ident)

/-! ## Bindings under every key version of a node -/

/-- One entry of `ProviderFileTargetBindings`. -/
def providerFileTargetBinding (goal : ManagedProviderFileTargetIdentity) (credential : String) :
    Outcome ManagedProviderFileTargetBinding := do
  let targetFingerprint ← deriveProviderFileTargetFingerprint keys keyVersion goal
  let credentialFingerprint ← deriveProviderFileCredentialFingerprint keys keyVersion
    goal.channelId goal.multiKeyIndex credential
  let endpointFingerprint ← deriveProviderFileEndpointFingerprint keys keyVersion goal.endpoint
  let scopeFingerprint ← deriveProviderFileScopeFingerprint keys keyVersion goal.organization
    goal.project
  return {
    keyVersion := keyVersion
    targetFingerprint := targetFingerprint
    credentialFingerprint := credentialFingerprint
    endpointFingerprint := endpointFingerprint
    scopeFingerprint := scopeFingerprint }

/-- One entry of `ProviderFileUploadBindings`. -/
def providerFileUploadBinding (owner : ManagedConsensusOwner)
    (idempotencyKey contentDigest purpose : String) (expirationSeconds : ℤ)
    (targetBinding : ManagedProviderFileTargetBinding) :
    Outcome ManagedProviderFileUploadBinding := do
  let intentKey ← deriveProviderFileUploadIntentKey keys keyVersion owner idempotencyKey
  let requestFingerprint ← deriveProviderFileUploadFingerprint keys keyVersion
    { ownerHMAC := intentKey.ownerHMAC
      contentDigest := contentDigest
      targetFingerprint := targetBinding.targetFingerprint
      purpose := purpose
      expirationSeconds := expirationSeconds }
  return {
    intentKey := intentKey
    targetFingerprint := targetBinding.targetFingerprint
    credentialFingerprint := targetBinding.credentialFingerprint
    endpointFingerprint := targetBinding.endpointFingerprint
    scopeFingerprint := targetBinding.scopeFingerprint
    requestFingerprint := requestFingerprint }

end Derivations

/-- The keys of a node: the active version and the ones before. -/
structure ManagedConsensusRuntime where
  activeVersion : String
  previousVersions : List String

/-- `readKeyDerivers`. -/
def ManagedConsensusRuntime.versions (env : ManagedConsensusRuntime) : List String :=
  env.activeVersion :: env.previousVersions

section Bindings

variable (keys : HexHMAC) (env : ManagedConsensusRuntime)

def providerFileTargetBindings (goal : ManagedProviderFileTargetIdentity)
    (credential : String) : Outcome (List ManagedProviderFileTargetBinding) :=
  env.versions.mapM fun ver => providerFileTargetBinding keys ver goal credential

def providerFileUploadBindings (owner : ManagedConsensusOwner)
    (idempotencyKey contentDigest : String) (goal : ManagedProviderFileTargetIdentity)
    (credential purpose : String) (expirationSeconds : ℤ) :
    Outcome (List ManagedProviderFileUploadBinding) := do
  let targetBindings ← providerFileTargetBindings keys env goal credential
  targetBindings.mapM fun targetBinding =>
    providerFileUploadBinding keys targetBinding.keyVersion owner idempotencyKey contentDigest
      purpose expirationSeconds targetBinding

def providerFileHandleKeys (owner : ManagedConsensusOwner) (handle : String) :
    Outcome (List ManagedProviderFileHandleKey) :=
  env.versions.mapM fun ver => deriveProviderFileHandleKey keys ver owner handle

end Bindings

end NewApi.ProviderFile
