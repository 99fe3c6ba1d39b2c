import NewApi.Library.Concurrent
import NewApi.ProviderFile.Deletion

/-!
# Targets and events of the provider file service

What `service/providerfile` shares between the upload and the deletion worker: the target of a
lifecycle, and the events that go with its transitions.
-/

namespace NewApi.ProviderFile

open Concurrent (Program)

structure Target where
  (channelId channelType : ℤ)
  (endpoint organization project credential : String)
deriving DecidableEq

/-- `ManagedProviderFileTargetBinding`: the fingerprints of a target under one key version. -/
structure ManagedProviderFileTargetBinding where
  (keyVersion targetFingerprint credentialFingerprint endpointFingerprint scopeFingerprint : String)
deriving DecidableEq

def matchesLifecycleTarget (life : ManagedProviderFileLifecycle) (goal : Target)
    (bindings : List ManagedProviderFileTargetBinding) : Bool :=
  life.channelId = goal.channelId && life.channelType = goal.channelType &&
    !life.channelIsMultiKey && life.channelMultiKeyIndex = 0 &&
    bindings.any fun binding =>
      life.lookupKeyVersion = binding.keyVersion &&
        life.credentialFingerprintKeyVersion = binding.keyVersion &&
        life.credentialFingerprint = binding.credentialFingerprint &&
        life.endpointFingerprint = binding.endpointFingerprint &&
        life.providerScopeFingerprint = binding.scopeFingerprint

structure ManagedProviderFileEventIdentity where
  lifecycleHMAC : String
  sequence : ℤ
  previousEventHMAC : String
  eventType : LifecycleEventType
  fromState : Option LifecycleState
  toState : LifecycleState
  attemptCount : ℤ
  (resultCode evidenceDigest : String)
  createdAt : ℤ
deriving DecidableEq

def ManagedProviderFileEventIdentity.event (ident : ManagedProviderFileEventIdentity)
    (lifeId : ℤ) (keyVersion eventHMAC : String) : ManagedProviderFileLifecycleEvent where
  id := 0
  lifecycleId := lifeId
  sequence := ident.sequence
  previousEventHMAC := ident.previousEventHMAC
  eventHMAC := eventHMAC
  eventType := ident.eventType
  fromState := ident.fromState
  toState := ident.toState
  attemptCount := ident.attemptCount
  resultCode := ident.resultCode
  evidenceDigest := ident.evidenceDigest
  keyVersion := keyVersion

section Events

variable {Call : Type} {Answer : Call → Type}

def providerFileEventWithAttempt
    (derive : ManagedProviderFileEventIdentity → Program Call Answer (Outcome String))
    (lifeId : ℤ) (keyVersion : String) (eventFromState : Option LifecycleState)
    (ident : ManagedProviderFileEventIdentity) :
    Program Call Answer (Outcome ManagedProviderFileLifecycleEvent) := do
  if ident.fromState ≠ eventFromState then
    return .error (.message "provider file event state is invalid")
  else
    let digest ← derive ident
    return digest.map (ident.event lifeId keyVersion)

end Events

end NewApi.ProviderFile
