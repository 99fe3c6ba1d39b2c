import NewApi.Library.Lua

/-!
# The Redis repository of managed consensus

The scripts of the repository and the functions that validate their arguments, run them and
read their replies. A conversation's storage key holds the consensus record as a hash, the
key with `:lease` the value of the current lease, and the key with `:fence` the counter that
fencing tokens are taken from.
-/

namespace NewApi.ContextConsensus

open Redis (Script Store)

/-- What an envelope holds. -/
inductive ManagedEncryptionPurpose where
  | consensusState
  | providerState
  | outcomeResponse
  | outcomeAssistant
  | outcomeSummaryExecution
  | outcomeSummaryResult
  | outcomeNextState
  | providerFileReference
deriving DecidableEq

def ManagedEncryptionPurpose.text : ManagedEncryptionPurpose → String
  | .consensusState => "consensus_state"
  | .providerState => "provider_state_binding"
  | .outcomeResponse => "managed_outcome_response"
  | .outcomeAssistant => "managed_outcome_assistant"
  | .outcomeSummaryExecution => "managed_outcome_summary_execution"
  | .outcomeSummaryResult => "managed_outcome_summary_result"
  | .outcomeNextState => "managed_outcome_next_state"
  | .providerFileReference => "provider_file_reference"

/-- An encrypted payload with what it is bound to. -/
structure ManagedEncryptedEnvelope where
  version : ℤ
  (algorithm keyVersion : String)
  purpose : ManagedEncryptionPurpose
  revision : ℕ
  (nonce ciphertext : String)
deriving DecidableEq

/-- The key of a conversation under one key version. -/
structure ManagedConversationStorageKey where
  (repositoryKey ownerHMAC conversationHMAC keyVersion : String)
deriving DecidableEq

/-- The key of a provider state under one key version. -/
structure ManagedProviderStateStorageKey where
  (repositoryKey ownerHMAC stateReferenceHMAC keyVersion : String)
deriving DecidableEq

/-- `ManagedConsensusRecord`, without the time of expiry, which only its caller prints. -/
structure ManagedConsensusRecord where
  (revision fencingToken : ℕ)
  payload : ManagedEncryptedEnvelope

/-- `ManagedConsensusLease`, without the time of expiry, which nothing compares with. -/
structure ManagedConsensusLease where
  (repositoryKey holderID : String)
  fencingToken : ℕ
deriving DecidableEq

/-- The stored state of a provider. -/
structure ManagedProviderStateRecord where
  bindingDigest : String
  payload : ManagedEncryptedEnvelope

/-- What the repository returns instead of a result. The sentinel errors are constructors of
their own, because callers compare against them. -/
inductive RepositoryError where
  | notFound
  | revisionConflict
  | leaseHeld
  | leaseInvalid
  | keyConflict
  | bindingNotFound
  | bindingConflict
  /-- An error made by `fmt.Errorf`. -/
  | message (text : String)
  | failed (op : String) (failure : Redis.Failure)
  | transport (op : String)
deriving DecidableEq

/-- What the network does to a request and its reply. -/
inductive Transport where
  | delivered
  | requestLost
  | replyLost
deriving DecidableEq

/-- What the server runs and the client writes, as far as it is not part of the repository:
the numerals besides rows of digits, and the JSON text of an envelope. -/
structure Client where
  otherNumeral : String → Option Lua.Number
  marshal : ManagedEncryptedEnvelope → String
  unmarshal : String → Option ManagedEncryptedEnvelope

/-- `RedisManagedConsensusRepository`, with what `NewRedisManagedConsensusRepository` checks.
Durations are in nanoseconds. -/
structure RedisManagedConsensusRepository where
  client : Client
  maximumRetention : ℤ
  positive : 0 < maximumRetention
  bounded : maximumRetention ≤ 2 ^ 62 - 1

def milliseconds (duration : ℤ) : ℕ :=
  (duration.tdiv 1000000).toNat

/-- `strings.HasPrefix`. -/
def startsWith (text start : String) : Bool :=
  start.toList.isPrefixOf text.toList

/-- `managedConsensusRepositoryKeyPrefix + ":"`. -/
def managedConsensusRepositoryKeyStart : String :=
  "new-api:context_consensus:v1:"

/-- `managedProviderStateRepositoryPrefix + ":"`. -/
def managedProviderStateRepositoryStart : String :=
  "new-api:context_consensus:provider_state:v1:"

def managedLeaseValue (lease : ManagedConsensusLease) : String :=
  lease.holderID ++ ":" ++ Decimal.format lease.fencingToken

def leaseKey (repositoryKey : String) : String :=
  repositoryKey ++ ":lease"

def fenceKey (repositoryKey : String) : String :=
  repositoryKey ++ ":fence"

/-! ### The scripts -/

abbrev Reply := Option Lua.Number

def integer (n : ℤ) : Reply :=
  some (.finite n)

def managedAcquireLeaseScript (lease fence holderID : String) (ttl retention : ℕ) :
    Script Reply := do
  if ← Redis.existsKey lease then
    return integer (-1)
  let fencingToken := Lua.ofReply (← Redis.incr fence)
  Redis.pSetEx lease ttl (holderID ++ ":" ++ Lua.concatText fencingToken)
  Redis.pExpire fence retention
  return integer fencingToken

def managedRenewLeaseScript (lease leaseValue : String) (ttl : ℕ) : Script Reply := do
  if (← Redis.get lease) ≠ some leaseValue then
    return integer 0
  Redis.pExpire lease ttl
  return integer 1

def managedReleaseLeaseScript (lease leaseValue : String) : Script Reply := do
  if (← Redis.get lease) ≠ some leaseValue then
    return integer 0
  Redis.del lease
  return integer 1

/-- The arguments of a script about the record. -/
structure RecordArguments where
  (expectedRevision nextRevision fencingToken payload : String)
  (ttl retention : ℕ)

def RecordArguments.fields (args : RecordArguments) : Redis.Fields :=
  [("revision", args.nextRevision), ("fencing_token", args.fencingToken),
    ("encrypted_payload", args.payload)]

/-- The arguments of a script about the provider state. -/
structure ProviderArguments where
  key : String
  conflictKeys : List String
  (bindingDigest payload : String)
  ttl : ℕ

/-- The fields of the provider state, in the order in which they are set. -/
def ProviderArguments.fields (args : ProviderArguments) : Redis.Fields :=
  [("binding_digest", args.bindingDigest), ("encrypted_payload", args.payload)]

def managedCompareAndSwapScript (client : Client) (record lease fence leaseValue : String)
    (args : RecordArguments) : Script Reply := do
  if (← Redis.get lease) ≠ some leaseValue then
    return integer (-1)
  let currentRevision := (← Redis.hGet record "revision").getD "0"
  if currentRevision ≠ args.expectedRevision then
    return integer (-2)
  Redis.hSet record args.fields
  Redis.pExpire record args.ttl
  Redis.pExpire fence args.retention
  return Lua.tonumber client.otherNumeral args.nextRevision

/-- `not active_fence or tonumber(active_fence) < tonumber(ARGV[4])`; comparing nil with a
number is an error of the script. -/
def fenceBelow (client : Client) (activeFence : Option String) (fencingToken : String) :
    Except Redis.Failure Bool :=
  match activeFence with
  | none => .ok true
  | some text =>
    match Lua.tonumber client.otherNumeral text,
        Lua.tonumber client.otherNumeral fencingToken with
    | some left, some right => .ok (left.lt right)
    | _, _ => .error (.script "attempt to compare nil with number")

/-- The part of the migration scripts that raises the fencing counter of the active key. -/
def raiseActiveFence (client : Client) (activeFence fencingToken : String) : Script Unit := do
  let current ← Redis.get activeFence
  if ← Redis.read fun _ => fenceBelow client current fencingToken then
    Redis.set activeFence fencingToken

def managedCompareAndSwapMigrateScript (client : Client)
    (previous previousLease previousFence live activeFence activeLease leaseValue : String)
    (args : RecordArguments) : Script Reply := do
  if (← Redis.get previousLease) ≠ some leaseValue then
    return integer (-1)
  if (← Redis.hGet previous "revision") ≠ some args.expectedRevision then
    return integer (-2)
  if (← Redis.existsKey live) || (← Redis.existsKey activeLease) then
    return integer (-3)
  Redis.hSet live args.fields
  Redis.pExpire live args.ttl
  raiseActiveFence client activeFence args.fencingToken
  Redis.pExpire activeFence args.retention
  Redis.pExpire previousFence args.retention
  Redis.del previous
  return Lua.tonumber client.otherNumeral args.nextRevision

/-- The loop over the keys at which another version may hold the provider state. -/
def anyExists : List String → Script Bool
  | [] => return false
  | key :: rest => do
      if ← Redis.existsKey key then
        return true
      anyExists rest

def managedCompareAndSwapWithProviderStateScript (client : Client)
    (record lease fence leaseValue : String) (args : RecordArguments)
    (provider : ProviderArguments) : Script Reply := do
  if (← Redis.get lease) ≠ some leaseValue then
    return integer (-1)
  let currentRevision := (← Redis.hGet record "revision").getD "0"
  if currentRevision ≠ args.expectedRevision then
    return integer (-2)
  if ← anyExists provider.conflictKeys then
    return integer (-4)
  let currentDigest ← Redis.hGet provider.key "binding_digest"
  if currentDigest ≠ none ∧ currentDigest ≠ some provider.bindingDigest then
    return integer (-4)
  Redis.hSet record args.fields
  Redis.pExpire record args.ttl
  Redis.pExpire fence args.retention
  Redis.hSet provider.key provider.fields
  Redis.pExpire provider.key provider.ttl
  return Lua.tonumber client.otherNumeral args.nextRevision

def managedCompareAndSwapMigrateWithProviderStateScript (client : Client)
    (previous previousLease previousFence live activeFence activeLease leaseValue : String)
    (args : RecordArguments) (provider : ProviderArguments) : Script Reply := do
  if (← Redis.get previousLease) ≠ some leaseValue then
    return integer (-1)
  if (← Redis.hGet previous "revision") ≠ some args.expectedRevision then
    return integer (-2)
  if (← Redis.existsKey live) || (← Redis.existsKey activeLease) then
    return integer (-3)
  if ← anyExists provider.conflictKeys then
    return integer (-4)
  let currentDigest ← Redis.hGet provider.key "binding_digest"
  if currentDigest ≠ none ∧ currentDigest ≠ some provider.bindingDigest then
    return integer (-4)
  Redis.hSet live args.fields
  Redis.pExpire live args.ttl
  raiseActiveFence client activeFence args.fencingToken
  Redis.pExpire activeFence args.retention
  Redis.pExpire previousFence args.retention
  Redis.hSet provider.key provider.fields
  Redis.pExpire provider.key provider.ttl
  Redis.del previous
  return Lua.tonumber client.otherNumeral args.nextRevision

def managedDeleteConsensusScript (record lease leaseValue expected : String) :
    Script Reply := do
  if (← Redis.get lease) ≠ some leaseValue then
    return integer (-1)
  match ← Redis.hGet record "revision" with
  | none => return integer (-3)
  | some currentRevision =>
    if currentRevision ≠ expected then
      return integer (-2)
    Redis.del record
    return integer 1

/-! ### The repository functions -/

/-- A function of the repository: it runs against the store and returns a result or an error,
and what it has written stays in both cases. -/
abbrev Operation := EStateM RepositoryError Store

def ensure {α : Type} (check : Except RepositoryError α) : Operation α := fun store =>
  match check with
  | .ok val => .ok val store
  | .error failure => .error failure store

/-- `redis.Script.Run(...).Int64()`. -/
def runScript (wire : Transport) (op : String) (script : Script Reply) :
    Operation ℤ := fun store =>
  match wire with
  | .requestLost => .error (.transport op) store
  | .delivered =>
    match script store with
    | .ok (some n) after => .ok (Lua.toReply n) after
    | .ok none after => .error (.message "redis: nil") after
    | .error failure after => .error (.failed op failure) after
  | .replyLost =>
    match script store with
    | .ok _ after => .error (.transport op) after
    | .error _ after => .error (.transport op) after

theorem run_ensure {α : Type} (check : Except RepositoryError α) (store : Store) :
    (ensure check).run store =
      match check with
      | .ok val => .ok val store
      | .error failure => .error failure store :=
  rfl

theorem run_runScript (wire : Transport) (op : String) (script : Script Reply) (store : Store) :
    (runScript wire op script).run store =
      match wire with
      | .requestLost => .error (.transport op) store
      | .delivered =>
        match script.run store with
        | .ok (some n) after => .ok (Lua.toReply n) after
        | .ok none after => .error (.message "redis: nil") after
        | .error failure after => .error (.failed op failure) after
      | .replyLost =>
        match script.run store with
        | .ok _ after => .error (.transport op) after
        | .error _ after => .error (.transport op) after :=
  rfl

/-- A function that checks its arguments, runs one script and reads the integer it returns. -/
def scripted {α : Type} (admission : Except RepositoryError Unit) (wire : Transport)
    (op : String) (script : Script Reply) (reply : ℤ → Except RepositoryError α) :
    Operation α := do
  ensure admission
  let result ← runScript wire op script
  ensure (reply result)

def validateConversationKey (key : ManagedConversationStorageKey) : Except RepositoryError Unit :=
  if !startsWith key.repositoryKey managedConsensusRepositoryKeyStart || key.ownerHMAC = "" ||
      key.conversationHMAC = "" || key.keyVersion = "" then
    throw (.message "managed consensus conversation storage key is invalid")
  else pure ()

def validateProviderStateKey (key : ManagedProviderStateStorageKey) :
    Except RepositoryError Unit :=
  if !startsWith key.repositoryKey managedProviderStateRepositoryStart || key.ownerHMAC = "" ||
      key.stateReferenceHMAC = "" || key.keyVersion = "" then
    throw (.message "managed provider state storage key is invalid")
  else pure ()

def validateLease (lease : ManagedConsensusLease) : Except RepositoryError Unit :=
  if !startsWith lease.repositoryKey managedConsensusRepositoryKeyStart ||
      Text.isBlank lease.holderID || lease.fencingToken = 0 then
    throw .leaseInvalid
  else pure ()

def validateLeaseForKey (key : ManagedConversationStorageKey) (lease : ManagedConsensusLease) :
    Except RepositoryError Unit := do
  validateLease lease
  if lease.repositoryKey ≠ key.repositoryKey then throw .leaseInvalid

/-- A provider state that is written with a record. -/
structure ProviderStateWrite where
  key : ManagedProviderStateStorageKey
  conflictKeys : List ManagedProviderStateStorageKey
  bindingDigest : String
  payload : ManagedEncryptedEnvelope
  ttl : ℤ
deriving DecidableEq

/-- The loop over the conflict keys of a commit with provider state. -/
def validateConflictKeys (provider : ProviderStateWrite) : Except RepositoryError Unit :=
  if provider.conflictKeys.all fun key =>
      (validateProviderStateKey key).toBool && key.repositoryKey != provider.key.repositoryKey then
    pure ()
  else throw (.message "managed provider state conflict key is invalid")

/-- The reading of a commit's reply: the refusals that the function knows, then the check that
the script returned the next revision. -/
def commitReply (refusals : List (ℤ × RepositoryError)) (invalid : String) (expected : ℕ)
    (lease : ManagedConsensusLease) (body : ManagedEncryptedEnvelope) (result : ℤ) :
    Except RepositoryError ManagedConsensusRecord :=
  match refusals.lookup result with
  | some refusal => throw refusal
  | none =>
    if result ≤ 0 ∨ result.toNat ≠ expected + 1 then throw (.message invalid)
    else pure { revision := result.toNat, fencingToken := lease.fencingToken, payload := body }

namespace RedisManagedConsensusRepository

variable (repo : RedisManagedConsensusRepository)

/-- `fencingCounterRetention.Milliseconds()`. -/
def fencingCounterRetention : ℕ :=
  milliseconds (repo.maximumRetention * 2)

def validateTTL (ttl : ℤ) : Except RepositoryError Unit :=
  if ttl ≤ 0 ∨ ttl > repo.maximumRetention ∨ milliseconds ttl = 0 then
    throw (.message "managed consensus TTL must be positive and within maximum retention")
  else pure ()

def acquireConsensusLease (wire : Transport) (key : ManagedConversationStorageKey)
    (holderID : String) (ttl : ℤ) : Operation ManagedConsensusLease :=
  scripted
    (do validateConversationKey key
        if Text.isBlank holderID then
          throw (.message "managed consensus lease holder is required")
        repo.validateTTL ttl)
    wire "acquire managed consensus lease"
    (managedAcquireLeaseScript (leaseKey key.repositoryKey) (fenceKey key.repositoryKey) holderID
      (milliseconds ttl) repo.fencingCounterRetention)
    fun result =>
      if result = -1 then .error .leaseHeld
      else if result ≤ 0 then .error (.message "managed consensus fencing token is invalid")
      else .ok { repositoryKey := key.repositoryKey, holderID, fencingToken := result.toNat }

def renewConsensusLease (wire : Transport) (lease : ManagedConsensusLease) (ttl : ℤ) :
    Operation ManagedConsensusLease :=
  scripted
    (do validateLease lease
        repo.validateTTL ttl)
    wire "renew managed consensus lease"
    (managedRenewLeaseScript (leaseKey lease.repositoryKey) (managedLeaseValue lease)
      (milliseconds ttl))
    fun result => if result ≠ 1 then .error .leaseInvalid else .ok lease

def releaseConsensusLease (wire : Transport) (lease : ManagedConsensusLease) :
    Operation Unit :=
  scripted (validateLease lease) wire "release managed consensus lease"
    (managedReleaseLeaseScript (leaseKey lease.repositoryKey) (managedLeaseValue lease))
    fun result => if result ≠ 1 then .error .leaseInvalid else .ok ()

def deleteConsensus (wire : Transport) (key : ManagedConversationStorageKey)
    (expected : ℕ) (lease : ManagedConsensusLease) : Operation Unit :=
  scripted
    (do validateConversationKey key
        validateLeaseForKey key lease)
    wire "delete managed consensus"
    (managedDeleteConsensusScript key.repositoryKey (leaseKey key.repositoryKey)
      (managedLeaseValue lease) (Decimal.format expected))
    fun result =>
      if result = -1 then .error .leaseInvalid
      else if result = -2 then .error .revisionConflict
      else if result = -3 then .error .notFound
      else if result ≠ 1 then
        .error (.message "delete managed consensus returned an invalid result")
      else .ok ()

def recordArguments (expected : ℕ) (lease : ManagedConsensusLease)
    (body : ManagedEncryptedEnvelope) (ttl : ℤ) : RecordArguments where
  expectedRevision := Decimal.format expected
  nextRevision := Decimal.format (expected + 1)
  fencingToken := Decimal.format lease.fencingToken
  payload := repo.client.marshal body
  ttl := milliseconds ttl
  retention := repo.fencingCounterRetention

def providerArguments (provider : ProviderStateWrite) : ProviderArguments where
  key := provider.key.repositoryKey
  conflictKeys := provider.conflictKeys.map (·.repositoryKey)
  bindingDigest := provider.bindingDigest
  payload := repo.client.marshal provider.payload
  ttl := milliseconds provider.ttl

/-- The checks of `CompareAndSwapConsensus`. -/
def admitCompareAndSwap (key : ManagedConversationStorageKey) (expected : ℕ)
    (lease : ManagedConsensusLease) (body : ManagedEncryptedEnvelope) (ttl : ℤ) :
    Except RepositoryError Unit := do
  validateConversationKey key
  validateLeaseForKey key lease
  if expected = 2 ^ 64 - 1 then throw (.message "managed consensus revision overflow")
  if body.purpose ≠ .consensusState ∨ body.revision ≠ expected + 1 then
    throw (.message "encrypted consensus payload revision or purpose does not match CAS")
  repo.validateTTL ttl

def compareAndSwapConsensus (wire : Transport) (key : ManagedConversationStorageKey)
    (expected : ℕ) (lease : ManagedConsensusLease) (body : ManagedEncryptedEnvelope)
    (ttl : ℤ) : Operation ManagedConsensusRecord := do
  ensure (repo.admitCompareAndSwap key expected lease body ttl)
  let result ← runScript wire "compare and swap managed consensus"
    (managedCompareAndSwapScript repo.client key.repositoryKey (leaseKey key.repositoryKey)
      (fenceKey key.repositoryKey) (managedLeaseValue lease)
      (repo.recordArguments expected lease body ttl))
  ensure (commitReply [(-1, .leaseInvalid), (-2, .revisionConflict)]
    "managed consensus CAS returned an invalid revision" expected lease body result)

/-- The checks of `CompareAndSwapConsensusWithProviderState`. -/
def admitCompareAndSwapWithProviderState (key : ManagedConversationStorageKey)
    (expected : ℕ) (lease : ManagedConsensusLease) (body : ManagedEncryptedEnvelope)
    (provider : ProviderStateWrite) (ttl : ℤ) : Except RepositoryError Unit := do
  validateConversationKey key
  validateLeaseForKey key lease
  validateProviderStateKey provider.key
  validateConflictKeys provider
  if expected = 2 ^ 64 - 1 ∨ body.purpose ≠ .consensusState ∨
      body.revision ≠ expected + 1 ∨ body.keyVersion ≠ key.keyVersion ∨
      provider.key.ownerHMAC ≠ key.ownerHMAC ∨
      provider.payload.keyVersion ≠ provider.key.keyVersion ∨
      provider.payload.purpose ≠ .providerState ∨ provider.payload.revision ≠ 1 ∨
      Text.isBlank provider.bindingDigest then
    throw (.message "managed consensus provider-state commit payload is invalid")
  repo.validateTTL ttl
  repo.validateTTL provider.ttl

/-- `CompareAndSwapConsensusWithProviderState`, without the provider record it also returns,
which is what it was given. -/
def compareAndSwapConsensusWithProviderState (wire : Transport)
    (key : ManagedConversationStorageKey) (expected : ℕ) (lease : ManagedConsensusLease)
    (body : ManagedEncryptedEnvelope) (provider : ProviderStateWrite) (ttl : ℤ) :
    Operation ManagedConsensusRecord := do
  ensure (repo.admitCompareAndSwapWithProviderState key expected lease body provider ttl)
  let result ← runScript wire "compare and swap managed consensus with provider state"
    (managedCompareAndSwapWithProviderStateScript repo.client key.repositoryKey
      (leaseKey key.repositoryKey) (fenceKey key.repositoryKey) (managedLeaseValue lease)
      (repo.recordArguments expected lease body ttl)
      (repo.providerArguments provider))
  ensure (commitReply [(-1, .leaseInvalid), (-2, .revisionConflict), (-4, .bindingConflict)]
    "managed consensus provider-state commit returned an invalid revision" expected lease
    body result)

/-- The checks of `CompareAndSwapMigrateConsensus`. -/
def admitCompareAndSwapMigrate (previousKey activeKey : ManagedConversationStorageKey)
    (expected : ℕ) (lease : ManagedConsensusLease) (body : ManagedEncryptedEnvelope)
    (ttl : ℤ) : Except RepositoryError Unit := do
  validateConversationKey previousKey
  validateConversationKey activeKey
  if previousKey.repositoryKey = activeKey.repositoryKey then
    throw (.message "managed consensus migration requires distinct storage keys")
  validateLeaseForKey previousKey lease
  if expected = 2 ^ 64 - 1 then throw (.message "managed consensus revision overflow")
  if body.purpose ≠ .consensusState ∨ body.revision ≠ expected + 1 then
    throw (.message "encrypted consensus payload revision or purpose does not match migration")
  if body.keyVersion ≠ activeKey.keyVersion then
    throw (.message "managed consensus migration payload does not use the active key version")
  repo.validateTTL ttl

def compareAndSwapMigrateConsensus (wire : Transport)
    (previousKey activeKey : ManagedConversationStorageKey) (expected : ℕ)
    (lease : ManagedConsensusLease) (body : ManagedEncryptedEnvelope) (ttl : ℤ) :
    Operation ManagedConsensusRecord := do
  ensure (repo.admitCompareAndSwapMigrate previousKey activeKey expected lease body ttl)
  let result ← runScript wire "migrate managed consensus key version"
    (managedCompareAndSwapMigrateScript repo.client previousKey.repositoryKey
      (leaseKey previousKey.repositoryKey) (fenceKey previousKey.repositoryKey)
      activeKey.repositoryKey (fenceKey activeKey.repositoryKey) (leaseKey activeKey.repositoryKey)
      (managedLeaseValue lease) (repo.recordArguments expected lease body ttl))
  ensure (commitReply [(-1, .leaseInvalid), (-2, .revisionConflict), (-3, .keyConflict)]
    "managed consensus migration returned an invalid revision" expected lease body
    result)

/-- The checks of `CompareAndSwapMigrateConsensusWithProviderState`. -/
def admitCompareAndSwapMigrateWithProviderState
    (previousKey activeKey : ManagedConversationStorageKey) (expected : ℕ)
    (lease : ManagedConsensusLease) (body : ManagedEncryptedEnvelope)
    (provider : ProviderStateWrite) (ttl : ℤ) : Except RepositoryError Unit := do
  validateConversationKey previousKey
  validateConversationKey activeKey
  validateLeaseForKey previousKey lease
  validateProviderStateKey provider.key
  validateConflictKeys provider
  if previousKey.repositoryKey = activeKey.repositoryKey ∨ expected = 2 ^ 64 - 1 ∨
      body.purpose ≠ .consensusState ∨ body.revision ≠ expected + 1 ∨
      body.keyVersion ≠ activeKey.keyVersion ∨
      provider.key.ownerHMAC ≠ activeKey.ownerHMAC ∨
      provider.key.keyVersion ≠ activeKey.keyVersion ∨
      provider.payload.keyVersion ≠ provider.key.keyVersion ∨
      provider.payload.purpose ≠ .providerState ∨ provider.payload.revision ≠ 1 ∨
      Text.isBlank provider.bindingDigest then
    throw (.message "managed consensus provider-state migration payload is invalid")
  repo.validateTTL ttl
  repo.validateTTL provider.ttl

/-- `CompareAndSwapMigrateConsensusWithProviderState`, without the provider record it also
returns, which is what it was given. -/
def compareAndSwapMigrateConsensusWithProviderState (wire : Transport)
    (previousKey activeKey : ManagedConversationStorageKey) (expected : ℕ)
    (lease : ManagedConsensusLease) (body : ManagedEncryptedEnvelope)
    (provider : ProviderStateWrite) (ttl : ℤ) : Operation ManagedConsensusRecord := do
  ensure (repo.admitCompareAndSwapMigrateWithProviderState previousKey activeKey
    expected lease body provider ttl)
  let result ← runScript wire "migrate managed consensus with provider state"
    (managedCompareAndSwapMigrateWithProviderStateScript repo.client
      previousKey.repositoryKey (leaseKey previousKey.repositoryKey)
      (fenceKey previousKey.repositoryKey) activeKey.repositoryKey
      (fenceKey activeKey.repositoryKey) (leaseKey activeKey.repositoryKey)
      (managedLeaseValue lease) (repo.recordArguments expected lease body ttl)
      (repo.providerArguments provider))
  ensure (commitReply [(-1, .leaseInvalid), (-2, .revisionConflict), (-3, .keyConflict),
      (-4, .bindingConflict)]
    "managed consensus provider-state migration returned an invalid revision" expected
    lease body result)

end RedisManagedConsensusRepository

/-- A call of one of the four functions that commit a revision: to the storage key itself or
to the active key that the record migrates to, and with or without a provider state. -/
structure CommitCall where
  storageKey : ManagedConversationStorageKey
  migrateTo : Option ManagedConversationStorageKey
  expectedRevision : ℕ
  lease : ManagedConsensusLease
  payload : ManagedEncryptedEnvelope
  provider : Option ProviderStateWrite
  ttl : ℤ
deriving DecidableEq

def RedisManagedConsensusRepository.commit (repo : RedisManagedConsensusRepository)
    (wire : Transport) (call : CommitCall) : Operation ManagedConsensusRecord :=
  match call.migrateTo, call.provider with
  | none, none =>
    repo.compareAndSwapConsensus wire call.storageKey call.expectedRevision
      call.lease call.payload call.ttl
  | none, some provider =>
    repo.compareAndSwapConsensusWithProviderState wire call.storageKey
      call.expectedRevision call.lease call.payload provider call.ttl
  | some live, none =>
    repo.compareAndSwapMigrateConsensus wire call.storageKey live
      call.expectedRevision call.lease call.payload call.ttl
  | some live, some provider =>
    repo.compareAndSwapMigrateConsensusWithProviderState wire call.storageKey live
      call.expectedRevision call.lease call.payload provider call.ttl

end NewApi.ContextConsensus
