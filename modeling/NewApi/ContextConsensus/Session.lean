import NewApi.ContextConsensus.Atomicity
import NewApi.Library.Concurrent

/-!
# Managed consensus sessions

A session as the program of the calls it makes: it locates the conversation's record among the
storage keys of its keyring, takes the lease, reads the record again, renews, commits with
recovery from lost replies, and releases.
-/

namespace NewApi.ContextConsensus

open Concurrent (Program)
open Redis (Store)
open NewApi.ContextConsensus renaming ManagedConversationStorageKey → StorageKey,
  ManagedEncryptedEnvelope → Envelope

/-- What an envelope is bound to. -/
structure ManagedEncryptionContext where
  repositoryKey : String
  purpose : ManagedEncryptionPurpose
  revision : ℕ

/-- A provider state that a session commits. -/
structure ManagedProviderStateCommit where
  storageKey : ManagedProviderStateStorageKey
  conflictStorageKeys : List ManagedProviderStateStorageKey
  bindingDigest : String
  payload : Envelope
  expiresAtUnix : ℤ

/-- `ManagedConsensusRuntime` of one node, as a session uses it. -/
structure Runtime (State : Type) where
  revision : State → ℕ
  validate : State → Except RepositoryError Unit
  /-- `state.ProviderState != nil`. -/
  hasProviderState : State → Bool
  /-- `providerCommit.Validate(now)` and its comparison with the state's link and binding. -/
  validateProvider : State → ManagedProviderStateCommit → ℤ → Except RepositoryError Unit
  marshal : State → String
  /-- `Cipher.EncryptJSON`, with the random nonce as an argument. -/
  encryptJSON : String → ManagedEncryptionContext → State →
    Except RepositoryError Envelope
  decryptJSON : ManagedEncryptionContext → Envelope → Except RepositoryError State

/-- How `commitWithRecovery` ends. -/
inductive CommitOutcome where
  | succeeded (recovered : Bool)
  | commitFailed
  | outcomeUnknown
  | refused (err : RepositoryError)
deriving DecidableEq

/-- What a session tried to commit. -/
structure Attempt (State : Type) where
  expectedRevision : ℕ
  target : StorageKey
  payload : Envelope
  state : State

/-- What sessions have noted. -/
inductive Note (State : Type) where
  | begins (expected : ℕ)
  | scans (expected : ℕ)
  /-- `BeginManagedConsensusSession` returned a session. -/
  | opened (expected : ℕ)
  /-- `BeginManagedConsensusSession` returned an error after it had acquired the lease. -/
  | abandons
  /-- The session has come to its end. -/
  | closes
  | attempts (attempt : Attempt State)
  | reports (out : CommitOutcome)

/-- What a session asks for: calls of the repository, the local clock, whether its request was
cancelled, random bytes, or a note. -/
inductive Call (State : Type) where
  | hGetAll (key : String)
  | pTTL (key : String)
  | acquire (key : StorageKey) (holderID : String) (ttl : ℤ)
  | renew (lease : ManagedConsensusLease) (ttl : ℤ)
  | release (lease : ManagedConsensusLease)
  | commit (call : CommitCall)
  | delete (key : StorageKey) (expected : ℕ)
      (lease : ManagedConsensusLease)
  | clock
  | cancelled
  | nonce
  | note (note : Note State)

@[reducible]
def Call.Answer {State : Type} : Call State → Type
  | .hGetAll _ => Except RepositoryError Redis.Fields
  | .pTTL _ => Except RepositoryError ℤ
  | .acquire _ _ _ => Except RepositoryError ManagedConsensusLease
  | .renew _ _ => Except RepositoryError ManagedConsensusLease
  | .release _ => Except RepositoryError Unit
  | .commit _ => Except RepositoryError ManagedConsensusRecord
  | .delete _ _ _ => Except RepositoryError Unit
  | .clock => ℤ
  | .cancelled => Bool
  | .nonce => String
  | .note _ => Unit

abbrev Steps (State : Type) := Program (Call State) Call.Answer

section Programs

variable {State : Type} (repo : RedisManagedConsensusRepository) (env : Runtime State)

def ask (req : Call State) : Steps State req.Answer :=
  Program.ask req

def decodeRecord (fields : Redis.Fields) : Except RepositoryError ManagedConsensusRecord :=
  match Decimal.parseUint ((fields.lookup "revision").getD "") with
  | none => .error (.message "managed consensus revision is invalid")
  | some rev =>
    if rev = 0 then .error (.message "managed consensus revision is invalid")
    else
      match Decimal.parseUint ((fields.lookup "fencing_token").getD "") with
      | none => .error (.message "managed consensus fencing token is invalid")
      | some fencingToken =>
        if fencingToken = 0 then
          .error (.message "managed consensus fencing token is invalid")
        else
          match repo.client.unmarshal ((fields.lookup "encrypted_payload").getD "") with
          | none => .error (.message "decode encrypted managed consensus envelope")
          | some body => .ok { revision := rev, fencingToken, payload := body }

def loadConsensus (key : StorageKey) :
    Steps State (Except RepositoryError ManagedConsensusRecord) :=
  match validateConversationKey key with
  | .error err => return .error err
  | .ok () => do
      match ← ask (.hGetAll key.repositoryKey) with
      | .error err => return .error err
      | .ok [] => return .error .notFound
      | .ok fields =>
        match ← ask (.pTTL key.repositoryKey) with
        | .error err => return .error err
        | .ok ttl =>
          if ttl ≤ 0 then
            return .error (.message "managed consensus state has no valid TTL")
          else return decodeRecord repo fields

def loadProviderStateBinding (key : ManagedProviderStateStorageKey) :
    Steps State (Except RepositoryError ManagedProviderStateRecord) :=
  match validateProviderStateKey key with
  | .error err => return .error err
  | .ok () => do
      match ← ask (.hGetAll key.repositoryKey) with
      | .error err => return .error err
      | .ok [] => return .error .bindingNotFound
      | .ok fields =>
        match ← ask (.pTTL key.repositoryKey) with
        | .error err => return .error err
        | .ok ttl =>
          if ttl ≤ 0 then
            return .error (.message "provider state binding has no valid TTL")
          else
            match repo.client.unmarshal
                ((fields.lookup "encrypted_payload").getD "") with
            | none =>
              return .error (.message "decode encrypted provider state binding envelope")
            | some body =>
              let bindingDigest := (fields.lookup "binding_digest").getD ""
              if bindingDigest = "" then
                return .error (.message "provider state binding digest is missing")
              else return .ok { bindingDigest, payload := body }

/-- The loop of `locateManagedConsensusStorageKey`: the matching key so far and the number of
records so far. -/
def locateLoop (expected : ℕ) :
    List StorageKey → Option StorageKey → ℕ →
      Steps State (Except RepositoryError (Option StorageKey × ℕ))
  | [], matched, existingRecords => return .ok (matched, existingRecords)
  | storageKey :: rest, matched, existingRecords => do
      match ← loadConsensus repo storageKey with
      | .error .notFound => locateLoop expected rest matched existingRecords
      | .error err => return .error err
      | .ok record =>
        if record.revision = expected then
          match matched with
          | some _ => return .error .keyConflict
          | none => locateLoop expected rest (some storageKey) (existingRecords + 1)
        else locateLoop expected rest matched (existingRecords + 1)

def locateManagedConsensusStorageKey (storageKeys : List StorageKey)
    (expected : ℕ) : Steps State (Except RepositoryError StorageKey) :=
  match storageKeys with
  | [] => return .error (.message "managed consensus storage keys are unavailable")
  | live :: _ => do
      match ← locateLoop repo expected storageKeys none 0 with
      | .error err => return .error err
      | .ok (matched, existingRecords) =>
        if existingRecords > 1 then return .error .keyConflict
        else if expected = 0 then
          if existingRecords ≠ 0 then return .error .revisionConflict
          else return .ok live
        else
          match matched with
          | some storageKey => return .ok storageKey
          | none =>
            if existingRecords > 0 then return .error .revisionConflict
            else return .error .notFound

/-- The loop of `loadManagedConsensusForSession`: the selected key's record so far and the
number of records so far. -/
def loadLoop (selectedKey : StorageKey) :
    List StorageKey → Option ManagedConsensusRecord → ℕ →
      Steps State (Except RepositoryError (Option ManagedConsensusRecord × ℕ))
  | [], chosen, existingRecords => return .ok (chosen, existingRecords)
  | storageKey :: rest, chosen, existingRecords => do
      match ← loadConsensus repo storageKey with
      | .error .notFound => loadLoop selectedKey rest chosen existingRecords
      | .error err => return .error err
      | .ok record =>
        if storageKey.repositoryKey = selectedKey.repositoryKey then
          loadLoop selectedKey rest (some record) (existingRecords + 1)
        else loadLoop selectedKey rest chosen (existingRecords + 1)

/-- `loadManagedConsensusForSession`. A record that was never assigned has revision zero. -/
def loadManagedConsensusForSession (storageKeys : List StorageKey)
    (selectedKey : StorageKey) (expected : ℕ) :
    Steps State (Except RepositoryError (Option ManagedConsensusRecord)) := do
  match ← loadLoop repo selectedKey storageKeys none 0 with
  | .error err => return .error err
  | .ok (chosen, existingRecords) =>
    if existingRecords > 1 then return .error .keyConflict
    else if expected = 0 then
      if existingRecords ≠ 0 then return .error .revisionConflict
      else return .error .notFound
    else if existingRecords = 0 then return .error .notFound
    else if (chosen.elim 0 (·.revision)) ≠ expected then
      return .error .revisionConflict
    else return .ok chosen

/-- `ManagedConsensusSession`, without the runtime and the state it has read. -/
structure ManagedConsensusSession where
  (storageKey activeStorageKey : StorageKey)
  lease : ManagedConsensusLease
  expectedRevision : ℕ
  leaseTTL : ℤ
  closed : Bool := false
  committed : Bool := false
  released : Bool := false

/-- `BeginManagedConsensusSessionRequest`, with the storage keys that the node's keyring
derives for the conversation, the active one first. -/
structure BeginRequest where
  storageKeys : List StorageKey
  expectedRevision : ℕ
  holderID : String
  leaseTTL : ℤ

/-- `releaseAfterFailedBegin`, and the error that the session did not begin with. -/
def releaseAfterFailedBegin (sess : ManagedConsensusSession) (err : RepositoryError) :
    Steps State (Except RepositoryError ManagedConsensusSession) := do
  let _ ← ask (.release sess.lease)
  ask (.note .abandons)
  return .error err

/-- The part of `BeginManagedConsensusSession` that follows the second reading. -/
def openSession (sess : ManagedConsensusSession)
    (loaded : Except RepositoryError (Option ManagedConsensusRecord)) :
    Steps State (Except RepositoryError ManagedConsensusSession) := do
  if sess.expectedRevision = 0 then
    match loaded with
    | .ok _ => releaseAfterFailedBegin sess .revisionConflict
    | .error .notFound =>
      ask (.note (.opened sess.expectedRevision))
      return .ok sess
    | .error err => releaseAfterFailedBegin sess err
  else
    match loaded with
    | .error err => releaseAfterFailedBegin sess err
    | .ok none => releaseAfterFailedBegin sess .revisionConflict
    | .ok (some record) =>
      if record.revision ≠ sess.expectedRevision then
        releaseAfterFailedBegin sess .revisionConflict
      else
        match env.decryptJSON ⟨sess.storageKey.repositoryKey, .consensusState,
            record.revision⟩ record.payload with
        | .error err => releaseAfterFailedBegin sess err
        | .ok state =>
          match env.validate state with
          | .error err => releaseAfterFailedBegin sess err
          | .ok () =>
            if env.revision state ≠ record.revision then
              releaseAfterFailedBegin sess (.message
                "managed consensus state revision does not match repository metadata")
            else do
              ask (.note (.opened sess.expectedRevision))
              return .ok sess

def beginManagedConsensusSession (req : BeginRequest) :
    Steps State (Except RepositoryError ManagedConsensusSession) := do
  ask (.note (.begins req.expectedRevision))
  match ← locateManagedConsensusStorageKey repo req.storageKeys
      req.expectedRevision with
  | .error err => return .error err
  | .ok storageKey =>
    match ← ask (.acquire storageKey req.holderID req.leaseTTL) with
    | .error err => return .error err
    | .ok lease =>
      ask (.note (.scans req.expectedRevision))
      let sess : ManagedConsensusSession :=
        { storageKey, activeStorageKey := req.storageKeys.headD storageKey, lease
          expectedRevision := req.expectedRevision, leaseTTL := req.leaseTTL }
      let loaded ← loadManagedConsensusForSession repo req.storageKeys storageKey
        req.expectedRevision
      openSession env sess loaded

/-! ### Committing -/

namespace ManagedConsensusSession

variable (sess : ManagedConsensusSession)

def commitStorageKey : StorageKey :=
  if sess.activeStorageKey.repositoryKey ≠ "" then sess.activeStorageKey
  else sess.storageKey

/-- The repository call of `compareAndSwap` and `compareAndSwapWithProviderState`. -/
def commitCall (body : Envelope) (provider : Option ProviderStateWrite) (ttl : ℤ) : CommitCall where
  storageKey := sess.storageKey
  migrateTo :=
    if sess.commitStorageKey.repositoryKey = sess.storageKey.repositoryKey then none
    else some sess.commitStorageKey
  expectedRevision := sess.expectedRevision
  lease := sess.lease
  payload := body
  provider := provider
  ttl := ttl

end ManagedConsensusSession

def compareAndSwap (sess : ManagedConsensusSession) (body : Envelope)
    (providerCommit : Option ManagedProviderStateCommit) (ttl : ℤ) :
    Steps State (Except RepositoryError ManagedConsensusRecord) :=
  match providerCommit with
  | none => ask (.commit (sess.commitCall body none ttl))
  | some commit => do
      let now : ℤ ← ask .clock
      let providerTTL := commit.expiresAtUnix * 1000000000 - now
      if providerTTL ≤ 0 then
        return .error (.message "managed provider state commit expired")
      else
        let provider : ProviderStateWrite :=
          { key := commit.storageKey, conflictKeys := commit.conflictStorageKeys
            bindingDigest := commit.bindingDigest, payload := commit.payload, ttl := providerTTL }
        ask (.commit (sess.commitCall body (some provider) (min ttl providerTTL)))

def managedCommitErrorIsDefinitive : RepositoryError → Bool
  | .revisionConflict | .leaseInvalid | .keyConflict | .bindingConflict => true
  | _ => false

/-- What `resolveCommitOutcome` finds out. -/
inductive Resolution where
  | recovered (record : ManagedConsensusRecord)
  | currentAtExpected
  | unresolved (err : RepositoryError)

/-- The comparison of the stored provider state with the candidate's. -/
def resolveProvider (record : ManagedConsensusRecord)
    (providerCommit : Option ManagedProviderStateCommit) : Steps State Resolution :=
  match providerCommit with
  | none => return .recovered record
  | some commit => do
      match ← loadProviderStateBinding repo commit.storageKey with
      | .error err => return .unresolved err
      | .ok provider =>
        if provider.bindingDigest ≠ commit.bindingDigest ∨
            repo.client.marshal provider.payload ≠ repo.client.marshal commit.payload then
          return .unresolved (.message "managed provider state binding differs from candidate")
        else return .recovered record

/-- The part of `resolveCommitOutcome` that follows its reads of the record. -/
def resolveRecord (sess : ManagedConsensusSession) (cand : State)
    (providerCommit : Option ManagedProviderStateCommit) (record : ManagedConsensusRecord) :
    Steps State Resolution :=
  if record.revision = sess.expectedRevision then return .currentAtExpected
  else if record.revision ≠ env.revision cand ∨
      record.fencingToken ≠ sess.lease.fencingToken then
    return .unresolved (.message "managed consensus repository advanced to an unrelated revision")
  else
    match env.decryptJSON ⟨sess.commitStorageKey.repositoryKey, .consensusState,
        record.revision⟩ record.payload with
    | .error err => return .unresolved err
    | .ok stored =>
      match env.validate stored with
      | .error err => return .unresolved err
      | .ok () =>
        if env.marshal stored ≠ env.marshal cand then
          return .unresolved
            (.message "managed consensus next revision payload differs from candidate")
        else resolveProvider repo record providerCommit

def resolveCommitOutcome (sess : ManagedConsensusSession) (cand : State)
    (providerCommit : Option ManagedProviderStateCommit) : Steps State Resolution := do
  let loaded ← loadConsensus repo sess.commitStorageKey
  let loaded ← match loaded with
    | .error .notFound =>
      if sess.storageKey.repositoryKey ≠ sess.commitStorageKey.repositoryKey then
        loadConsensus repo sess.storageKey
      else pure loaded
    | _ => pure loaded
  match loaded with
  | .error .notFound =>
    if sess.expectedRevision = 0 then return .currentAtExpected
    else return .unresolved .notFound
  | .error err => return .unresolved err
  | .ok record => resolveRecord repo env sess cand providerCommit record

/-- `finishCommit`: the lease is released, and what becomes of that does not matter. -/
def finishCommit (sess : ManagedConsensusSession) : Steps State ManagedConsensusSession := do
  match ← ask (.release sess.lease) with
  | .ok () => return { sess with committed := true, released := true }
  | .error .leaseInvalid => return { sess with committed := true, released := true }
  | .error _ => return { sess with committed := true }

/-- The retry of `commitWithRecovery`, after the lease was renewed. -/
def retryCommit (sess : ManagedConsensusSession) (attempt : Attempt State)
    (providerCommit : Option ManagedProviderStateCommit) (ttl : ℤ) :
    Steps State (ManagedConsensusSession × CommitOutcome) := do
  match ← compareAndSwap sess attempt.payload providerCommit ttl with
  | .ok _ => return (← finishCommit sess, .succeeded false)
  | .error err =>
    if managedCommitErrorIsDefinitive err then return (sess, .commitFailed)
    else
      match ← resolveCommitOutcome repo env sess attempt.state providerCommit with
      | .recovered _ => return (← finishCommit sess, .succeeded true)
      | .currentAtExpected => return (sess, .commitFailed)
      | .unresolved _ => return (sess, .outcomeUnknown)

/-- `commitWithRecovery` from its first attempt on. -/
def commitAttempt (sess : ManagedConsensusSession) (attempt : Attempt State)
    (providerCommit : Option ManagedProviderStateCommit) (ttl : ℤ) :
    Steps State (ManagedConsensusSession × CommitOutcome) := do
  match ← compareAndSwap sess attempt.payload providerCommit ttl with
  | .ok _ => return (← finishCommit sess, .succeeded false)
  | .error err =>
    if managedCommitErrorIsDefinitive err then return (sess, .commitFailed)
    else
      match ← resolveCommitOutcome repo env sess attempt.state providerCommit with
      | .recovered _ => return (← finishCommit sess, .succeeded true)
      | .unresolved _ => return (sess, .outcomeUnknown)
      | .currentAtExpected =>
        let cancelled : Bool ← ask .cancelled
        if cancelled then return (sess, .commitFailed)
        else
          match ← ask (.renew sess.lease sess.leaseTTL) with
          | .error err =>
            if managedCommitErrorIsDefinitive err then return (sess, .commitFailed)
            else return (sess, .outcomeUnknown)
          | .ok renewed =>
            retryCommit repo env { sess with lease := renewed } attempt providerCommit ttl

def plainCommit (sess : ManagedConsensusSession) (attempt : Attempt State) (ttl : ℤ) :
    Steps State (ManagedConsensusSession × CommitOutcome) := do
  match ← compareAndSwap sess attempt.payload none ttl with
  | .ok _ => return (← finishCommit sess, .succeeded false)
  | .error err => return (sess, .refused err)

/-- What a session is to commit: `Commit`, or one of the functions with recovery. -/
structure CommitPlan (State : Type) where
  state : State
  providerCommit : Option ManagedProviderStateCommit
  ttl : ℤ
  recovery : Bool

/-- The checks of `Commit` and `commitWithRecovery` before the first attempt. -/
def admitCommit (sess : ManagedConsensusSession) (plan : CommitPlan State) (now : ℤ) :
    Except RepositoryError Unit := do
  if sess.closed ∨ sess.committed then throw .leaseInvalid
  if sess.expectedRevision = 2 ^ 64 - 1 ∨
      env.revision plan.state ≠ sess.expectedRevision + 1 then throw .revisionConflict
  env.validate plan.state
  if plan.recovery then
    if env.hasProviderState plan.state ≠ plan.providerCommit.isSome then
      throw (.message "managed provider state commit does not match next consensus state")
    match plan.providerCommit with
    | none => pure ()
    | some commit => env.validateProvider plan.state commit now

/-- `Commit`, `CommitWithRecovery` and `CommitWithProviderStateRecovery`. -/
def commitPlanned (sess : ManagedConsensusSession) (plan : CommitPlan State) :
    Steps State (ManagedConsensusSession × CommitOutcome) := do
  let now : ℤ ← ask .clock
  match admitCommit env sess plan now with
  | .error err => return (sess, .refused err)
  | .ok () =>
    let nonce : String ← ask .nonce
    match env.encryptJSON nonce ⟨sess.commitStorageKey.repositoryKey, .consensusState,
        env.revision plan.state⟩ plan.state with
    | .error err => return (sess, .refused err)
    | .ok body =>
      let attempt : Attempt State :=
        { expectedRevision := sess.expectedRevision, target := sess.commitStorageKey
          payload := body, state := plan.state }
      if plan.recovery then
        ask (.note (.attempts attempt))
        let result ← commitAttempt repo env sess attempt plan.providerCommit plan.ttl
        ask (.note (.reports result.2))
        return result
      else plainCommit sess attempt plan.ttl

/-! ### A session from begin to end -/

/-- What a session does with its lease between its begin and its commit. -/
inductive LeaseOperation where
  /-- `Renew`, by the lease guard or by the session's owner. -/
  | renew (ttl : ℤ)
  /-- `DeleteConsensus` under the session's lease. -/
  | delete (expected : ℕ)

/-- What a session asks for, does with its lease, and commits. -/
structure SessionPlan (State : Type) where
  request : BeginRequest
  operations : List LeaseOperation
  commit : Option (CommitPlan State)

/-- The operations before the commit; a renewal that fails closes the session. -/
def runOperations : List LeaseOperation → ManagedConsensusSession →
    Steps State ManagedConsensusSession
  | [], sess => return sess
  | .renew ttl :: rest, sess => do
      if sess.closed ∨ sess.committed then runOperations rest sess
      else
        match ← ask (.renew sess.lease ttl) with
        | .ok renewed => runOperations rest { sess with lease := renewed }
        | .error _ => runOperations rest { sess with closed := true }
  | .delete expected :: rest, sess => do
      let _ ← ask (.delete sess.storageKey expected sess.lease)
      runOperations rest sess

/-- `Close`. -/
def closeSession (sess : ManagedConsensusSession) : Steps State Unit := do
  if sess.released then ask (.note .closes)
  else
    let _ ← ask (.release sess.lease)
    ask (.note .closes)

def runSession (plan : SessionPlan State) : Steps State Unit := do
  match ← beginManagedConsensusSession repo env plan.request with
  | .error _ => return ()
  | .ok sess =>
    let sess ← runOperations plan.operations sess
    match plan.commit with
    | none => closeSession sess
    | some commit =>
      let result ← commitPlanned repo env sess commit
      closeSession result.1

end Programs

/-! ### The shared state -/

/-- What the store has done. -/
inductive Event (State : Type) where
  | issued (t : ℕ) (lease : ManagedConsensusLease)
  | committed (t : ℕ) (wire : Transport) (call : CommitCall)
  | noted (t : ℕ) (note : Note State)

/-- The store and what it has done. -/
structure Shared (State : Type) where
  store : Store
  history : List (Event State)

/-- What a call meets: the network, the clock, the context of the request, and the drawn nonce. -/
structure Choice where
  transport : Transport
  clock : ℤ
  cancelled : Bool
  nonce : String

def readCommand {α : Type} (wire : Transport) (op : String)
    (view : Store → Except Redis.Failure α) (store : Store) : Except RepositoryError α :=
  match wire with
  | .delivered =>
    match view store with
    | .ok val => .ok val
    | .error err => .error (.failed op err)
  | _ => .error (.transport op)

/-- `PTTL`: the time left, -1 for a key without a deadline and -2 for a missing key. -/
def pTTL (store : Store) (key : String) : ℤ :=
  match store.find key with
  | none => -2
  | some entry =>
    match entry.deadline with
    | none => -1
    | some due => (due : ℤ) - store.now

def answerOf {α : Type} : EStateM.Result RepositoryError Store α → Except RepositoryError α
  | .ok val _ => .ok val
  | .error err _ => .error err

def CommitCall.Applies (repo : RedisManagedConsensusRepository) (call : CommitCall)
    (wire : Transport) (store : Store) : Prop :=
  call.admission repo = .ok () ∧ wire ≠ .requestLost ∧
    call.verdict repo store = .ready ∧ call.failure repo store = none
deriving Decidable

def perform {State : Type} (repo : RedisManagedConsensusRepository) (t : ℕ)
    (req : Call State) (pick : Choice) (shared : Shared State) :
    req.Answer × Shared State :=
  match req with
  | .hGetAll key =>
    (readCommand pick.transport "load managed consensus metadata" (·.hashAt key) shared.store,
      shared)
  | .pTTL key =>
    (readCommand pick.transport "load managed consensus TTL" (fun store => .ok (pTTL store key))
      shared.store, shared)
  | .acquire key holderID ttl =>
    let out :=
      (repo.acquireConsensusLease pick.transport key holderID ttl).run shared.store
    let history := match answerOf out with
      | .ok lease => .issued t lease :: shared.history
      | .error _ => shared.history
    (answerOf out, { store := finalStore out, history })
  | .renew lease ttl =>
    let out := (repo.renewConsensusLease pick.transport lease ttl).run shared.store
    (answerOf out, { shared with store := finalStore out })
  | .release lease =>
    let out := (RedisManagedConsensusRepository.releaseConsensusLease pick.transport lease).run
      shared.store
    (answerOf out, { shared with store := finalStore out })
  | .commit call =>
    let out := (repo.commit pick.transport call).run shared.store
    let history := if call.Applies repo pick.transport shared.store then
        .committed t pick.transport call :: shared.history
      else shared.history
    (answerOf out, { store := finalStore out, history })
  | .delete key expected lease =>
    let out := (RedisManagedConsensusRepository.deleteConsensus pick.transport key
      expected lease).run shared.store
    (answerOf out, { shared with store := finalStore out })
  | .clock => (pick.clock, shared)
  | .cancelled => (pick.cancelled, shared)
  | .nonce => (pick.nonce, shared)
  | .note note => ((), { shared with history := .noted t note :: shared.history })

def elapse {State : Type} (milliseconds : ℕ) (shared : Shared State) : Shared State :=
  { shared with store := shared.store.tick milliseconds }

abbrev SessionPool (State : Type) :=
  Concurrent.Pool (Shared State) (Call State) Call.Answer Unit

def SessionPool.step {State : Type} (repo : RedisManagedConsensusRepository) :
    SessionPool State → Concurrent.Action Choice ℕ → SessionPool State :=
  Concurrent.Pool.step (perform repo) elapse

def sessions {State : Type} (repo : RedisManagedConsensusRepository)
    (nodes : ℕ → Runtime State) (plans : ℕ → SessionPlan State) (store : Store) :
    SessionPool State where
  state := ⟨store, []⟩
  threads t := runSession repo (nodes t) (plans t)

end NewApi.ContextConsensus
