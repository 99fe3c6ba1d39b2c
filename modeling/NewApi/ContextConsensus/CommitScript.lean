import NewApi.ContextConsensus.Repository
import NewApi.Library.Fallible

/-!
# What a commit script does

The four commit scripts read, decide and then write. `Verdict` is the decision, as a function of
the store alone; `CommitCall.applied` is the store with every write made.
-/

namespace NewApi.ContextConsensus

open Fallible

open Redis (Script Store)
open NewApi.ContextConsensus renaming ManagedConversationStorageKey → StorageKey,
  RedisManagedConsensusRepository → ConsensusRepository

/-- What the checks of a script come to: it returns a number, a command fails, or all of them
pass. -/
inductive Verdict where
  | refused (reply : ℤ)
  | failed (failure : Redis.Failure)
  | ready
deriving DecidableEq

namespace Verdict

/-- The script's result, given what it does once all checks have passed. -/
def conclude (verdict : Verdict) (store : Store)
    (writes : EStateM.Result Redis.Failure Store Reply) :
    EStateM.Result Redis.Failure Store Reply :=
  match verdict with
  | .refused reply => .ok (integer reply) store
  | .failed failure => .error failure store
  | .ready => writes

def lease (store : Store) (key leaseValue : String) (next : Verdict) : Verdict :=
  match store.textAt key with
  | .error failure => .failed failure
  | .ok val => if val ≠ some leaseValue then .refused (-1) else next

/-- The revision check of a commit in place, where a missing revision counts as zero. -/
def revision (store : Store) (key expected : String) (next : Verdict) : Verdict :=
  match store.hashAt key with
  | .error failure => .failed failure
  | .ok fields =>
    if (fields.lookup "revision").getD "0" ≠ expected then .refused (-2) else next

def previousRevision (store : Store) (key expected : String) (next : Verdict) : Verdict :=
  match store.hashAt key with
  | .error failure => .failed failure
  | .ok fields => if fields.lookup "revision" ≠ some expected then .refused (-2) else next

def target (store : Store) (live activeLease : String) (next : Verdict) : Verdict :=
  if (store.find live).isSome || (store.find activeLease).isSome then .refused (-3) else next

def provider (store : Store) (args : ProviderArguments) (next : Verdict) : Verdict :=
  if args.conflictKeys.any fun key => (store.find key).isSome then .refused (-4)
  else
    match store.hashAt args.key with
    | .error failure => .failed failure
    | .ok fields =>
      if fields.lookup "binding_digest" ≠ none ∧
          fields.lookup "binding_digest" ≠ some args.bindingDigest then .refused (-4)
      else next

def InRange : Verdict → Prop
  | .refused reply => -4 ≤ reply ∧ reply ≤ -1
  | _ => True

section InRange

variable {next : Verdict} (nextInRange : next.InRange) (store : Store)

include nextInRange

theorem lease_inRange (key value : String) : (lease store key value next).InRange := by
  unfold lease
  split
  · trivial
  · split
    · simp [InRange]
    · exact nextInRange

theorem revision_inRange (key expected : String) :
    (revision store key expected next).InRange := by
  unfold revision
  split
  · trivial
  · split
    · simp [InRange]
    · exact nextInRange

theorem previousRevision_inRange (key expected : String) :
    (previousRevision store key expected next).InRange := by
  unfold previousRevision
  split
  · trivial
  · split
    · simp [InRange]
    · exact nextInRange

theorem target_inRange (live lease : String) :
    (target store live lease next).InRange := by
  unfold target
  split
  · simp [InRange]
  · exact nextInRange

theorem provider_inRange (args : ProviderArguments) :
    (provider store args next).InRange := by
  unfold provider
  split
  · simp [InRange]
  · split
    · trivial
    · split
      · simp [InRange]
      · exact nextInRange

end InRange

variable {store : Store} {key : String} {next : Verdict}

theorem lease_eq_ready {value : String} :
    lease store key value next = .ready ↔
      store.textAt key = .ok (some value) ∧ next = .ready := by
  unfold lease
  cases store.textAt key with
  | error _ => simp
  | ok val => by_cases held : val = some value <;> simp [held]

theorem revision_eq_ready {expected : String} :
    revision store key expected next = .ready ↔
      (∃ fields, store.hashAt key = .ok fields ∧
        (fields.lookup "revision").getD "0" = expected) ∧ next = .ready := by
  unfold revision
  cases store.hashAt key with
  | error _ => simp
  | ok fields =>
    by_cases same : (fields.lookup "revision").getD "0" = expected <;> simp [same]

theorem previousRevision_eq_ready {expected : String} :
    previousRevision store key expected next = .ready ↔
      (∃ fields, store.hashAt key = .ok fields ∧
        fields.lookup "revision" = some expected) ∧ next = .ready := by
  unfold previousRevision
  cases store.hashAt key with
  | error _ => simp
  | ok fields => by_cases same : fields.lookup "revision" = some expected <;> simp [same]

theorem target_eq_ready {live lease : String} :
    target store live lease next = .ready ↔
      (store.find live = none ∧ store.find lease = none) ∧ next = .ready := by
  unfold target
  cases store.find live <;> cases store.find lease <;> simp

end Verdict

section Checks

variable (store : Store) {next : Verdict} {writes : EStateM.Result Redis.Failure Store Reply}
  {rest : Script Reply}

theorem run_leaseCheck (key value : String) (goes : rest.run store = next.conclude store writes) :
    (do if (← Redis.get key) ≠ some value then return integer (-1)
        rest : Script Reply).run store =
      (Verdict.lease store key value next).conclude store writes := by
  simp only [Redis.get, EStateM.run_bind, Redis.run_read, Verdict.lease]
  cases store.textAt key with
  | error _ => rfl
  | ok val =>
    by_cases held : val = some value
    · simpa [held] using goes
    · simp [held, Verdict.conclude]

theorem run_revisionCheck (key expected : String) (goes : ∀ fields, store.hashAt key = .ok fields →
      rest.run store = next.conclude store writes) :
    (do let current := (← Redis.hGet key "revision").getD "0"
        if current ≠ expected then return integer (-2)
        rest : Script Reply).run store =
      (Verdict.revision store key expected next).conclude store writes := by
  simp only [Redis.hGet, EStateM.run_bind, Redis.run_read, Verdict.revision]
  cases stored : store.hashAt key with
  | error _ => rfl
  | ok fields =>
    by_cases same : (fields.lookup "revision").getD "0" = expected
    · simpa [Except.map, same] using goes fields stored
    · simp [Except.map, same, Verdict.conclude]

theorem run_previousRevisionCheck (key expected : String)
    (goes : rest.run store = next.conclude store writes) :
    (do if (← Redis.hGet key "revision") ≠ some expected then return integer (-2)
        rest : Script Reply).run store =
      (Verdict.previousRevision store key expected next).conclude store writes := by
  simp only [Redis.hGet, EStateM.run_bind, Redis.run_read, Verdict.previousRevision]
  cases store.hashAt key with
  | error _ => rfl
  | ok fields =>
    by_cases same : fields.lookup "revision" = some expected
    · simpa [Except.map, same] using goes
    · simp [Except.map, same, Verdict.conclude]

theorem run_targetCheck (live lease : String)
    (goes : store.find live = none → rest.run store = next.conclude store writes) :
    (do if (← Redis.existsKey live) || (← Redis.existsKey lease) then
          return integer (-3)
        rest : Script Reply).run store =
      (Verdict.target store live lease next).conclude store writes := by
  simp only [Redis.existsKey, EStateM.run_bind, Redis.run_read, Verdict.target]
  by_cases taken : ((store.find live).isSome || (store.find lease).isSome) = true
  · simp [taken, Verdict.conclude]
  · have free : store.find live = none := by
      simp only [Bool.or_eq_true, not_or, Bool.not_eq_true, Option.isSome_eq_false_iff,
        Option.isNone_iff_eq_none] at taken
      exact taken.1
    simpa [taken] using goes free

theorem run_anyExists (keys : List String) :
    (anyExists keys).run store = .ok (keys.any fun key => (store.find key).isSome) store := by
  induction keys with
  | nil => rfl
  | cons key _ ih =>
    simp only [anyExists, Redis.existsKey, EStateM.run_bind, Redis.run_read]
    by_cases found : (store.find key).isSome = true
    · simp [found]
    · simpa [found] using ih

theorem run_providerCheck (args : ProviderArguments)
    (goes : ∀ fields, store.hashAt args.key = .ok fields →
      rest.run store = next.conclude store writes) :
    (do if ← anyExists args.conflictKeys then return integer (-4)
        let current ← Redis.hGet args.key "binding_digest"
        if current ≠ none ∧ current ≠ some args.bindingDigest then return integer (-4)
        rest : Script Reply).run store =
      (Verdict.provider store args next).conclude store writes := by
  rw [EStateM.run_bind, run_anyExists, Verdict.provider]
  by_cases conflict : (args.conflictKeys.any fun key => (store.find key).isSome) = true
  · simp [conflict, Verdict.conclude]
  · simp only [conflict, Redis.hGet]
    cases stored : store.hashAt args.key with
    | error _ => simp [Except.map, Verdict.conclude, Redis.run_read, stored]
    | ok fields =>
      by_cases other : fields.lookup "binding_digest" ≠ none ∧
          fields.lookup "binding_digest" ≠ some args.bindingDigest
      · simp [Except.map, other, Verdict.conclude, Redis.run_read, stored]
      · simp only [Bool.false_eq_true, if_false, EStateM.run_bind, Redis.run_read, stored,
          Except.map, if_neg other]
        exact goes fields stored

end Checks

/-! ### The writes -/

/-- The store with fields set in a hash that expires after the time to live. -/
def writeHash (store : Store) (key : String) (fields : Redis.Fields) (ttl : ℕ) : Store :=
  (store.putHash key
    (fields.foldl Redis.Fields.assign ((store.hashAt key).toOption.getD []))).expireIn key ttl

theorem run_writeHash {store : Store} {key : String} {current : Redis.Fields}
    (readable : store.hashAt key = .ok current) (fields : Redis.Fields) (ttl : ℕ)
    (rest : Script Reply) :
    (do Redis.hSet key fields
        Redis.pExpire key ttl
        rest : Script Reply).run store = rest.run (writeHash store key fields ttl) := by
  simp [Redis.hSet, Redis.pExpire, EStateM.run_bind, Redis.run_read, readable, writeHash,
    Except.toOption, modify, EStateM.run_modifyGet]

theorem run_pExpire (store : Store) (key : String) (ttl : ℕ) (rest : Script Reply) :
    (do Redis.pExpire key ttl
        rest : Script Reply).run store = rest.run (store.expireIn key ttl) :=
  rfl

theorem run_del (store : Store) (key : String) (rest : Script Reply) :
    (do Redis.del key
        rest : Script Reply).run store = rest.run (store.put key none) :=
  rfl

/-- The store with the active fencing counter raised to the token if it is below it. -/
def raiseFence (client : Client) (store : Store) (activeFence fencingToken : String) : Store :=
  match store.textAt activeFence with
  | .ok current =>
    if fenceBelow client current fencingToken = .ok true then
      store.putText activeFence fencingToken none
    else store
  | .error _ => store

/-- The failure of the comparison with the active fencing counter, if it fails. -/
def fenceFailure (client : Client) (store : Store) (activeFence fencingToken : String) :
    Option Redis.Failure :=
  match store.textAt activeFence with
  | .error failure => some failure
  | .ok current =>
    match fenceBelow client current fencingToken with
    | .error failure => some failure
    | .ok _ => none

theorem run_raiseActiveFence (client : Client) (store : Store) (activeFence fencingToken : String)
    (rest : Script Reply) :
    (do raiseActiveFence client activeFence fencingToken
        rest : Script Reply).run store =
      match fenceFailure client store activeFence fencingToken with
      | some failure => .error failure store
      | none => rest.run (raiseFence client store activeFence fencingToken) := by
  simp only [raiseActiveFence, Redis.get, EStateM.run_bind, Redis.run_read, fenceFailure,
    raiseFence]
  cases store.textAt activeFence with
  | error _ => rfl
  | ok current =>
    cases below : fenceBelow client current fencingToken with
    | error _ => simp [below]
    | ok less =>
      cases less <;> simp [below, Redis.set, modify, EStateM.run_modifyGet]

/-! ### A commit as a whole -/

namespace CommitCall

variable (repo : ConsensusRepository) (call : CommitCall)

def admission : Except RepositoryError Unit :=
  match call.migrateTo, call.provider with
  | none, none =>
    repo.admitCompareAndSwap call.storageKey call.expectedRevision call.lease call.payload call.ttl
  | none, some provider =>
    repo.admitCompareAndSwapWithProviderState call.storageKey call.expectedRevision
      call.lease call.payload provider call.ttl
  | some live, none =>
    repo.admitCompareAndSwapMigrate call.storageKey live call.expectedRevision call.lease
      call.payload call.ttl
  | some live, some provider =>
    repo.admitCompareAndSwapMigrateWithProviderState call.storageKey live
      call.expectedRevision call.lease call.payload provider call.ttl

def record : RecordArguments :=
  repo.recordArguments call.expectedRevision call.lease call.payload call.ttl

def target : StorageKey :=
  call.migrateTo.getD call.storageKey

def script : Script Reply :=
  match call.migrateTo, call.provider with
  | none, none =>
    managedCompareAndSwapScript repo.client call.storageKey.repositoryKey
      (leaseKey call.storageKey.repositoryKey) (fenceKey call.storageKey.repositoryKey)
      (managedLeaseValue call.lease) (call.record repo)
  | none, some provider =>
    managedCompareAndSwapWithProviderStateScript repo.client call.storageKey.repositoryKey
      (leaseKey call.storageKey.repositoryKey) (fenceKey call.storageKey.repositoryKey)
      (managedLeaseValue call.lease) (call.record repo)
      (repo.providerArguments provider)
  | some live, none =>
    managedCompareAndSwapMigrateScript repo.client call.storageKey.repositoryKey
      (leaseKey call.storageKey.repositoryKey) (fenceKey call.storageKey.repositoryKey)
      live.repositoryKey (fenceKey live.repositoryKey) (leaseKey live.repositoryKey)
      (managedLeaseValue call.lease) (call.record repo)
  | some live, some provider =>
    managedCompareAndSwapMigrateWithProviderStateScript repo.client
      call.storageKey.repositoryKey (leaseKey call.storageKey.repositoryKey)
      (fenceKey call.storageKey.repositoryKey) live.repositoryKey
      (fenceKey live.repositoryKey) (leaseKey live.repositoryKey)
      (managedLeaseValue call.lease) (call.record repo)
      (repo.providerArguments provider)

def refusals : List (ℤ × RepositoryError) :=
  match call.migrateTo, call.provider with
  | none, none => [(-1, .leaseInvalid), (-2, .revisionConflict)]
  | none, some _ => [(-1, .leaseInvalid), (-2, .revisionConflict), (-4, .bindingConflict)]
  | some _, none => [(-1, .leaseInvalid), (-2, .revisionConflict), (-3, .keyConflict)]
  | some _, some _ =>
    [(-1, .leaseInvalid), (-2, .revisionConflict), (-3, .keyConflict), (-4, .bindingConflict)]

theorem commit_eq (wire : Transport) :
    ∃ op invalid, repo.commit wire call = (do
      ensure (call.admission repo)
      let result ← runScript wire op (call.script repo)
      ensure (commitReply call.refusals invalid call.expectedRevision call.lease call.payload
        result)) := by
  rcases call with ⟨_, _ | _, _, _, _, _ | _, _⟩ <;>
    exact ⟨_, _, rfl⟩

def providerVerdict (store : Store) : Verdict :=
  match call.provider with
  | none => .ready
  | some provider => .provider store (repo.providerArguments provider) .ready

def verdict (store : Store) : Verdict :=
  .lease store (leaseKey call.storageKey.repositoryKey) (managedLeaseValue call.lease) <|
    match call.migrateTo with
    | none =>
      .revision store call.storageKey.repositoryKey (call.record repo).expectedRevision
        (call.providerVerdict repo store)
    | some live =>
      .previousRevision store call.storageKey.repositoryKey (call.record repo).expectedRevision
        (.target store live.repositoryKey (leaseKey live.repositoryKey)
          (call.providerVerdict repo store))

theorem verdict_inRange (store : Store) : (call.verdict repo store).InRange := by
  have checked : (call.providerVerdict repo store).InRange := by
    unfold providerVerdict
    split
    · trivial
    · exact Verdict.provider_inRange (show Verdict.InRange .ready from trivial) store _
  apply Verdict.lease_inRange
  split
  · exact Verdict.revision_inRange checked store _ _
  · exact Verdict.previousRevision_inRange (Verdict.target_inRange checked store _ _) store _ _

/-- The store with the record written, which is where a failing comparison leaves it. -/
def recorded (store : Store) : Store :=
  writeHash store call.target.repositoryKey (call.record repo).fields (call.record repo).ttl

def withProvider (store : Store) : Store :=
  match call.provider with
  | none => store
  | some provider =>
    writeHash store (repo.providerArguments provider).key
      (repo.providerArguments provider).fields (repo.providerArguments provider).ttl

def applied (store : Store) : Store :=
  match call.migrateTo with
  | none =>
    call.withProvider repo <| (call.recorded repo store).expireIn
      (fenceKey call.storageKey.repositoryKey) (call.record repo).retention
  | some live =>
    let raised := raiseFence repo.client (call.recorded repo store)
      (fenceKey live.repositoryKey) (call.record repo).fencingToken
    let fresh := (raised.expireIn (fenceKey live.repositoryKey)
      (call.record repo).retention).expireIn (fenceKey call.storageKey.repositoryKey)
      (call.record repo).retention
    (call.withProvider repo fresh).put call.storageKey.repositoryKey none

/-- The failure of a migration's comparison with the active fencing counter. -/
def failure (store : Store) : Option Redis.Failure :=
  call.migrateTo.bind fun live =>
    fenceFailure repo.client (call.recorded repo store)
      (fenceKey live.repositoryKey) (call.record repo).fencingToken

def writes (store : Store) : EStateM.Result Redis.Failure Store Reply :=
  match call.failure repo store with
  | some failure => .error failure (call.recorded repo store)
  | none => .ok (integer (Lua.toDouble (call.expectedRevision + 1))) (call.applied repo store)

end CommitCall

/-! ### Keys that differ -/

theorem startsWith_append {text start : String} (starts : startsWith text start = true)
    (rest : String) : startsWith (text ++ rest) start = true := by
  simp only [startsWith, List.isPrefixOf_iff_prefix] at starts ⊢
  rw [String.toList_append]
  exact starts.trans (List.prefix_append _ _)

theorem consensus_ne_provider {consensus provider : String}
    (isOwn : startsWith consensus managedConsensusRepositoryKeyStart = true)
    (isOwner : startsWith provider managedProviderStateRepositoryStart = true) :
    provider ≠ consensus := by
  rintro rfl
  simp only [startsWith, List.isPrefixOf_iff_prefix] at isOwn isOwner
  have shorter : managedConsensusRepositoryKeyStart.toList.length ≤
      managedProviderStateRepositoryStart.toList.length := by decide
  have nested := List.prefix_of_prefix_length_le isOwn isOwner shorter
  rw [← List.isPrefixOf_iff_prefix] at nested
  exact absurd nested (by decide)

theorem append_ne_self {text rest : String} (filled : rest ≠ "") : text ++ rest ≠ text := by
  intro same
  have lengths := congrArg String.length same
  rw [String.length_append] at lengths
  have empty : rest.length = 0 := by omega
  exact filled (String.length_eq_zero_iff.mp empty)

theorem fenceKey_ne_self (key : String) : fenceKey key ≠ key :=
  append_ne_self (by decide)

theorem lease_ne_fence (left right : String) : leaseKey left ≠ fenceKey right := by
  intro same
  have lists := congrArg String.toList same
  simp only [leaseKey, fenceKey, String.toList_append] at lists
  exact absurd (List.append_inj_right' lists (by decide)) (by decide)

theorem leaseKey_injective : Function.Injective leaseKey := by
  intro _ _ same
  have lists := congrArg String.toList same
  simp only [leaseKey, String.toList_append] at lists
  exact String.toList_injective (List.append_cancel_right lists)

theorem fenceKey_injective : Function.Injective fenceKey := by
  intro _ _ same
  have lists := congrArg String.toList same
  simp only [fenceKey, String.toList_append] at lists
  exact String.toList_injective (List.append_cancel_right lists)

/-! ### Reads after writes -/

section Reads

variable {store : Store} {key other : String}

theorem find_writeHash_of_ne (fields : Redis.Fields) (ttl : ℕ) (diff : other ≠ key) :
    (writeHash store key fields ttl).find other = store.find other := by
  rw [writeHash, Redis.Store.find_expireIn_ne _ _ diff, Redis.Store.putHash,
    Redis.Store.find_put_of_ne _ _ diff]

theorem find_writeHash {current : Redis.Fields} (readable : store.hashAt key = .ok current)
    (fields : Redis.Fields) {ttl : ℕ} (pos : ttl ≠ 0) :
    (writeHash store key fields ttl).find key =
      some ⟨.hash (fields.foldl Redis.Fields.assign current), some (store.now + ttl)⟩ := by
  rw [writeHash, Redis.Store.find_expireIn _ _ pos, Redis.Store.find_putHash, readable]
  rfl

theorem find_raiseFence_ne (client : Client) (fencingToken : String) (diff : other ≠ key) :
    (raiseFence client store key fencingToken).find other = store.find other := by
  unfold raiseFence
  split
  · split
    · exact Redis.Store.find_put_of_ne _ _ diff
    · rfl
  · rfl

end Reads

/-! ### What an admitted call has passed -/

/-- What the checks before the script establish, as far as the script relies on it. -/
structure CommitCall.Admitted (repo : ConsensusRepository)
    (call : CommitCall) : Prop where
  storage : startsWith call.storageKey.repositoryKey managedConsensusRepositoryKeyStart = true
  leaseKey : call.lease.repositoryKey = call.storageKey.repositoryKey
  leaseToken : call.lease.fencingToken ≠ 0
  ttl : milliseconds call.ttl ≠ 0
  retention : repo.fencingCounterRetention ≠ 0
  active : ∀ active ∈ call.migrateTo,
    startsWith active.repositoryKey managedConsensusRepositoryKeyStart = true ∧
      call.storageKey.repositoryKey ≠ active.repositoryKey
  provider : ∀ provider ∈ call.provider,
    startsWith provider.key.repositoryKey managedProviderStateRepositoryStart = true ∧
      milliseconds provider.ttl ≠ 0

theorem startsWith_conversation {key : StorageKey} (valid : validateConversationKey key = .ok ()) :
    startsWith key.repositoryKey managedConsensusRepositoryKeyStart = true := by
  unfold validateConversationKey at valid
  split at valid
  · cases valid
  · rename_i passed
    simp only [Bool.or_eq_true, Bool.not_eq_true', not_or, Bool.not_eq_false] at passed
    exact passed.1.1.1

theorem startsWith_providerState {key : ManagedProviderStateStorageKey}
    (valid : validateProviderStateKey key = .ok ()) :
    startsWith key.repositoryKey managedProviderStateRepositoryStart = true := by
  unfold validateProviderStateKey at valid
  split at valid
  · cases valid
  · rename_i passed
    simp only [Bool.or_eq_true, Bool.not_eq_true', not_or, Bool.not_eq_false] at passed
    exact passed.1.1.1

theorem of_validateLeaseForKey {key : StorageKey}
    {lease : ManagedConsensusLease} (valid : validateLeaseForKey key lease = .ok ()) :
    lease.repositoryKey = key.repositoryKey ∧ lease.fencingToken ≠ 0 := by
  unfold validateLeaseForKey at valid
  rcases bind_eq_ok.mp valid with ⟨_, validLease, sameKey⟩
  constructor
  · split at sameKey
    · cases sameKey
    · rename_i same
      exact not_not.mp same
  · unfold validateLease at validLease
    split at validLease
    · cases validLease
    · rename_i passed
      simp only [Bool.or_eq_true, decide_eq_true_eq, not_or] at passed
      exact passed.2

theorem of_validateTTL {repo : ConsensusRepository} {ttl : ℤ}
    (valid : repo.validateTTL ttl = .ok ()) :
    milliseconds ttl ≠ 0 ∧ repo.fencingCounterRetention ≠ 0 := by
  unfold ConsensusRepository.validateTTL at valid
  split at valid
  · cases valid
  · rename_i passed
    simp only [not_or, not_le, not_lt] at passed
    rcases passed with ⟨_, _, nonzero⟩
    refine ⟨nonzero, ?_⟩
    unfold ConsensusRepository.fencingCounterRetention
    unfold milliseconds at nonzero ⊢
    rw [Int.tdiv_eq_ediv_of_nonneg (by omega)] at nonzero ⊢
    omega

theorem CommitCall.Admitted.of_valid {repo : ConsensusRepository} {call : CommitCall}
    (validKey : validateConversationKey call.storageKey = .ok ())
    (valid : validateLeaseForKey call.storageKey call.lease = .ok ())
    (validTTL : repo.validateTTL call.ttl = .ok ())
    (active : ∀ active ∈ call.migrateTo,
      startsWith active.repositoryKey managedConsensusRepositoryKeyStart = true ∧
        call.storageKey.repositoryKey ≠ active.repositoryKey)
    (provider : ∀ provider ∈ call.provider,
      startsWith provider.key.repositoryKey managedProviderStateRepositoryStart = true ∧
        milliseconds provider.ttl ≠ 0) : call.Admitted repo :=
  ⟨startsWith_conversation validKey, (of_validateLeaseForKey valid).1,
    (of_validateLeaseForKey valid).2, (of_validateTTL validTTL).1,
    (of_validateTTL validTTL).2, active, provider⟩

theorem CommitCall.admitted {repo : ConsensusRepository} {call : CommitCall}
    (admits : call.admission repo = .ok ()) : call.Admitted repo := by
  rcases call with ⟨_, _ | live, _, _, _, _ | provider, ttl⟩
  · simp only [admission, ConsensusRepository.admitCompareAndSwap, bind_eq_ok,
      throw_guard_eq_ok] at admits
    rcases admits with ⟨_, validKey, _, valid, _, _, validTTL⟩
    exact .of_valid validKey valid validTTL (by simp) (by simp)
  · simp only [admission, ConsensusRepository.admitCompareAndSwapWithProviderState,
      bind_eq_ok, throw_guard_eq_ok] at admits
    rcases admits with ⟨_, validKey, _, valid, _, validProvider, _, _, _, _, validTTL,
      validProviderTTL⟩
    refine .of_valid validKey valid validTTL (by simp) ?_
    intro _ isOwner
    cases isOwner
    exact ⟨startsWith_providerState validProvider, (of_validateTTL validProviderTTL).1⟩
  · simp only [admission, ConsensusRepository.admitCompareAndSwapMigrate,
      bind_eq_ok, throw_guard_eq_ok] at admits
    rcases admits with ⟨_, validKey, _, validActive, nodup, _, valid, _, _, _, validTTL⟩
    refine .of_valid validKey valid validTTL ?_ (by simp)
    intro _ active
    cases active
    exact ⟨startsWith_conversation validActive, nodup⟩
  · simp only [admission, ConsensusRepository.admitCompareAndSwapMigrateWithProviderState,
      bind_eq_ok, throw_guard_eq_ok] at admits
    rcases admits with ⟨_, validKey, _, validActive, _, valid, _, validProvider, _, _,
      passed, _, validTTL, validProviderTTL⟩
    refine .of_valid validKey valid validTTL ?_ ?_
    · intro _ active
      cases active
      exact ⟨startsWith_conversation validActive, fun same => passed (.inl same)⟩
    · intro _ isOwner
      cases isOwner
      exact ⟨startsWith_providerState validProvider, (of_validateTTL validProviderTTL).1⟩

/-! ### The script follows its verdict -/

namespace CommitCall

variable {repo : ConsensusRepository} {call : CommitCall}

theorem Admitted.fence_ne_provider (admitted : call.Admitted repo)
    {provider : ProviderStateWrite} (isOwner : provider ∈ call.provider) :
    provider.key.repositoryKey ≠ call.storageKey.repositoryKey ∧
      provider.key.repositoryKey ≠ fenceKey call.storageKey.repositoryKey :=
  ⟨consensus_ne_provider admitted.storage (admitted.provider provider isOwner).1,
    consensus_ne_provider (startsWith_append admitted.storage _)
      (admitted.provider provider isOwner).1⟩

theorem Admitted.active_ne_provider (admitted : call.Admitted repo)
    {live : StorageKey} (active : live ∈ call.migrateTo)
    {provider : ProviderStateWrite} (isOwner : provider ∈ call.provider) :
    provider.key.repositoryKey ≠ live.repositoryKey ∧
      provider.key.repositoryKey ≠ fenceKey live.repositoryKey :=
  ⟨consensus_ne_provider (admitted.active live active).1 (admitted.provider provider isOwner).1,
    consensus_ne_provider (startsWith_append (admitted.active live active).1 _)
      (admitted.provider provider isOwner).1⟩

theorem tonumber_nextRevision (repo : ConsensusRepository) (call : CommitCall) :
    Lua.tonumber repo.client.otherNumeral (call.record repo).nextRevision =
      integer (Lua.toDouble (call.expectedRevision + 1)) := by
  have next : (call.record repo).nextRevision = Decimal.format (call.expectedRevision + 1) := rfl
  rw [next, Lua.tonumber_format]
  simp [integer, Lua.Number.ofNat]

/-- What the script of a commit does: its verdict, and its writes when it is ready. -/
theorem run_script (admitted : call.Admitted repo) (store : Store) :
    (call.script repo).run store =
      (call.verdict repo store).conclude store (call.writes repo store) := by
  rcases call with ⟨_, _ | live, _, _, _, _ | provider, _⟩
  · apply run_leaseCheck
    apply run_revisionCheck
    intro _ readable
    rw [run_writeHash readable, tonumber_nextRevision]
    rfl
  · apply run_leaseCheck
    apply run_revisionCheck
    intro _ readable
    apply run_providerCheck
    intro providerFields readableProvider
    have apart := admitted.fence_ne_provider (Option.mem_some_self provider)
    rw [run_writeHash readable, run_pExpire]
    refine Eq.trans (@run_writeHash _ _ providerFields ?_ _ _ _) ?_
    · rw [← readableProvider]
      apply Redis.Store.hashAt_congr
      refine congrArg _ ?_
      exact (Redis.Store.find_expireIn_ne _ _ apart.2).trans (find_writeHash_of_ne _ _ apart.1)
    · rw [tonumber_nextRevision]
      rfl
  · apply run_leaseCheck
    apply run_previousRevisionCheck
    apply run_targetCheck
    intro free
    rw [run_writeHash (Redis.Store.hashAt_of_missing free), run_raiseActiveFence]
    simp only [Verdict.conclude, writes, failure, Option.bind_some, recorded, target,
      Option.getD_some]
    cases fenceFailure _ _ _ _ with
    | some _ => rfl
    | none =>
      simp only [run_pExpire, run_del, tonumber_nextRevision]
      rfl
  · apply run_leaseCheck
    apply run_previousRevisionCheck
    apply run_targetCheck
    intro free
    apply run_providerCheck
    intro providerFields readableProvider
    have apart := admitted.fence_ne_provider (Option.mem_some_self provider)
    have apartActive := admitted.active_ne_provider (Option.mem_some_self live)
      (Option.mem_some_self provider)
    rw [run_writeHash (Redis.Store.hashAt_of_missing free), run_raiseActiveFence]
    simp only [Verdict.conclude, writes, failure, Option.bind_some, recorded, target,
      Option.getD_some]
    cases fenceFailure _ _ _ _ with
    | some _ => rfl
    | none =>
      simp only [run_pExpire]
      refine Eq.trans (@run_writeHash _ _ providerFields ?_ _ _ _) ?_
      · rw [← readableProvider]
        apply Redis.Store.hashAt_congr
        refine congrArg _ ?_
        calc
          _ = _ := Redis.Store.find_expireIn_ne _ _ apart.2
          _ = _ := Redis.Store.find_expireIn_ne _ _ apartActive.2
          _ = _ := find_raiseFence_ne _ _ apartActive.2
          _ = _ := find_writeHash_of_ne _ _ apartActive.1
      · simp only [run_del, tonumber_nextRevision]
        rfl

/-! ### What the writes leave behind -/

theorem lookup_fields (repo : ConsensusRepository) (call : CommitCall) (current : Redis.Fields) :
    let fields := (call.record repo).fields.foldl Redis.Fields.assign current
    fields.lookup "revision" = some (Decimal.format (call.expectedRevision + 1)) ∧
      fields.lookup "fencing_token" = some (Decimal.format call.lease.fencingToken) ∧
      fields.lookup "encrypted_payload" = some (repo.client.marshal call.payload) := by
  simp only [record, RecordArguments.fields, ConsensusRepository.recordArguments,
    List.foldl_cons, List.foldl_nil, Redis.Fields.lookup_assign]
  refine ⟨?_, ?_, ?_⟩ <;> simp

variable {store : Store}

theorem lease_of_ready (ready : call.verdict repo store = .ready) :
    store.textAt (leaseKey call.storageKey.repositoryKey) =
      .ok (some (managedLeaseValue call.lease)) :=
  (Verdict.lease_eq_ready.mp ready).1

theorem revision_of_ready (inPlace : call.migrateTo = none)
    (ready : call.verdict repo store = .ready) :
    ∃ fields, store.hashAt call.storageKey.repositoryKey = .ok fields ∧
      (fields.lookup "revision").getD "0" = Decimal.format call.expectedRevision := by
  have passed := (Verdict.lease_eq_ready.mp ready).2
  simp only [inPlace] at passed
  exact (Verdict.revision_eq_ready.mp passed).1

theorem migration_of_ready {live : StorageKey}
    (moves : call.migrateTo = some live) (ready : call.verdict repo store = .ready) :
    (∃ fields, store.hashAt call.storageKey.repositoryKey = .ok fields ∧
      fields.lookup "revision" = some (Decimal.format call.expectedRevision)) ∧
      store.find live.repositoryKey = none ∧
      store.find (leaseKey live.repositoryKey) = none := by
  have passed := (Verdict.lease_eq_ready.mp ready).2
  simp only [moves] at passed
  rcases Verdict.previousRevision_eq_ready.mp passed with ⟨found, free⟩
  exact ⟨found, (Verdict.target_eq_ready.mp free).1⟩

theorem hashAt_target (ready : call.verdict repo store = .ready) :
    ∃ current, store.hashAt call.target.repositoryKey = .ok current := by
  cases moves : call.migrateTo with
  | none =>
    rcases revision_of_ready moves ready with ⟨fields, readable, -⟩
    exact ⟨fields, by simpa [target, moves] using readable⟩
  | some _ =>
    have free := (migration_of_ready moves ready).2.1
    exact ⟨[], by simpa [target, moves] using Redis.Store.hashAt_of_missing free⟩

theorem find_withProvider_ne {other : String}
    (apart : ∀ provider ∈ call.provider, other ≠ provider.key.repositoryKey) :
    (call.withProvider repo store).find other = store.find other := by
  unfold withProvider
  split
  · rfl
  · rename_i provider provides
    exact find_writeHash_of_ne _ _ (apart provider provides)

theorem find_recorded_ne {other : String} (diff : other ≠ call.target.repositoryKey) :
    (call.recorded repo store).find other = store.find other :=
  find_writeHash_of_ne _ _ diff

theorem value_applied_target (admitted : call.Admitted repo) :
    ((call.applied repo store).find call.target.repositoryKey).map Redis.Entry.value =
      ((call.recorded repo store).find call.target.repositoryKey).map Redis.Entry.value := by
  cases moves : call.migrateTo with
  | none =>
    have here : call.target = call.storageKey := by simp [target, moves]
    simp only [applied, moves, here]
    rw [find_withProvider_ne fun provider isOwner =>
      (admitted.fence_ne_provider isOwner).1.symm]
    exact Redis.Store.find_expireIn_value _ _ _ admitted.retention
  | some live =>
    have here : call.target = live := by simp [target, moves]
    have active : live ∈ call.migrateTo := by simp [moves]
    simp only [applied, moves, here]
    rw [Redis.Store.find_put_of_ne _ _ (admitted.active live active).2.symm,
      find_withProvider_ne fun provider isOwner =>
        (admitted.active_ne_provider active isOwner).1.symm]
    calc
      _ = _ := Redis.Store.find_expireIn_value _ _ _ admitted.retention
      _ = _ := Redis.Store.find_expireIn_value _ _ _ admitted.retention
      _ = _ := by rw [find_raiseFence_ne _ _ (fenceKey_ne_self _).symm]

theorem hashAt_applied_target (admitted : call.Admitted repo)
    (ready : call.verdict repo store = .ready) :
    ∃ current, store.hashAt call.target.repositoryKey = .ok current ∧
      (call.applied repo store).hashAt call.target.repositoryKey =
        .ok ((call.record repo).fields.foldl Redis.Fields.assign current) := by
  rcases hashAt_target ready with ⟨current, readable⟩
  refine ⟨current, readable, ?_⟩
  rw [Redis.Store.hashAt_congr (value_applied_target admitted)]
  have written := find_writeHash readable (call.record repo).fields admitted.ttl
  simp only [Redis.Store.hashAt, recorded]
  erw [written]

end CommitCall

end NewApi.ContextConsensus
