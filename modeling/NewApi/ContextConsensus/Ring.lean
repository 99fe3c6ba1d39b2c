import NewApi.ContextConsensus.LeaseScript
import NewApi.ContextConsensus.Session

/-!
# The keys of one conversation

The storage keys that the versions of a keyring derive for one conversation, and what a call over
them can do to the three things under each key: the record, the lease and the fencing counter.
-/

namespace NewApi.ContextConsensus

open Redis (Store)
open NewApi.ContextConsensus renaming managedConsensusRepositoryKeyStart → keyStart,
  ManagedConversationStorageKey → StorageKey

/-- The storage keys of a conversation under the versions of a keyring. The digests in a key
are hexadecimal, so they hold no colon. -/
structure Ring where
  keys : List StorageKey
  derived : ∀ key ∈ keys, key.repositoryKey =
    keyStart ++ key.ownerHMAC ++ ":" ++ key.conversationHMAC
  owners : ∀ key ∈ keys, ':' ∉ key.ownerHMAC.toList
  conversations : ∀ key ∈ keys, ':' ∉ key.conversationHMAC.toList

namespace Ring

variable {ring : Ring} {key other : StorageKey}

variable (isKey : key ∈ ring.keys)

include isKey

theorem colons : key.repositoryKey.toList.count ':' = 4 := by
  rw [ring.derived key isKey]
  simp only [String.toList_append, List.count_append, List.count_eq_zero_of_not_mem (ring.owners key
    isKey), List.count_eq_zero_of_not_mem (ring.conversations key isKey)]
  decide

theorem starts : startsWith key.repositoryKey keyStart = true := by
  have itself : startsWith keyStart keyStart = true := by decide
  rw [ring.derived key isKey, String.append_assoc, String.append_assoc]
  exact startsWith_append itself _

theorem ne_leaseKey (isOther : other ∈ ring.keys) :
    key.repositoryKey ≠ leaseKey other.repositoryKey := by
  intro same
  have counts := congrArg (fun text : String => text.toList.count ':') same
  simp only [leaseKey, String.toList_append, List.count_append, colons isKey, colons isOther]
    at counts
  exact absurd counts (by decide)

theorem ne_fenceKey (isOther : other ∈ ring.keys) :
    key.repositoryKey ≠ fenceKey other.repositoryKey := by
  intro same
  have counts := congrArg (fun text : String => text.toList.count ':') same
  simp only [fenceKey, String.toList_append, List.count_append, colons isKey, colons isOther]
    at counts
  exact absurd counts (by decide)

end Ring

/-! ### Calls over the ring -/

def ManagedConsensusLease.OnRing (lease : ManagedConsensusLease) (ring : Ring) : Prop :=
  ∃ key ∈ ring.keys, lease.repositoryKey = key.repositoryKey

def Call.OverRing {State : Type} (ring : Ring) : Call State → Prop
  | .acquire key _ _ => key ∈ ring.keys
  | .renew lease _ => lease.OnRing ring
  | .release lease => lease.OnRing ring
  | .commit call => call.storageKey ∈ ring.keys ∧ ∀ active ∈ call.migrateTo, active ∈ ring.keys
  | .delete key _ _ => key ∈ ring.keys
  | _ => True

def CommitCall.OverRing (call : CommitCall) (ring : Ring) : Prop :=
  call.storageKey ∈ ring.keys ∧ ∀ active ∈ call.migrateTo, active ∈ ring.keys

theorem CommitCall.target_mem {ring : Ring} {call : CommitCall} (inRing : call.OverRing ring) :
    call.target ∈ ring.keys := by
  unfold CommitCall.target
  cases moves : call.migrateTo with
  | none => exact inRing.1
  | some active => exact inRing.2 active moves

/-! ### The fencing counters -/

/-- Every fencing counter of the ring is missing or the decimal text of a number. -/
def CountersReadable (ring : Ring) (store : Store) : Prop :=
  ∀ key ∈ ring.keys, ∃ current, store.textAt (fenceKey key.repositoryKey) = .ok current ∧
    ∀ text ∈ current, ∃ n, text = Decimal.format n

theorem integerText_format_eq {n : ℕ} {val : ℤ}
    (reads : Redis.integerText (Decimal.format n) = some val) : val = n := by
  unfold Redis.integerText at reads
  split at reads
  · rename_i digits spelled
    have signDigit : ('-' : Char).isDigit = true := by
      apply Decimal.isDigit_of_mem
      rw [spelled]
      exact List.mem_cons_self
    exact absurd signDigit (by decide)
  · simp only [Decimal.parse_format, Option.bind_some] at reads
    split at reads
    · exact (Option.some.inj reads).symm
    · cases reads

theorem counterAt_readable {ring : Ring} {store : Store} (readable : CountersReadable ring store)
    {key : StorageKey} (isKey : key ∈ ring.keys) {n : ℤ}
    (counter : counterAt store (fenceKey key.repositoryKey) = some n) :
    ∃ count : ℕ, n = count ∧
      (store.textAt (fenceKey key.repositoryKey) = .ok none ∧ count = 0 ∨
        store.textAt (fenceKey key.repositoryKey) = .ok (some (Decimal.format count))) := by
  rcases readable key isKey with ⟨current, stored, decimal⟩
  simp only [counterAt, stored] at counter
  cases current with
  | none =>
    have zero : ("0" : String) = Decimal.format 0 := by decide
    rw [Option.getD_none, zero] at counter
    exact ⟨0, by simpa using integerText_format_eq counter, .inl ⟨stored, rfl⟩⟩
  | some text =>
    rcases decimal text rfl with ⟨count, rfl⟩
    exact ⟨count, integerText_format_eq counter, .inr stored⟩

/-! ### Where the writes of a call land -/

section Writes

variable {ring : Ring} {store : Store} {key : StorageKey}

theorem find_granted_of_ne {lease fence other : String} (holderID : String) (n : ℤ)
    (ttl retention : ℕ) (notLease : other ≠ lease) (notFence : other ≠ fence) :
    (granted store lease fence holderID n ttl retention).find other = store.find other := by
  unfold granted
  rw [Redis.Store.find_expireIn_ne _ _ notFence, Redis.Store.putText, Redis.Store.find_put_of_ne
    _ _ notLease, Redis.Store.putText, Redis.Store.find_put_of_ne _ _ notFence]

theorem textAt_granted_fence {lease fence : String} (holderID : String) (n : ℤ) (ttl : ℕ)
    {retention : ℕ} (apart : fence ≠ lease) (retained : retention ≠ 0) :
    (granted store lease fence holderID n ttl retention).textAt fence =
      .ok (some (Redis.textOfInteger n)) := by
  have live : (Option.all (fun due => decide (store.now ≤ due))
      (store.deadlineAt fence)) = true := by
    cases found : store.find fence with
    | none => simp [Redis.Store.deadlineAt, found]
    | some _ => simpa [Redis.Store.deadlineAt, found] using Redis.Store.deadline_live found
  simp only [granted, Redis.Store.textAt, Redis.Store.find_expireIn _ _ retained,
    Redis.Store.putText, Redis.Store.find_put_of_ne _ _ apart, Redis.Store.find_put_some, live,
    if_true, Option.map_some]

theorem textAt_granted_lease {lease fence : String} (holderID : String) (n : ℤ)
    (ttl retention : ℕ) (apart : lease ≠ fence) :
    (granted store lease fence holderID n ttl retention).textAt lease =
      .ok (some (holderID ++ ":" ++ Lua.concatText (Lua.ofReply n))) := by
  simp [granted, Redis.Store.textAt, Redis.Store.find_expireIn_ne _ _ apart,
    Redis.Store.putText, Redis.Store.find_put_some]

variable {repo : RedisManagedConsensusRepository} {call : CommitCall}

theorem find_withProvider (admitted : call.Admitted repo) {other : String}
    (isOwn : startsWith other keyStart = true) :
    (call.withProvider repo store).find other = store.find other :=
  CommitCall.find_withProvider_ne fun provider isOwner =>
    (consensus_ne_provider isOwn (admitted.provider provider isOwner).1).symm

theorem find_applied_of_ne (admitted : call.Admitted repo) (inRing : call.OverRing ring)
    (isKey : key ∈ ring.keys) (notTarget : key.repositoryKey ≠ call.target.repositoryKey)
    (notStorage : key.repositoryKey ≠ call.storageKey.repositoryKey) :
    (call.applied repo store).find key.repositoryKey = store.find key.repositoryKey := by
  have isOwn := Ring.starts isKey
  unfold CommitCall.applied
  cases moves : call.migrateTo with
  | none =>
    simp only
    rw [find_withProvider admitted isOwn,
      Redis.Store.find_expireIn_ne _ _ (Ring.ne_fenceKey isKey inRing.1)]
    exact CommitCall.find_recorded_ne notTarget
  | some active =>
    have isActive : active ∈ ring.keys := inRing.2 active moves
    simp only
    rw [Redis.Store.find_put_of_ne _ _ notStorage, find_withProvider admitted isOwn,
      Redis.Store.find_expireIn_ne _ _ (Ring.ne_fenceKey isKey inRing.1),
      Redis.Store.find_expireIn_ne _ _ (Ring.ne_fenceKey isKey isActive),
      find_raiseFence_ne _ _ (Ring.ne_fenceKey isKey isActive)]
    exact CommitCall.find_recorded_ne notTarget

theorem find_applied_lease (admitted : call.Admitted repo) (inRing : call.OverRing ring)
    (isKey : key ∈ ring.keys) :
    (call.applied repo store).find (leaseKey key.repositoryKey) =
      store.find (leaseKey key.repositoryKey) := by
  have isOwn : startsWith (leaseKey key.repositoryKey)
      keyStart = true := startsWith_append (Ring.starts isKey) ":lease"
  have notRecord : leaseKey key.repositoryKey ≠ call.target.repositoryKey :=
    (Ring.ne_leaseKey (CommitCall.target_mem inRing) isKey).symm
  unfold CommitCall.applied
  cases migrates : call.migrateTo with
  | none =>
    simp only
    rw [find_withProvider admitted isOwn, Redis.Store.find_expireIn_ne _ _ (lease_ne_fence _ _)]
    exact CommitCall.find_recorded_ne notRecord
  | some _ =>
    simp only
    rw [Redis.Store.find_put_of_ne _ _ (Ring.ne_leaseKey inRing.1 isKey).symm, find_withProvider
      admitted isOwn, Redis.Store.find_expireIn_ne _ _ (lease_ne_fence _ _),
      Redis.Store.find_expireIn_ne _ _ (lease_ne_fence _ _), find_raiseFence_ne _ _
      (lease_ne_fence _ _)]
    exact CommitCall.find_recorded_ne notRecord

theorem find_applied_migrated {active : StorageKey} (moves : call.migrateTo = some active) :
    (call.applied repo store).find call.storageKey.repositoryKey = none := by
  simp only [CommitCall.applied, moves]
  exact Redis.Store.find_put_none _ _

theorem value_raiseFence_congr {left right : Store} (client : Client) {fence : String}
    (token : String)
    (same : (left.find fence).map Redis.Entry.value = (right.find fence).map Redis.Entry.value) :
    ((raiseFence client left fence token).find fence).map Redis.Entry.value =
      ((raiseFence client right fence token).find fence).map Redis.Entry.value := by
  unfold raiseFence
  rw [Redis.Store.textAt_congr same]
  cases right.textAt fence with
  | error _ => exact same
  | ok _ =>
    simp only
    split
    · simp [Redis.Store.putText, Redis.Store.find_put_some]
    · exact same

theorem textAt_applied_of_ne (admitted : call.Admitted repo) (inRing : call.OverRing ring)
    (isKey : key ∈ ring.keys)
    (notActive : ∀ active ∈ call.migrateTo, key.repositoryKey ≠ active.repositoryKey) :
    (call.applied repo store).textAt (fenceKey key.repositoryKey) =
      store.textAt (fenceKey key.repositoryKey) := by
  apply Redis.Store.textAt_congr
  have isOwn : startsWith (fenceKey key.repositoryKey)
      keyStart = true := startsWith_append (Ring.starts isKey) ":fence"
  have notRecord : fenceKey key.repositoryKey ≠ call.target.repositoryKey :=
    (Ring.ne_fenceKey (CommitCall.target_mem inRing) isKey).symm
  have retained : (call.record repo).retention ≠ 0 := admitted.retention
  unfold CommitCall.applied
  cases moves : call.migrateTo with
  | none =>
    simp only
    rw [find_withProvider admitted isOwn, Redis.Store.find_expireIn_value _ _ _ retained,
      CommitCall.find_recorded_ne notRecord]
  | some active =>
    have diff : fenceKey key.repositoryKey ≠ fenceKey active.repositoryKey :=
      fun same => notActive active moves (fenceKey_injective same)
    simp only
    rw [Redis.Store.find_put_of_ne _ _ (Ring.ne_fenceKey inRing.1 isKey).symm, find_withProvider
      admitted isOwn, Redis.Store.find_expireIn_value _ _ _ retained,
      Redis.Store.find_expireIn_value _ _ _ retained, find_raiseFence_ne _ _ diff,
      CommitCall.find_recorded_ne notRecord]

theorem textAt_applied_active (admitted : call.Admitted repo) (inRing : call.OverRing ring)
    {active : StorageKey} (moves : call.migrateTo = some active) :
    (call.applied repo store).textAt (fenceKey active.repositoryKey) =
      (raiseFence repo.client store (fenceKey active.repositoryKey)
        (Decimal.format call.lease.fencingToken)).textAt (fenceKey active.repositoryKey) := by
  apply Redis.Store.textAt_congr
  have isActive : active ∈ ring.keys := inRing.2 active moves
  have isOwn : startsWith (fenceKey active.repositoryKey) keyStart = true :=
    startsWith_append (Ring.starts isActive) ":fence"
  have notRecord : fenceKey active.repositoryKey ≠ call.target.repositoryKey :=
    (Ring.ne_fenceKey (CommitCall.target_mem inRing) isActive).symm
  have retained : (call.record repo).retention ≠ 0 := admitted.retention
  simp only [CommitCall.applied, moves]
  rw [Redis.Store.find_put_of_ne _ _ (Ring.ne_fenceKey inRing.1 isActive).symm, find_withProvider
    admitted isOwn, Redis.Store.find_expireIn_value _ _ _ retained,
    Redis.Store.find_expireIn_value _ _ _ retained]
  apply value_raiseFence_congr
  rw [CommitCall.find_recorded_ne notRecord]

theorem textAt_raiseFence (client : Client) (store : Store) (fence token : String)
    {current : Option String} (stored : store.textAt fence = .ok current) :
    (raiseFence client store fence token).textAt fence =
      if fenceBelow client current token = .ok true then .ok (some token) else .ok current := by
  unfold raiseFence
  rw [stored]
  simp only
  split
  · simp [Redis.Store.textAt, Redis.Store.putText, Redis.Store.find_put_some]
  · exact stored

end Writes

/-! ### Readable counters stay readable -/

section Counters

variable {ring : Ring} {store : Store} {repo : RedisManagedConsensusRepository}

variable (readable : CountersReadable ring store)

include readable

theorem failure_of_readable {call : CommitCall} (inRing : call.OverRing ring) :
    call.failure repo store = none := by
  cases moves : call.migrateTo with
  | none => simp [CommitCall.failure, moves]
  | some active =>
    rw [CommitCall.failure_eq moves]
    apply CommitCall.fenceFailure_eq_none.mpr
    rcases readable active (inRing.2 active moves) with ⟨current, stored, decimal⟩
    refine ⟨current, stored, ?_⟩
    intro text isText
    rcases decimal text isText with ⟨_, rfl⟩
    simp

theorem CountersReadable.congr {after : Store}
    (same : ∀ key ∈ ring.keys, after.textAt (fenceKey key.repositoryKey) =
      store.textAt (fenceKey key.repositoryKey)) : CountersReadable ring after := by
  intro key isKey
  rw [same key isKey]
  exact readable key isKey

theorem CountersReadable.granted {key : StorageKey} (isKey : key ∈ ring.keys) {n : ℤ}
    (counter : counterAt store (fenceKey key.repositoryKey) = some n) (holderID : String)
    (ttl : ℕ) {retention : ℕ} (retained : retention ≠ 0) :
    CountersReadable ring (ContextConsensus.granted store (leaseKey key.repositoryKey)
      (fenceKey key.repositoryKey) holderID (n + 1) ttl retention) := by
  intro other isOther
  rcases counterAt_readable readable isKey counter with ⟨count, rfl, -⟩
  by_cases same : other.repositoryKey = key.repositoryKey
  · refine ⟨some (Decimal.format (count + 1)), ?_, by simp⟩
    rw [same, textAt_granted_fence _ _ _ (lease_ne_fence _ _).symm retained]
    rfl
  · have diff : fenceKey other.repositoryKey ≠ fenceKey key.repositoryKey :=
      fun equal => same (fenceKey_injective equal)
    rcases readable other isOther with ⟨current, stored, decimal⟩
    refine ⟨current, ?_, decimal⟩
    rw [← stored]
    apply Redis.Store.textAt_congr
    rw [find_granted_of_ne _ _ _ _ (lease_ne_fence _ _).symm diff]

theorem CountersReadable.applied {call : CommitCall} (admitted : call.Admitted repo)
    (inRing : call.OverRing ring) :
    CountersReadable ring (call.applied repo store) := by
  intro key isKey
  by_cases isActive : ∃ active ∈ call.migrateTo, key.repositoryKey = active.repositoryKey
  · rcases isActive with ⟨active, moves, same⟩
    rcases readable key isKey with ⟨current, stored, decimal⟩
    have raised := @textAt_applied_active ring store repo call admitted inRing active moves
    rw [← same, textAt_raiseFence _ _ _ _ stored] at raised
    split at raised
    · exact ⟨_, raised, by simp⟩
    · exact ⟨current, raised, decimal⟩
  · rcases readable key isKey with ⟨current, stored, decimal⟩
    refine ⟨current, ?_, decimal⟩
    rw [← stored]
    apply textAt_applied_of_ne admitted inRing isKey
    intro active moves same
    exact isActive ⟨active, moves, same⟩

theorem CountersReadable.tick (milliseconds : ℕ) :
    CountersReadable ring (store.tick milliseconds) := by
  intro key isKey
  rcases Redis.Store.find_tick_cases store (fenceKey key.repositoryKey) milliseconds with
    gone | same
  · exact ⟨none, by simp [Redis.Store.textAt, gone], by simp⟩
  · rcases readable key isKey with ⟨current, stored, decimal⟩
    refine ⟨current, ?_, decimal⟩
    rw [← stored]
    apply Redis.Store.textAt_congr
    rw [same]

end Counters

/-! ### Stores between runs -/

def SingleRecord (ring : Ring) (store : Store) : Prop :=
  ∀ key ∈ ring.keys, ∀ other ∈ ring.keys, store.find key.repositoryKey ≠ none →
    store.find other.repositoryKey ≠ none → key.repositoryKey = other.repositoryKey

/-- A store as sessions leave it behind: at most one record, whose revision and token are
spelled in decimal and whose token its counter has reached, and no lease. -/
structure Settled (ring : Ring) (store : Store) : Prop where
  readable : CountersReadable ring store
  records : ∀ key ∈ ring.keys, ∀ entry, store.find key.repositoryKey = some entry →
    ∃ fields rev token count, entry.value = .hash fields ∧
      fields.lookup "revision" = some (Decimal.format rev) ∧ 0 < rev ∧
      fields.lookup "fencing_token" = some (Decimal.format token) ∧
      store.textAt (fenceKey key.repositoryKey) = .ok (some (Decimal.format count)) ∧
      token ≤ count
  single : SingleRecord ring store
  unleased : ∀ key ∈ ring.keys, store.find (leaseKey key.repositoryKey) = none

def emptyStore : Store :=
  ⟨0, fun _ => none⟩

theorem settled_emptyStore (ring : Ring) : Settled ring emptyStore := by
  have idle : ∀ key, emptyStore.find key = none := fun _ => rfl
  refine ⟨?_, ?_, ?_, ?_⟩
  · intro _ _
    exact ⟨none, by simp [Redis.Store.textAt, idle], by simp⟩
  · intro _ _ _ found
    simp [idle] at found
  · intro _ _ _ _ present
    exact absurd (idle _) present
  · intro _ _
    exact idle _

end NewApi.ContextConsensus
