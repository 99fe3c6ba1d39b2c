import NewApi.ContextConsensus.Atomicity

/-!
# What the lease scripts and the deletion do

Each of the four functions that do not commit either leaves the store as it was or makes one
change to the keys of the conversation, which is said here once.
-/

namespace NewApi.ContextConsensus

open Fallible

open Redis (Script Store)

/-! ### Acquiring -/

/-- The number that a fencing counter stands at; a missing counter stands at zero. -/
def counterAt (store : Store) (fence : String) : Option ℤ :=
  match store.textAt fence with
  | .ok current => Redis.integerText (current.getD "0")
  | .error _ => none

/-- The store after a lease was granted with the next number of the counter. -/
def granted (store : Store) (lease fence holderID : String) (n : ℤ) (ttl retention : ℕ) :
    Store :=
  ((store.putText fence (Redis.textOfInteger n) (store.deadlineAt fence)).putText lease
    (holderID ++ ":" ++ Lua.concatText (Lua.ofReply n)) (some (store.now + ttl))).expireIn
      fence retention

theorem run_acquireScript (store : Store) (lease fence holderID : String) {ttl : ℕ}
    (retention : ℕ) (pos : ttl ≠ 0) :
    (∃ n, store.find lease = none ∧ counterAt store fence = some n ∧ n ≠ 2 ^ 63 - 1 ∧
      (managedAcquireLeaseScript lease fence holderID ttl retention).run store =
        .ok (integer (Lua.ofReply (n + 1)))
          (granted store lease fence holderID (n + 1) ttl retention)) ∨
    (store.find lease ≠ none ∧
      (managedAcquireLeaseScript lease fence holderID ttl retention).run store =
        .ok (integer (-1)) store) ∨
    ∃ err, (managedAcquireLeaseScript lease fence holderID ttl retention).run store =
      .error err store := by
  unfold managedAcquireLeaseScript
  simp only [Redis.existsKey, EStateM.run_bind, Redis.run_read]
  cases held : store.find lease with
  | some _ =>
    refine .inr (.inl ⟨by simp, ?_⟩)
    simp
  | none =>
    simp only [Option.isSome_none, Bool.false_eq_true, if_false, EStateM.run_bind, Redis.incr,
      Redis.run_read, counterAt]
    cases stored : store.textAt fence with
    | error err => exact .inr (.inr ⟨err, rfl⟩)
    | ok current =>
      cases n : Redis.integerText (current.getD "0") with
      | none => exact .inr (.inr ⟨.notAnInteger, by simp [n]; rfl⟩)
      | some val =>
        by_cases full : val = 2 ^ 63 - 1
        · exact .inr (.inr ⟨.incrementOverflow, by simp [n, full]⟩)
        · refine .inl ⟨val, trivial, n, full, ?_⟩
          have below : val ≠ 9223372036854775807 := by
            norm_num at full
            exact full
          simp [n, below, Redis.pSetEx, pos, Redis.pExpire, granted, modify, EStateM.run_modifyGet]
          rfl

/-! ### Functions of one script -/

def scriptStore : EStateM.Result Redis.Failure Store Reply → Store
  | .ok _ after => after
  | .error _ after => after

section Scripted

variable {α : Type} {admission : Except RepositoryError Unit} {wire : Transport}
  {op : String} {script : Script Reply} {reply : ℤ → Except RepositoryError α}
  {store : Store}

theorem finalStore_scripted :
    finalStore ((scripted admission wire op script reply).run store) = store ∨
      admission = .ok () ∧ finalStore ((scripted admission wire op script reply).run store) =
          scriptStore (script.run store) := by
  unfold scripted
  cases admission with
  | error _ =>
    left
    simp [EStateM.run_bind, run_ensure, finalStore]
  | ok _ =>
    simp only [EStateM.run_bind, run_ensure, run_runScript]
    cases wire with
    | requestLost =>
      left
      simp [finalStore]
    | replyLost =>
      right
      cases script.run store <;> simp [finalStore, scriptStore]
    | delivered =>
      right
      cases script.run store with
      | error _ _ => simp [finalStore, scriptStore]
      | ok result _ =>
        cases result with
        | none => simp [finalStore, scriptStore]
        | some n =>
          cases read : reply (Lua.toReply n) <;>
            simp [finalStore, scriptStore, read]

theorem scripted_eq_ok {val : α} {after : Store}
    (done : (scripted admission wire op script reply).run store = .ok val after) :
    admission = .ok () ∧ wire = .delivered ∧
      ∃ n, script.run store = .ok (some n) after ∧
        reply (Lua.toReply n) = .ok val := by
  unfold scripted at done
  cases admission with
  | error _ => simp [EStateM.run_bind, run_ensure] at done
  | ok _ =>
    simp only [EStateM.run_bind, run_ensure, run_runScript] at done
    cases wire with
    | requestLost => simp at done
    | replyLost => cases ran : script.run store <;> simp [ran] at done
    | delivered =>
      cases ran : script.run store with
      | error _ _ => simp [ran] at done
      | ok result _ =>
        cases result with
        | none => simp [ran] at done
        | some n =>
          cases read : reply (Lua.toReply n) with
          | error _ => simp [ran, read] at done
          | ok _ =>
            simp only [ran, read, EStateM.Result.ok.injEq] at done
            rcases done with ⟨rfl, rfl⟩
            exact ⟨rfl, rfl, n, rfl, read⟩

end Scripted

theorem acquire_store (repo : RedisManagedConsensusRepository) (wire : Transport)
    (key : ManagedConversationStorageKey) (holderID : String) (ttl : ℤ) (store : Store) :
    finalStore ((repo.acquireConsensusLease wire key holderID ttl).run store) = store ∨
      ∃ n, store.find (leaseKey key.repositoryKey) = none ∧
        counterAt store (fenceKey key.repositoryKey) = some n ∧
        milliseconds ttl ≠ 0 ∧ repo.fencingCounterRetention ≠ 0 ∧
        finalStore ((repo.acquireConsensusLease wire key holderID ttl).run store) =
          granted store (leaseKey key.repositoryKey) (fenceKey key.repositoryKey) holderID
            (n + 1) (milliseconds ttl) repo.fencingCounterRetention := by
  rcases @finalStore_scripted _ _ wire "acquire managed consensus lease" _ _ store with
    kept | ⟨checks, runs⟩
  · exact .inl kept
  · simp only [bind_eq_ok, throw_guard_eq_ok] at checks
    rcases checks with ⟨_, -, -, validTTL⟩
    rcases of_validateTTL validTTL with ⟨pos, retained⟩
    rcases run_acquireScript store (leaseKey key.repositoryKey) (fenceKey key.repositoryKey)
        holderID repo.fencingCounterRetention pos with
      ⟨n, free, counter, -, ran⟩ | ⟨-, ran⟩ | ⟨err, ran⟩
    · right
      rw [ran] at runs
      exact ⟨n, free, counter, pos, retained, runs⟩
    · left
      rw [ran] at runs
      exact runs
    · left
      rw [ran] at runs
      exact runs

theorem acquire_ok {repo : RedisManagedConsensusRepository} {wire : Transport}
    {key : ManagedConversationStorageKey} {holderID : String} {ttl : ℤ} {store after : Store}
    {lease : ManagedConsensusLease}
    (done : (repo.acquireConsensusLease wire key holderID ttl).run store = .ok lease after) :
    ∃ n, store.find (leaseKey key.repositoryKey) = none ∧
      counterAt store (fenceKey key.repositoryKey) = some n ∧
      lease.repositoryKey = key.repositoryKey ∧ lease.holderID = holderID ∧
      Lua.toReply (.finite (Lua.ofReply (n + 1))) = lease.fencingToken ∧
      0 < lease.fencingToken ∧ milliseconds ttl ≠ 0 ∧ repo.fencingCounterRetention ≠ 0 ∧
      after = granted store (leaseKey key.repositoryKey) (fenceKey key.repositoryKey) holderID
        (n + 1) (milliseconds ttl) repo.fencingCounterRetention := by
  rcases scripted_eq_ok done with ⟨checks, -, _, ran, read⟩
  simp only [bind_eq_ok, throw_guard_eq_ok] at checks
  rcases checks with ⟨_, -, -, validTTL⟩
  rcases run_acquireScript store (leaseKey key.repositoryKey) (fenceKey key.repositoryKey)
      holderID repo.fencingCounterRetention (of_validateTTL validTTL).1 with
    ⟨n, free, counter, -, granting⟩ | ⟨-, refusing⟩ | ⟨err, failing⟩
  · rw [granting] at ran
    simp only [integer, EStateM.Result.ok.injEq, Option.some.injEq] at ran
    rcases ran with ⟨rfl, rfl⟩
    split at read
    · cases read
    · split at read
      · cases read
      · rename_i pos
        cases read
        have within := of_validateTTL validTTL
        refine ⟨n, free, counter, rfl, rfl, ?_, ?_, within.1, within.2, rfl⟩
        · simp only
          omega
        · simp only
          omega
  · rw [refusing] at ran
    simp only [integer, EStateM.Result.ok.injEq, Option.some.injEq] at ran
    rcases ran with ⟨rfl, rfl⟩
    have minus : Lua.toReply (.finite ((-1 : ℤ) : ℚ)) = -1 := by decide
    rw [minus] at read
    simp at read
  · rw [failing] at ran
    cases ran

/-! ### Renewing, releasing and deleting -/

theorem leaseGuarded_store (store : Store) (key value : String) (refusal : Reply)
    (rest : Script Reply) :
    scriptStore ((do if (← Redis.get key) ≠ some value then return refusal
                     rest : Script Reply).run store) = store ∨
      store.textAt key = .ok (some value) ∧
        scriptStore ((do if (← Redis.get key) ≠ some value then return refusal
                         rest : Script Reply).run store) = scriptStore (rest.run store) := by
  simp only [Redis.get, EStateM.run_bind, Redis.run_read]
  cases store.textAt key with
  | error _ => exact .inl rfl
  | ok val =>
    by_cases held : val = some value
    · right
      simp [held]
    · left
      simp [held, scriptStore]

theorem renew_store (repo : RedisManagedConsensusRepository) (wire : Transport)
    (lease : ManagedConsensusLease) (ttl : ℤ) (store : Store) :
    finalStore ((repo.renewConsensusLease wire lease ttl).run store) = store ∨
      store.textAt (leaseKey lease.repositoryKey) = .ok (some (managedLeaseValue lease)) ∧
        milliseconds ttl ≠ 0 ∧
        finalStore ((repo.renewConsensusLease wire lease ttl).run store) =
          store.expireIn (leaseKey lease.repositoryKey) (milliseconds ttl) := by
  rcases @finalStore_scripted _ _ wire "renew managed consensus lease" _ _ store with
    kept | ⟨checks, runs⟩
  · exact .inl kept
  · rcases bind_eq_ok.mp checks with ⟨_, -, validTTL⟩
    rcases leaseGuarded_store store (leaseKey lease.repositoryKey) (managedLeaseValue lease) _ _
      with refused | ⟨held, renewed⟩
    · exact .inl (runs.trans refused)
    · exact .inr ⟨held, (of_validateTTL validTTL).1, runs.trans renewed⟩

theorem release_store (wire : Transport) (lease : ManagedConsensusLease) (store : Store) :
    finalStore ((RedisManagedConsensusRepository.releaseConsensusLease wire lease).run
        store) = store ∨
      store.textAt (leaseKey lease.repositoryKey) = .ok (some (managedLeaseValue lease)) ∧
        finalStore ((RedisManagedConsensusRepository.releaseConsensusLease wire lease).run
          store) = store.put (leaseKey lease.repositoryKey) none := by
  rcases @finalStore_scripted _ (validateLease lease) wire
      "release managed consensus lease" _ _ store with kept | ⟨-, runs⟩
  · exact .inl kept
  · rcases leaseGuarded_store store (leaseKey lease.repositoryKey) (managedLeaseValue lease) _ _
      with refused | ⟨held, released⟩
    · exact .inl (runs.trans refused)
    · exact .inr ⟨held, runs.trans released⟩

theorem delete_store (wire : Transport) (key : ManagedConversationStorageKey)
    (expected : ℕ) (lease : ManagedConsensusLease) (store : Store) :
    finalStore ((RedisManagedConsensusRepository.deleteConsensus wire key expected
        lease).run store) = store ∨
      store.textAt (leaseKey key.repositoryKey) = .ok (some (managedLeaseValue lease)) ∧
        finalStore ((RedisManagedConsensusRepository.deleteConsensus wire key
          expected lease).run store) = store.put key.repositoryKey none := by
  rcases @finalStore_scripted _ _ wire "delete managed consensus" _ _ store with
    kept | ⟨-, runs⟩
  · exact .inl kept
  · rcases leaseGuarded_store store (leaseKey key.repositoryKey) (managedLeaseValue lease) _ _
      with refused | ⟨held, goes⟩
    · exact .inl (runs.trans refused)
    · have final := runs.trans goes
      simp only [Redis.hGet, EStateM.run_bind, Redis.run_read] at final
      cases hash : store.hashAt key.repositoryKey with
      | error _ =>
        left
        refine final.trans ?_
        simp [hash, Except.map, scriptStore]
      | ok fields =>
        cases stored : fields.lookup "revision" with
        | none =>
          left
          refine final.trans ?_
          simp [hash, Except.map, scriptStore, stored]
        | some current =>
          by_cases same : current = Decimal.format expected
          · right
            refine ⟨held, ?_⟩
            refine final.trans ?_
            simp only [hash, Except.map, stored, same, ne_eq, not_true, if_false]
            rfl
          · left
            refine final.trans ?_
            simp [hash, Except.map, scriptStore, stored, same]

end NewApi.ContextConsensus
