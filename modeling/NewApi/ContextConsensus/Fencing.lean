import NewApi.ContextConsensus.Serial

/-!
# Fencing

Runs of sessions under one order of the key versions, in which no fencing counter of the
conversation expires and a record whose creation was not acknowledged outlives the lease it was
created under.
-/

namespace NewApi.ContextConsensus

open Concurrent (Keeps Program)
open Redis (Store)
open Transition (Reachable)

variable {State : Type}

/-! ### The runs -/

/-- The lease that the record was created under is gone, or the record is still there. -/
def Applied.Outlived (commit : Applied) (store : Store) : Prop :=
  store.textAt (leaseKey commit.call.storageKey.repositoryKey) =
      .ok (some (managedLeaseValue commit.call.lease)) →
    store.find commit.call.target.repositoryKey ≠ none
deriving Decidable

/-- The records whose creation was not acknowledged outlive their leases. -/
def Outlived (history : List (Event State)) (store : Store) : Prop :=
  ∀ commit ∈ commitsIn history, commit.Unacknowledged → commit.call.expectedRevision = 0 →
    commit.Outlived store

instance (history : List (Event State)) (store : Store) : Decidable (Outlived history store) :=
  inferInstanceAs (Decidable (∀ commit ∈ commitsIn history, _))

def callFencing (repo : RedisManagedConsensusRepository) (t : ℕ)
    (req : Call State) (pick : Choice) (shared : Shared State) : Prop :=
  Outlived shared.history (perform repo t req pick shared).2.store

instance (repo : RedisManagedConsensusRepository) (t : ℕ) (req : Call State)
    (pick : Choice) (shared : Shared State) :
    Decidable (callFencing repo t req pick shared) :=
  inferInstanceAs (Decidable (Outlived _ _))

/-- The time that passes ends no fencing counter and no record that it has to keep. -/
def timeFencing (ring : Ring) (milliseconds : ℕ) (shared : Shared State) : Prop :=
  (∀ key ∈ ring.keys, shared.store.find (fenceKey key.repositoryKey) ≠ none →
    (shared.store.tick milliseconds).find (fenceKey key.repositoryKey) ≠ none) ∧
  Outlived shared.history (shared.store.tick milliseconds)

instance (ring : Ring) (milliseconds : ℕ) (shared : Shared State) :
    Decidable (timeFencing ring milliseconds shared) :=
  inferInstanceAs (Decidable ((∀ key ∈ ring.keys, _) ∧ _))

/-- The steps that keep the fencing counters and the records of unacknowledged creations. -/
def Fencing (ring : Ring) (repo : RedisManagedConsensusRepository) :
    SessionPool State → Concurrent.Action Choice ℕ → Prop :=
  Concurrent.Pool.Allowed (callFencing repo) (timeFencing ring)

instance (ring : Ring) (repo : RedisManagedConsensusRepository) (pool : SessionPool State)
    (action : Concurrent.Action Choice ℕ) : Decidable (Fencing ring repo pool action) :=
  Concurrent.Pool.decidableAllowed _ _ pool action

/-! ### Counters and leases -/

/-- The number that the fencing counter of a key is stored at, zero if it is not stored. -/
def fenceCounter (store : Store) (repositoryKey : String) : ℕ :=
  match store.textAt (fenceKey repositoryKey) with
  | .ok (some text) => (Decimal.parse text).getD 0
  | _ => 0

section Counters

variable {ring : Ring} {store after : Store} {key : ManagedConversationStorageKey}

theorem fenceCounter_congr {repositoryKey : String}
    (same : after.textAt (fenceKey repositoryKey) = store.textAt (fenceKey repositoryKey)) :
    fenceCounter after repositoryKey = fenceCounter store repositoryKey := by
  rw [fenceCounter, same, fenceCounter]

theorem fenceCounter_of_stored {repositoryKey : String} {n : ℕ}
    (stored : store.textAt (fenceKey repositoryKey) = .ok (some (Decimal.format n))) :
    fenceCounter store repositoryKey = n := by
  simp [fenceCounter, stored]

theorem fenceCounter_of_missing {repositoryKey : String}
    (stored : store.textAt (fenceKey repositoryKey) = .ok none) :
    fenceCounter store repositoryKey = 0 := by
  simp [fenceCounter, stored]

theorem eq_fenceCounter (readable : CountersReadable ring store) (isKey : key ∈ ring.keys)
    {n : ℤ} (counter : counterAt store (fenceKey key.repositoryKey) = some n) :
    n = fenceCounter store key.repositoryKey := by
  rcases counterAt_readable readable isKey counter with ⟨count, rfl, ⟨stored, rfl⟩ | stored⟩
  · rw [fenceCounter_of_missing stored]
  · rw [fenceCounter_of_stored stored]

theorem fenceCounter_granted (n : ℕ) (repositoryKey holderID : String) (ttl : ℕ)
    {retention : ℕ} (retained : retention ≠ 0) :
    fenceCounter (granted store (leaseKey repositoryKey) (fenceKey repositoryKey) holderID
      ((n : ℤ) + 1) ttl retention) repositoryKey = n + 1 := by
  apply fenceCounter_of_stored
  rw [textAt_granted_fence _ _ _ (lease_ne_fence _ _).symm retained]
  rfl

theorem fenceCounter_granted_of_ne {repositoryKey other : String} (diff : other ≠ repositoryKey)
    (n : ℤ) (holderID : String) (ttl retention : ℕ) :
    fenceCounter (granted store (leaseKey repositoryKey) (fenceKey repositoryKey) holderID n
      ttl retention) other = fenceCounter store other := by
  apply fenceCounter_congr
  apply Redis.Store.textAt_congr
  rw [find_granted_of_ne _ _ _ _ (lease_ne_fence _ _).symm
    fun same => diff (fenceKey_injective same)]

theorem fenceCounter_raised (readable : CountersReadable ring store) (isKey : key ∈ ring.keys)
    (client : Client) {token : ℕ} (small : token < 10 ^ 14)
    (raised : after.textAt (fenceKey key.repositoryKey) =
      (raiseFence client store (fenceKey key.repositoryKey) (Decimal.format token)).textAt
        (fenceKey key.repositoryKey)) :
    fenceCounter store key.repositoryKey ≤ fenceCounter after key.repositoryKey ∧
      token ≤ fenceCounter after key.repositoryKey := by
  rcases readable key isKey with ⟨current, stored, decimal⟩
  rw [textAt_raiseFence _ _ _ _ stored] at raised
  cases current with
  | none =>
    rw [fenceCounter_of_missing stored]
    rw [if_pos (show fenceBelow client none (Decimal.format token) = .ok true from rfl)] at raised
    rw [fenceCounter_of_stored raised]
    omega
  | some text =>
    rcases decimal text rfl with ⟨n, rfl⟩
    have comparison : fenceBelow client (some (Decimal.format n)) (Decimal.format token) =
        .ok ((Lua.Number.ofNat n).lt (.ofNat token)) := by
      simp [fenceBelow]
    rw [fenceCounter_of_stored stored]
    rw [comparison] at raised
    split at raised
    · rename_i below
      simp only [Except.ok.injEq, Lua.lt_ofNat_iff] at below
      rw [fenceCounter_of_stored raised]
      omega
    · rename_i notBelow
      simp only [Except.ok.injEq, Lua.lt_ofNat_iff, not_and, not_not] at notBelow
      rw [fenceCounter_of_stored raised]
      refine ⟨le_rfl, ?_⟩
      -- Both numbers are doubles exactly, so that equal roundings are equal numbers.
      by_contra above
      have equal := notBelow (by omega)
      rw [Lua.toDouble_of_le (by omega), Lua.toDouble_of_le (by omega)] at equal
      omega

theorem leaseValue_injective {lease other : ManagedConsensusLease}
    (same : managedLeaseValue lease = managedLeaseValue other) :
    lease.fencingToken = other.fencingToken := by
  have digits : ∀ n, ':' ∉ (Decimal.format n).toList := by
    intro _ occurs
    exact absurd (Decimal.isDigit_of_mem occurs) (by decide)
  have texts := congrArg String.toList same
  simp only [managedLeaseValue, String.toList_append, List.append_assoc] at texts
  have parts := Text.cut_last (digits _) (digits _) texts
  exact Decimal.format_injective (String.toList_injective parts.2)

theorem token_of_leaseText {lease : ManagedConsensusLease} {holderID : String} {n : ℕ}
    (same : managedLeaseValue lease = holderID ++ ":" ++ Lua.concatText (Lua.ofReply (n : ℤ))) :
    lease.fencingToken = n ∧ lease.fencingToken < 10 ^ 14 := by
  have texts := congrArg String.toList same
  simp only [managedLeaseValue, String.toList_append, List.append_assoc] at texts
  have parts := Text.cut_last (fun occurs => absurd (Decimal.isDigit_of_mem occurs)
    (by decide)) ?_ texts
  · exact Lua.eq_of_format_eq_concatText (String.toList_injective parts.2)
  · rw [Lua.ofReply_natCast]
    exact Lua.not_mem_concatText (by decide) (by decide)

theorem token_of_reply {token n : ℕ}
    (reply : Lua.toReply (.finite ((Lua.ofReply ((n : ℤ))) : ℚ)) = (token : ℤ))
    (small : token < 2 ^ 53) : token = n := by
  have val := Lua.toReply_ofNat n
  rw [Lua.ofReply_natCast, Int.cast_natCast, show Lua.Number.finite (Lua.toDouble n : ℚ) =
    Lua.Number.ofNat n from rfl, val] at reply
  split at reply
  · have exact : n ≤ 2 ^ 53 := by
      by_contra large
      have above := Lua.toDouble_mono (show 2 ^ 53 ≤ n by omega)
      rw [Lua.toDouble_of_le le_rfl] at above
      omega
    rw [Lua.toDouble_of_le exact] at reply
    omega
  · omega

end Counters

/-! ### The invariant -/

/-- Leases carry the counters of their keys, and commits the tokens of their leases. -/
structure Fenced (ring : Ring) (live : ManagedConversationStorageKey) (shared : Shared State) :
    Prop where
  leases : ∀ key ∈ ring.keys, ∀ text,
    shared.store.textAt (leaseKey key.repositoryKey) = .ok (some text) → ∃ holderID,
      text = holderID ++ ":" ++
        Lua.concatText (Lua.ofReply (fenceCounter shared.store key.repositoryKey : ℤ))
  issued : ∀ t lease, .issued t lease ∈ shared.history → lease.OnRing ring ∧
    (lease.fencingToken < 2 ^ 53 →
      lease.fencingToken ≤ fenceCounter shared.store lease.repositoryKey)
  holders : ∀ t other lease two, .issued t lease ∈ shared.history →
    .issued other two ∈ shared.history → lease.repositoryKey = two.repositoryKey →
      lease.fencingToken = two.fencingToken → lease.fencingToken < 2 ^ 53 → t = other
  owned : ∀ commit ∈ commitsIn shared.history,
    .issued commit.thread commit.call.lease ∈ shared.history ∧
      commit.call.lease.fencingToken < 10 ^ 14
  covered : ∀ commit ∈ commitsIn shared.history,
    commit.call.lease.fencingToken ≤ fenceCounter shared.store live.repositoryKey
  latest : ∀ commit ∈ commitsIn shared.history,
    commit.call.lease.fencingToken = fenceCounter shared.store live.repositoryKey →
      shared.store.find (leaseKey live.repositoryKey) ≠ none →
        commit.call.lease.repositoryKey = live.repositoryKey
  recorded : ∀ key ∈ ring.keys, ∀ fields, shared.store.hashAt key.repositoryKey = .ok fields →
    ∀ token, fields.lookup "fencing_token" = some (Decimal.format token) →
      token ≤ fenceCounter shared.store key.repositoryKey
  increasing : (commitsIn shared.history).Pairwise fun newer older =>
    older.call.lease.fencingToken < newer.call.lease.fencingToken
  outlived : Outlived shared.history shared.store

section Preservation

variable {repo : RedisManagedConsensusRepository} {ring : Ring}
  {live : ManagedConversationStorageKey} {t : ℕ} {shared after : Shared State}
  {req : Call State} {pick : Choice} {call : CommitCall} {wire : Transport}
  {store : Store}

/-- A step that issues and commits nothing, and leaves the counters and what there still is of
leases and records as they are. -/
structure Settles (ring : Ring) (past after : Shared State) : Prop where
  counters : ∀ key ∈ ring.keys,
    fenceCounter after.store key.repositoryKey = fenceCounter past.store key.repositoryKey
  leases : ∀ key ∈ ring.keys, after.store.find (leaseKey key.repositoryKey) = none ∨
    after.store.textAt (leaseKey key.repositoryKey) =
        past.store.textAt (leaseKey key.repositoryKey) ∧
      past.store.find (leaseKey key.repositoryKey) ≠ none
  records : ∀ key ∈ ring.keys, after.store.find key.repositoryKey = none ∨
    after.store.find key.repositoryKey = past.store.find key.repositoryKey
  commits : commitsIn after.history = commitsIn past.history
  issues : ∀ t lease, .issued t lease ∈ after.history ↔
    .issued t lease ∈ past.history

variable (fenced : Fenced ring live shared)

include fenced

theorem Fenced.settles (settles : Settles ring shared after)
    (isKey : live ∈ ring.keys) (outlived : Outlived after.history after.store) :
    Fenced ring live after := by
  refine ⟨?_, ?_, ?_, ?_, ?_, ?_, ?_, ?_, outlived⟩
  · intro key isKey text stored
    rw [settles.counters key isKey]
    rcases settles.leases key isKey with gone | ⟨same, -⟩
    · simp [Redis.Store.textAt, gone] at stored
    · exact fenced.leases key isKey text (same ▸ stored)
  · intro t lease issued
    rcases fenced.issued t lease ((settles.issues t lease).mp issued) with
      ⟨⟨key, isKey, same⟩, bound⟩
    refine ⟨⟨key, isKey, same⟩, ?_⟩
    rw [same, settles.counters key isKey, ← same]
    exact bound
  · intro t other lease two former latter
    exact fenced.holders t other lease two ((settles.issues _ _).mp former)
      ((settles.issues _ _).mp latter)
  · intro commit applied
    rw [settles.commits] at applied
    exact ⟨(settles.issues _ _).mpr (fenced.owned commit applied).1,
      (fenced.owned commit applied).2⟩
  · intro commit applied
    rw [settles.commits] at applied
    rw [settles.counters live isKey]
    exact fenced.covered commit applied
  · intro commit applied equal leased
    rw [settles.commits] at applied
    rw [settles.counters live isKey] at equal
    rcases settles.leases live isKey with gone | ⟨-, past⟩
    · exact absurd gone leased
    · exact fenced.latest commit applied equal past
  · intro key isKey fields stored token text
    rw [settles.counters key isKey]
    rcases settles.records key isKey with gone | same
    · rw [lookup_of_missing gone stored] at text
      cases text
    · refine fenced.recorded key isKey fields ?_ token text
      rw [← stored]
      apply Redis.Store.hashAt_congr
      rw [same]
  · rw [settles.commits]
    exact fenced.increasing

/-- The grant of a lease keeps the tokens in order. -/
theorem Fenced.granted
    {key : ManagedConversationStorageKey} (isKey : key ∈ ring.keys) (holderID : String) (ttl : ℕ)
    {retention : ℕ} (retained : retention ≠ 0) {history : List (Event State)}
    (records : history = shared.history ∨ ∃ lease : ManagedConsensusLease,
      history = .issued t lease :: shared.history ∧ lease.repositoryKey = key.repositoryKey ∧
        Lua.toReply (.finite (Lua.ofReply
          ((fenceCounter shared.store key.repositoryKey : ℤ) + 1))) = lease.fencingToken)
    (outlived : Outlived history (ContextConsensus.granted shared.store (leaseKey key.repositoryKey)
      (fenceKey key.repositoryKey) holderID
      ((fenceCounter shared.store key.repositoryKey : ℤ) + 1) ttl retention)) :
    Fenced ring live ⟨ContextConsensus.granted shared.store (leaseKey key.repositoryKey)
      (fenceKey key.repositoryKey) holderID
      ((fenceCounter shared.store key.repositoryKey : ℤ) + 1) ttl retention, history⟩ := by
  generalize atKey : fenceCounter shared.store key.repositoryKey = n at *
  have raised := @fenceCounter_granted shared.store n key.repositoryKey holderID ttl _ retained
  have others : ∀ other, other ≠ key.repositoryKey →
      fenceCounter (ContextConsensus.granted shared.store
        (leaseKey key.repositoryKey) (fenceKey key.repositoryKey) holderID ((n : ℤ) + 1) ttl
        retention) other = fenceCounter shared.store other := fun other diff =>
    fenceCounter_granted_of_ne diff _ holderID ttl retention
  have grows : ∀ other, fenceCounter shared.store other ≤
      fenceCounter (ContextConsensus.granted shared.store
        (leaseKey key.repositoryKey) (fenceKey key.repositoryKey) holderID ((n : ℤ) + 1) ttl
        retention) other := by
    intro other
    by_cases same : other = key.repositoryKey
    · rw [same, raised, atKey]
      omega
    · rw [others other same]
  have commits : commitsIn history = commitsIn shared.history := by
    rcases records with same | ⟨lease, same, -⟩
    · rw [same]
    · rw [same, commitsIn_issued]
  -- A new lease is the only one with its number.
  have known : ∀ t lease, .issued t lease ∈ history →
      .issued t lease ∈ shared.history ∨ history = .issued t lease :: shared.history ∧
        lease.repositoryKey = key.repositoryKey ∧
        (lease.fencingToken < 2 ^ 53 → lease.fencingToken = n + 1) := by
    intro _ _ issued
    rcases records with same | ⟨new, same, sameKey, reply⟩
    · exact .inl (same ▸ issued)
    · rw [same] at issued
      rcases List.mem_cons.mp issued with ⟨rfl, rfl⟩ | past
      · exact .inr ⟨same, sameKey, fun small => token_of_reply (by push_cast; exact reply) small⟩
      · exact .inl past
  refine ⟨?_, ?_, ?_, ?_, ?_, ?_, ?_, ?_, outlived⟩
  · intro other isOther _ stored
    by_cases same : other.repositoryKey = key.repositoryKey
    · rw [same] at stored ⊢
      rw [textAt_granted_lease _ _ _ _ (lease_ne_fence _ _)] at stored
      refine ⟨holderID, ?_⟩
      rw [raised]
      push_cast
      exact (Option.some.inj (Except.ok.inj stored)).symm
    · rw [others _ same]
      apply fenced.leases other isOther
      rw [← stored]
      apply Redis.Store.textAt_congr
      rw [find_granted_of_ne _ _ _ _ (fun equal => same (leaseKey_injective equal))
        (lease_ne_fence _ _)]
  · intro holder lease issued
    rcases known holder lease issued with past | ⟨-, sameKey, token⟩
    · rcases fenced.issued holder lease past with ⟨onRing, bound⟩
      exact ⟨onRing, fun small => (bound small).trans (grows _)⟩
    · refine ⟨⟨key, isKey, sameKey⟩, fun small => ?_⟩
      rw [sameKey, raised, token small]
  · intro holder other lease two former latter sameKey sameToken small
    rcases known holder lease former with past | ⟨new, isHere, token⟩
    · rcases known other two latter with beforeOther | ⟨-, isHere, token⟩
      · exact fenced.holders holder other lease two past beforeOther sameKey sameToken small
      · have bound := (fenced.issued holder lease past).2 small
        have above := token (sameToken ▸ small)
        rw [sameKey, isHere, atKey] at bound
        omega
    · rcases known other two latter with past | ⟨newOther, -, -⟩
      · have bound := (fenced.issued other two past).2 (sameToken ▸ small)
        have above := token small
        rw [← sameKey, isHere, atKey] at bound
        omega
      · rw [new] at newOther
        simp only [List.cons.injEq, Event.issued.injEq] at newOther
        exact newOther.1.1
  · intro commit applied
    rw [commits] at applied
    rcases fenced.owned commit applied with ⟨issued, small⟩
    refine ⟨?_, small⟩
    rcases records with same | ⟨lease, same, -⟩
    · rw [same]
      exact issued
    · rw [same]
      exact List.mem_cons_of_mem _ issued
  · intro commit applied
    rw [commits] at applied
    exact (fenced.covered commit applied).trans (grows _)
  · intro commit applied equal leased
    rw [commits] at applied
    by_cases same : live.repositoryKey = key.repositoryKey
    · have bound := fenced.covered commit applied
      simp only at equal
      rw [same, raised] at equal
      rw [same, atKey] at bound
      omega
    · simp only at equal leased
      rw [others _ same] at equal
      rw [find_granted_of_ne _ _ _ _ (fun equal => same (leaseKey_injective equal))
        (lease_ne_fence _ _)] at leased
      exact fenced.latest commit applied equal leased
  · intro other isOther fields stored token text
    refine (fenced.recorded other isOther fields ?_ token text).trans (grows _)
    rw [← stored]
    apply Redis.Store.hashAt_congr
    rw [find_granted_of_ne _ _ _ _ (Ring.ne_leaseKey isOther isKey)
      (Ring.ne_fenceKey isOther isKey)]
  · rw [commits]
    exact fenced.increasing

theorem Fenced.token (ready : Ready ring live t call shared)
    (acts : call.Applies repo wire shared.store) :
    call.lease.fencingToken = fenceCounter shared.store call.storageKey.repositoryKey ∧
      call.lease.fencingToken < 10 ^ 14 := by
  have stored := CommitCall.lease_of_ready acts.2.2.1
  rcases fenced.leases _ ready.overRing.1 _ stored with ⟨holderID, same⟩
  exact token_of_leaseText same

omit fenced

theorem Serial.none_before (serial : Serial ring live shared)
    (ready : Ready ring live t call shared)
    (acts : call.Applies repo wire shared.store) (moves : call.migrateTo ≠ none) :
    commitsIn shared.history = [] := by
  have admitted := CommitCall.admitted acts.1
  by_contra some
  cases active : call.migrateTo with
  | none => exact moves active
  | some next =>
    have goal : next.repositoryKey = live.repositoryKey := by
      rw [← ready.target]
      simp [CommitCall.target, active]
    have diff := (admitted.active next active).2
    rw [goal] at diff
    have missing := serial.moved some _ ready.overRing.1 diff
    rcases CommitCall.migration_of_ready active acts.2.2.1 with ⟨⟨fields, stored, text⟩, -⟩
    rw [lookup_of_missing missing stored] at text
    cases text

theorem Fenced.increases (fenced : Fenced ring live shared) (serial : Serial ring live shared)
    (ready : Ready ring live t call shared) (acts : call.Applies repo wire shared.store) :
    ∀ commit ∈ commitsIn shared.history,
      commit.call.lease.fencingToken < call.lease.fencingToken := by
  rcases fenced.token ready acts with ⟨token, small⟩
  have admitted := CommitCall.admitted acts.1
  have stored := CommitCall.lease_of_ready acts.2.2.1
  intro commit applied
  cases moves : call.migrateTo with
  | some next =>
    rw [serial.none_before ready acts (by simp [moves])] at applied
    cases applied
  | none =>
    have here : call.target = call.storageKey := by simp [CommitCall.target, moves]
    have active : call.storageKey.repositoryKey = live.repositoryKey := here ▸ ready.target
    have bound := fenced.covered commit applied
    rw [← active, ← token] at bound
    rcases Nat.lt_or_eq_of_le bound with below | equal
    · exact below
    · exfalso
      have leased : shared.store.find (leaseKey live.repositoryKey) ≠ none := by
        intro missing
        rw [active] at stored
        simp [Redis.Store.textAt, missing] at stored
      have sameKey : commit.call.lease.repositoryKey = call.lease.repositoryKey := by
        rw [admitted.leaseKey, active]
        exact fenced.latest commit applied (by rw [equal, token, active]) leased
      rcases fenced.owned commit applied with ⟨issued, smallOther⟩
      have mine : commit.thread = t := fenced.holders _ _ _ _ issued ready.issued sameKey
        equal (by omega)
      rcases ready.again commit (mem_commitsBy.mpr ⟨applied, mine⟩) with
        ⟨unacknowledged, sameRevision, sameLease, sameStorage⟩
      -- No token is above this one, so the commit is the newest.
      have newest : commit ∈ (commitsIn shared.history).head? := by
        cases commits : commitsIn shared.history with
        | nil =>
          rw [commits] at applied
          cases applied
        | cons newer older =>
          rw [commits] at applied
          rcases List.mem_cons.mp applied with rfl | past
          · rfl
          · have ordered := fenced.increasing
            rw [commits] at ordered
            have above := (List.pairwise_cons.mp ordered).1 commit past
            have most := fenced.covered newer (by simp [commits])
            rw [← active, ← token] at most
            omega
      rcases acts.revisionAt_storage with found | ⟨creates, -, missing⟩
      · have after := serial.current commit newest _ (found.of_key active)
        omega
      · have kept := fenced.outlived commit applied unacknowledged (by omega)
        have present := kept (by rw [sameStorage, sameLease]; exact stored)
        rw [serial.targets commit applied, ← active] at present
        rcases serial.revisionAt ready.overRing.1 present with ⟨rev, at_⟩
        exact missing rev at_

theorem Fenced.counters_applied (fenced : Fenced ring live shared)
    (serial : Serial ring live shared) (ready : Ready ring live t call shared)
    (acts : call.Applies repo wire shared.store) :
    (∀ key ∈ ring.keys, fenceCounter shared.store key.repositoryKey ≤
      fenceCounter (call.applied repo shared.store) key.repositoryKey) ∧
    (∀ key ∈ ring.keys, (∀ next ∈ call.migrateTo, key.repositoryKey ≠ next.repositoryKey) →
      fenceCounter (call.applied repo shared.store) key.repositoryKey =
        fenceCounter shared.store key.repositoryKey) ∧ call.lease.fencingToken ≤
      fenceCounter (call.applied repo shared.store) live.repositoryKey := by
  rcases fenced.token ready acts with ⟨token, small⟩
  have admitted := CommitCall.admitted acts.1
  have kept : ∀ key ∈ ring.keys, (∀ next ∈ call.migrateTo, key.repositoryKey ≠ next.repositoryKey) →
        fenceCounter (call.applied repo shared.store) key.repositoryKey =
          fenceCounter shared.store key.repositoryKey := fun key isKey diff =>
    fenceCounter_congr (textAt_applied_of_ne admitted ready.overRing isKey diff)
  cases moves : call.migrateTo with
  | none =>
    rw [moves] at kept
    have same : ∀ key ∈ ring.keys, fenceCounter (call.applied repo shared.store) key.repositoryKey =
          fenceCounter shared.store key.repositoryKey := fun key isKey => kept key isKey (by simp)
    have here : call.target = call.storageKey := by simp [CommitCall.target, moves]
    refine ⟨fun key isKey => (same key isKey).ge, fun key isKey _ => same key isKey, ?_⟩
    rw [← ready.target, here, same _ ready.overRing.1]
    exact token.le
  | some next =>
    have isNext : next ∈ ring.keys := ready.overRing.2 next moves
    have goal : next.repositoryKey = live.repositoryKey := by
      rw [← ready.target]
      simp [CommitCall.target, moves]
    have raised := fenceCounter_raised serial.readable isNext repo.client small
      (textAt_applied_active admitted ready.overRing moves)
    rw [moves] at kept
    refine ⟨?_, kept, goal ▸ raised.2⟩
    intro key isKey
    by_cases target : key.repositoryKey = next.repositoryKey
    · rw [target]
      exact raised.1
    · exact (kept key isKey (by rintro _ ⟨rfl⟩; exact target)).ge

theorem CommitCall.Applies.lease_of_migrated (acts : call.Applies repo wire store)
    {next : ManagedConversationStorageKey} (moves : next ∈ call.migrateTo) :
    store.find (leaseKey next.repositoryKey) = none :=
  (CommitCall.migration_of_ready moves acts.2.2.1).2.2

/-- A commit under its lease keeps the tokens in order. -/
theorem Fenced.committed (fenced : Fenced ring live shared)
    (serial : Serial ring live shared) (ready : Ready ring live t call shared)
    (active : live ∈ ring.keys) (acts : call.Applies repo wire shared.store)
    (outlived : Outlived (.committed t wire call :: shared.history)
      (call.applied repo shared.store)) :
    Fenced ring live ⟨call.applied repo shared.store,
      .committed t wire call :: shared.history⟩ := by
  rcases fenced.token ready acts with ⟨token, small⟩
  rcases fenced.counters_applied serial ready acts with ⟨grows, kept, reaches⟩
  have admitted := CommitCall.admitted acts.1
  have leases : ∀ key ∈ ring.keys,
      (call.applied repo shared.store).find (leaseKey key.repositoryKey) =
        shared.store.find (leaseKey key.repositoryKey) := fun key isKey =>
    find_applied_lease admitted ready.overRing isKey
  have issues : ∀ other lease, Event.issued other lease ∈ .committed t wire call :: shared.history ↔
        .issued other lease ∈ shared.history := by
    intro _ _
    simp
  -- The counter of a key that is leased stays as it is.
  have leased : ∀ key ∈ ring.keys, shared.store.find (leaseKey key.repositoryKey) ≠ none →
      fenceCounter (call.applied repo shared.store) key.repositoryKey =
        fenceCounter shared.store key.repositoryKey := by
    intro key isKey present
    apply kept key isKey
    intro _ moves same
    rw [same] at present
    exact present (acts.lease_of_migrated moves)
  refine ⟨?_, ?_, ?_, ?_, ?_, ?_, ?_, ?_, outlived⟩
  · intro key isKey text stored
    have same : shared.store.textAt (leaseKey key.repositoryKey) = .ok (some text) := by
      rw [← stored]
      apply Redis.Store.textAt_congr
      rw [leases key isKey]
    have present : shared.store.find (leaseKey key.repositoryKey) ≠ none := by
      intro missing
      simp [Redis.Store.textAt, missing] at same
    rw [leased key isKey present]
    exact fenced.leases key isKey text same
  · intro other lease issued
    rcases fenced.issued other lease ((issues other lease).mp issued) with
      ⟨⟨key, isKey, same⟩, bound⟩
    refine ⟨⟨key, isKey, same⟩, ?_⟩
    intro smallOther
    have past := bound smallOther
    rw [same] at past ⊢
    exact past.trans (grows key isKey)
  · intro holder other lease two former latter
    exact fenced.holders holder other lease two ((issues _ _).mp former) ((issues _ _).mp latter)
  · intro commit applied
    rcases List.mem_cons.mp applied with rfl | past
    · exact ⟨(issues _ _).mpr ready.issued, small⟩
    · exact ⟨(issues _ _).mpr (fenced.owned commit past).1, (fenced.owned commit past).2⟩
  · intro commit applied
    rcases List.mem_cons.mp applied with rfl | past
    · exact reaches
    · exact (fenced.covered commit past).trans (grows live active)
  · intro commit applied equal present
    simp only [leases live active] at present
    simp only [leased live active present] at equal
    rcases List.mem_cons.mp applied with rfl | past
    · have notMigrated : call.migrateTo = none := by
        cases moves : call.migrateTo with
        | none => rfl
        | some next =>
          have goal : next.repositoryKey = live.repositoryKey := by
            rw [← ready.target]
            simp [CommitCall.target, moves]
          rw [← goal] at present
          exact absurd (acts.lease_of_migrated moves) present
      have here : call.target = call.storageKey := by simp [CommitCall.target, notMigrated]
      rw [← ready.target, here]
      exact admitted.leaseKey
    · exact fenced.latest commit past equal present
  · intro key isKey fields stored n text
    rcases acts.find_cases ready.overRing isKey with target | ⟨-, -, -, gone⟩ | ⟨-, -, same⟩
    · rcases acts.find_target with ⟨written, due, found, -, recorded, -⟩
      have equal : fields = written := by
        simpa [Redis.Store.hashAt, target, found] using stored.symm
      rw [equal, recorded] at text
      rw [← Decimal.format_injective (Option.some.inj text), target, ready.target]
      exact reaches
    · rw [lookup_of_missing gone stored] at text
      cases text
    · refine (fenced.recorded key isKey fields ?_ n text).trans (grows key isKey)
      rw [← stored]
      apply Redis.Store.hashAt_congr
      rw [same]
  · rw [commitsIn_committed]
    exact List.pairwise_cons.mpr ⟨fenced.increases serial ready acts, fenced.increasing⟩

/-- Every call that keeps the sessions apart keeps the tokens in order. -/
theorem fenced_perform (serial : Serial ring live shared) (fenced : Fenced ring live shared)
    (active : live ∈ ring.keys) (needed : serialNeeds ring live t req shared)
    (allowed : callFencing repo t req pick shared) :
    Fenced ring live (perform repo t req pick shared).2 := by
  have inRing := needed.1
  have effect := @perform_effect State repo ring t shared pick serial.readable req inRing
  unfold callFencing at allowed
  generalize (perform repo t req pick shared).2 = after at *
  have unleased : ∀ key, (shared.store.find (leaseKey key) = none ∨
      shared.store.textAt (leaseKey key) = shared.store.textAt (leaseKey key) ∧
        shared.store.find (leaseKey key) ≠ none) := by
    intro key
    by_cases missing : shared.store.find (leaseKey key) = none
    · exact .inl missing
    · exact .inr ⟨rfl, missing⟩
  cases effect with
  | unchanged => exact fenced
  | @granted key holderID ttl pick n history free counter pos retained records =>
    have isKey : key ∈ ring.keys := inRing
    have equal := eq_fenceCounter serial.readable isKey counter
    subst equal
    refine @Fenced.granted State ring live t shared fenced key isKey holderID
      (milliseconds ttl) _ retained history ?_ ?_
    · rcases records with same | ⟨lease, same, sameKey, -, reply, -⟩
      · exact .inl same
      · exact .inr ⟨lease, same, sameKey, reply⟩
    · have commits : commitsIn history = commitsIn shared.history := by
        rcases records with same | ⟨lease, same, -⟩
        · rw [same]
        · rw [same, commitsIn_issued]
      rw [Outlived, commits]
      exact allowed
  | @renewed lease ttl pick held pos =>
    rcases inRing with ⟨owned, isOwned, sameKey⟩
    refine fenced.settles ⟨?_, ?_, ?_, rfl, fun _ _ => Iff.rfl⟩ active allowed
    · intro _ _
      apply fenceCounter_congr
      apply Redis.Store.textAt_congr
      rw [Redis.Store.find_expireIn_ne _ _ (lease_ne_fence _ _).symm]
    · intro key _
      rcases unleased key.repositoryKey with missing | ⟨-, past⟩
      · left
        have val := Redis.Store.find_expireIn_value shared.store
          (leaseKey lease.repositoryKey) (leaseKey key.repositoryKey) pos
        rw [missing] at val
        simpa using val
      · refine .inr ⟨?_, past⟩
        apply Redis.Store.textAt_congr
        exact Redis.Store.find_expireIn_value _ _ _ pos
    · intro _ isKey
      right
      exact Redis.Store.find_expireIn_ne _ _ (sameKey ▸ Ring.ne_leaseKey isKey isOwned)
  | @released lease pick held =>
    rcases inRing with ⟨owned, isOwned, sameKey⟩
    refine fenced.settles ⟨?_, ?_, ?_, rfl, fun _ _ => Iff.rfl⟩ active allowed
    · intro _ _
      apply fenceCounter_congr
      apply Redis.Store.textAt_congr
      rw [Redis.Store.find_put_of_ne _ _ (lease_ne_fence _ _).symm]
    · intro key _
      rcases Redis.Store.find_put_none_cases shared.store (leaseKey lease.repositoryKey)
        (leaseKey key.repositoryKey) with gone | same
      · exact .inl gone
      · rcases unleased key.repositoryKey with missing | ⟨-, past⟩
        · exact .inl (same.trans missing)
        · refine .inr ⟨?_, past⟩
          apply Redis.Store.textAt_congr
          rw [same]
    · intro _ isKey
      right
      exact Redis.Store.find_put_of_ne _ _ (sameKey ▸ Ring.ne_leaseKey isKey isOwned)
  | @deleted owner expectedRevision lease pick held =>
    refine fenced.settles ⟨?_, ?_, ?_, rfl, fun _ _ => Iff.rfl⟩ active allowed
    · intro _ isKey
      apply fenceCounter_congr
      apply Redis.Store.textAt_congr
      rw [Redis.Store.find_put_of_ne _ _ (Ring.ne_fenceKey inRing isKey).symm]
    · intro key isKey
      have same := Redis.Store.find_put_of_ne shared.store none (Ring.ne_leaseKey inRing isKey).symm
      rcases unleased key.repositoryKey with missing | ⟨-, past⟩
      · exact .inl (same.trans missing)
      · refine .inr ⟨?_, past⟩
        apply Redis.Store.textAt_congr
        rw [same]
    · exact fun _ _ => Redis.Store.find_put_none_cases _ _ _
  | @committed call pick acts =>
    refine fenced.committed serial (needed.2 call rfl) active acts ?_
    intro commit applied
    rcases List.mem_cons.mp applied with rfl | past
    · intro _ _ _
      rcases acts.find_target with ⟨fields, due, found, -⟩
      simp [found]
    · exact allowed commit past
  | @noted note pick =>
    refine fenced.settles ⟨fun _ _ => rfl, fun key _ => unleased key.repositoryKey,
      fun _ _ => .inr rfl, rfl, ?_⟩ active allowed
    intro _ _
    simp

theorem fenced_elapse (fenced : Fenced ring live shared) (active : live ∈ ring.keys)
    {milliseconds : ℕ} (allowed : timeFencing ring milliseconds shared) :
    Fenced ring live (elapse milliseconds shared) := by
  refine fenced.settles ⟨?_, ?_, ?_, rfl, fun _ _ => Iff.rfl⟩ active allowed.2
  · intro key isKey
    apply fenceCounter_congr
    apply Redis.Store.textAt_congr
    rcases Redis.Store.find_tick_cases shared.store (fenceKey key.repositoryKey) milliseconds with
      gone | same
    · by_cases missing : shared.store.find (fenceKey key.repositoryKey) = none
      · simp only [elapse, gone, missing]
      · exact absurd gone (allowed.1 key isKey missing)
    · simp only [elapse, same]
  · intro key _
    rcases Redis.Store.find_tick_cases shared.store (leaseKey key.repositoryKey) milliseconds with
      gone | same
    · exact .inl gone
    · by_cases missing : shared.store.find (leaseKey key.repositoryKey) = none
      · exact .inl (same.trans missing)
      · refine .inr ⟨?_, missing⟩
        apply Redis.Store.textAt_congr
        simp only [elapse, same]
  · exact fun _ _ => Redis.Store.find_tick_cases _ _ _

end Preservation

/-! ### All sessions -/

section Runs

variable {repo : RedisManagedConsensusRepository} {nodes : ℕ → Runtime State} {ring : Ring}
  {live : ManagedConversationStorageKey} {plans : ℕ → SessionPlan State} {store : Store}
  {pool : SessionPool State}

theorem fenced_settled (settled : Settled ring store) :
    Fenced ring live (⟨store, []⟩ : Shared State) := by
  refine ⟨?_, by simp, by simp, by simp [commitsIn], by simp [commitsIn], by simp [commitsIn], ?_,
    by simp [commitsIn], by simp [Outlived, commitsIn]⟩
  · intro key isKey _ stored
    simp [Redis.Store.textAt, settled.unleased key isKey] at stored
  · intro key isKey fields stored _ text
    have filled : fields ≠ [] := by
      rintro rfl
      cases text
    rcases find_of_hashAt stored filled with ⟨due, found⟩
    rcases settled.records key isKey _ found with
      ⟨others, rev, recorded, count, hash, -, -, spelled, counter, bound⟩
    cases hash
    rw [spelled] at text
    rw [fenceCounter_of_stored counter, ← Decimal.format_injective (Option.some.inj text)]
    exact bound

theorem holding_of_fencing (settled : Settled ring store) (active : ring.keys.head? = some live)
    (keys : ∀ t, (plans t).request.storageKeys = ring.keys)
    (run : Reachable (SessionPool.step repo) (Fencing ring repo)
      (sessions repo nodes plans store) pool) :
    pool.Holding (perform repo) (fun shared => Serial ring live shared ∧ Fenced ring live shared)
      (SerialRely ring live) (callFencing repo) (serialNeeds ring live)
      (fun _ _ _ => True) := by
  have isKey : live ∈ ring.keys := List.mem_of_mem_head? active
  refine serial_holding settled active keys run (fenced_settled settled) ?_ ?_
  · intro _ _ _ _ serial fenced needed allowed
    exact fenced_perform serial fenced isKey needed allowed
  · intro milliseconds shared _ fenced allowed
    exact fenced_elapse fenced isKey allowed

theorem holder_of_fenced {shared : Shared State} {t other : ℕ} {call : CommitCall}
    {wire : Transport} {lease : ManagedConsensusLease} (fenced : Fenced ring live shared)
    (ready : Ready ring live t call shared) (acts : call.Applies repo wire shared.store)
    (issued : .issued other lease ∈ shared.history)
    (sameKey : lease.repositoryKey = call.lease.repositoryKey)
    (sameValue : managedLeaseValue lease = managedLeaseValue call.lease) : other = t := by
  have token := leaseValue_injective sameValue
  have small := (fenced.token ready acts).2
  exact fenced.holders _ _ _ _ issued ready.issued sameKey token (by omega)

end Runs

def Sending (repo : RedisManagedConsensusRepository) (pool : SessionPool State) (t : ℕ)
    (wire : Transport) (call : CommitCall) : Prop :=
  (∃ next, pool.threads t = .call (.commit call) next) ∧
    call.Applies repo wire pool.state.store

/-- In every run the commits form one sequence: each finds its lease stored and the record at the
revision its session has read, and leaves the only record at the next one. As long as fencing
counters and the records of unacknowledged creations are kept, each moreover carries a token above
those of all commits before it, only the session that the stored lease was issued to can commit
under it, and the counters have reached every token that was issued, committed or recorded. -/
theorem commits_serial_and_fenced {repo : RedisManagedConsensusRepository}
    {nodes : ℕ → Runtime State} {ring : Ring} {live : ManagedConversationStorageKey}
    {plans : ℕ → SessionPlan State} {store : Store} (settled : Settled ring store)
    (isActive : ring.keys.head? = some live)
    (keys : ∀ t, (plans t).request.storageKeys = ring.keys) :
    (∀ pool, Reachable (SessionPool.step repo) Transition.Unrestricted
        (sessions repo nodes plans store) pool →
      (commitsIn pool.state.history).IsChain Follows ∧
      (∀ newest ∈ (commitsIn pool.state.history).head?, ∀ rev,
        RevisionAt pool.state.store live rev →
          rev = newest.call.expectedRevision + 1) ∧
      ∀ t wire call, Sending repo pool t wire call →
        Advances ring t call pool.state (call.applied repo pool.state.store)) ∧
    ∀ pool, Reachable (SessionPool.step repo) (Fencing ring repo)
        (sessions repo nodes plans store) pool →
      (commitsIn pool.state.history).Pairwise (fun newer older =>
        older.call.lease.fencingToken < newer.call.lease.fencingToken) ∧
      (∀ t lease, .issued t lease ∈ pool.state.history → lease.fencingToken < 2 ^ 53 →
        lease.fencingToken ≤ fenceCounter pool.state.store lease.repositoryKey) ∧
      (∀ commit ∈ commitsIn pool.state.history,
        commit.call.lease.fencingToken ≤ fenceCounter pool.state.store live.repositoryKey) ∧
      (∀ key ∈ ring.keys, ∀ fields, pool.state.store.hashAt key.repositoryKey = .ok fields →
        ∀ token, fields.lookup "fencing_token" = some (Decimal.format token) →
          token ≤ fenceCounter pool.state.store key.repositoryKey) ∧
      ∀ t wire call, Sending repo pool t wire call →
        ∀ other lease, .issued other lease ∈ pool.state.history →
          lease.repositoryKey = call.lease.repositoryKey →
            managedLeaseValue lease = managedLeaseValue call.lease → other = t := by
  refine ⟨?_, ?_⟩
  · intro pool reached
    have anyStep : Reachable (SessionPool.step repo)
        (Concurrent.Pool.Allowed (fun _ _ _ _ => True) fun _ _ => True)
        (sessions repo nodes plans store) pool := by
      apply reached.mono
      intro pool action _
      cases action with
      | occur milliseconds => trivial
      | perform t pick =>
        simp only [Concurrent.Pool.Allowed]
        split <;> trivial
    have holding : pool.Holding (perform repo)
        (fun shared => Serial ring live shared ∧ True) (SerialRely ring live)
        (fun _ _ _ _ => True) (serialNeeds ring live) (fun _ _ _ => True) :=
      serial_holding settled isActive keys anyStep trivial (fun _ _ _ _ _ _ _ _ => trivial)
        fun _ _ _ _ _ => trivial
    have serial := holding.state.1
    refine ⟨serial.ordered, serial.current, ?_⟩
    rintro t wire call ⟨⟨next, sends⟩, applies⟩
    exact serial.advances (ready_of_holding holding sends) applies
  · intro _ reached
    have holding := holding_of_fencing settled isActive keys reached
    have fenced := holding.state.2
    refine ⟨fenced.increasing, fun t lease issued => (fenced.issued t lease issued).2,
      fenced.covered, fenced.recorded, ?_⟩
    rintro t wire call ⟨⟨next, sends⟩, applies⟩ other lease issued
    exact holder_of_fenced fenced (ready_of_holding holding sends) applies issued

/-! ### A conversation that is continued and two that are created twice -/

/-- Sessions of nodes with one order of the key versions: the first creates the conversation, with
a record that lives for some seconds, and the others expect some revision. -/
def continuingPlans (seconds : ℤ) (laterRevision t : ℕ) : SessionPlan ℕ where
  request := ⟨["v1", "v2"].map sampleKey, if t = 0 then 0 else laterRevision, "request",
    60 * 10 ^ 9⟩
  operations := []
  commit := some ⟨(if t = 0 then 0 else laterRevision) + 1, none, seconds * 10 ^ 9, true⟩

def continuedAfter (seconds : ℤ) (laterRevision : ℕ)
    (actions : List (Concurrent.Action Choice ℕ)) : SessionPool ℕ :=
  actions.foldl (SessionPool.step sampleServer)
    (sessions sampleServer (fun _ => sampleNode "v1") (continuingPlans seconds laterRevision)
      emptyStore)

def continuedRun : List (Concurrent.Action Choice ℕ) :=
  List.replicate 15 (sampleCall 0 .delivered) ++ [.occur 1000] ++
    List.replicate 20 (sampleCall 1 .delivered)

def forgottenRun : List (Concurrent.Action Choice ℕ) :=
  List.replicate 15 (sampleCall 0 .delivered) ++ [.occur 172800001] ++
    List.replicate 15 (sampleCall 1 .delivered)

/-- The reply to the first session's commit is lost, and its record expires before its lease. -/
def repeatedRun : List (Concurrent.Action Choice ℕ) :=
  unacknowledgedRun ++ [.occur 1001] ++ List.replicate 4 (sampleCall 0 .delivered)

def tokensIn (history : List (Event State)) : List ℕ :=
  (commitsIn history).map (·.call.lease.fencingToken)

theorem continuingPlans_keys (seconds : ℤ) (laterRevision t : ℕ) :
    (continuingPlans seconds laterRevision t).request.storageKeys = sampleRing.keys :=
  rfl

theorem commits_serial_and_fenced_continued :
    tokensIn (continuedAfter 3600 1 continuedRun).state.history = [2, 1] ∧
      (commitsIn (continuedAfter 3600 1 continuedRun).state.history).IsChain Follows ∧
      (commitsIn (continuedAfter 3600 1 continuedRun).state.history).Pairwise fun newer older =>
        older.call.lease.fencingToken < newer.call.lease.fencingToken := by
  have both := @commits_serial_and_fenced ℕ sampleServer (fun _ => sampleNode "v1") sampleRing
    (sampleKey "v1") (continuingPlans 3600 1) emptyStore (settled_emptyStore sampleRing) rfl
    (continuingPlans_keys 3600 1)
  have free : Reachable (SessionPool.step sampleServer) Transition.Unrestricted
      (sessions sampleServer (fun _ => sampleNode "v1") (continuingPlans 3600 1) emptyStore)
      (continuedAfter 3600 1 continuedRun) := Reachable.foldl _ _ _
  have run : tokensIn (continuedAfter 3600 1 continuedRun).state.history = [2, 1] ∧
      Transition.RunAllowed (SessionPool.step sampleServer) (Fencing sampleRing sampleServer)
        (sessions sampleServer (fun _ => sampleNode "v1") (continuingPlans 3600 1) emptyStore)
        continuedRun := by
    decide +kernel
  have tokens := run.1
  have kept : Reachable (SessionPool.step sampleServer) (Fencing sampleRing sampleServer)
      (sessions sampleServer (fun _ => sampleNode "v1") (continuingPlans 3600 1) emptyStore)
      (continuedAfter 3600 1 continuedRun) := Reachable.of_run continuedRun _ run.2
  generalize continuedAfter 3600 1 continuedRun = pool at *
  exact ⟨tokens, (both.1 pool free).1, (both.2 pool kept).1⟩

/-- Two commits carry one token after the counter has expired, and after a session has repeated
the creation of a record that expired before its lease. -/
theorem tokens_repeat :
    (Reachable (SessionPool.step sampleServer) Transition.Unrestricted
        (sessions sampleServer (fun _ => sampleNode "v1") (continuingPlans 3600 0) emptyStore)
        (continuedAfter 3600 0 forgottenRun) ∧
      ¬(tokensIn (continuedAfter 3600 0 forgottenRun).state.history).Pairwise (· > ·)) ∧
    Reachable (SessionPool.step sampleServer) Transition.Unrestricted
        (sessions sampleServer (fun _ => sampleNode "v1") (continuingPlans 1 0) emptyStore)
        (continuedAfter 1 0 repeatedRun) ∧
      ¬(tokensIn (continuedAfter 1 0 repeatedRun).state.history).Pairwise (· > ·) := by
  refine ⟨⟨Reachable.foldl _ _ _, ?_⟩, Reachable.foldl _ _ _, ?_⟩
  · have tokens : tokensIn (continuedAfter 3600 0 forgottenRun).state.history = [1, 1] := by
      decide +kernel
    rw [tokens]
    decide
  · have tokens : tokensIn (continuedAfter 1 0 repeatedRun).state.history = [1, 1] := by
      decide +kernel
    rw [tokens]
    decide

end NewApi.ContextConsensus
