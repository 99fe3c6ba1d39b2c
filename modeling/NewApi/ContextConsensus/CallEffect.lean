import NewApi.ContextConsensus.Ring

/-!
# What a call can do

Everything that a call over the ring can do to the store and to the history, said once. The
statements about runs take their cases from here and never look into a script.
-/

namespace NewApi.ContextConsensus

open Redis (Store)

variable {State : Type}

/-! ### Calls that write -/

/-- The shared state after a call. A call that is not listed leaves it as it was. -/
inductive Effect (repo : RedisManagedConsensusRepository) (t : ℕ)
    (shared : Shared State) : Call State → Choice → Shared State → Prop where
  | unchanged {req : Call State} {pick : Choice}
      (refused : ∀ call, req = .commit call →
        ¬call.Applies repo pick.transport shared.store)
      (silent : ∀ note, req ≠ .note note) :
      Effect repo t shared req pick shared
  | granted {key : ManagedConversationStorageKey} {holderID : String} {ttl : ℤ} {pick : Choice}
      {n : ℤ} {history : List (Event State)}
      (free : shared.store.find (leaseKey key.repositoryKey) = none)
      (counter : counterAt shared.store (fenceKey key.repositoryKey) = some n)
      (pos : milliseconds ttl ≠ 0) (retained : repo.fencingCounterRetention ≠ 0)
      (records : history = shared.history ∨ ∃ lease : ManagedConsensusLease,
        history = .issued t lease :: shared.history ∧
          lease.repositoryKey = key.repositoryKey ∧ lease.holderID = holderID ∧
          Lua.toReply (.finite (Lua.ofReply (n + 1))) = lease.fencingToken ∧
          0 < lease.fencingToken) :
      Effect repo t shared (.acquire key holderID ttl) pick
        { store := ContextConsensus.granted shared.store (leaseKey key.repositoryKey)
            (fenceKey key.repositoryKey) holderID (n + 1) (milliseconds ttl)
            repo.fencingCounterRetention
          history }
  | renewed {lease : ManagedConsensusLease} {ttl : ℤ} {pick : Choice}
      (held : shared.store.textAt (leaseKey lease.repositoryKey) =
        .ok (some (managedLeaseValue lease)))
      (pos : milliseconds ttl ≠ 0) :
      Effect repo t shared (.renew lease ttl) pick
        { shared with
          store := shared.store.expireIn (leaseKey lease.repositoryKey) (milliseconds ttl) }
  | released {lease : ManagedConsensusLease} {pick : Choice}
      (held : shared.store.textAt (leaseKey lease.repositoryKey) =
        .ok (some (managedLeaseValue lease))) :
      Effect repo t shared (.release lease) pick
        { shared with store := shared.store.put (leaseKey lease.repositoryKey) none }
  | deleted {key : ManagedConversationStorageKey} {expected : ℕ}
      {lease : ManagedConsensusLease} {pick : Choice}
      (held : shared.store.textAt (leaseKey key.repositoryKey) =
        .ok (some (managedLeaseValue lease))) :
      Effect repo t shared (.delete key expected lease) pick
        { shared with store := shared.store.put key.repositoryKey none }
  | committed {call : CommitCall} {pick : Choice}
      (applies : call.Applies repo pick.transport shared.store) :
      Effect repo t shared (.commit call) pick
        { store := call.applied repo shared.store
          history := .committed t pick.transport call :: shared.history }
  | noted {note : Note State} {pick : Choice} :
      Effect repo t shared (.note note) pick
        { shared with history := .noted t note :: shared.history }

section Perform

variable {repo : RedisManagedConsensusRepository} {ring : Ring} {t : ℕ}
  {shared : Shared State} {pick : Choice}

theorem answerOf_eq_error {α : Type} {out : EStateM.Result RepositoryError Store α}
    {err : RepositoryError} (gives : answerOf out = .error err) :
    out = .error err (finalStore out) := by
  cases out with
  | ok _ _ => cases gives
  | error _ _ =>
    simp only [answerOf, Except.error.injEq] at gives
    rw [gives]
    rfl

theorem answerOf_eq_ok {α : Type} {out : EStateM.Result RepositoryError Store α} {val : α}
    (gives : answerOf out = .ok val) : out = .ok val (finalStore out) := by
  cases out with
  | ok _ _ =>
    simp only [answerOf, Except.ok.injEq] at gives
    rw [gives]
    rfl
  | error _ _ => cases gives

theorem acquire_effect (key : ManagedConversationStorageKey) (holderID : String) (ttl : ℤ) :
    Effect repo t shared (.acquire key holderID ttl) pick
      (perform repo t (.acquire key holderID ttl) pick shared).2 := by
  simp only [perform]
  cases gives : answerOf
      ((repo.acquireConsensusLease pick.transport key holderID ttl).run shared.store) with
  | ok lease =>
    rcases acquire_ok (answerOf_eq_ok gives) with
      ⟨n, free, counter, sameKey, sameHolder, token, positiveToken, pos, retained, after⟩
    rw [after]
    exact .granted free counter pos retained
      (.inr ⟨lease, rfl, sameKey, sameHolder, token, positiveToken⟩)
  | error _ =>
    rcases acquire_store repo pick.transport key holderID ttl shared.store with
      same | ⟨n, free, counter, pos, retained, result⟩
    · rw [same]
      exact .unchanged (by simp) (by simp)
    · rw [result]
      exact .granted free counter pos retained (.inl rfl)

theorem commit_effect (readable : CountersReadable ring shared.store) {call : CommitCall}
    (inRing : call.OverRing ring) :
    Effect repo t shared (.commit call) pick (perform repo t (.commit call) pick shared).2 := by
  simp only [perform]
  have err : call.failure repo shared.store = none :=
    failure_of_readable readable inRing
  by_cases runs : call.Runs repo pick.transport
  · rw [CommitCall.finalStore_commit runs]
    by_cases ready : call.verdict repo shared.store = .ready
    · have acts : call.Applies repo pick.transport shared.store :=
        ⟨runs.1, runs.2, ready, err⟩
      have after : call.after repo shared.store = call.applied repo shared.store := by
        simp [CommitCall.after, ready, err]
      rw [if_pos acts, after]
      exact .committed acts
    · have refused : ¬call.Applies repo pick.transport shared.store :=
        fun acts => ready acts.2.2.1
      have after : call.after repo shared.store = shared.store := by
        unfold CommitCall.after
        split
        · rename_i decided
          exact absurd decided ready
        · rfl
      rw [if_neg refused, after]
      refine .unchanged ?_ (by simp)
      rintro other ⟨rfl⟩
      exact refused
  · have refused : ¬call.Applies repo pick.transport shared.store :=
      fun acts => runs ⟨acts.1, acts.2.1⟩
    rcases CommitCall.run_commit_of_not_runs runs with ⟨_, out⟩
    rw [if_neg refused, out]
    refine .unchanged ?_ (by simp)
    rintro _ ⟨rfl⟩
    exact refused

theorem perform_effect (readable : CountersReadable ring shared.store) {req : Call State}
    (inRing : req.OverRing ring) :
    Effect repo t shared req pick (perform repo t req pick shared).2 := by
  cases req with
  | hGetAll _ | pTTL _ => exact .unchanged (by simp) (by simp)
  | acquire key holderID ttl => exact acquire_effect key holderID ttl
  | renew lease ttl =>
    simp only [perform]
    rcases renew_store repo pick.transport lease ttl shared.store with
      same | ⟨held, pos, result⟩
    · rw [same]
      exact .unchanged (by simp) (by simp)
    · rw [result]
      exact .renewed held pos
  | release lease =>
    simp only [perform]
    rcases release_store pick.transport lease shared.store with same | ⟨held, result⟩
    · rw [same]
      exact .unchanged (by simp) (by simp)
    · rw [result]
      exact .released held
  | commit _ => exact commit_effect readable inRing
  | delete key expected lease =>
    simp only [perform]
    rcases delete_store pick.transport key expected lease shared.store with
      same | ⟨held, result⟩
    · rw [same]
      exact .unchanged (by simp) (by simp)
    · rw [result]
      exact .deleted held
  | clock | cancelled | nonce => exact .unchanged (by simp) (by simp)
  | note _ => exact .noted

end Perform

/-! ### What the history says -/

/-- A commit whose script ran, with its session. -/
structure Applied where
  thread : ℕ
  transport : Transport
  call : CommitCall
deriving DecidableEq

def Event.commit? : Event State → Option Applied
  | .committed t wire call => some ⟨t, wire, call⟩
  | _ => none

def commitsIn (history : List (Event State)) : List Applied :=
  history.filterMap Event.commit?

def commitsBy (t : ℕ) (history : List (Event State)) : List Applied :=
  (commitsIn history).filter (·.thread = t)

/-- The server applied the commit, and its reply cannot have told the session so. -/
def Applied.Unacknowledged (commit : Applied) : Prop :=
  commit.transport ≠ .delivered ∨ ¬Representable (commit.call.expectedRevision + 1)
deriving Decidable

def Call.commit? : Call State → Option CommitCall
  | .commit call => some call
  | _ => none

section History

variable {history : List (Event State)} {t other : ℕ}

@[simp]
theorem commitsIn_committed (wire : Transport) (call : CommitCall) :
    commitsIn (.committed t wire call :: history) = ⟨t, wire, call⟩ :: commitsIn history :=
  rfl

@[simp]
theorem commitsIn_issued (lease : ManagedConsensusLease) :
    commitsIn (.issued t lease :: history) = commitsIn history :=
  rfl

theorem commitsBy_committed_self (wire : Transport) (call : CommitCall) :
    commitsBy t (.committed t wire call :: history) = ⟨t, wire, call⟩ :: commitsBy t history := by
  simp [commitsBy]

theorem commitsBy_committed_ne (wire : Transport) (call : CommitCall) (diff : other ≠ t) :
    commitsBy other (.committed t wire call :: history) = commitsBy other history := by
  simp [commitsBy, diff.symm]

theorem mem_commitsBy {commit : Applied} :
    commit ∈ commitsBy t history ↔ commit ∈ commitsIn history ∧ commit.thread = t := by
  simp [commitsBy]

end History

/-! ### What a call does to the records -/

/-- A step that leaves the records, the commits and the notes as they are. -/
structure Quiet (ring : Ring) (past after : Shared State) : Prop where
  records : ∀ key ∈ ring.keys,
    after.store.find key.repositoryKey = past.store.find key.repositoryKey
  issues : after.history = past.history ∨
    ∃ t lease, after.history = .issued t lease :: past.history

theorem Quiet.commits {ring : Ring} {past after : Shared State} (quiet : Quiet ring past after) :
    commitsIn after.history = commitsIn past.history := by
  rcases quiet.issues with same | ⟨_, _, same⟩
  · rw [same]
  · rw [same, commitsIn_issued]

section Records

variable {repo : RedisManagedConsensusRepository} {ring : Ring} {t : ℕ}
  {shared after : Shared State} {req : Call State} {pick : Choice}

theorem Effect.split (effect : Effect repo t shared req pick after) (inRing : req.OverRing ring) :
    Quiet ring shared after ∨
      (∃ note, req = .note note ∧
        after = { shared with history := .noted t note :: shared.history }) ∨
      (∃ key expected lease, req = .delete key expected lease ∧
        after = { shared with store := shared.store.put key.repositoryKey none }) ∨
      ∃ call, req = .commit call ∧
        call.Applies repo pick.transport shared.store ∧
        after = { store := call.applied repo shared.store
                  history := .committed t pick.transport call :: shared.history } := by
  cases effect with
  | unchanged => exact .inl ⟨fun _ _ => rfl, .inl rfl⟩
  | granted _ _ _ _ records =>
    refine .inl ⟨?_, ?_⟩
    · intro _ isKey
      exact find_granted_of_ne _ _ _ _ (Ring.ne_leaseKey isKey inRing)
        (Ring.ne_fenceKey isKey inRing)
    · rcases records with same | ⟨lease, same, -⟩
      · exact .inl same
      · exact .inr ⟨t, lease, same⟩
  | renewed _ _ =>
    rcases inRing with ⟨owned, isOwned, sameKey⟩
    refine .inl ⟨?_, .inl rfl⟩
    intro _ isKey
    exact Redis.Store.find_expireIn_ne _ _ (sameKey ▸ Ring.ne_leaseKey isKey isOwned)
  | released _ =>
    rcases inRing with ⟨_, isOwned, sameKey⟩
    refine .inl ⟨?_, .inl rfl⟩
    intro _ isKey
    exact Redis.Store.find_put_of_ne _ _ (sameKey ▸ Ring.ne_leaseKey isKey isOwned)
  | deleted _ => exact .inr (.inr (.inl ⟨_, _, _, rfl, rfl⟩))
  | committed acts => exact .inr (.inr (.inr ⟨_, rfl, acts, rfl⟩))
  | noted => exact .inr (.inl ⟨_, rfl, rfl⟩)

theorem Effect.readable (effect : Effect repo t shared req pick after)
    (inRing : req.OverRing ring) (readable : CountersReadable ring shared.store) :
    CountersReadable ring after.store := by
  cases effect with
  | unchanged => exact readable
  | granted _ counter _ retained _ =>
    exact readable.granted inRing counter _ _ retained
  | renewed _ _ =>
    apply readable.congr
    intro _ _
    apply Redis.Store.textAt_congr
    rw [Redis.Store.find_expireIn_ne _ _ (lease_ne_fence _ _).symm]
  | released _ =>
    apply readable.congr
    intro _ _
    apply Redis.Store.textAt_congr
    rw [Redis.Store.find_put_of_ne _ _ (lease_ne_fence _ _).symm]
  | deleted _ =>
    apply readable.congr
    intro _ isKey
    apply Redis.Store.textAt_congr
    rw [Redis.Store.find_put_of_ne _ _ (Ring.ne_fenceKey inRing isKey).symm]
  | committed acts => exact readable.applied (CommitCall.admitted acts.1) inRing
  | noted => exact readable

variable {call : CommitCall} {store : Store} {wire : Transport}

theorem find_of_hashAt {key : String} {fields : Redis.Fields}
    (stored : store.hashAt key = .ok fields) (filled : fields ≠ []) :
    ∃ due, store.find key = some ⟨.hash fields, due⟩ := by
  unfold Redis.Store.hashAt at stored
  rcases found : store.find key with _ | ⟨_ | _ | _, due⟩
  · simp only [found, Except.ok.injEq] at stored
    exact absurd stored.symm filled
  · simp [found] at stored
  · simp only [found, Except.ok.injEq] at stored
    exact ⟨due, by rw [stored]⟩
  · simp [found] at stored

theorem CommitCall.Applies.find_target (acts : call.Applies repo wire store) :
    ∃ fields due, (call.applied repo store).find call.target.repositoryKey =
        some ⟨.hash fields, due⟩ ∧
      fields.lookup "revision" = some (Decimal.format (call.expectedRevision + 1)) ∧
      fields.lookup "fencing_token" = some (Decimal.format call.lease.fencingToken) ∧
      fields.lookup "encrypted_payload" = some (repo.client.marshal call.payload) := by
  rcases CommitCall.hashAt_applied_target (CommitCall.admitted acts.1) acts.2.2.1 with
    ⟨current, -, written⟩
  have lookups := CommitCall.lookup_fields repo call current
  have filled : (call.record repo).fields.foldl Redis.Fields.assign current ≠ [] := by
    intro none
    have rev := lookups.1
    rw [none] at rev
    simp at rev
  rcases find_of_hashAt written filled with ⟨due, found⟩
  exact ⟨_, due, found, lookups⟩

theorem CommitCall.Applies.find_cases (acts : call.Applies repo wire store)
    (inRing : call.OverRing ring)
    {key : ManagedConversationStorageKey} (isKey : key ∈ ring.keys) :
    key.repositoryKey = call.target.repositoryKey ∨ key.repositoryKey ≠ call.target.repositoryKey ∧
        key.repositoryKey = call.storageKey.repositoryKey ∧ call.migrateTo ≠ none ∧
        (call.applied repo store).find key.repositoryKey = none ∨
      key.repositoryKey ≠ call.target.repositoryKey ∧
        key.repositoryKey ≠ call.storageKey.repositoryKey ∧
        (call.applied repo store).find key.repositoryKey = store.find key.repositoryKey := by
  by_cases target : key.repositoryKey = call.target.repositoryKey
  · exact .inl target
  · right
    by_cases isStorage : key.repositoryKey = call.storageKey.repositoryKey
    · left
      cases moves : call.migrateTo with
      | none =>
        have here : call.target = call.storageKey := by simp [CommitCall.target, moves]
        exact absurd (here ▸ isStorage) target
      | some _ =>
        refine ⟨target, isStorage, by simp, ?_⟩
        rw [isStorage]
        exact find_applied_migrated moves
    · right
      refine ⟨target, isStorage, ?_⟩
      exact find_applied_of_ne (CommitCall.admitted acts.1) inRing isKey target isStorage

theorem lookup_of_missing {store : Store} {key : String} {fields : Redis.Fields}
    (missing : store.find key = none) (stored : store.hashAt key = .ok fields) (name : String) :
    fields.lookup name = none := by
  rw [Redis.Store.hashAt_of_missing missing] at stored
  rw [← Except.ok.inj stored]
  rfl

theorem CommitCall.Applies.error {after : Store} (acts : call.Applies repo wire store)
    {err : RepositoryError}
    (fails : (repo.commit wire call).run store = .error err after) (t : ℕ) :
    managedCommitErrorIsDefinitive err = false ∧
      Applied.Unacknowledged ⟨t, wire, call⟩ := by
  rcases acts with ⟨admits, arrives, ready, readable⟩
  cases wire with
  | requestLost => exact absurd rfl arrives
  | replyLost =>
    rcases @run_commit_of_replyLost repo call store admits with ⟨_, lost⟩
    rw [lost] at fails
    cases fails
    exact ⟨rfl, .inl (by simp)⟩
  | delivered =>
    rcases run_commit_of_applied admits ready readable with ⟨_, out⟩
    by_cases fits : Representable (call.expectedRevision + 1)
    · rw [out, if_pos fits] at fails
      cases fails
    · rw [out, if_neg fits] at fails
      cases fails
      exact ⟨rfl, .inr fits⟩

end Records

end NewApi.ContextConsensus
