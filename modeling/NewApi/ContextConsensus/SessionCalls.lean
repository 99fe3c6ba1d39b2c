import NewApi.ContextConsensus.SessionRules

/-!
# The calls that a session makes

Which calls the pieces of a session make, whatever the server answers: all of them name keys
of the session's ring, and once the session has begun they are all under its lease.
-/

namespace NewApi.ContextConsensus

open Concurrent (Program)

variable {State : Type}

/-! ### The calls of a session -/

def Call.Reads : Call State → Prop
  | .hGetAll _ => True
  | .pTTL _ => True
  | _ => False

/-- The calls of a session after it has begun: under its lease, on its keys, and with the
notes of a commit. -/
def Call.Continues (sess : ManagedConsensusSession) : Call State → Prop
  | .hGetAll _ => True
  | .pTTL _ => True
  | .clock => True
  | .cancelled => True
  | .nonce => True
  | .renew lease _ => lease = sess.lease
  | .release lease => lease = sess.lease
  | .commit call => ∃ body provider ttl, call = sess.commitCall body provider ttl
  | .delete key _ lease => key = sess.storageKey ∧ lease = sess.lease
  | .note (.attempts _) => True
  | .note (.reports _) => True
  | _ => False

/-- The calls of a session that comes to its end. -/
def Call.Ends (sess : ManagedConsensusSession) (req : Call State) : Prop :=
  req.Continues sess ∨ req = .note .closes

theorem Call.Reads.continues {req : Call State} (reads : req.Reads)
    (sess : ManagedConsensusSession) : req.Continues sess := by
  cases req <;> trivial

theorem Call.Continues.overRing {sess : ManagedConsensusSession} {ring : Ring}
    {req : Call State} (goes : req.Continues sess)
    (inRing : sess.OverRing ring) : req.OverRing ring := by
  cases req with
  | renew lease _ =>
    rw [show lease = sess.lease from goes]
    exact inRing.lease
  | release lease =>
    rw [show lease = sess.lease from goes]
    exact inRing.lease
  | commit _ =>
    rcases goes with ⟨body, provider, ttl, rfl⟩
    exact inRing.commitCall body provider ttl
  | delete key _ _ =>
    rw [show key = sess.storageKey from goes.1]
    exact inRing.storage
  | acquire _ _ _ => exact goes.elim
  | _ => trivial

theorem Call.Ends.overRing {sess : ManagedConsensusSession} {ring : Ring} {req : Call State}
    (ends : req.Ends sess) (inRing : sess.OverRing ring) : req.OverRing ring := by
  rcases ends with goes | rfl
  · exact goes.overRing inRing
  · trivial

section Makes

variable {repo : RedisManagedConsensusRepository} {sess : ManagedConsensusSession}

theorem loadConsensus_makes (key : ManagedConversationStorageKey) :
    (loadConsensus repo key : Steps State _).Makes Call.Possible Call.Reads fun _ => True := by
  unfold loadConsensus
  split
  · trivial
  · refine ⟨trivial, ?_⟩
    intro reply _
    rcases reply with err | _ | ⟨_, _⟩
    · trivial
    · trivial
    · refine ⟨trivial, ?_⟩
      intro reply _
      rcases reply with _ | ttl
      · trivial
      · by_cases expired : ttl ≤ 0
        · simp only [Program.bind, expired, if_true]
          trivial
        · simp only [Program.bind, expired, if_false]
          trivial

theorem loadProviderStateBinding_makes (key : ManagedProviderStateStorageKey) :
    (loadProviderStateBinding repo key : Steps State _).Makes Call.Possible Call.Reads
      fun _ => True := by
  unfold loadProviderStateBinding
  split
  · trivial
  · refine ⟨trivial, ?_⟩
    intro reply _
    rcases reply with err | _ | ⟨_, _⟩
    · trivial
    · trivial
    · refine ⟨trivial, ?_⟩
      intro reply _
      rcases reply with _ | _
      · trivial
      · simp only [Program.bind]
        split
        · trivial
        · split
          · trivial
          · split <;> trivial

/-- The sessions differ in their states only. -/
structure SameSession (sess other : ManagedConsensusSession) : Prop where
  storageKey : other.storageKey = sess.storageKey
  activeStorageKey : other.activeStorageKey = sess.activeStorageKey
  lease : other.lease = sess.lease
  expectedRevision : other.expectedRevision = sess.expectedRevision

variable {other : ManagedConsensusSession}

theorem SameSession.commitCall (same : SameSession sess other) (body : ManagedEncryptedEnvelope)
    (provider : Option ProviderStateWrite) (ttl : ℤ) :
    other.commitCall body provider ttl = sess.commitCall body provider ttl := by
  rcases other with ⟨_, _, _, _, _, _, _, _⟩
  rcases same with ⟨rfl, rfl, rfl, rfl⟩
  rfl

theorem compareAndSwap_makes (same : SameSession sess other) (body : ManagedEncryptedEnvelope)
    (providerCommit : Option ManagedProviderStateCommit) (ttl : ℤ) :
    (compareAndSwap other body providerCommit ttl : Steps State _).Makes Call.Possible
      (Call.Continues sess) fun _ => True := by
  unfold compareAndSwap
  cases providerCommit with
  | none => exact ⟨⟨body, none, ttl, same.commitCall body none ttl⟩, fun _ _ => trivial⟩
  | some _ =>
    refine ⟨trivial, ?_⟩
    intro now _
    simp only [Program.bind]
    split
    · trivial
    · exact ⟨⟨body, _, _, same.commitCall body _ _⟩, fun _ _ => trivial⟩

/-- The resolution of an unanswered commit only reads. -/
theorem resolveCommitOutcome_makes (env : Runtime State)
    (cand : State) (providerCommit : Option ManagedProviderStateCommit) :
    (resolveCommitOutcome repo env other cand providerCommit).Makes Call.Possible
      Call.Reads fun _ => True := by
  have record : ∀ record, (resolveRecord repo env other cand providerCommit
      record).Makes Call.Possible Call.Reads fun _ => True := by
    intro _
    unfold resolveRecord
    split
    · trivial
    · split
      · trivial
      · split
        · trivial
        · split
          · trivial
          · split
            · trivial
            · cases providerCommit with
              | none => trivial
              | some commit =>
                apply (loadProviderStateBinding_makes commit.storageKey).bind
                intro result _
                rcases result with err | _
                · trivial
                · dsimp only
                  split <;> trivial
  have absent : (if other.expectedRevision = 0 then pure .currentAtExpected
      else pure (.unresolved .notFound) : Steps State Resolution).Makes Call.Possible Call.Reads
        fun _ => True := by
    split <;> trivial
  unfold resolveCommitOutcome
  apply (loadConsensus_makes _).bind
  intro loaded _
  rcases loaded with err | found
  · cases err with
    | notFound =>
      dsimp only
      split
      · apply (loadConsensus_makes _).bind
        intro loaded _
        rcases loaded with err | found
        · cases err with
          | notFound => exact absent
          | _ => trivial
        · exact record found
      · exact absent
    | _ => trivial
  · exact record found

theorem finishCommit_makes (same : SameSession sess other) :
    (finishCommit other : Steps State _).Makes Call.Possible (Call.Continues sess)
      (SameSession sess) := by
  have kept : ∀ committed released, SameSession sess { other with committed, released } :=
    fun _ _ => ⟨same.storageKey, same.activeStorageKey, same.lease, same.expectedRevision⟩
  refine ⟨same.lease, ?_⟩
  intro reply _
  rcases reply with err | _
  · cases err with
    | leaseInvalid | _ => exact kept _ _
  · exact kept _ _

section Commit

variable {other : ManagedConsensusSession} (env : Runtime State) (attempt : Attempt State)
  (providerCommit : Option ManagedProviderStateCommit) (ttl : ℤ)

theorem finished_makes (same : SameSession sess other) (out : CommitOutcome) :
    (do return (← finishCommit other, out) :
      Steps State (ManagedConsensusSession × CommitOutcome)).Makes Call.Possible
        (Call.Continues sess) fun result => SameSession sess result.1 := by
  apply (finishCommit_makes same).bind
  intro _ sameFinished
  exact sameFinished

theorem resolve_continues (sess : ManagedConsensusSession) :
    (resolveCommitOutcome repo env other attempt.state providerCommit).Makes
      Call.Possible (Call.Continues sess) fun _ => True :=
  (resolveCommitOutcome_makes env attempt.state providerCommit).mono
    (fun _ reads => reads.continues sess) fun _ _ => trivial

theorem retryCommit_makes (same : SameSession sess other) :
    (retryCommit repo env other attempt providerCommit ttl).Makes Call.Possible
      (Call.Continues sess) fun result => SameSession sess result.1 := by
  unfold retryCommit
  apply (compareAndSwap_makes same attempt.payload providerCommit ttl).bind
  intro reply _
  rcases reply with _ | _
  · dsimp only
    split
    · exact same
    · apply (resolve_continues env attempt providerCommit sess).bind
      intro resolution _
      cases resolution with
      | recovered _ => exact finished_makes same (.succeeded true)
      | currentAtExpected | unresolved _ => exact same
  · exact finished_makes same (.succeeded false)

theorem commitAttempt_makes (same : SameSession sess other) :
    (commitAttempt repo env other attempt providerCommit ttl).Makes Call.Possible
      (Call.Continues sess) fun result => SameSession sess result.1 := by
  unfold commitAttempt
  apply (compareAndSwap_makes same attempt.payload providerCommit ttl).bind
  intro reply _
  rcases reply with err | _
  · dsimp only
    split
    · exact same
    · apply (resolve_continues env attempt providerCommit sess).bind
      intro resolution _
      cases resolution with
      | recovered _ => exact finished_makes same (.succeeded true)
      | unresolved _ => exact same
      | currentAtExpected =>
        refine ⟨trivial, ?_⟩
        intro cancelled _
        simp only [Program.bind]
        split
        · exact same
        · refine ⟨same.lease, ?_⟩
          intro reply possible
          rcases reply with _ | renewed
          · simp only [Program.bind]
            split <;> exact same
          · have sameLease := possible renewed rfl
            exact retryCommit_makes env attempt providerCommit ttl ⟨same.storageKey,
              same.activeStorageKey, sameLease.trans same.lease, same.expectedRevision⟩
  · exact finished_makes same (.succeeded false)

end Commit

theorem commitPlanned_makes (env : Runtime State)
    (plan : CommitPlan State) (same : SameSession sess other) :
    (commitPlanned repo env other plan).Makes Call.Possible (Call.Continues sess)
      fun result => SameSession sess result.1 := by
  refine ⟨trivial, ?_⟩
  intro now _
  simp only [Program.bind]
  split
  · exact same
  · refine ⟨trivial, ?_⟩
    intro nonce _
    simp only [Program.bind]
    split
    · exact same
    · split
      · refine ⟨trivial, ?_⟩
        intro _ _
        apply (commitAttempt_makes env _ plan.providerCommit plan.ttl same).bind
        intro _ sameResult
        exact ⟨trivial, fun _ _ => sameResult⟩
      · apply (compareAndSwap_makes same _ none plan.ttl).bind
        intro reply _
        rcases reply with _ | _
        · exact same
        · exact finished_makes same (.succeeded false)

theorem runOperations_makes (ops : List LeaseOperation) (same : SameSession sess other) :
    (runOperations ops other : Steps State _).Makes Call.Possible (Call.Continues sess)
      (SameSession sess) := by
  induction ops generalizing other with
  | nil => exact same
  | cons op _ ih =>
    cases op with
    | renew _ =>
      unfold runOperations
      split
      · exact ih same
      · refine ⟨same.lease, ?_⟩
        intro reply possible
        rcases reply with _ | renewed
        · exact ih ⟨same.storageKey, same.activeStorageKey, same.lease, same.expectedRevision⟩
        · have sameLease := possible renewed rfl
          exact ih ⟨same.storageKey, same.activeStorageKey,
            sameLease.trans same.lease, same.expectedRevision⟩
    | delete _ =>
      exact ⟨⟨same.storageKey, same.lease⟩, fun _ _ => ih same⟩

theorem closeSession_makes (same : SameSession sess other) :
    (closeSession other : Steps State _).Makes Call.Possible (Call.Ends sess) fun _ => True := by
  unfold closeSession
  split
  · exact ⟨.inr rfl, fun _ _ => trivial⟩
  · exact ⟨.inl same.lease, fun _ _ => ⟨.inr rfl, fun _ _ => trivial⟩⟩

theorem continue_makes (env : Runtime State) (sess : ManagedConsensusSession)
    (plan : SessionPlan State) :
    (do let sess ← runOperations plan.operations sess
        match plan.commit with
        | none => closeSession sess
        | some commit =>
          let result ← commitPlanned repo env sess commit
          closeSession result.1 : Steps State Unit).Makes Call.Possible (Call.Ends sess)
      fun _ => True := by
  have continues : ∀ req : Call State, req.Continues sess → req.Ends sess := fun _ => .inl
  apply ((runOperations_makes plan.operations ⟨rfl, rfl, rfl, rfl⟩).mono continues
    fun _ same => same).bind
  intro _ same
  cases plan.commit with
  | none => exact closeSession_makes same
  | some commit =>
    apply ((commitPlanned_makes env commit same).mono continues fun _ same => same).bind
    intro _ sameResult
    exact closeSession_makes sameResult

theorem locateLoop_makes (expected : ℕ) (keys : List ManagedConversationStorageKey)
    (matched : Option ManagedConversationStorageKey) (old : ℕ) :
    (locateLoop repo expected keys matched old : Steps State _).Makes
      Call.Possible Call.Reads fun result => ∀ key count, result = .ok (some key, count) →
        key ∈ keys ∨ matched = some key := by
  induction keys generalizing matched old with
  | nil =>
    rintro key count ⟨rfl, rfl⟩
    exact .inr rfl
  | cons key others ih =>
    have goes : ∀ next count, (∀ found, next = some found → found = key ∨
        matched = some found) →
        (locateLoop repo expected others next count : Steps State _).Makes
          Call.Possible Call.Reads fun result => ∀ found count,
            result = .ok (some found, count) → found ∈ key :: others ∨ matched = some found := by
      intro next count base
      refine (ih next count).mono (fun _ reads => reads) ?_
      intro _ placed found total same
      rcases placed found total same with isOther | isNext
      · exact .inl (List.mem_cons_of_mem _ isOther)
      · rcases base found isNext with rfl | already
        · exact .inl List.mem_cons_self
        · exact .inr already
    unfold locateLoop
    apply (loadConsensus_makes key).bind
    intro loaded _
    rcases loaded with err | _
    · cases err with
      | notFound => exact goes matched old fun _ same => .inr same
      | _ =>
        intro _ _ never
        cases never
    · dsimp only
      split
      · cases matched with
        | some _ =>
          intro _ _ never
          cases never
        | none =>
          apply goes (some key) (old + 1)
          rintro found ⟨rfl⟩
          exact .inl rfl
      · exact goes matched (old + 1) fun _ same => .inr same

theorem loadLoop_makes (selectedKey : ManagedConversationStorageKey)
    (keys : List ManagedConversationStorageKey) (chosen : Option ManagedConsensusRecord) (old : ℕ) :
    (loadLoop repo selectedKey keys chosen old : Steps State _).Makes Call.Possible
      Call.Reads fun _ => True := by
  induction keys generalizing chosen old with
  | nil => trivial
  | cons key _ ih =>
    unfold loadLoop
    apply (loadConsensus_makes key).bind
    intro loaded _
    rcases loaded with err | record
    · cases err with
      | notFound => exact ih chosen old
      | _ => trivial
    · dsimp only
      split
      · exact ih (some record) (old + 1)
      · exact ih chosen (old + 1)

theorem loadForSession_makes (storageKeys : List ManagedConversationStorageKey)
    (chosen : ManagedConversationStorageKey) (expected : ℕ) :
    (loadManagedConsensusForSession repo storageKeys chosen expected :
      Steps State _).Makes Call.Possible Call.Reads fun _ => True := by
  unfold loadManagedConsensusForSession
  apply (loadLoop_makes chosen storageKeys none 0).bind
  intro result _
  rcases result with _ | ⟨_, _⟩
  · trivial
  · dsimp only
    split
    · trivial
    · split
      · split <;> trivial
      · split
        · trivial
        · split <;> trivial

theorem locate_makes (storageKeys : List ManagedConversationStorageKey) (expected : ℕ) :
    (locateManagedConsensusStorageKey repo storageKeys expected :
      Steps State _).Makes Call.Possible Call.Reads fun result =>
        ∀ key, result = .ok key → key ∈ storageKeys := by
  have failing : ∀ err : RepositoryError, (Program.done (.error err) :
      Steps State (Except RepositoryError ManagedConversationStorageKey)).Makes Call.Possible
        Call.Reads fun result => ∀ key, result = .ok key → key ∈ storageKeys := by
    intro _ _ never
    cases never
  cases storageKeys with
  | nil => exact failing _
  | cons live others =>
    unfold locateManagedConsensusStorageKey
    apply (locateLoop_makes expected (live :: others) none 0).bind
    intro result placed
    rcases result with err | ⟨_, old⟩
    · exact failing err
    · dsimp only
      split
      · exact failing _
      · split
        · split
          · exact failing _
          · rintro key ⟨rfl⟩
            exact List.mem_cons_self
        · split
          · rename_i storageKey
            rintro _ ⟨rfl⟩
            rcases placed storageKey old rfl with isKey | never
            · exact isKey
            · cases never
          · split <;> exact failing _

/-- The beginning of a session calls over the keys of its conversation. -/
theorem begin_makes {ring : Ring} (env : Runtime State) {req : BeginRequest}
    (keys : ∀ key ∈ req.storageKeys, key ∈ ring.keys) :
    (beginManagedConsensusSession repo env req).Makes Call.Possible
      (Call.OverRing ring) fun result => ∀ sess, result = .ok sess →
        sess.OverRing ring := by
  have reads : ∀ req : Call State, req.Reads → req.OverRing ring := by
    intro req _
    cases req <;> trivial
  have failing : ∀ err : RepositoryError, (Program.done (.error err) :
      Steps State (Except RepositoryError ManagedConsensusSession)).Makes Call.Possible
        (Call.OverRing ring) fun result => ∀ sess, result = .ok sess →
          sess.OverRing ring := by
    intro _ _ never
    cases never
  refine ⟨trivial, ?_⟩
  intro _ _
  apply ((locate_makes req.storageKeys req.expectedRevision).mono reads fun _ placed => placed).bind
  intro placed found
  rcases placed with err | storageKey
  · exact failing err
  · have isLocated := found storageKey rfl
    have isKey : storageKey ∈ ring.keys := keys storageKey isLocated
    refine ⟨isKey, ?_⟩
    intro reply possible
    rcases reply with err | lease
    · exact failing err
    · have leased := possible lease rfl
      refine ⟨trivial, ?_⟩
      intro _ _
      apply ((loadForSession_makes req.storageKeys storageKey req.expectedRevision).mono
        reads fun _ _ => trivial).bind
      intro loaded _
      rcases openSession_cases env _ loaded with ⟨err, same⟩ | ⟨same, -⟩
      · rw [same]
        exact ⟨⟨storageKey, isKey, leased⟩, fun _ _ => ⟨trivial, fun _ _ => failing err⟩⟩
      · rw [same]
        refine ⟨trivial, ?_⟩
        rintro _ _ _ ⟨rfl⟩
        refine ⟨isKey, ?_, leased⟩
        apply keys
        cases isEmpty : req.storageKeys with
        | nil =>
          rw [isEmpty] at isLocated
          cases isLocated
        | cons _ _ => exact List.mem_cons_self

theorem runSession_makes {ring : Ring} (env : Runtime State) {plan : SessionPlan State}
    (keys : ∀ key ∈ plan.request.storageKeys, key ∈ ring.keys) :
    (runSession repo env plan).Makes Call.Possible (Call.OverRing ring) fun _ => True := by
  apply (begin_makes env keys).bind
  intro result opened
  rcases result with _ | sess
  · trivial
  · exact (continue_makes env sess plan).mono
      (fun _ ends => ends.overRing (opened sess rfl)) fun _ _ => trivial

end Makes

end NewApi.ContextConsensus
