import NewApi.ContextConsensus.CallEffect

/-!
# Rules for the programs of a session

How the pieces of a session behave under interference, whatever is relied on: what a load
tells about the store it read from, and what the two scans over the storage keys tell.
-/

namespace NewApi.ContextConsensus

open Concurrent.Program

open Concurrent (Keeps Program)
open Redis (Store)
open NewApi.ContextConsensus renaming ManagedConversationStorageKey → StorageKey

variable {State : Type}

/-! ### Answers -/

def Call.Possible : (req : Call State) → req.Answer → Prop
  | .acquire key _ _, reply =>
    ∀ lease : ManagedConsensusLease, (reply : Except RepositoryError _) = .ok lease →
      lease.repositoryKey = key.repositoryKey
  | .renew lease _, reply =>
    ∀ renewed : ManagedConsensusLease, (reply : Except RepositoryError _) = .ok renewed →
      renewed = lease
  | _, _ => True

theorem perform_possible (repo : RedisManagedConsensusRepository) (t : ℕ)
    (req : Call State) (pick : Choice) (shared : Shared State) :
    req.Possible (perform repo t req pick shared).1 := by
  cases req with
  | acquire _ _ _ =>
    intro _ gives
    rcases acquire_ok (answerOf_eq_ok gives) with ⟨number, -, -, sameKey, -⟩
    exact sameKey
  | renew _ _ =>
    intro _ gives
    rcases scripted_eq_ok (answerOf_eq_ok gives) with ⟨-, -, _, -, read⟩
    split at read
    · cases read
    · exact (Except.ok.inj read).symm
  | _ => trivial

/-- A session whose keys belong to the ring and whose lease is on its storage key. -/
structure ManagedConsensusSession.OverRing (sess : ManagedConsensusSession) (ring : Ring) :
    Prop where
  storage : sess.storageKey ∈ ring.keys
  active : sess.activeStorageKey ∈ ring.keys
  leased : sess.lease.repositoryKey = sess.storageKey.repositoryKey

namespace ManagedConsensusSession

variable {sess : ManagedConsensusSession} {ring : Ring}

theorem OverRing.lease (inRing : sess.OverRing ring) : sess.lease.OnRing ring :=
  ⟨sess.storageKey, inRing.storage, inRing.leased⟩

theorem OverRing.commitStorageKey (inRing : sess.OverRing ring) :
    sess.commitStorageKey = sess.activeStorageKey := by
  have named : sess.activeStorageKey.repositoryKey ≠ "" := by
    intro empty
    have counts := Ring.colons inRing.active
    rw [empty] at counts
    simp at counts
  simp [ManagedConsensusSession.commitStorageKey, named]

theorem OverRing.commitCall (inRing : sess.OverRing ring)
    (body : ManagedEncryptedEnvelope) (provider : Option ProviderStateWrite) (ttl : ℤ) :
    (Call.commit (sess.commitCall body provider ttl) : Call State).OverRing ring := by
  refine ⟨inRing.storage, ?_⟩
  intro _ active
  simp only [ManagedConsensusSession.commitCall, inRing.commitStorageKey] at active
  split at active
  · cases active
  · rw [← Option.some.inj active]
    exact inRing.active

theorem target_commitCall (sess : ManagedConsensusSession) (body : ManagedEncryptedEnvelope)
    (provider : Option ProviderStateWrite) (ttl : ℤ) :
    (sess.commitCall body provider ttl).target.repositoryKey =
      sess.commitStorageKey.repositoryKey := by
  unfold CommitCall.target ManagedConsensusSession.commitCall
  simp only
  split
  · rename_i same
    exact same.symm
  · rfl

end ManagedConsensusSession

/-! ### Loads -/

/-- What a load says about the stored record. -/
structure Loaded (repo : RedisManagedConsensusRepository)
    (key : StorageKey) (store : Store)
    (result : Except RepositoryError ManagedConsensusRecord) : Prop where
  missing : result = .error .notFound → store.hashAt key.repositoryKey = .ok []
  found : ∀ record, result = .ok record → ∃ fields,
    store.hashAt key.repositoryKey = .ok fields ∧ decodeRecord repo fields = .ok record

theorem decodeRecord_ne_notFound (repo : RedisManagedConsensusRepository)
    (fields : Redis.Fields) : decodeRecord repo fields ≠ .error .notFound := by
  unfold decodeRecord
  split
  · simp
  · split
    · simp
    · split
      · simp
      · split
        · simp
        · split <;> simp

theorem decodeRecord_eq_ok {repo : RedisManagedConsensusRepository} {fields : Redis.Fields}
    {record : ManagedConsensusRecord} (decoded : decodeRecord repo fields = .ok record) :
    Decimal.parseUint ((fields.lookup "revision").getD "") = some record.revision ∧
      repo.client.unmarshal ((fields.lookup "encrypted_payload").getD "") =
        some record.payload := by
  unfold decodeRecord at decoded
  split at decoded
  · cases decoded
  · rename_i revision parsed
    split at decoded
    · cases decoded
    · split at decoded
      · cases decoded
      · split at decoded
        · cases decoded
        · split at decoded
          · cases decoded
          · rename_i body unmarshalled
            cases decoded
            exact ⟨parsed, unmarshalled⟩

theorem decodeRecord_ne_nil {repo : RedisManagedConsensusRepository}
    {fields : Redis.Fields} {record : ManagedConsensusRecord}
    (decoded : decodeRecord repo fields = .ok record) : fields ≠ [] := by
  rintro rfl
  have parsed := (decodeRecord_eq_ok decoded).1
  simp [Decimal.parseUint, Decimal.parse] at parsed

theorem validateConversationKey_ne_notFound (key : StorageKey) :
    validateConversationKey key ≠ .error .notFound := by
  unfold validateConversationKey
  split
  · simp [throw, throwThe, MonadExceptOf.throw]
  · simp [pure, Except.pure]

theorem readCommand_eq_ok {α : Type} {wire : Transport} {op : String}
    {view : Store → Except Redis.Failure α} {store : Store} {val : α}
    (reads : readCommand wire op view store = .ok val) : view store = .ok val := by
  unfold readCommand at reads
  cases wire with
  | delivered =>
    cases viewed : view store with
    | ok _ =>
      simp only [viewed, Except.ok.injEq] at reads
      rw [reads]
    | error _ => simp [viewed] at reads
  | requestLost | replyLost => simp at reads

theorem readCommand_ne_notFound {α : Type} (wire : Transport) (op : String)
    (view : Store → Except Redis.Failure α) (store : Store) :
    readCommand wire op view store ≠ .error .notFound := by
  unfold readCommand
  cases wire with
  | delivered => cases view store <;> simp
  | requestLost | replyLost => simp

section Rules

variable {repo : RedisManagedConsensusRepository} {Result : Type}
  {Rely : Shared State → Shared State → Prop}
  {allowed : Call State → Choice → Shared State → Prop}
  {needs : Call State → Shared State → Prop} {t : ℕ}
  {post : Result → Shared State → Prop} {state : Shared State}

/-- What other sessions may do between two calls, and what a call needs all the same. -/
structure Interference (Rely : Shared State → Shared State → Prop)
    (needs : Call State → Shared State → Prop) : Prop where
  reflexive : ∀ state, Rely state state
  transitive : ∀ first two third, Rely first two → Rely two third → Rely first third
  hGetAll : ∀ key state, needs (.hGetAll key) state
  pTTL : ∀ key state, needs (.pTTL key) state

variable (interference : Interference Rely needs)

include interference

theorem keeps_loadConsensus (key : StorageKey)
    {rest : Except RepositoryError ManagedConsensusRecord → Steps State Result}
    (goes : ∀ result read final, Rely state read → Rely read final →
      Loaded repo key read.store result →
        Keeps (perform repo) Rely allowed needs t post (rest result) final) :
    Keeps (perform repo) Rely allowed needs t post (loadConsensus repo key >>= rest) state := by
  unfold loadConsensus
  cases valid : validateConversationKey key with
  | error failure =>
    apply goes (.error failure) state state (interference.reflexive _) (interference.reflexive _)
    refine ⟨?_, by simp⟩
    rintro ⟨rfl⟩
    exact absurd valid (validateConversationKey_ne_notFound key)
  | ok _ =>
    intro read rely
    refine ⟨interference.hGetAll _ _, ?_⟩
    intro pick _
    simp only [perform]
    cases reply : readCommand pick.transport "load managed consensus metadata"
        (·.hashAt key.repositoryKey) read.store with
    | error failure =>
      apply goes (.error failure) read read rely (interference.reflexive _)
      refine ⟨?_, by simp⟩
      rintro ⟨rfl⟩
      exact absurd reply (readCommand_ne_notFound _ _ _ _)
    | ok fields =>
      have stored := readCommand_eq_ok reply
      cases fields with
      | nil =>
        exact goes (.error .notFound) read read rely (interference.reflexive _)
          ⟨fun _ => stored, by simp⟩
      | cons _ _ =>
        intro final more
        refine ⟨interference.pTTL _ _, ?_⟩
        intro later _
        simp only [perform]
        cases time : readCommand later.transport "load managed consensus TTL"
            (fun store => .ok (pTTL store key.repositoryKey)) final.store with
        | error failure =>
          apply goes (.error failure) read final rely more
          refine ⟨?_, by simp⟩
          rintro ⟨rfl⟩
          exact absurd time (readCommand_ne_notFound _ _ _ _)
        | ok ttl =>
          by_cases expired : ttl ≤ 0
          · simp only [Program.bind, expired, if_true]
            exact goes _ read final rely more ⟨by simp, by simp⟩
          · simp only [Program.bind, expired, if_false]
            refine goes _ read final rely more ⟨?_, ?_⟩
            · intro missing
              exact absurd missing (decodeRecord_ne_notFound _ _)
            · intro _ decoded
              exact ⟨_, stored, decoded⟩

/-! ### Scans -/

theorem keeps_locateLoop (expected : ℕ) (keys : List StorageKey) (matched : Option StorageKey)
    (old : ℕ) {rest : Except RepositoryError (Option StorageKey × ℕ) →
      Steps State Result} (goes : ∀ result final, Rely state final →
      (∀ key count, result = .ok (some key, count) → key ∈ keys ∨ matched = some key) →
        Keeps (perform repo) Rely allowed needs t post (rest result) final) :
    Keeps (perform repo) Rely allowed needs t post
      (locateLoop repo expected keys matched old >>= rest) state := by
  induction keys generalizing state matched old with
  | nil =>
    apply goes _ state (interference.reflexive _)
    rintro key count ⟨rfl, rfl⟩
    exact .inr rfl
  | cons key others ih =>
    unfold locateLoop
    rw [bind_assoc]
    apply keeps_loadConsensus interference key
    intro result _ final rely more _
    have run := interference.transitive _ _ _ rely more
    have continues : ∀ next count, (∀ found, next = some found → found = key ∨
        matched = some found) →
        Keeps (perform repo) Rely allowed needs t post
          (locateLoop repo expected others next count >>= rest) final := by
      intro _ _ base
      apply ih
      intro out last relied placed
      apply goes out last (interference.transitive _ _ _ run relied)
      intro found total same
      rcases placed found total same with isOther | isNext
      · exact .inl (List.mem_cons_of_mem _ isOther)
      · rcases base found isNext with rfl | already
        · exact .inl List.mem_cons_self
        · exact .inr already
    have fails : ∀ failure, Keeps (perform repo) Rely allowed needs t post
        (rest (.error failure)) final := fun failure =>
      goes (.error failure) final run (by simp)
    rcases result with failure | record
    · cases failure with
      | notFound => exact continues matched old fun _ same => .inr same
      | _ => exact fails _
    · dsimp only
      by_cases same : record.revision = expected
      · rw [if_pos same]
        cases matched with
        | some _ => exact fails _
        | none =>
          apply continues (some key) (old + 1)
          rintro found ⟨rfl⟩
          exact .inl rfl
      · rw [if_neg same]
        exact continues matched (old + 1) fun _ found' => .inr found'

/-- The lookup that chooses the key of a session. -/
theorem keeps_locate (storageKeys : List StorageKey) (expected : ℕ)
    {rest : Except RepositoryError StorageKey → Steps State Result}
    (goes : ∀ result final, Rely state final → (∀ key, result = .ok key →
        key ∈ storageKeys ∧ (expected = 0 → storageKeys.head? = some key)) →
        Keeps (perform repo) Rely allowed needs t post (rest result) final) :
    Keeps (perform repo) Rely allowed needs t post
      (locateManagedConsensusStorageKey repo storageKeys expected >>= rest) state := by
  cases storageKeys with
  | nil => exact goes _ state (interference.reflexive _) (by simp)
  | cons _ _ =>
    unfold locateManagedConsensusStorageKey
    rw [bind_assoc]
    apply keeps_locateLoop interference
    intro result final rely placed
    have fails : ∀ failure, Keeps (perform repo) Rely allowed needs t post
        (rest (.error failure)) final := fun failure =>
      goes (.error failure) final rely (by simp)
    rcases result with failure | ⟨matched, old⟩
    · exact fails failure
    · dsimp only
      by_cases many : old > 1
      · rw [if_pos many]
        exact fails _
      · rw [if_neg many]
        by_cases fresh : expected = 0
        · rw [if_pos fresh]
          by_cases present : old ≠ 0
          · rw [if_pos present]
            exact fails _
          · rw [if_neg present]
            apply goes _ final rely
            rintro key ⟨rfl⟩
            exact ⟨List.mem_cons_self, fun _ => rfl⟩
        · rw [if_neg fresh]
          cases matched with
          | some key =>
            apply goes _ final rely
            rintro _ ⟨rfl⟩
            refine ⟨?_, fun isZero => absurd isZero fresh⟩
            rcases placed key old rfl with isKey | never
            · exact isKey
            · cases never
          | none =>
            dsimp only
            by_cases present : old > 0
            · rw [if_pos present]
              exact fails _
            · rw [if_neg present]
              exact fails _

omit interference

/-- What a scan that started in one state and ended in another has read. -/
structure Scanned (repo : RedisManagedConsensusRepository)
    (Rely : Shared State → Shared State → Prop) (start final : Shared State)
    (keys : List StorageKey) (selectedKey : StorageKey)
    (selected out : Option ManagedConsensusRecord) (count total : ℕ) : Prop where
  counted : count ≤ total
  empty : total = count → ∀ key ∈ keys, ∃ read, Rely start read ∧ Rely read final ∧
    read.store.hashAt key.repositoryKey = .ok []
  chosen : out = selected ∨ ∃ record read, out = some record ∧ Rely start read ∧
    Rely read final ∧ Loaded repo selectedKey read.store (.ok record)

/-- The loop that loads a conversation under all of its keys. -/
theorem keeps_loadLoop (interference : Interference Rely needs)
    (chosen : StorageKey) (keys : List StorageKey)
    (selected : Option ManagedConsensusRecord) (old : ℕ)
    {rest : Except RepositoryError (Option ManagedConsensusRecord × ℕ) → Steps State Result}
    (goes : ∀ result final, Rely state final → result ≠ .error .notFound →
      (∀ out total, result = .ok (out, total) →
        Scanned repo Rely state final keys chosen selected out old total) →
        Keeps (perform repo) Rely allowed needs t post (rest result) final) :
    Keeps (perform repo) Rely allowed needs t post
      (loadLoop repo chosen keys selected old >>= rest) state := by
  induction keys generalizing state selected old with
  | nil =>
    apply goes _ state (interference.reflexive _) (by simp)
    rintro out total ⟨rfl, rfl⟩
    exact ⟨le_rfl, by simp, .inl rfl⟩
  | cons key others ih =>
    unfold loadLoop
    rw [bind_assoc]
    apply keeps_loadConsensus interference key
    intro result read middle rely further loaded
    have run := interference.transitive _ _ _ rely further
    rcases result with failure | record
    · cases failure with
      | notFound =>
        apply ih
        intro out final relied stops scans
        apply goes out final (interference.transitive _ _ _ run relied) stops
        intro last total same
        have scanned := scans last total same
        refine ⟨scanned.counted, ?_, ?_⟩
        · intro none other isKey
          rcases List.mem_cons.mp isKey with rfl | isOther
          · exact ⟨read, rely, interference.transitive _ _ _ further relied, loaded.missing rfl⟩
          · rcases scanned.empty none other isOther with ⟨between, past, after, idle⟩
            exact ⟨between, interference.transitive _ _ _ run past, after, idle⟩
        · rcases scanned.chosen with kept | ⟨record, between, found, past, after, loads⟩
          · exact .inl kept
          · exact .inr ⟨record, between, found,
              interference.transitive _ _ _ run past, after, loads⟩
      | _ => exact goes _ middle run (by simp) (by simp)
    · dsimp only
      have counts : ∀ {final last next total}, Rely middle final →
          Scanned repo Rely middle final others chosen next last (old + 1) total →
          (next = selected ∨ next = some record ∧
            key.repositoryKey = chosen.repositoryKey) →
          Scanned repo Rely state final (key :: others) chosen selected last old
            total := by
        intro _ _ _ _ relied scanned base
        have more := scanned.counted
        refine ⟨by omega, fun none => by omega, ?_⟩
        rcases scanned.chosen with kept | ⟨other, between, found, past, after, loads⟩
        · rcases base with rfl | ⟨rfl, sameKey⟩
          · exact .inl kept
          · refine .inr ⟨record, read, kept, rely,
              interference.transitive _ _ _ further relied, by simp, ?_⟩
            rintro other ⟨rfl⟩
            rcases loaded.found record rfl with ⟨fields, stored, decoded⟩
            exact ⟨fields, sameKey ▸ stored, decoded⟩
        · exact .inr ⟨other, between, found, interference.transitive _ _ _ run past, after, loads⟩
      by_cases sameKey : key.repositoryKey = chosen.repositoryKey
      · rw [if_pos sameKey]
        apply ih
        intro out final relied stops scans
        apply goes out final (interference.transitive _ _ _ run relied) stops
        intro last total same
        exact counts relied (scans last total same) (.inr ⟨rfl, sameKey⟩)
      · rw [if_neg sameKey]
        apply ih
        intro out final relied stops scans
        apply goes out final (interference.transitive _ _ _ run relied) stops
        intro last total same
        exact counts relied (scans last total same) (.inl rfl)

/-- The load after the lease is acquired. -/
theorem keeps_loadForSession (interference : Interference Rely needs)
    (storageKeys : List StorageKey)
    (chosen : StorageKey) (expected : ℕ)
    {rest : Except RepositoryError (Option ManagedConsensusRecord) → Steps State Result}
    (goes : ∀ loaded final, Rely state final →
      (loaded = .error .notFound → expected = 0 → ∀ key ∈ storageKeys, ∃ read,
        Rely state read ∧ Rely read final ∧ read.store.hashAt key.repositoryKey = .ok []) →
      (∀ record, loaded = .ok (some record) → ∃ read, Rely state read ∧ Rely read final ∧
        Loaded repo chosen read.store (.ok record)) →
        Keeps (perform repo) Rely allowed needs t post (rest loaded) final) :
    Keeps (perform repo) Rely allowed needs t post
      (loadManagedConsensusForSession repo storageKeys chosen expected >>= rest)
      state := by
  unfold loadManagedConsensusForSession
  rw [bind_assoc]
  apply keeps_loadLoop interference
  intro result final rely stops scans
  rcases result with _ | ⟨out, total⟩
  · refine goes _ final rely ?_ (by simp)
    rintro ⟨rfl⟩
    exact absurd rfl stops
  · have scanned := scans out total rfl
    dsimp only
    by_cases many : total > 1
    · rw [if_pos many]
      exact goes _ final rely (by simp) (by simp)
    · rw [if_neg many]
      by_cases fresh : expected = 0
      · rw [if_pos fresh]
        by_cases present : total ≠ 0
        · rw [if_pos present]
          exact goes _ final rely (by simp) (by simp)
        · rw [if_neg present]
          refine goes _ final rely ?_ (by simp)
          intro _ _
          exact scanned.empty (by omega)
      · rw [if_neg fresh]
        by_cases absent : total = 0
        · rw [if_pos absent]
          exact goes _ final rely (fun _ isZero => absurd isZero fresh) (by simp)
        · rw [if_neg absent]
          by_cases diff : out.elim 0 (·.revision) ≠ expected
          · rw [if_pos diff]
            exact goes _ final rely (by simp) (by simp)
          · rw [if_neg diff]
            refine goes _ final rely (by simp) ?_
            rintro _ ⟨rfl⟩
            rcases scanned.chosen with never | ⟨_, read, ⟨rfl⟩, past, after, loads⟩
            · cases never
            · exact ⟨read, past, after, loads⟩

end Rules

/-! ### The end of the begin -/

theorem openSession_cases (env : Runtime State) (sess : ManagedConsensusSession)
    (loaded : Except RepositoryError (Option ManagedConsensusRecord)) :
    (∃ failure, openSession env sess loaded = releaseAfterFailedBegin sess failure) ∨
      openSession env sess loaded = (do
        ask (.note (.opened sess.expectedRevision))
        return .ok sess) ∧
      (sess.expectedRevision = 0 ∧ loaded = .error .notFound ∨
        sess.expectedRevision ≠ 0 ∧ ∃ record, loaded = .ok (some record) ∧
          record.revision = sess.expectedRevision) := by
  unfold openSession
  by_cases fresh : sess.expectedRevision = 0
  · rw [if_pos fresh]
    rcases loaded with failure | record
    · cases failure with
      | notFound => exact .inr ⟨rfl, .inl ⟨fresh, rfl⟩⟩
      | _ => exact .inl ⟨_, rfl⟩
    · exact .inl ⟨_, rfl⟩
  · rw [if_neg fresh]
    rcases loaded with _ | _ | record
    · exact .inl ⟨_, rfl⟩
    · exact .inl ⟨_, rfl⟩
    · dsimp only
      by_cases diff : record.revision ≠ sess.expectedRevision
      · rw [if_pos diff]
        exact .inl ⟨_, rfl⟩
      · rw [if_neg diff]
        cases env.decryptJSON _ _ with
        | error _ => exact .inl ⟨_, rfl⟩
        | ok state =>
          dsimp only
          cases env.validate state with
          | error _ => exact .inl ⟨_, rfl⟩
          | ok _ =>
            dsimp only
            by_cases other : env.revision state ≠ record.revision
            · rw [if_pos other]
              exact .inl ⟨_, rfl⟩
            · rw [if_neg other]
              exact .inr ⟨rfl, .inr ⟨fresh, record, rfl, not_not.mp diff⟩⟩

end NewApi.ContextConsensus
