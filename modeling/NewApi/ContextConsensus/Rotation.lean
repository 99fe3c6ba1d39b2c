import NewApi.ContextConsensus.SessionCalls

/-!
# One record under key rotation

Runs of sessions by nodes that hold the same key versions in different orders. A session that
creates a conversation locks the version that is active at its own node, so two nodes can create
it twice; this is the one way in which a second record comes about.
-/

namespace NewApi.ContextConsensus

open Concurrent.Program

open Concurrent (Keeps Program)
open Redis (Store)
open Transition (Reachable)

variable {State : Type}

/-! ### At most one record -/

/-- A conversation is created only while no other key of the ring holds a record. -/
def callExclusive (ring : Ring) (repo : RedisManagedConsensusRepository) (_thread : ℕ)
    (req : Call State) (pick : Choice) (shared : Shared State) : Prop :=
  ∀ call ∈ req.commit?, call.Applies repo pick.transport shared.store →
    call.expectedRevision = 0 → ∀ key ∈ ring.keys,
      key.repositoryKey ≠ call.target.repositoryKey → shared.store.find key.repositoryKey = none

def Exclusive (ring : Ring) (repo : RedisManagedConsensusRepository) :
    SessionPool State → Concurrent.Action Choice ℕ → Prop :=
  Concurrent.Pool.Allowed (callExclusive ring repo) fun _ _ => True

section Single

variable {repo : RedisManagedConsensusRepository} {ring : Ring} {t : ℕ}
  {shared : Shared State} {req : Call State} {pick : Choice} {store after : Store}
  {call : CommitCall} {wire : Transport}

theorem CommitCall.Applies.find_storage (acts : call.Applies repo wire store) :
    store.find call.storageKey.repositoryKey ≠ none ∨
      call.expectedRevision = 0 ∧ call.migrateTo = none := by
  by_cases missing : store.find call.storageKey.repositoryKey = none
  · right
    cases moves : call.migrateTo with
    | none =>
      rcases CommitCall.revision_of_ready moves acts.2.2.1 with ⟨fields, stored, expected⟩
      rw [lookup_of_missing missing stored] at expected
      have zero : ("0" : String) = Decimal.format 0 := by decide +kernel
      rw [Option.getD_none, zero] at expected
      exact ⟨(Decimal.format_injective expected).symm, rfl⟩
    | some _ =>
      rcases CommitCall.migration_of_ready moves acts.2.2.1 with
        ⟨⟨fields, stored, expected⟩, -⟩
      rw [lookup_of_missing missing stored] at expected
      cases expected
  · exact .inl missing

theorem SingleRecord.shrinks (single : SingleRecord ring store)
    (shrinks : ∀ key ∈ ring.keys, after.find key.repositoryKey = none ∨
      after.find key.repositoryKey = store.find key.repositoryKey) : SingleRecord ring after := by
  intro key isKey other isOther present presentOther
  rcases shrinks key isKey with gone | same
  · exact absurd gone present
  · rcases shrinks other isOther with gone | sameOther
    · exact absurd gone presentOther
    · exact single key isKey other isOther (same ▸ present) (sameOther ▸ presentOther)

theorem SingleRecord.applied (single : SingleRecord ring store) (inRing : call.OverRing ring)
    (acts : call.Applies repo wire store)
    (exclusive : call.expectedRevision = 0 → ∀ key ∈ ring.keys,
      key.repositoryKey ≠ call.target.repositoryKey → store.find key.repositoryKey = none) :
    SingleRecord ring (call.applied repo store) := by
  -- Every record besides the target's is gone.
  have alone : ∀ key ∈ ring.keys, (call.applied repo store).find key.repositoryKey ≠ none →
      key.repositoryKey = call.target.repositoryKey := by
    intro key isKey present
    rcases acts.find_cases inRing isKey with target | ⟨-, -, -, gone⟩ |
        ⟨notTarget, notStorage, same⟩
    · exact target
    · exact absurd gone present
    · rw [same] at present
      rcases acts.find_storage with stored | ⟨creates, -⟩
      · exact absurd (single key isKey _ inRing.1 present stored) notStorage
      · exact absurd (exclusive creates key isKey notTarget) present
  intro key isKey other isOther present presentOther
  rw [alone key isKey present, alone other isOther presentOther]

theorem SingleRecord.perform (readable : CountersReadable ring shared.store)
    (single : SingleRecord ring shared.store) (inRing : req.OverRing ring)
    (exclusive : callExclusive ring repo t req pick shared) :
    SingleRecord ring (ContextConsensus.perform repo t req pick shared).2.store := by
  have effect := @perform_effect State repo ring t shared pick readable req inRing
  rcases effect.split inRing with quiet | ⟨note, rfl, after⟩ |
      ⟨key, expectedRevision, lease, rfl, after⟩ | ⟨call, rfl, acts, after⟩
  · exact single.shrinks fun key isKey => .inr (quiet.records key isKey)
  · rw [after]
    exact single
  · rw [after]
    exact single.shrinks fun _ _ => Redis.Store.find_put_none_cases _ _ _
  · rw [after]
    exact single.applied inRing acts (exclusive call rfl acts)

end Single

variable {repo : RedisManagedConsensusRepository} {ring : Ring} {pool : SessionPool State}

theorem single_of_reachable
    {nodes : ℕ → Runtime State} {plans : ℕ → SessionPlan State} {store : Store}
    (settled : Settled ring store)
    (keys : ∀ t, ∀ key ∈ (plans t).request.storageKeys, key ∈ ring.keys)
    (run : Reachable (SessionPool.step repo) (Exclusive ring repo)
      (sessions repo nodes plans store) pool) : SingleRecord ring pool.state.store := by
  suffices holding : pool.Holding (perform repo)
      (fun shared => CountersReadable ring shared.store ∧ SingleRecord ring shared.store)
      (fun _ _ _ => True) (callExclusive ring repo) (fun _ req _ => req.OverRing ring)
      (fun _ _ _ => True) from holding.state.2
  refine Concurrent.Pool.holding_reachable run (fun _ _ => trivial)
    (fun _ _ _ _ _ _ => trivial) ?_ ?_ ⟨⟨settled.readable, settled.single⟩, ?_⟩
  · rintro t req pick shared ⟨readable, single⟩ inRing exclusive
    have effect := @perform_effect State repo ring t shared pick readable req inRing
    exact ⟨⟨effect.readable inRing readable, single.perform readable inRing exclusive⟩,
      fun _ _ => trivial⟩
  · rintro milliseconds _ ⟨readable, single⟩ -
    exact ⟨⟨readable.tick milliseconds,
      single.shrinks fun key _ => Redis.Store.find_tick_cases _ _ _⟩, fun _ => trivial⟩
  · intro t
    exact Keeps.of_makes (fun _ => True) (runSession_makes (nodes t) (keys t))
      trivial (fun _ _ _ _ => trivial) (fun _ _ made _ => made)
      (perform_possible repo t) (fun _ _ _ _ _ _ => trivial) (fun _ _ _ _ => trivial)

/-! ### Overlapping sessions -/

/-- The sessions that expect no record, from the scan under their lease to their end. -/
def creators : List (Event State) → List ℕ
  | [] => []
  | .noted t (.scans expectedRevision) :: past =>
    if expectedRevision = 0 then t :: creators past else creators past
  | .noted t .abandons :: past => (creators past).filter (· ≠ t)
  | .noted t .closes :: past => (creators past).filter (· ≠ t)
  | _ :: past => creators past

/-- A record is created, or moved to another key, only while every other session that is about to
create the conversation has that key as its active one. -/
def callApart (plans : ℕ → SessionPlan State) (repo : RedisManagedConsensusRepository) (t : ℕ)
    (req : Call State) (pick : Choice) (shared : Shared State) : Prop :=
  ∀ call ∈ req.commit?, call.Applies repo pick.transport shared.store →
    call.expectedRevision = 0 ∨ call.migrateTo ≠ none →
      ∀ other ∈ creators shared.history, other ≠ t →
        ∀ key ∈ (plans other).request.storageKeys.head?,
          key.repositoryKey = call.target.repositoryKey

instance (plans : ℕ → SessionPlan State) (repo : RedisManagedConsensusRepository) (t : ℕ)
    (req : Call State) (pick : Choice) (shared : Shared State) :
    Decidable (callApart plans repo t req pick shared) :=
  inferInstanceAs (Decidable (∀ call ∈ req.commit?, _))

def Apart (plans : ℕ → SessionPlan State) (repo : RedisManagedConsensusRepository) :
    SessionPool State → Concurrent.Action Choice ℕ → Prop :=
  Concurrent.Pool.Allowed (callApart plans repo) fun _ _ => True

/-- A session that creates the conversation does so while no other key holds a record. -/
def apartNeeds (ring : Ring) (req : Call State) (shared : Shared State) : Prop :=
  req.OverRing ring ∧ ∀ call ∈ req.commit?, call.expectedRevision = 0 → ∀ key ∈ ring.keys,
    key.repositoryKey ≠ call.target.repositoryKey → shared.store.find key.repositoryKey = none

/-- Every record of the ring is a hash with a revision. -/
structure Legible (ring : Ring) (store : Store) : Prop where
  readable : CountersReadable ring store
  records : ∀ key ∈ ring.keys, ∀ entry, store.find key.repositoryKey = some entry →
    ∃ fields rev, entry.value = .hash fields ∧
      fields.lookup "revision" = some (Decimal.format rev)

/-- What a session relies on: while it is about to create the conversation, no record comes to a
key that is not active at its node. -/
structure ApartRely (ring : Ring) (plan : SessionPlan State) (t : ℕ)
    (before after : Shared State) : Prop where
  legible : Legible ring before.store → Legible ring after.store
  creating : t ∈ creators after.history ↔ t ∈ creators before.history
  retired : t ∈ creators before.history → ∀ live ∈ plan.request.storageKeys.head?,
    ∀ key ∈ ring.keys, key.repositoryKey ≠ live.repositoryKey →
      before.store.find key.repositoryKey = none → after.store.find key.repositoryKey = none

section Apart

variable {repo : RedisManagedConsensusRepository} {ring : Ring} {t other : ℕ}
  {shared after : Shared State} {req : Call State} {pick : Choice}
  {plans : ℕ → SessionPlan State} {plan : SessionPlan State}
  {live : ManagedConversationStorageKey}

theorem creators_noted_of_ne {history : List (Event State)} (note : Note State)
    (diff : other ≠ t) :
    other ∈ creators (.noted t note :: history) ↔ other ∈ creators history := by
  cases note with
  | scans _ =>
    simp only [creators]
    split
    · simp [diff]
    · rfl
  | abandons | closes => simp [creators, diff]
  | _ => rfl

theorem Quiet.creators (quiet : Quiet ring shared after) :
    ContextConsensus.creators after.history = ContextConsensus.creators shared.history := by
  rcases quiet.issues with same | ⟨_, _, same⟩
  · rw [same]
  · rw [same]
    rfl

/-- A commit leaves a missing record missing, unless it creates it or moves one to it. -/
theorem CommitCall.Applies.find_missing {call : CommitCall} {wire : Transport} {store : Store}
    (acts : call.Applies repo wire store) (inRing : call.OverRing ring)
    {key : ManagedConversationStorageKey} (isKey : key ∈ ring.keys)
    (missing : store.find key.repositoryKey = none)
    (apart : call.expectedRevision = 0 ∨ call.migrateTo ≠ none →
      key.repositoryKey ≠ call.target.repositoryKey) :
    (call.applied repo store).find key.repositoryKey = none := by
  rcases acts.find_cases inRing isKey with target | ⟨-, -, -, gone⟩ | ⟨-, -, same⟩
  · have inPlace : ¬(call.expectedRevision = 0 ∨ call.migrateTo ≠ none) :=
      fun creates => apart creates target
    rcases not_or.mp inPlace with ⟨later, stays⟩
    have here : call.target = call.storageKey := by
      simp [CommitCall.target, not_not.mp stays]
    rcases acts.find_storage with present | ⟨creates, -⟩
    · rw [target, here] at missing
      exact absurd missing present
    · exact absurd creates later
  · exact gone
  · rw [same]
    exact missing

theorem Legible.shrinks {store later : Store} (legible : Legible ring store)
    (readable : CountersReadable ring later)
    (shrinks : ∀ key ∈ ring.keys, later.find key.repositoryKey = none ∨
      later.find key.repositoryKey = store.find key.repositoryKey) : Legible ring later := by
  refine ⟨readable, ?_⟩
  intro key isKey entry found
  rcases shrinks key isKey with gone | same
  · rw [gone] at found
    cases found
  · exact legible.records key isKey entry (same ▸ found)

theorem Legible.missing {store : Store} {key : ManagedConversationStorageKey}
    (legible : Legible ring store) (isKey : key ∈ ring.keys)
    (empty : store.hashAt key.repositoryKey = .ok []) : store.find key.repositoryKey = none := by
  cases found : store.find key.repositoryKey with
  | none => rfl
  | some entry =>
    rcases legible.records key isKey entry found with ⟨_, _, hash, text⟩
    rcases entry with ⟨_, _⟩
    simp only at hash
    subst hash
    simp only [Redis.Store.hashAt, found, Except.ok.injEq] at empty
    subst empty
    cases text

theorem Legible.perform (legible : Legible ring shared.store) (inRing : req.OverRing ring) :
    Legible ring (ContextConsensus.perform repo t req pick shared).2.store := by
  have effect := @perform_effect State repo ring t shared pick legible.readable req inRing
  have readable := effect.readable inRing legible.readable
  rcases effect.split inRing with quiet | ⟨note, rfl, after⟩ |
      ⟨key, expectedRevision, lease, rfl, after⟩ | ⟨call, rfl, acts, after⟩
  · exact legible.shrinks readable fun key isKey => .inr (quiet.records key isKey)
  · rw [after]
    exact legible
  · rw [after] at readable ⊢
    exact legible.shrinks readable fun _ _ => Redis.Store.find_put_none_cases _ _ _
  · rw [after] at readable ⊢
    refine ⟨readable, ?_⟩
    intro key isKey entry found
    rcases acts.find_cases inRing isKey with target | ⟨-, -, -, gone⟩ | ⟨-, -, same⟩
    · rcases acts.find_target with ⟨fields, due, written, text, -⟩
      simp only [target, written, Option.some.injEq] at found
      exact ⟨fields, _, by rw [← found], text⟩
    · simp only [gone] at found
      cases found
    · exact legible.records key isKey entry (same ▸ found)

theorem apartRely_perform (legible : Legible ring shared.store)
    (inRing : req.OverRing ring) (allowed : callApart plans repo t req pick shared)
    (diff : other ≠ t) :
    ApartRely ring (plans other) other shared (perform repo t req pick shared).2 := by
  have effect := @perform_effect State repo ring t shared pick legible.readable req inRing
  have kept := @Legible.perform State repo ring t shared req pick legible inRing
  rcases effect.split inRing with quiet | ⟨note, rfl, after⟩ |
      ⟨key, expectedRevision, lease, rfl, after⟩ | ⟨call, rfl, acts, after⟩
  · refine ⟨fun _ => kept, by rw [quiet.creators], ?_⟩
    intro _ live _ key isKey _ missing
    rw [quiet.records key isKey]
    exact missing
  · rw [after] at kept ⊢
    exact ⟨fun _ => kept, creators_noted_of_ne note diff, fun _ _ _ _ _ _ missing => missing⟩
  · rw [after] at kept ⊢
    refine ⟨fun _ => kept, Iff.rfl, ?_⟩
    intro _ _ _ key _ _ missing
    rcases Redis.Store.find_put_none_cases _ _ key.repositoryKey with gone | same
    · exact gone
    · exact same.trans missing
  · have apart := allowed call rfl acts
    rw [after] at kept ⊢
    refine ⟨fun _ => kept, Iff.rfl, ?_⟩
    intro creating live isLive key isKey retired missing
    refine acts.find_missing inRing isKey missing fun places target => retired ?_
    exact target.trans (apart places other creating diff live isLive).symm

theorem apart_interference (ring : Ring) (plan : SessionPlan State) (t : ℕ) :
    Interference (ApartRely ring plan t) (@apartNeeds State ring) := by
  refine ⟨?_, ?_, fun _ _ => ⟨trivial, by simp [Call.commit?]⟩,
    fun _ _ => ⟨trivial, by simp [Call.commit?]⟩⟩
  · intro _
    exact ⟨fun legible => legible, Iff.rfl, fun _ _ _ _ _ _ missing => missing⟩
  · intro _ _ _ former latter
    refine ⟨fun legible => latter.legible (former.legible legible),
      latter.creating.trans former.creating, ?_⟩
    intro creating live isLive key isKey retired missing
    exact latter.retired (former.creating.mpr creating) live isLive key isKey retired
      (former.retired creating live isLive key isKey retired missing)

/-- A session that is about to create the conversation: its retired keys hold no record. -/
structure Creates (ring : Ring) (live : ManagedConversationStorageKey) (t : ℕ)
    (shared : Shared State) : Prop where
  creating : t ∈ creators shared.history
  retired : ∀ key ∈ ring.keys, key.repositoryKey ≠ live.repositoryKey →
    shared.store.find key.repositoryKey = none

theorem Creates.rely (creates : Creates ring live t shared)
    (isLive : live ∈ plan.request.storageKeys.head?) (relies : ApartRely ring plan t shared after) :
    Creates ring live t after where
  creating := relies.creating.mpr creates.creating
  retired key isKey retired := relies.retired creates.creating live isLive key isKey retired
    (creates.retired key isKey retired)

theorem Creates.perform (creates : Creates ring live t shared)
    (readable : CountersReadable ring shared.store) (inRing : req.OverRing ring)
    (places : ∀ call ∈ req.commit?, call.target.repositoryKey = live.repositoryKey)
    (goes : ∀ note, req = .note note →
      t ∈ ContextConsensus.creators (.noted t note :: shared.history)) :
    Creates ring live t (ContextConsensus.perform repo t req pick shared).2 := by
  have effect := @perform_effect State repo ring t shared pick readable req inRing
  rcases effect.split inRing with quiet | ⟨note, rfl, after⟩ |
      ⟨key, expectedRevision, lease, rfl, after⟩ | ⟨call, rfl, acts, after⟩
  · refine ⟨quiet.creators ▸ creates.creating, ?_⟩
    intro key isKey retired
    rw [quiet.records key isKey]
    exact creates.retired key isKey retired
  · rw [after]
    exact ⟨goes note rfl, creates.retired⟩
  · rw [after]
    refine ⟨creates.creating, ?_⟩
    intro other isKey retired
    rcases Redis.Store.find_put_none_cases _ _ other.repositoryKey with gone | same
    · exact gone
    · exact same.trans (creates.retired other isKey retired)
  · rw [after]
    refine ⟨creates.creating, ?_⟩
    intro key isKey retired
    exact acts.find_missing inRing isKey (creates.retired key isKey retired)
      fun _ target => retired (target.trans (places call rfl))

def ApartKept (repo : RedisManagedConsensusRepository) (ring : Ring)
    (plans : ℕ → SessionPlan State) (t : ℕ) (program : Steps State Unit)
    (shared : Shared State) : Prop :=
  Keeps (perform repo) (ApartRely ring (plans t) t) (callApart plans repo t) (apartNeeds ring) t
    (fun _ _ => True) program shared

theorem apartKept_ask {rest : req.Answer → Steps State Unit} (legible : Legible ring shared.store)
    (inRing : req.OverRing ring) (plain : req.commit? = none)
    (goes : ∀ reply later pick, Legible ring later.store → ApartRely ring (plans t) t shared later →
      req.Possible reply →
        ApartKept repo ring plans t (rest reply) (perform repo t req pick later).2) :
    ApartKept repo ring plans t (ask req >>= rest) shared := by
  intro later relies
  have legible := relies.legible legible
  refine ⟨⟨inRing, by simp [plain]⟩, ?_⟩
  intro pick _
  exact goes _ later pick legible relies (perform_possible repo t req pick later)

theorem apartKept_close {sess : ManagedConsensusSession} (lease : sess.lease.OnRing ring)
    (legible : Legible ring shared.store) :
    ApartKept repo ring plans t (closeSession sess) shared := by
  have closes : ∀ shared : Shared State, Legible ring shared.store →
      ApartKept repo ring plans t (ask (.note .closes)) shared := by
    intro _ legible
    exact apartKept_ask legible (by trivial) rfl fun _ _ _ _ _ _ _ _ => trivial
  unfold closeSession
  split
  · exact closes shared legible
  · refine apartKept_ask legible lease rfl ?_
    intro _ later pick legible _ _
    exact closes _ (legible.perform lease)

/-- What a session knows of the records once it has begun. -/
def Opened (ring : Ring) (live : ManagedConversationStorageKey) (t : ℕ)
    (sess : ManagedConsensusSession) (shared : Shared State) : Prop :=
  Legible ring shared.store ∧ (sess.expectedRevision = 0 → Creates ring live t shared)

/-- The calls of an opened session keep what it knows, up to the note of its end. -/
theorem apartKept_makes {Result : Type} {sess : ManagedConsensusSession}
    {program : Steps State Result} {final : Result → Prop}
    {post : Result → Shared State → Prop} (inRing : sess.OverRing ring)
    (active : sess.activeStorageKey = live) (isLive : live ∈ (plans t).request.storageKeys.head?)
    (opened : Opened ring live t sess shared)
    (makes : program.Makes Call.Possible (Call.Continues sess) final)
    (ends : ∀ result later, final result → Opened ring live t sess later → post result later) :
    Keeps (perform repo) (ApartRely ring (plans t) t) (callApart plans repo t) (apartNeeds ring) t
      post program shared := by
  have places : ∀ req : Call State, req.Continues sess → ∀ call ∈ req.commit?,
      call.target.repositoryKey = live.repositoryKey ∧
        call.expectedRevision = sess.expectedRevision := by
    intro req goes call isCommit
    cases req with
    | commit _ =>
      rcases goes with ⟨body, provider, ttl, rfl⟩
      cases isCommit
      rw [sess.target_commitCall, inRing.commitStorageKey, active]
      exact ⟨rfl, rfl⟩
    | _ => cases isCommit
  refine Keeps.of_makes (Opened ring live t sess) makes opened ?_ ?_ (perform_possible repo t) ?_
    ends
  · intro first two opened relies
    exact ⟨relies.legible opened.1, fun fresh => (opened.2 fresh).rely isLive relies⟩
  · intro req shared goes opened
    refine ⟨goes.overRing inRing, ?_⟩
    intro call isCommit fresh key isKey retired
    rcases places req goes call isCommit with ⟨target, expected⟩
    exact (opened.2 (expected ▸ fresh)).retired key isKey (target ▸ retired)
  · intro req pick shared goes _ opened
    refine ⟨opened.1.perform (goes.overRing inRing), ?_⟩
    intro fresh
    refine (opened.2 fresh).perform opened.1.readable (goes.overRing inRing)
      (fun call isCommit => (places req goes call isCommit).1) ?_
    rintro note rfl
    cases note with
    | attempts _ | reports _ => exact (opened.2 fresh).creating
    | _ => exact goes.elim

theorem apartKept_continue (node : Runtime State) (plan : SessionPlan State)
    {sess : ManagedConsensusSession} (inRing : sess.OverRing ring)
    (active : sess.activeStorageKey = live) (isLive : live ∈ (plans t).request.storageKeys.head?)
    (opened : Opened ring live t sess shared) :
    ApartKept repo ring plans t
      (do let sess ← runOperations plan.operations sess
          match plan.commit with
          | none => closeSession sess
          | some commit =>
            let result ← commitPlanned repo node sess commit
            closeSession result.1) shared := by
  have reflexive := (@apart_interference State ring (plans t) t).reflexive
  refine Keeps.bind reflexive (apartKept_makes inRing active isLive opened
    (runOperations_makes plan.operations ⟨rfl, rfl, rfl, rfl⟩) ?_)
  intro other later same opened
  have lease : other.lease.OnRing ring := same.lease ▸ inRing.lease
  cases plan.commit with
  | none => exact apartKept_close lease opened.1
  | some commit =>
    refine Keeps.bind reflexive (apartKept_makes inRing active isLive opened
      (commitPlanned_makes node commit same) ?_)
    intro result last sameResult opened
    exact apartKept_close (sameResult.lease ▸ inRing.lease) opened.1

/-- A session on legible records keeps one record of the conversation. -/
theorem apartKept_runSession (node : Runtime State)
    (keys : ∀ key, key ∈ (plans t).request.storageKeys ↔ key ∈ ring.keys)
    (legible : Legible ring shared.store) :
    ApartKept repo ring plans t (runSession repo node (plans t)) shared := by
  have rely := @apart_interference State ring (plans t) t
  have kept_done : ∀ final, ApartKept repo ring plans t (.done () : Steps State Unit) final :=
    fun _ _ _ => trivial
  unfold runSession beginManagedConsensusSession
  rw [bind_assoc]
  refine apartKept_ask legible (by trivial) rfl ?_
  intro _ _ _ legible _ _
  rw [bind_assoc]
  apply keeps_locate rely
  intro placed run relies found
  have legible := relies.legible legible
  rcases placed with err | storageKey
  · exact kept_done run
  · rcases found storageKey rfl with ⟨isLocated, isActive⟩
    have isKey : storageKey ∈ ring.keys := (keys storageKey).mp isLocated
    dsimp only
    rw [bind_assoc]
    refine apartKept_ask legible isKey rfl ?_
    intro reply acquired pick legible _ possible
    rcases reply with err | lease
    · exact kept_done _
    · have leased := possible lease rfl
      dsimp only
      rw [bind_assoc]
      refine apartKept_ask (legible.perform isKey) (by trivial) rfl ?_
      intro _ started pick legible _ _
      have scanning : (plans t).request.expectedRevision = 0 → t ∈ creators
          (perform repo t (.note (.scans (plans t).request.expectedRevision)) pick
            started).2.history := by
        intro fresh
        simp [perform, creators, fresh]
      rw [bind_assoc]
      apply keeps_loadForSession rely
      intro loaded scanned relies empty _
      have legibleScanned := relies.legible legible
      rcases openSession_cases node _ loaded with ⟨_, same⟩ | ⟨same, evidence⟩
      · rw [same, releaseAfterFailedBegin, bind_assoc]
        refine apartKept_ask legibleScanned ⟨storageKey, isKey, leased⟩ rfl ?_
        intro _ released pick legible _ _
        rw [bind_assoc]
        refine apartKept_ask (legible.perform ⟨storageKey, isKey, leased⟩) (by trivial) rfl ?_
        intro _ abandoned _ _ _ _
        exact kept_done _
      · have isLive : (plans t).request.storageKeys.headD storageKey ∈
            (plans t).request.storageKeys.head? := by
          cases isEmpty : (plans t).request.storageKeys with
          | nil =>
            rw [isEmpty] at isLocated
            cases isLocated
          | cons _ _ => simp
        -- Every key was read as missing, and no record comes to a retired key.
        have creates : (plans t).request.expectedRevision = 0 →
            Creates ring ((plans t).request.storageKeys.headD storageKey) t scanned := by
          intro fresh
          have missing : loaded = .error .notFound := by
            rcases evidence with ⟨-, missing⟩ | ⟨present, -⟩
            · exact missing
            · exact absurd fresh present
          refine ⟨relies.creating.mpr (scanning fresh), ?_⟩
          intro key isKey retired
          rcases empty missing fresh key ((keys key).mpr isKey) with ⟨read, past, after, idle⟩
          exact after.retired (past.creating.mpr (scanning fresh)) _ isLive key isKey retired
            ((past.legible legible).missing isKey idle)
        rw [same, bind_assoc]
        refine apartKept_ask legibleScanned (by trivial) rfl ?_
        intro _ opened pick legible relies _
        apply apartKept_continue node (plans t) ⟨isKey, ?_, leased⟩ rfl isLive
        · refine ⟨legible, fun fresh => ?_⟩
          have creates := (creates fresh).rely isLive relies
          exact ⟨creates.creating, creates.retired⟩
        · exact (keys _).mp (List.mem_of_mem_head? isLive)

end Apart

/-! ### Sessions that begin after a commit -/

def completedBefore (t : ℕ) : List (Event State) → List Applied
  | [] => []
  | .noted other (.begins _) :: past =>
    if other = t then commitsIn past else completedBefore t past
  | _ :: past => completedBefore t past

/-- The sessions that expect no record and look for one under their lease. -/
def scanners : List (Event State) → List ℕ
  | [] => []
  | .noted t (.scans expectedRevision) :: past =>
    if expectedRevision = 0 then t :: scanners past else scanners past
  | .noted t (.opened _) :: past => (scanners past).filter (· ≠ t)
  | .noted t .abandons :: past => (scanners past).filter (· ≠ t)
  | _ :: past => scanners past

/-- Every session was opened at a revision at least that of each commit before it began. -/
def ReadsLatest : List (Event State) → Prop
  | [] => True
  | .noted t (.opened rev) :: past =>
    (∀ commit ∈ completedBefore t past, commit.call.expectedRevision + 1 ≤ rev) ∧
      ReadsLatest past
  | _ :: past => ReadsLatest past

/-- A call deletes no record, and moves none while a session that expects no record looks for
one. -/
def callStill (ring : Ring) (repo : RedisManagedConsensusRepository) (t : ℕ)
    (req : Call State) (pick : Choice) (shared : Shared State) : Prop :=
  (req.commit? = none → ∀ key ∈ ring.keys, shared.store.find key.repositoryKey ≠ none →
      (perform repo t req pick shared).2.store.find key.repositoryKey ≠ none) ∧
    ∀ call ∈ req.commit?, call.Applies repo pick.transport shared.store →
      call.migrateTo ≠ none → scanners shared.history = []

instance (ring : Ring) (repo : RedisManagedConsensusRepository) (t : ℕ)
    (req : Call State) (pick : Choice) (shared : Shared State) :
    Decidable (callStill ring repo t req pick shared) :=
  inferInstanceAs (Decidable (_ ∧ ∀ call ∈ req.commit?, _))

/-- A call of sessions that do not overlap, which moreover removes no record. -/
def callSteady (plans : ℕ → SessionPlan State) (ring : Ring)
    (repo : RedisManagedConsensusRepository) (t : ℕ) (req : Call State) (pick : Choice)
    (shared : Shared State) : Prop :=
  callApart plans repo t req pick shared ∧ callStill ring repo t req pick shared

instance (plans : ℕ → SessionPlan State) (ring : Ring) (repo : RedisManagedConsensusRepository)
    (t : ℕ) (req : Call State) (pick : Choice) (shared : Shared State) :
    Decidable (callSteady plans ring repo t req pick shared) :=
  inferInstanceAs (Decidable (_ ∧ _))

def callLone (ring : Ring) (repo : RedisManagedConsensusRepository) (t : ℕ)
    (req : Call State) (pick : Choice) (shared : Shared State) : Prop :=
  callExclusive ring repo t req pick shared ∧ callStill ring repo t req pick shared

def timeSteady (ring : Ring) (milliseconds : ℕ) (shared : Shared State) : Prop :=
  ∀ key ∈ ring.keys, shared.store.find key.repositoryKey ≠ none →
    (shared.store.tick milliseconds).find key.repositoryKey ≠ none

instance (ring : Ring) (milliseconds : ℕ) (shared : Shared State) :
    Decidable (timeSteady ring milliseconds shared) :=
  inferInstanceAs (Decidable (∀ key ∈ ring.keys, _))

def Steady (plans : ℕ → SessionPlan State) (ring : Ring)
    (repo : RedisManagedConsensusRepository) :
    SessionPool State → Concurrent.Action Choice ℕ → Prop :=
  Concurrent.Pool.Allowed (callSteady plans ring repo) (timeSteady ring)

instance (plans : ℕ → SessionPlan State) (ring : Ring) (repo : RedisManagedConsensusRepository)
    (pool : SessionPool State) (action : Concurrent.Action Choice ℕ) :
    Decidable (Steady plans ring repo pool action) :=
  Concurrent.Pool.decidableAllowed _ _ pool action

def Lone (ring : Ring) (repo : RedisManagedConsensusRepository) :
    SessionPool State → Concurrent.Action Choice ℕ → Prop :=
  Concurrent.Pool.Allowed (callLone ring repo) (timeSteady ring)

theorem Steady.apart {plans : ℕ → SessionPlan State} {action : Concurrent.Action Choice ℕ}
    (steady : Steady plans ring repo pool action) : Apart plans repo pool action := by
  cases action with
  | occur _ => trivial
  | perform t _ =>
    revert steady
    simp only [Steady, Apart, Concurrent.Pool.Allowed]
    cases pool.threads t with
    | done _ => exact fun _ => trivial
    | call _ _ => exact fun steady => steady.1

theorem Steady.lone {plans : ℕ → SessionPlan State} {action : Concurrent.Action Choice ℕ}
    (steady : Steady plans ring repo pool action) (exclusive : Exclusive ring repo pool action) :
    Lone ring repo pool action := by
  cases action with
  | occur _ => exact steady
  | perform t _ =>
    revert steady exclusive
    simp only [Steady, Exclusive, Lone, Concurrent.Pool.Allowed]
    cases pool.threads t with
    | done _ => exact fun _ _ => trivial
    | call _ _ => exact fun steady exclusive => ⟨exclusive, steady.2⟩

def RevisionAt (store : Store) (key : ManagedConversationStorageKey) (rev : ℕ) : Prop :=
  ∃ fields, store.hashAt key.repositoryKey = .ok fields ∧
    fields.lookup "revision" = some (Decimal.format rev)

/-- What every step keeps: one record, at a revision that no commit is ahead of. -/
structure Latest (ring : Ring) (shared : Shared State) : Prop where
  readable : CountersReadable ring shared.store
  single : SingleRecord ring shared.store
  newest : ∀ commit ∈ commitsIn shared.history, ∃ key ∈ ring.keys, ∃ rev,
    RevisionAt shared.store key rev ∧ commit.call.expectedRevision + 1 ≤ rev
  latest : ReadsLatest shared.history

def latestNeeds (ring : Ring) (t : ℕ) (req : Call State) (shared : Shared State) : Prop :=
  req.OverRing ring ∧ ∀ rev, req = .note (.opened rev) →
    ∀ commit ∈ completedBefore t shared.history, commit.call.expectedRevision + 1 ≤ rev

/-- What a session relies on: while it looks for a record that it does not expect, no record
goes away. -/
structure LatestRely (ring : Ring) (t : ℕ) (before after : Shared State) : Prop where
  latest : Latest ring before → Latest ring after
  completed : completedBefore t after.history = completedBefore t before.history
  scanning : t ∈ scanners after.history ↔ t ∈ scanners before.history
  grows : ∀ commit ∈ commitsIn before.history, commit ∈ commitsIn after.history
  stays : t ∈ scanners before.history → ∀ key ∈ ring.keys,
    before.store.find key.repositoryKey ≠ none → after.store.find key.repositoryKey ≠ none

section Latest

variable {repo : RedisManagedConsensusRepository} {ring : Ring} {t other : ℕ}
  {shared after : Shared State} {req : Call State} {pick : Choice} {store : Store}
  {key : ManagedConversationStorageKey}

variable {rev : ℕ} {history : List (Event State)} {completed : List Applied}

theorem RevisionAt.present (at_ : RevisionAt store key rev) :
    store.find key.repositoryKey ≠ none := by
  intro missing
  rcases at_ with ⟨_, stored, text⟩
  rw [lookup_of_missing missing stored] at text
  cases text

theorem RevisionAt.congr {later : Store} (at_ : RevisionAt store key rev)
    (same : later.find key.repositoryKey = store.find key.repositoryKey) :
    RevisionAt later key rev := by
  rcases at_ with ⟨fields, stored, text⟩
  refine ⟨fields, ?_, text⟩
  rw [← stored]
  apply Redis.Store.hashAt_congr
  rw [same]

theorem Latest.kept (latest : Latest ring shared) {later : Store}
    (readable : CountersReadable ring later)
    (shrinks : ∀ key ∈ ring.keys, later.find key.repositoryKey = none ∨
      later.find key.repositoryKey = shared.store.find key.repositoryKey)
    (stays : ∀ key ∈ ring.keys, shared.store.find key.repositoryKey ≠ none →
      later.find key.repositoryKey ≠ none)
    (commits : commitsIn history = commitsIn shared.history) (reads : ReadsLatest history) :
    Latest ring ⟨later, history⟩ := by
  refine ⟨readable, latest.single.shrinks shrinks, ?_, reads⟩
  intro commit applied
  simp only [commits] at applied
  rcases latest.newest commit applied with ⟨key, isKey, rev, at_, bound⟩
  refine ⟨key, isKey, rev, at_.congr ?_, bound⟩
  rcases shrinks key isKey with gone | same
  · exact absurd gone (stays key isKey at_.present)
  · exact same

theorem Latest.expected (latest : Latest ring shared) {call : CommitCall}
    {wire : Transport} (inRing : call.OverRing ring)
    (acts : call.Applies repo wire shared.store)
    (exclusive : call.expectedRevision = 0 → ∀ key ∈ ring.keys,
      key.repositoryKey ≠ call.target.repositoryKey →
        shared.store.find key.repositoryKey = none) (isKey : key ∈ ring.keys)
    (at_ : RevisionAt shared.store key rev) : rev = call.expectedRevision := by
  have isStorage : key.repositoryKey = call.storageKey.repositoryKey := by
    rcases acts.find_storage with stored | ⟨creates, inPlace⟩
    · exact latest.single key isKey _ inRing.1 at_.present stored
    · by_contra diff
      have here : call.target = call.storageKey := by simp [CommitCall.target, inPlace]
      exact at_.present (exclusive creates key isKey (by rw [here]; exact diff))
  rcases at_ with ⟨_, stored, text⟩
  rw [isStorage] at stored
  cases moves : call.migrateTo with
  | none =>
    rcases CommitCall.revision_of_ready moves acts.2.2.1 with ⟨others, found, expected⟩
    rw [stored] at found
    rw [← Except.ok.inj found, text] at expected
    exact Decimal.format_injective expected
  | some _ =>
    rcases CommitCall.migration_of_ready moves acts.2.2.1 with
      ⟨⟨others, found, expected⟩, -⟩
    rw [stored] at found
    rw [← Except.ok.inj found, text] at expected
    exact Decimal.format_injective (Option.some.inj expected)

theorem Latest.committed (latest : Latest ring shared) {call : CommitCall}
    (readable : CountersReadable ring (call.applied repo shared.store))
    (inRing : call.OverRing ring)
    (acts : call.Applies repo pick.transport shared.store)
    (exclusive : call.expectedRevision = 0 → ∀ key ∈ ring.keys,
      key.repositoryKey ≠ call.target.repositoryKey → shared.store.find key.repositoryKey = none) :
    Latest ring ⟨call.applied repo shared.store,
      .committed t pick.transport call :: shared.history⟩ := by
  rcases acts.find_target with ⟨fields, _, found, text, -⟩
  have written : RevisionAt (call.applied repo shared.store) call.target
      (call.expectedRevision + 1) :=
    ⟨fields, by simp [Redis.Store.hashAt, found], text⟩
  refine ⟨readable, latest.single.applied inRing acts exclusive, ?_, latest.latest⟩
  intro commit applied
  refine ⟨call.target, CommitCall.target_mem inRing, _, written, ?_⟩
  rcases List.mem_cons.mp applied with rfl | before
  · exact le_rfl
  · rcases latest.newest commit before with ⟨_, isKey, _, at_, _⟩
    have same := latest.expected inRing acts exclusive isKey at_
    omega

theorem ReadsLatest.noted {history : List (Event State)} (reads : ReadsLatest history)
    {note : Note State}
    (opens : ∀ rev, note = .opened rev → ∀ commit ∈ completedBefore t history,
      commit.call.expectedRevision + 1 ≤ rev) :
    ReadsLatest (.noted t note :: history) := by
  cases note with
  | opened rev => exact ⟨opens rev rfl, reads⟩
  | _ => exact reads

theorem Quiet.latest (quiet : Quiet ring shared after) :
    (ReadsLatest shared.history → ReadsLatest after.history) ∧
      (∀ t, completedBefore t after.history = completedBefore t shared.history) ∧
      scanners after.history = scanners shared.history := by
  rcases quiet.issues with same | ⟨_, _, same⟩
  · rw [same]
    exact ⟨fun reads => reads, fun _ => rfl, rfl⟩
  · rw [same]
    exact ⟨fun reads => reads, fun _ => rfl, rfl⟩

theorem latest_perform (latest : Latest ring shared) (needed : latestNeeds ring t req shared)
    (allowed : callLone ring repo t req pick shared) :
    Latest ring (perform repo t req pick shared).2 := by
  rcases needed with ⟨inRing, opens⟩
  rcases allowed with ⟨exclusive, stays, -⟩
  have effect := @perform_effect State repo ring t shared pick latest.readable req inRing
  have readable := effect.readable inRing latest.readable
  rcases effect.split inRing with quiet | ⟨note, rfl, after⟩ |
      ⟨key, expectedRevision, lease, rfl, after⟩ | ⟨call, rfl, acts, after⟩
  · refine latest.kept readable (fun key isKey => .inr (quiet.records key isKey)) ?_
      quiet.commits (quiet.latest.1 latest.latest)
    intro key isKey present
    rw [quiet.records key isKey]
    exact present
  · rw [after]
    refine ⟨latest.readable, latest.single, latest.newest, ?_⟩
    apply latest.latest.noted
    rintro rev rfl
    exact opens rev rfl
  · have kept := stays rfl
    rw [after] at readable kept ⊢
    exact latest.kept readable (fun _ _ => Redis.Store.find_put_none_cases _ _ _) kept rfl
      latest.latest
  · rw [after] at readable ⊢
    exact latest.committed readable inRing acts (exclusive call rfl acts)

theorem completedBefore_noted_of_ne (note : Note State) (diff : other ≠ t) :
    completedBefore other (.noted t note :: history) = completedBefore other history := by
  cases note with
  | begins _ => simp [completedBefore, diff.symm]
  | _ => rfl

theorem scanners_noted_of_ne (note : Note State) (diff : other ≠ t) :
    other ∈ scanners (.noted t note :: history) ↔ other ∈ scanners history := by
  cases note with
  | scans _ =>
    simp only [scanners]
    split
    · simp [diff]
    · rfl
  | opened _ | abandons => simp [scanners, diff]
  | _ => rfl

theorem latestRely_perform (latest : Latest ring shared) (needed : latestNeeds ring t req shared)
    (allowed : callLone ring repo t req pick shared) (diff : other ≠ t) :
    LatestRely ring other shared (perform repo t req pick shared).2 := by
  have kept := latest_perform latest needed allowed
  have inRing := needed.1
  have effect := @perform_effect State repo ring t shared pick latest.readable req inRing
  rcases effect.split inRing with quiet | ⟨note, rfl, after⟩ |
      ⟨key, expectedRevision, lease, rfl, after⟩ | ⟨call, rfl, acts, after⟩
  · refine ⟨fun _ => kept, quiet.latest.2.1 other, by rw [quiet.latest.2.2], ?_, ?_⟩
    · rw [quiet.commits]
      exact fun _ applied => applied
    · intro _ key isKey present
      rw [quiet.records key isKey]
      exact present
  · rw [after] at kept ⊢
    exact ⟨fun _ => kept, completedBefore_noted_of_ne note diff,
      scanners_noted_of_ne note diff, fun _ applied => applied, fun _ _ _ present => present⟩
  · have stays := allowed.2.1 rfl
    rw [after] at kept stays ⊢
    exact ⟨fun _ => kept, rfl, Iff.rfl, fun _ applied => applied, fun _ => stays⟩
  · have moves := allowed.2.2 call rfl acts
    rw [after] at kept ⊢
    refine ⟨fun _ => kept, rfl, Iff.rfl, fun _ applied => List.mem_cons_of_mem _ applied, ?_⟩
    intro scanning _ isKey present
    rcases acts.find_cases inRing isKey with target | ⟨-, -, migrates, -⟩ | ⟨-, -, same⟩
    · rcases acts.find_target with ⟨_, _, found, -⟩
      simp [target, found]
    · rw [moves migrates] at scanning
      cases scanning
    · simp only [same]
      exact present

theorem latest_elapse (latest : Latest ring shared) {milliseconds : ℕ}
    (allowed : timeSteady ring milliseconds shared) :
    Latest ring (elapse milliseconds shared) :=
  latest.kept (latest.readable.tick milliseconds)
    (fun _ _ => Redis.Store.find_tick_cases _ _ _) allowed rfl latest.latest

theorem latest_interference (ring : Ring) (t : ℕ) :
    Interference (LatestRely ring t) (@latestNeeds State ring t) := by
  refine ⟨?_, ?_, fun _ _ => ⟨trivial, by simp⟩, fun _ _ => ⟨trivial, by simp⟩⟩
  · intro _
    exact ⟨fun latest => latest, rfl, Iff.rfl, fun _ applied => applied,
      fun _ _ _ present => present⟩
  · intro _ _ _ former latter
    refine ⟨fun latest => latter.latest (former.latest latest),
      latter.completed.trans former.completed, latter.scanning.trans former.scanning, ?_, ?_⟩
    · intro commit applied
      exact latter.grows commit (former.grows commit applied)
    · intro scanning key isKey present
      exact latter.stays (former.scanning.mpr scanning) key isKey
        (former.stays scanning key isKey present)

/-- What a session knows of the commits that were completed before it began. -/
structure Seen (ring : Ring) (t : ℕ) (completed : List Applied) (shared : Shared State) :
    Prop where
  latest : Latest ring shared
  begun : completedBefore t shared.history = completed
  known : ∀ commit ∈ completed, commit ∈ commitsIn shared.history

theorem Seen.rely (seen : Seen ring t completed shared)
    (relies : LatestRely ring t shared after) : Seen ring t completed after := by
  refine ⟨relies.latest seen.latest, relies.completed.trans seen.begun, ?_⟩
  intro commit before
  exact relies.grows commit (seen.known commit before)

theorem Seen.perform (seen : Seen ring t completed shared) (needed : latestNeeds ring t req shared)
    (allowed : callLone ring repo t req pick shared) (begun : ∀ rev, req ≠ .note (.begins rev)) :
    Seen ring t completed (ContextConsensus.perform repo t req pick shared).2 := by
  have kept := latest_perform seen.latest needed allowed
  have inRing := needed.1
  have effect := @perform_effect State repo ring t shared pick seen.latest.readable req inRing
  rcases effect.split inRing with quiet | ⟨note, rfl, after⟩ |
      ⟨key, expectedRevision, lease, rfl, after⟩ | ⟨call, rfl, applies, after⟩
  · refine ⟨kept, (quiet.latest.2.1 t).trans seen.begun, ?_⟩
    rw [quiet.commits]
    exact seen.known
  · rw [after] at kept ⊢
    refine ⟨kept, ?_, seen.known⟩
    cases note with
    | begins rev => exact absurd rfl (begun rev)
    | _ => exact seen.begun
  · rw [after] at kept ⊢
    exact ⟨kept, seen.begun, seen.known⟩
  · rw [after] at kept ⊢
    exact ⟨kept, seen.begun, fun commit before =>
      List.mem_cons_of_mem _ (seen.known commit before)⟩

theorem Seen.none_completed {start final : Shared State}
    {storageKeys : List ManagedConversationStorageKey}
    (seen : Seen ring t completed start) (scanning : t ∈ scanners start.history)
    (keys : ∀ key ∈ ring.keys, key ∈ storageKeys)
    (empty : ∀ key ∈ storageKeys, ∃ read, LatestRely ring t start read ∧
      LatestRely ring t read final ∧ read.store.hashAt key.repositoryKey = .ok []) :
    completed = [] := by
  cases isEmpty : completed with
  | nil => rfl
  | cons commit _ =>
    exfalso
    have before : commit ∈ completed := by simp [isEmpty]
    rcases seen.latest.newest commit (seen.known commit before) with
      ⟨key, isKey, rev, at_, -⟩
    rcases empty key (keys key isKey) with ⟨read, relies, -, missing⟩
    -- The record is still under its key when the key is read, and it is the only one.
    have present := relies.stays scanning key isKey at_.present
    have seenRead := seen.rely relies
    rcases seenRead.latest.newest commit (seenRead.known commit before) with
      ⟨other, isOther, newer, atOther, -⟩
    have same := seenRead.latest.single key isKey other isOther present atOther.present
    rcases atOther with ⟨_, stored, text⟩
    rw [← same, missing] at stored
    rw [← Except.ok.inj stored] at text
    cases text

theorem Seen.le_loaded (seen : Seen ring t completed shared) (isKey : key ∈ ring.keys)
    {record : ManagedConsensusRecord} (loaded : Loaded repo key shared.store (.ok record)) :
    ∀ commit ∈ completed, commit.call.expectedRevision + 1 ≤ record.revision := by
  intro commit before
  rcases loaded.found record rfl with ⟨_, stored, decoded⟩
  rcases find_of_hashAt stored (decodeRecord_ne_nil decoded) with ⟨_, found⟩
  rcases seen.latest.newest commit (seen.known commit before) with
    ⟨other, isOther, rev, at_, bound⟩
  have same := seen.latest.single other isOther key isKey at_.present (by simp [found])
  rcases at_ with ⟨_, storedOther, text⟩
  rw [same, stored] at storedOther
  have parsed := (decodeRecord_eq_ok decoded).1
  rw [Except.ok.inj storedOther, text] at parsed
  have equal := Decimal.eq_of_parseUint_format parsed
  omega

def LatestKept (repo : RedisManagedConsensusRepository) (ring : Ring) (t : ℕ)
    (program : Steps State Unit) (shared : Shared State) : Prop :=
  Keeps (perform repo) (LatestRely ring t) (callLone ring repo t)
    (latestNeeds ring t) t (fun _ _ => True) program shared

theorem latestKept_ask {rest : req.Answer → Steps State Unit}
    (seen : Seen ring t completed shared) (inRing : req.OverRing ring)
    (begun : ∀ rev, req ≠ .note (.begins rev))
    (opens : ∀ rev, req = .note (.opened rev) →
      ∀ commit ∈ completed, commit.call.expectedRevision + 1 ≤ rev)
    (goes : ∀ reply final, req.Possible reply → Seen ring t completed final →
      LatestKept repo ring t (rest reply) final) :
    LatestKept repo ring t (ask req >>= rest) shared := by
  intro later relies
  have seen := seen.rely relies
  have needed : latestNeeds ring t req later := by
    refine ⟨inRing, ?_⟩
    intro rev isOpened commit before
    rw [seen.begun] at before
    exact opens rev isOpened commit before
  refine ⟨needed, ?_⟩
  intro pick allowed
  exact goes _ _ (perform_possible repo t req pick later) (seen.perform needed allowed begun)

theorem latestKept_continue (node : Runtime State) (plan : SessionPlan State)
    {sess : ManagedConsensusSession} (inRing : sess.OverRing ring) :
    LatestKept repo ring t
      (do let sess ← runOperations plan.operations sess
          match plan.commit with
          | none => closeSession sess
          | some commit =>
            let result ← commitPlanned repo node sess commit
            closeSession result.1) shared := by
  refine Keeps.of_makes (fun _ => True) (continue_makes node sess plan) trivial
    (fun _ _ _ _ => trivial) ?_ (perform_possible repo t) (fun _ _ _ _ _ _ => trivial)
    (fun _ _ _ _ => trivial)
  intro req state goes _
  refine ⟨goes.overRing inRing, ?_⟩
  rintro _ rfl
  rcases goes with continues | never
  · exact continues.elim
  · cases never

/-- A session goes on keeping the latest record. -/
theorem latestKept_runSession (node : Runtime State) {plan : SessionPlan State}
    (keys : ∀ key, key ∈ plan.request.storageKeys ↔ key ∈ ring.keys) (latest : Latest ring shared) :
    LatestKept repo ring t (runSession repo node plan) shared := by
  have rely := @latest_interference State ring t
  have kept_done : ∀ final, LatestKept repo ring t (.done () : Steps State Unit) final :=
    fun _ _ _ => trivial
  unfold runSession beginManagedConsensusSession
  rw [bind_assoc]
  intro later relies
  refine ⟨⟨trivial, by simp⟩, ?_⟩
  intro pick allowed
  have seen : Seen ring t (commitsIn later.history)
      (perform repo t (.note (.begins plan.request.expectedRevision)) pick later).2 := by
    refine ⟨latest_perform (relies.latest latest) ⟨trivial, by simp⟩ allowed, ?_,
      fun _ applied => applied⟩
    simp [perform, completedBefore]
  rw [bind_assoc]
  apply keeps_locate rely
  intro placed run relies found
  have seen := seen.rely relies
  rcases placed with err | storageKey
  · exact kept_done run
  · have isLocated := (found storageKey rfl).1
    have isKey : storageKey ∈ ring.keys := (keys storageKey).mp isLocated
    dsimp only
    rw [bind_assoc]
    refine latestKept_ask seen isKey (by simp) (by simp) ?_
    intro reply acquired possible seen
    rcases reply with err | lease
    · exact kept_done acquired
    · have leased := possible lease rfl
      dsimp only
      rw [bind_assoc]
      intro started relies
      have seen := seen.rely relies
      refine ⟨⟨trivial, by simp⟩, ?_⟩
      intro pick allowed
      have seen := seen.perform ⟨by trivial, by simp⟩ allowed (by simp)
      have scanning : plan.request.expectedRevision = 0 → t ∈ scanners
          (perform repo t (.note (.scans plan.request.expectedRevision)) pick
            started).2.history := by
        intro fresh
        simp [perform, scanners, fresh]
      rw [bind_assoc]
      apply keeps_loadForSession rely
      intro loaded _ relies empty chosen
      rcases openSession_cases node _ loaded with ⟨_, same⟩ | ⟨same, evidence⟩
      · rw [same, releaseAfterFailedBegin, bind_assoc]
        refine latestKept_ask (seen.rely relies) ⟨storageKey, isKey, leased⟩ (by simp) (by simp) ?_
        intro _ released _ seen
        rw [bind_assoc]
        refine latestKept_ask seen (by trivial) (by simp) (by simp) ?_
        intro _ abandoned _ seen
        exact kept_done abandoned
      · rw [same, bind_assoc]
        refine latestKept_ask (seen.rely relies) (by trivial) (by simp) ?_ ?_
        · rintro rev ⟨rfl⟩
          rcases evidence with ⟨fresh, missing⟩ | ⟨-, record, isRecord, rev⟩
          · have none := seen.none_completed (scanning fresh)
              (fun key isKey => (keys key).mpr isKey) (empty missing fresh)
            rw [none]
            simp
          · rcases chosen record isRecord with ⟨_, before, -, loads⟩
            rw [← rev]
            exact (seen.rely before).le_loaded isKey loads
        · intro _ opened _ seen
          refine latestKept_continue node plan ⟨isKey, ?_, leased⟩
          apply (keys _).mp
          cases isEmpty : plan.request.storageKeys with
          | nil =>
            rw [isEmpty] at isLocated
            cases isLocated
          | cons _ _ => exact List.mem_cons_self

end Latest

theorem latest_of_reachable
    {nodes : ℕ → Runtime State} {plans : ℕ → SessionPlan State} {store : Store}
    (settled : Settled ring store)
    (keys : ∀ t key, key ∈ (plans t).request.storageKeys ↔ key ∈ ring.keys)
    (run : Reachable (SessionPool.step repo) (Lone ring repo)
      (sessions repo nodes plans store) pool) : Latest ring pool.state := by
  have init : Latest ring (⟨store, []⟩ : Shared State) :=
    ⟨settled.readable, settled.single, by simp [commitsIn], trivial⟩
  suffices holding : pool.Holding (perform repo) (Latest ring) (LatestRely ring)
      (callLone ring repo) (latestNeeds ring) (fun _ _ _ => True) from holding.state
  refine Concurrent.Pool.holding_reachable run (fun t => (latest_interference ring t).reflexive)
    (fun t => (latest_interference ring t).transitive) ?_ ?_ ⟨init, ?_⟩
  · intro _ _ _ _ latest needed allowed
    exact ⟨latest_perform latest needed allowed,
      fun _ diff => latestRely_perform latest needed allowed diff⟩
  · intro _ _ latest allowed
    have kept := latest_elapse latest allowed
    exact ⟨kept, fun _ => ⟨fun _ => kept, rfl, Iff.rfl, fun _ applied => applied, fun _ => allowed⟩⟩
  · intro t
    exact latestKept_runSession (nodes t) (keys t) init

section Runs

variable {nodes : ℕ → Runtime State} {plans : ℕ → SessionPlan State} {store : Store}

theorem apart_of_reachable (settled : Settled ring store)
    (keys : ∀ t key, key ∈ (plans t).request.storageKeys ↔ key ∈ ring.keys)
    (run : Reachable (SessionPool.step repo) (Apart plans repo) (sessions repo nodes plans store)
      pool) :
    pool.Holding (perform repo) (fun shared => Legible ring shared.store)
      (fun t => ApartRely ring (plans t) t) (callApart plans repo) (fun _ => apartNeeds ring)
      (fun _ _ _ => True) := by
  have legible : Legible ring store := by
    refine ⟨settled.readable, ?_⟩
    intro key isKey entry found
    rcases settled.records key isKey entry found with ⟨fields, rev, _, _, hash, text, -⟩
    exact ⟨fields, rev, hash, text⟩
  refine Concurrent.Pool.holding_reachable run
    (fun t => (apart_interference ring (plans t) t).reflexive)
    (fun t => (apart_interference ring (plans t) t).transitive) ?_ ?_ ⟨legible, ?_⟩
  · intro _ _ _ _ legible needed allowed
    exact ⟨legible.perform needed.1,
      fun _ diff => apartRely_perform legible needed.1 allowed diff⟩
  · intro milliseconds shared legible _
    have kept : Legible ring (elapse milliseconds shared).store :=
      legible.shrinks (legible.readable.tick milliseconds)
        fun _ _ => Redis.Store.find_tick_cases _ _ _
    refine ⟨kept, fun _ => ⟨fun _ => kept, Iff.rfl, ?_⟩⟩
    intro _ _ _ key _ _ missing
    rcases Redis.Store.find_tick_cases shared.store key.repositoryKey milliseconds with gone | same
    · exact gone
    · exact same.trans missing
  · intro t
    exact apartKept_runSession (nodes t) (keys t) legible

/-- Sessions that do not overlap create no second record. -/
theorem exclusive_of_apart (settled : Settled ring store)
    (keys : ∀ t key, key ∈ (plans t).request.storageKeys ↔ key ∈ ring.keys)
    {allowed : SessionPool State → Concurrent.Action Choice ℕ → Prop}
    (apart : ∀ pool action, allowed pool action → Apart plans repo pool action)
    (run : Reachable (SessionPool.step repo) allowed (sessions repo nodes plans store) pool) :
    Reachable (SessionPool.step repo)
      (fun pool action => allowed pool action ∧ Exclusive ring repo pool action)
      (sessions repo nodes plans store) pool := by
  induction run with
  | refl => exact Reachable.refl _
  | tail past last ih =>
    rcases last with ⟨action, allows, rfl⟩
    refine ih.step action ⟨allows, ?_⟩
    have holding := apart_of_reachable settled keys (Reachable.mono past apart)
    cases action with
    | occur _ => trivial
    | perform t pick =>
      have kept := holding.threads t
      simp only [Exclusive, Concurrent.Pool.Allowed]
      split
      · trivial
      next program =>
        rw [program] at kept
        have needed := (kept _ ((apart_interference ring (plans t) t).reflexive _)).1
        exact fun call isCommit _ creates => needed.2 call isCommit creates

end Runs

/-- A second record comes about only when sessions with different active keys overlap; and if
moreover no record is removed or moves while a session that expects none looks for it, every
session reads a revision at least that of each commit before it began. -/
theorem single_record_and_latest_read {repo : RedisManagedConsensusRepository}
    {nodes : ℕ → Runtime State} {ring : Ring} {plans : ℕ → SessionPlan State} {store : Store}
    (settled : Settled ring store)
    (keys : ∀ t key, key ∈ (plans t).request.storageKeys ↔ key ∈ ring.keys) :
    (∀ pool, Reachable (SessionPool.step repo) (Apart plans repo)
      (sessions repo nodes plans store) pool → SingleRecord ring pool.state.store) ∧
    ∀ pool, Reachable (SessionPool.step repo) (Steady plans ring repo)
      (sessions repo nodes plans store) pool → ReadsLatest pool.state.history := by
  refine ⟨?_, ?_⟩
  · intro _ reached
    have exclusive := exclusive_of_apart settled keys (fun _ _ apart => apart) reached
    exact single_of_reachable settled (fun t key => (keys t key).mp)
      (exclusive.mono fun _ _ both => both.2)
  · intro _ reached
    have exclusive := exclusive_of_apart settled keys (fun _ _ => Steady.apart) reached
    exact (latest_of_reachable settled keys
      (exclusive.mono fun _ _ both => both.1.lone both.2)).latest

/-! ### A conversation that moves and one that is created twice -/

def sampleUnmarshal (text : String) : Option ManagedEncryptedEnvelope :=
  match text.toList.splitOn '"' with
  | [_, _, _, _, _, algorithm, _, _, _, keyVersion, _, _, _, _, _, _, revision, _, _, nonce, _, _,
      _, ciphertext, _] =>
      some ⟨1, String.ofList algorithm, String.ofList keyVersion, .consensusState,
        Nat.ofDigitChars 10 (revision.filter Char.isDigit) 0, String.ofList nonce,
        String.ofList ciphertext⟩
  | _ => none

theorem oneDay_positive : (0 : ℤ) < 86400 * 10 ^ 9 := by
  decide

theorem oneDay_bounded : (86400 * 10 ^ 9 : ℤ) ≤ 2 ^ 62 - 1 := by
  decide

def sampleServer : RedisManagedConsensusRepository where
  client := ⟨fun _ => none, plainMarshal, sampleUnmarshal⟩
  maximumRetention := 86400 * 10 ^ 9
  positive := oneDay_positive
  bounded := oneDay_bounded

def sampleNode (keyVersion : String) : Runtime ℕ where
  revision state := state
  validate _ := .ok ()
  hasProviderState _ := false
  validateProvider _ _ _ := .ok ()
  marshal := Decimal.format
  encryptJSON nonce context state := .ok ⟨1, "AES-256-GCM", keyVersion, context.purpose,
    context.revision, nonce, Decimal.format state⟩
  decryptJSON context payload :=
    match Decimal.parse payload.ciphertext with
    | none => .error (.message "decrypt")
    | some state =>
      if payload.revision = context.revision then .ok state else .error (.message "decrypt")

def sampleRing : Ring where
  keys := [sampleKey "v1", sampleKey "v2"]
  derived := by decide +kernel
  owners := by decide +kernel
  conversations := by decide +kernel

def samplePlan (versions : List String) (expectedRevision : ℕ) : SessionPlan ℕ where
  request := ⟨versions.map sampleKey, expectedRevision, "request", 60 * 10 ^ 9⟩
  operations := []
  commit := some ⟨expectedRevision + 1, none, 3600 * 10 ^ 9, true⟩

def sampleNodes (thread : ℕ) : Runtime ℕ :=
  sampleNode (if thread = 0 then "v1" else "v2")

def samplePlans (thread : ℕ) : SessionPlan ℕ :=
  if thread = 0 then samplePlan ["v1", "v2"] 0 else samplePlan ["v2", "v1"] 1

def sampleCall (thread : ℕ) (transport : Transport) : Concurrent.Action Choice ℕ :=
  .perform thread ⟨transport, 0, false, "bm9uY2U="⟩

def unacknowledgedRun : List (Concurrent.Action Choice ℕ) :=
  List.replicate 11 (sampleCall 0 .delivered) ++ [sampleCall 0 .replyLost]

def sampleAfter (actions : List (Concurrent.Action Choice ℕ)) : SessionPool ℕ :=
  actions.foldl (SessionPool.step sampleServer)
    (sessions sampleServer sampleNodes samplePlans emptyStore)

theorem samplePlans_iff (t : ℕ) (key : ManagedConversationStorageKey) :
    key ∈ (samplePlans t).request.storageKeys ↔ key ∈ sampleRing.keys := by
  unfold samplePlans
  split
  · exact Iff.rfl
  · simp only [samplePlan, sampleRing, List.map_cons, List.map_nil, List.mem_cons,
      List.not_mem_nil, or_false]
    exact or_comm

/-- The first session creates the conversation, and the second continues it under the other
key version. -/
def movedRun : List (Concurrent.Action Choice ℕ) :=
  List.replicate 16 (sampleCall 0 .delivered) ++ List.replicate 21 (sampleCall 1 .delivered)

theorem single_record_and_latest_read_moved :
    (commitsIn (sampleAfter movedRun).state.history).length = 2 ∧
      SingleRecord sampleRing (sampleAfter movedRun).state.store ∧
      ReadsLatest (sampleAfter movedRun).state.history := by
  have both := @single_record_and_latest_read ℕ sampleServer sampleNodes sampleRing samplePlans
    emptyStore (settled_emptyStore sampleRing) samplePlans_iff
  have run : (commitsIn (sampleAfter movedRun).state.history).length = 2 ∧
      Transition.RunAllowed (SessionPool.step sampleServer)
        (Steady samplePlans sampleRing sampleServer)
        (sessions sampleServer sampleNodes samplePlans emptyStore) movedRun := by
    decide +kernel
  have commits := run.1
  have steady : Reachable (SessionPool.step sampleServer)
      (Steady samplePlans sampleRing sampleServer)
      (sessions sampleServer sampleNodes samplePlans emptyStore) (sampleAfter movedRun) :=
    Reachable.of_run movedRun _ run.2
  generalize sampleAfter movedRun = pool at *
  exact ⟨commits, both.1 pool (steady.mono fun _ _ => Steady.apart), both.2 pool steady⟩

/-- Two nodes of a rotation, each of which is to create the conversation. -/
def creatingPlans (t : ℕ) : SessionPlan ℕ :=
  if t = 0 then samplePlan ["v1", "v2"] 0 else samplePlan ["v2", "v1"] 0

def createdTwice : SessionPool ℕ :=
  (List.replicate 8 (sampleCall 0 .delivered) ++ List.replicate 8 (sampleCall 1 .delivered) ++
    List.replicate 4 (sampleCall 0 .delivered) ++ List.replicate 4 (sampleCall 1 .delivered)).foldl
      (SessionPool.step sampleServer) (sessions sampleServer sampleNodes creatingPlans emptyStore)

/-- Two sessions under different active keys leave two records. -/
theorem two_records :
    Reachable (SessionPool.step sampleServer) Transition.Unrestricted
        (sessions sampleServer sampleNodes creatingPlans emptyStore) createdTwice ∧
      ¬SingleRecord sampleRing createdTwice.state.store := by
  refine ⟨Reachable.foldl _ _ _, ?_⟩
  intro single
  have both : createdTwice.state.store.find (sampleKey "v1").repositoryKey ≠ none ∧
      createdTwice.state.store.find (sampleKey "v2").repositoryKey ≠ none := by
    decide +kernel
  have same := single (sampleKey "v1") (by simp [sampleRing]) (sampleKey "v2")
    (by simp [sampleRing]) both.1 both.2
  exact absurd same (by decide +kernel)

end NewApi.ContextConsensus
