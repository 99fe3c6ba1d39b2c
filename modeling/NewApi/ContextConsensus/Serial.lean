import Mathlib.Data.List.Chain
import NewApi.ContextConsensus.Rotation

/-!
# Commits in one order

Runs of any number of sessions by nodes that order the key versions alike, so that every commit
stores its record under the same key.
-/

namespace NewApi.ContextConsensus

open Concurrent.Program

open Concurrent (Keeps Program)
open Redis (Store)
open Transition (Reachable)
open NewApi.ContextConsensus renaming ManagedConversationStorageKey → StorageKey

variable {State : Type}

/-! ### The invariant -/

/-- The newer commit is about the next revision, or starts again. -/
def Follows (newer older : Applied) : Prop :=
  newer.call.expectedRevision = older.call.expectedRevision + 1 ∨ newer.call.expectedRevision = 0

def Retired (ring : Ring) (live : StorageKey) (store : Store) : Prop :=
  ∀ key ∈ ring.keys, key.repositoryKey ≠ live.repositoryKey → store.find key.repositoryKey = none

/-- The records are readable, and their revisions count the commits. -/
structure Serial (ring : Ring) (live : StorageKey) (shared : Shared State) :
    Prop where
  readable : CountersReadable ring shared.store
  records : ∀ key ∈ ring.keys, ∀ entry, shared.store.find key.repositoryKey = some entry →
    ∃ fields rev, entry.value = .hash fields ∧
      fields.lookup "revision" = some (Decimal.format rev)
  single : SingleRecord ring shared.store
  targets : ∀ commit ∈ commitsIn shared.history,
    commit.call.target.repositoryKey = live.repositoryKey
  moved : commitsIn shared.history ≠ [] → Retired ring live shared.store
  current : ∀ newest ∈ (commitsIn shared.history).head?, ∀ rev,
    RevisionAt shared.store live rev → rev = newest.call.expectedRevision + 1
  ordered : (commitsIn shared.history).IsChain Follows

/-- A commit of a session under a lease that was issued to it. -/
structure Ready (ring : Ring) (live : StorageKey) (t : ℕ)
    (call : CommitCall) (shared : Shared State) : Prop where
  overRing : (Call.commit call : Call State).OverRing ring
  issued : .issued t call.lease ∈ shared.history
  target : call.target.repositoryKey = live.repositoryKey
  opened : .noted t (.opened call.expectedRevision) ∈ shared.history
  creates : call.expectedRevision = 0 → Retired ring live shared.store
  again : ∀ commit ∈ commitsBy t shared.history, commit.Unacknowledged ∧
    commit.call.expectedRevision = call.expectedRevision ∧ commit.call.lease = call.lease ∧
    commit.call.storageKey = call.storageKey

def serialNeeds (ring : Ring) (live : StorageKey) (t : ℕ)
    (req : Call State) (shared : Shared State) : Prop :=
  req.OverRing ring ∧ ∀ call ∈ req.commit?, Ready ring live t call shared

/-- What a session relies on: the history grows, no commit of its own is added, and no record
comes to a key that is not the active one. -/
structure SerialRely (ring : Ring) (live : StorageKey) (t : ℕ)
    (past after : Shared State) : Prop where
  serial : Serial ring live past → Serial ring live after
  commits : commitsBy t after.history = commitsBy t past.history
  grows : ∀ event ∈ past.history, event ∈ after.history
  retired : ∀ key ∈ ring.keys, key.repositoryKey ≠ live.repositoryKey →
    past.store.find key.repositoryKey = none → after.store.find key.repositoryKey = none

section Preservation

variable {repo : RedisManagedConsensusRepository} {ring : Ring}
  {live : StorageKey} {t other : ℕ} {shared after : Shared State}
  {req : Call State} {pick : Choice} {call : CommitCall} {wire : Transport}

variable {key : StorageKey} {store : Store}

variable (serial : Serial ring live shared)

include serial

theorem Serial.missing
    (isKey : key ∈ ring.keys) (stored : shared.store.hashAt key.repositoryKey = .ok []) :
    shared.store.find key.repositoryKey = none := by
  cases found : shared.store.find key.repositoryKey with
  | none => rfl
  | some entry =>
    rcases serial.records key isKey entry found with ⟨_, _, hash, text⟩
    rcases entry with ⟨_, _⟩
    simp only at hash
    subst hash
    simp only [Redis.Store.hashAt, found, Except.ok.injEq] at stored
    subst stored
    cases text

theorem Serial.shrinks (readable : CountersReadable ring after.store)
    (shrinks : ∀ key ∈ ring.keys, after.store.find key.repositoryKey = none ∨
      after.store.find key.repositoryKey = shared.store.find key.repositoryKey)
    (isKey : live ∈ ring.keys) (commits : commitsIn after.history = commitsIn shared.history) :
    Serial ring live after := by
  refine ⟨readable, ?_, serial.single.shrinks shrinks, ?_, ?_, ?_, ?_⟩
  · intro key isKey entry found
    rcases shrinks key isKey with gone | same
    · rw [gone] at found
      cases found
    · exact serial.records key isKey entry (same ▸ found)
  · rw [commits]
    exact serial.targets
  · intro some key isKey diff
    rw [commits] at some
    rcases shrinks key isKey with gone | same
    · exact gone
    · rw [same]
      exact serial.moved some key isKey diff
  · intro newest isNewest _ at_
    rw [commits] at isNewest
    apply serial.current newest isNewest
    rcases shrinks live isKey with gone | same
    · exact absurd gone at_.present
    · exact at_.congr same.symm
  · rw [commits]
    exact serial.ordered

theorem Serial.revisionAt (isKey : key ∈ ring.keys)
    (present : shared.store.find key.repositoryKey ≠ none) :
    ∃ rev, RevisionAt shared.store key rev := by
  cases found : shared.store.find key.repositoryKey with
  | none => exact absurd found present
  | some entry =>
    rcases serial.records key isKey entry found with ⟨fields, rev, hash, text⟩
    rcases entry with ⟨_, _⟩
    simp only at hash
    subst hash
    exact ⟨rev, fields, by simp [Redis.Store.hashAt, found], text⟩

omit serial

theorem CommitCall.Applies.revisionAt_storage (acts : call.Applies repo wire store) :
    RevisionAt store call.storageKey call.expectedRevision ∨
      call.expectedRevision = 0 ∧ call.migrateTo = none ∧
        ∀ rev, ¬RevisionAt store call.storageKey rev := by
  cases moves : call.migrateTo with
  | some _ =>
    rcases CommitCall.migration_of_ready moves acts.2.2.1 with ⟨⟨fields, stored, text⟩, -⟩
    exact .inl ⟨fields, stored, text⟩
  | none =>
    rcases CommitCall.revision_of_ready moves acts.2.2.1 with ⟨fields, stored, text⟩
    cases rev : fields.lookup "revision" with
    | some _ =>
      left
      refine ⟨fields, stored, ?_⟩
      rw [rev, Option.getD_some] at text
      rw [rev, text]
    | none =>
      right
      have zero : ("0" : String) = Decimal.format 0 := by decide
      rw [rev, Option.getD_none, zero] at text
      refine ⟨(Decimal.format_injective text).symm, rfl, ?_⟩
      rintro _ ⟨_, again, present⟩
      rw [stored] at again
      rw [← Except.ok.inj again, rev] at present
      cases present

theorem RevisionAt.unique {rev n : ℕ} (former : RevisionAt store key rev)
    (latter : RevisionAt store key n) : rev = n := by
  rcases former with ⟨_, stored, text⟩
  rcases latter with ⟨_, again, same⟩
  rw [stored] at again
  rw [← Except.ok.inj again, text] at same
  exact Decimal.format_injective (Option.some.inj same)

theorem RevisionAt.of_key {two : StorageKey} {rev : ℕ} (at_ : RevisionAt store key rev)
    (same : key.repositoryKey = two.repositoryKey) : RevisionAt store two rev := by
  rcases at_ with ⟨fields, stored, text⟩
  exact ⟨fields, same ▸ stored, text⟩

variable (serial : Serial ring live shared)

include serial

theorem Serial.follows (ready : Ready ring live t call shared)
    (acts : call.Applies repo wire shared.store) {newest : Applied}
    (isNewest : newest ∈ (commitsIn shared.history).head?) :
    call.expectedRevision = newest.call.expectedRevision + 1 ∨ call.expectedRevision = 0 := by
  rcases acts.revisionAt_storage with found | ⟨creates, -⟩
  · left
    have some : commitsIn shared.history ≠ [] := by
      intro none
      rw [none] at isNewest
      cases isNewest
    have active : call.storageKey.repositoryKey = live.repositoryKey := by
      by_contra diff
      exact found.present (serial.moved some _ ready.overRing.1 diff)
    exact serial.current newest isNewest _ (found.of_key active)
  · exact .inr creates

theorem Serial.retired_applied (ready : Ready ring live t call shared)
    (acts : call.Applies repo wire shared.store) :
    Retired ring live (call.applied repo shared.store) := by
  intro key isKey diff
  rcases acts.find_cases ready.overRing isKey with target | ⟨-, -, -, gone⟩ | ⟨-, notStorage, same⟩
  · exact absurd (target.trans ready.target) diff
  · exact gone
  · rw [same]
    rcases acts.find_storage with stored | ⟨creates, -⟩
    · by_contra present
      exact notStorage (serial.single key isKey _ ready.overRing.1 present stored)
    · exact ready.creates creates key isKey diff

theorem Serial.committed (readable : CountersReadable ring (call.applied repo shared.store))
    (ready : Ready ring live t call shared) (acts : call.Applies repo wire shared.store) :
    Serial ring live ⟨call.applied repo shared.store,
      .committed t wire call :: shared.history⟩ := by
  rcases acts.find_target with ⟨fields, _, found, text, -⟩
  have retired := serial.retired_applied ready acts
  have written : RevisionAt (call.applied repo shared.store) live (call.expectedRevision + 1) := by
    rw [ready.target] at found
    exact ⟨fields, by simp [Redis.Store.hashAt, found], text⟩
  refine ⟨readable, ?_, ?_, ?_, fun _ => retired, ?_, ?_⟩
  · intro key isKey entry present
    rcases acts.find_cases ready.overRing isKey with target | ⟨-, -, -, gone⟩ | ⟨-, -, same⟩
    · simp only [target, found, Option.some.injEq] at present
      subst present
      exact ⟨fields, _, rfl, text⟩
    · simp only [gone] at present
      cases present
    · exact serial.records key isKey entry (same ▸ present)
  · apply serial.single.applied ready.overRing acts
    intro creates key isKey diff
    rw [ready.target] at diff
    exact ready.creates creates key isKey diff
  · intro commit applied
    rcases List.mem_cons.mp applied with rfl | past
    · exact ready.target
    · exact serial.targets commit past
  · rintro newest ⟨rfl⟩ _ at_
    exact at_.unique written
  · rw [commitsIn_committed]
    refine List.isChain_cons.mpr ⟨?_, serial.ordered⟩
    intro _ isNewest
    exact serial.follows ready acts isNewest

theorem serial_perform (isKey : live ∈ ring.keys) (needed : serialNeeds ring live t req shared) :
    Serial ring live (perform repo t req pick shared).2 := by
  have inRing := needed.1
  have effect := @perform_effect State repo ring t shared pick serial.readable req inRing
  have readable := effect.readable inRing serial.readable
  rcases effect.split inRing with quiet | ⟨note, rfl, after⟩ |
      ⟨key, expected, lease, rfl, after⟩ | ⟨call, rfl, acts, after⟩
  · exact serial.shrinks readable (fun key isKey => .inr (quiet.records key isKey)) isKey
      quiet.commits
  · rw [after]
    exact ⟨serial.readable, serial.records, serial.single, serial.targets, serial.moved,
      serial.current, serial.ordered⟩
  · rw [after] at readable ⊢
    exact serial.shrinks readable (fun _ _ => Redis.Store.find_put_none_cases _ _ _) isKey rfl
  · rw [after] at readable ⊢
    exact serial.committed readable (needed.2 call rfl) acts

theorem serial_elapse (isKey : live ∈ ring.keys)
    (milliseconds : ℕ) : Serial ring live (elapse milliseconds shared) :=
  serial.shrinks (serial.readable.tick milliseconds)
    (fun _ _ => Redis.Store.find_tick_cases _ _ _) isKey rfl

omit serial

theorem Effect.grows (effect : Effect repo t shared req pick after) :
    ∀ event ∈ shared.history, event ∈ after.history := by
  intro _ past
  cases effect with
  | granted _ _ _ _ records =>
    rcases records with same | ⟨_, same, -⟩
    · rw [same]
      exact past
    · rw [same]
      exact List.mem_cons_of_mem _ past
  | committed _ | noted => exact List.mem_cons_of_mem _ past
  | _ => exact past

theorem serialRely_perform (serial : Serial ring live shared) (isKey : live ∈ ring.keys)
    (needed : serialNeeds ring live t req shared) (diff : other ≠ t ∨ req.commit? = none) :
    SerialRely ring live other shared (perform repo t req pick shared).2 := by
  have kept := @serial_perform State repo ring live t shared req pick serial isKey needed
  have inRing := needed.1
  have effect := @perform_effect State repo ring t shared pick serial.readable req inRing
  have grows := effect.grows
  rcases effect.split inRing with quiet | ⟨note, rfl, after⟩ |
      ⟨key, expected, lease, rfl, after⟩ | ⟨call, rfl, acts, after⟩
  · refine ⟨fun _ => kept, ?_, grows, ?_⟩
    · simp only [commitsBy, quiet.commits]
    · intro key isKey _ missing
      rw [quiet.records key isKey]
      exact missing
  · rw [after] at kept grows ⊢
    exact ⟨fun _ => kept, rfl, grows, fun _ _ _ missing => missing⟩
  · rw [after] at kept grows ⊢
    refine ⟨fun _ => kept, rfl, grows, ?_⟩
    intro stored isStored _ missing
    rcases Redis.Store.find_put_none_cases shared.store key.repositoryKey stored.repositoryKey with
      gone | same
    · exact gone
    · exact same.trans missing
  · have ready := needed.2 call rfl
    rcases diff with apart | never
    · rw [after] at kept grows ⊢
      refine ⟨fun _ => kept, commitsBy_committed_ne _ _ apart, grows, ?_⟩
      intro stored isStored notActive _
      exact serial.retired_applied ready acts stored isStored notActive
    · cases never

theorem serialRely_elapse (serial : Serial ring live shared) (isKey : live ∈ ring.keys)
    (milliseconds : ℕ) : SerialRely ring live t shared (elapse milliseconds shared) := by
  refine ⟨fun _ => serial_elapse serial isKey milliseconds, rfl, fun _ past => past, ?_⟩
  intro key isKey _ missing
  rcases Redis.Store.find_tick_cases shared.store key.repositoryKey milliseconds with gone | same
  · exact gone
  · exact same.trans missing

theorem SerialRely.refl (ring : Ring) (live : StorageKey) (t : ℕ)
    (shared : Shared State) : SerialRely ring live t shared shared :=
  ⟨fun serial => serial, rfl, fun _ past => past, fun _ _ _ missing => missing⟩

theorem SerialRely.trans {first two third : Shared State}
    (former : SerialRely ring live t first two) (latter : SerialRely ring live t two third) :
    SerialRely ring live t first third := by
  refine ⟨fun serial => latter.serial (former.serial serial),
    latter.commits.trans former.commits, ?_, ?_⟩
  · intro event past
    exact latter.grows event (former.grows event past)
  · intro key isKey diff missing
    exact latter.retired key isKey diff (former.retired key isKey diff missing)

theorem serial_interference (ring : Ring) (live : StorageKey) (t : ℕ) :
    Interference (SerialRely ring live t) (@serialNeeds State ring live t) :=
  ⟨SerialRely.refl ring live t, fun _ _ _ => SerialRely.trans,
    fun _ _ => ⟨trivial, by simp [Call.commit?]⟩, fun _ _ => ⟨trivial, by simp [Call.commit?]⟩⟩

end Preservation

/-! ### One session -/

/-- A session that was opened under its lease. -/
structure Begun (ring : Ring) (live : StorageKey) (t : ℕ)
    (sess : ManagedConsensusSession) (shared : Shared State) : Prop where
  serial : Serial ring live shared
  issued : .issued t sess.lease ∈ shared.history
  opened : .noted t (.opened sess.expectedRevision) ∈ shared.history
  creates : sess.expectedRevision = 0 → Retired ring live shared.store
  again : ∀ commit ∈ commitsBy t shared.history, commit.Unacknowledged ∧
    commit.call.expectedRevision = sess.expectedRevision ∧
    commit.call.lease = sess.lease ∧ commit.call.storageKey = sess.storageKey

/-- The session commits to the active key. -/
structure ManagedConsensusSession.Commits (sess : ManagedConsensusSession) (ring : Ring)
    (active : StorageKey) : Prop where
  overRing : sess.OverRing ring
  active : sess.activeStorageKey = active

section Session

variable {repo : RedisManagedConsensusRepository} {ring : Ring}
  {live : StorageKey} {t : ℕ} {shared later : Shared State}
  {req : Call State} {allows : Call State → Choice → Shared State → Prop}
  {sess other : ManagedConsensusSession}

theorem Begun.rely (begun : Begun ring live t sess shared)
    (relies : SerialRely ring live t shared later) :
    Begun ring live t sess later := by
  refine ⟨relies.serial begun.serial, relies.grows _ begun.issued, relies.grows _ begun.opened,
    ?_, ?_⟩
  · intro fresh key isKey diff
    exact relies.retired key isKey diff (begun.creates fresh key isKey diff)
  · rw [relies.commits]
    exact begun.again

theorem Begun.same (begun : Begun ring live t sess shared)
    (same : SameSession sess other) : Begun ring live t other shared := by
  rcases other with ⟨_, _, _, _, _, _, _, _⟩
  rcases same with ⟨rfl, rfl, rfl, rfl⟩
  exact ⟨begun.serial, begun.issued, begun.opened, begun.creates, begun.again⟩

theorem ManagedConsensusSession.Commits.same (commits : sess.Commits ring live)
    (same : SameSession sess other) : other.Commits ring live := by
  rcases other with ⟨_, _, _, _, _, _, _, _⟩
  rcases same with ⟨rfl, rfl, rfl, rfl⟩
  exact ⟨⟨commits.overRing.storage, commits.overRing.active, commits.overRing.leased⟩,
    commits.active⟩

theorem Begun.ready (begun : Begun ring live t sess shared) (commits : sess.Commits ring live)
    (body : ManagedEncryptedEnvelope) (provider : Option ProviderStateWrite) (ttl : ℤ) :
    Ready ring live t (sess.commitCall body provider ttl) shared := by
  refine ⟨commits.overRing.commitCall body provider ttl, begun.issued, ?_, begun.opened,
    begun.creates, begun.again⟩
  rw [sess.target_commitCall, commits.overRing.commitStorageKey, commits.active]

def SerialKept (repo : RedisManagedConsensusRepository) (ring : Ring) (live : StorageKey)
    (allows : Call State → Choice → Shared State → Prop) (t : ℕ)
    (program : Steps State Unit) (shared : Shared State) : Prop :=
  Keeps (perform repo) (SerialRely ring live t) allows
    (serialNeeds ring live t) t (fun _ _ => True) program shared

theorem serial_done (shared : Shared State) :
    SerialKept repo ring live allows t (.done ()) shared :=
  fun _ _ => trivial

def Call.Plain (req : Call State) (ring : Ring) : Prop :=
  req.OverRing ring ∧ req.commit? = none

theorem Call.Plain.needs (plain : req.Plain ring) :
    serialNeeds ring live t req shared := by
  refine ⟨plain.1, ?_⟩
  rw [plain.2]
  simp

variable (isKey : live ∈ ring.keys)

include isKey

variable (serial : Serial ring live shared)

include serial

theorem serial_plain {First : Type} {final : First → Prop} {first : Steps State First}
    {rest : First → Steps State Unit} (makes : first.Makes Call.Possible (Call.Plain · ring) final)
    (goes : ∀ val last, final val → SerialRely ring live t shared last →
      SerialKept repo ring live allows t (rest val) last) :
    SerialKept repo ring live allows t (first >>= rest) shared := by
  have rely := @serial_interference State ring live t
  apply Keeps.bind rely.reflexive
  refine Keeps.of_makes (SerialRely ring live t shared) makes
    (rely.reflexive shared) ?_ ?_ (perform_possible repo t) ?_ ?_
  · intro _ _ former latter
    exact former.trans latter
  · intro req state plain _
    exact plain.needs
  · intro req pick state plain _ relies
    exact relies.trans (serialRely_perform (relies.serial serial) isKey plain.needs (.inr plain.2))
  · intro val last isFinal relies
    exact goes val last isFinal relies

theorem serial_ask {rest : req.Answer → Steps State Unit} (plain : req.Plain ring)
    (goes : ∀ reply last, req.Possible reply → SerialRely ring live t shared last →
      SerialKept repo ring live allows t (rest reply) last) :
    SerialKept repo ring live allows t (ask req >>= rest) shared := by
  have makes : (ask req).Makes Call.Possible (Call.Plain · ring) req.Possible :=
    ⟨plain, fun _ possible => possible⟩
  exact serial_plain isKey serial makes goes

theorem serial_acquire {key : StorageKey} {holderID : String} {ttl : ℤ}
    {rest : Except RepositoryError ManagedConsensusLease → Steps State Unit}
    (isStorage : key ∈ ring.keys)
    (goes : ∀ reply last, SerialRely ring live t shared last →
      (∀ lease : ManagedConsensusLease, reply = .ok lease →
        lease.repositoryKey = key.repositoryKey ∧ .issued t lease ∈ last.history) →
        SerialKept repo ring live allows t (rest reply) last) :
    SerialKept repo ring live allows t (ask (.acquire key holderID ttl) >>= rest) shared := by
  have plain : (Call.acquire key holderID ttl : Call State).Plain ring := ⟨isStorage, rfl⟩
  intro later relies
  refine ⟨plain.needs, ?_⟩
  intro pick _
  apply goes
  · exact relies.trans (serialRely_perform (relies.serial serial) isKey plain.needs (.inr rfl))
  · intro lease gives
    refine ⟨perform_possible repo t (.acquire key holderID ttl) pick later lease gives, ?_⟩
    simp only [perform] at gives ⊢
    rw [gives]
    exact List.mem_cons_self

theorem serial_note {note : Note State} {rest : Unit → Steps State Unit}
    (goes : ∀ last, SerialRely ring live t shared last → .noted t note ∈ last.history →
        SerialKept repo ring live allows t (rest ()) last) :
    SerialKept repo ring live allows t (ask (.note note) >>= rest) shared := by
  have plain : (Call.note note).Plain ring := ⟨by trivial, rfl⟩
  intro _ relies
  refine ⟨plain.needs, ?_⟩
  intro pick _
  apply goes
  · exact relies.trans (serialRely_perform (relies.serial serial) isKey plain.needs (.inr rfl))
  · exact List.mem_cons_self

omit serial

omit isKey

theorem Call.Reads.plain (reads : req.Reads) : req.Plain ring := by
  cases req with
  | hGetAll _ | pTTL _ => exact ⟨trivial, rfl⟩
  | _ => exact reads.elim

theorem SameSession.refl (sess : ManagedConsensusSession) : SameSession sess sess :=
  ⟨rfl, rfl, rfl, rfl⟩

theorem serial_commit (isKey : live ∈ ring.keys) (commits : sess.Commits ring live)
    (begun : Begun ring live t sess shared) (body : ManagedEncryptedEnvelope)
    (provider : Option ProviderStateWrite) (ttl : ℤ)
    {rest : Except RepositoryError ManagedConsensusRecord → Steps State Unit}
    (goes : ∀ reply last, Serial ring live last →
      (∀ err, reply = .error err → Begun ring live t sess last) →
        SerialKept repo ring live allows t (rest reply) last) :
    SerialKept repo ring live allows t
      (ask (.commit (sess.commitCall body provider ttl)) >>= rest) shared := by
  intro later relies
  have begun := begun.rely relies
  have ready := begun.ready commits body provider ttl
  have needed : serialNeeds ring live t (.commit (sess.commitCall body provider ttl)) later := by
    refine ⟨ready.overRing, ?_⟩
    rintro _ ⟨rfl⟩
    exact ready
  refine ⟨needed, ?_⟩
  intro pick _
  have kept := @serial_perform State repo ring live t later _ pick begun.serial isKey needed
  apply goes _ _ kept
  intro _ gives
  have effect := @perform_effect State repo ring t later pick begun.serial.readable
    _ ready.overRing
  rcases effect.split ready.overRing with quiet | ⟨_, never, -⟩ | ⟨_, _, _, never, -⟩ |
      ⟨_, ⟨rfl⟩, acts, after⟩
  · refine ⟨kept, effect.grows _ begun.issued, effect.grows _ begun.opened, ?_, ?_⟩
    · intro fresh key isKey diff
      rw [quiet.records key isKey]
      exact begun.creates fresh key isKey diff
    · rw [commitsBy, quiet.commits]
      exact begun.again
  · cases never
  · cases never
  · have unacknowledged := (acts.error (answerOf_eq_error gives) t).2
    rw [after] at kept ⊢
    refine ⟨kept, List.mem_cons_of_mem _ begun.issued, List.mem_cons_of_mem _ begun.opened,
      fun _ => begun.serial.retired_applied ready acts, ?_⟩
    rw [commitsBy_committed_self]
    intro commit own
    rcases List.mem_cons.mp own with rfl | past
    · exact ⟨unacknowledged, rfl, rfl, rfl⟩
    · exact begun.again commit past

theorem serial_compareAndSwap (isKey : live ∈ ring.keys)
    (commits : sess.Commits ring live) (begun : Begun ring live t sess shared)
    (body : ManagedEncryptedEnvelope) (providerCommit : Option ManagedProviderStateCommit)
    (ttl : ℤ) {rest : Except RepositoryError ManagedConsensusRecord → Steps State Unit}
    (goes : ∀ reply last, Serial ring live last →
      (∀ err, reply = .error err → Begun ring live t sess last) →
        SerialKept repo ring live allows t (rest reply) last) :
    SerialKept repo ring live allows t
      (compareAndSwap sess body providerCommit ttl >>= rest) shared := by
  unfold compareAndSwap
  cases providerCommit with
  | none => exact serial_commit isKey commits begun body none ttl goes
  | some _ =>
    dsimp only
    rw [bind_assoc]
    refine serial_ask isKey begun.serial ⟨by trivial, rfl⟩ ?_
    intro now clocked _ relies
    have begun := begun.rely relies
    split
    · exact goes _ clocked begun.serial fun _ _ => begun
    · exact serial_commit isKey commits begun body _ _ goes

theorem finishCommit_plain (lease : sess.lease.OnRing ring) :
    (finishCommit sess : Steps State _).Makes Call.Possible (Call.Plain · ring)
      (SameSession sess) := by
  refine ⟨⟨lease, rfl⟩, ?_⟩
  intro reply _
  rcases reply with err | _
  · cases err <;> exact ⟨rfl, rfl, rfl, rfl⟩
  · exact ⟨rfl, rfl, rfl, rfl⟩

theorem serial_close (isKey : live ∈ ring.keys) (lease : sess.lease.OnRing ring)
    (serial : Serial ring live shared) :
    SerialKept repo ring live allows t (closeSession sess) shared := by
  unfold closeSession
  split
  · refine serial_ask isKey serial ⟨by trivial, rfl⟩ ?_
    intro _ last _ _
    exact serial_done last
  · refine serial_ask isKey serial ⟨lease, rfl⟩ ?_
    intro _ released _ relies
    refine serial_ask isKey (relies.serial serial) ⟨by trivial, rfl⟩ ?_
    intro _ last _ _
    exact serial_done last

/-- What follows a commit attempt has nothing to know but the session's lease. -/
def ReportKept (repo : RedisManagedConsensusRepository) (ring : Ring) (live : StorageKey)
    (allows : Call State → Choice → Shared State → Prop) (t : ℕ)
    (sess : ManagedConsensusSession)
    (rest : ManagedConsensusSession × CommitOutcome → Steps State Unit) : Prop :=
  ∀ result last, Serial ring live last → SameSession sess result.1 →
    SerialKept repo ring live allows t (rest result) last

variable {rest : ManagedConsensusSession × CommitOutcome → Steps State Unit}

theorem serial_finish (isKey : live ∈ ring.keys) (lease : sess.lease.OnRing ring)
    (serial : Serial ring live shared) (out : CommitOutcome)
    (goes : ReportKept repo ring live allows t sess rest) :
    SerialKept repo ring live allows t
      (finishCommit sess >>= fun finished => rest (finished, out)) shared := by
  apply serial_plain isKey serial (finishCommit_plain lease)
  intro finished last same relies
  exact goes (finished, out) last (relies.serial serial) same

section Attempt

variable (node : Runtime State) (attempt : Attempt State)
  (providerCommit : Option ManagedProviderStateCommit) (ttl : ℤ)

theorem resolve_plain :
    (resolveCommitOutcome repo node sess attempt.state providerCommit).Makes
      Call.Possible (Call.Plain · ring) fun _ => True :=
  (resolveCommitOutcome_makes node attempt.state providerCommit).mono (fun _ reads => reads.plain)
    fun _ _ => trivial

theorem serial_retry (isKey : live ∈ ring.keys) (commits : sess.Commits ring live)
    (begun : Begun ring live t sess shared)
    (goes : ReportKept repo ring live allows t sess rest) :
    SerialKept repo ring live allows t
      (retryCommit repo node sess attempt providerCommit ttl >>= rest) shared := by
  have lease := commits.overRing.lease
  unfold retryCommit
  rw [bind_assoc]
  apply serial_compareAndSwap isKey commits begun
  intro reply answered serial _
  rcases reply with _ | _
  · dsimp only
    split
    · exact goes _ answered serial (SameSession.refl sess)
    · rw [bind_assoc]
      apply serial_plain isKey serial (resolve_plain node attempt providerCommit)
      intro resolution done _ relies
      have serial := relies.serial serial
      cases resolution with
      | recovered _ =>
        dsimp only
        rw [bind_assoc]
        exact serial_finish isKey lease serial _ goes
      | currentAtExpected | unresolved _ => exact goes _ done serial (SameSession.refl sess)
  · dsimp only
    rw [bind_assoc]
    exact serial_finish isKey lease serial _ goes

theorem serial_attempt (isKey : live ∈ ring.keys) (commits : sess.Commits ring live)
    (begun : Begun ring live t sess shared)
    (goes : ReportKept repo ring live allows t sess rest) :
    SerialKept repo ring live allows t
      (commitAttempt repo node sess attempt providerCommit ttl >>= rest) shared := by
  have lease := commits.overRing.lease
  unfold commitAttempt
  rw [bind_assoc]
  apply serial_compareAndSwap isKey commits begun
  intro reply answered serial unacknowledged
  rcases reply with err | _
  · have begun := unacknowledged err rfl
    dsimp only
    split
    · exact goes _ answered serial (SameSession.refl sess)
    · rw [bind_assoc]
      apply serial_plain isKey serial (resolve_plain node attempt providerCommit)
      intro resolution done _ relies
      have begun := begun.rely relies
      cases resolution with
      | recovered _ =>
        dsimp only
        rw [bind_assoc]
        exact serial_finish isKey lease begun.serial _ goes
      | unresolved _ => exact goes _ done begun.serial (SameSession.refl sess)
      | currentAtExpected =>
        dsimp only
        rw [bind_assoc]
        refine serial_ask isKey begun.serial ⟨by trivial, rfl⟩ ?_
        intro cancelled asked _ relies
        have begun := begun.rely relies
        split
        · exact goes _ asked begun.serial (SameSession.refl sess)
        · rw [bind_assoc]
          refine serial_ask isKey begun.serial ⟨lease, rfl⟩ ?_
          intro reply renewing possible relies
          have begun := begun.rely relies
          rcases reply with _ | renewed
          · dsimp only
            split <;> exact goes _ renewing begun.serial (SameSession.refl sess)
          · have same : SameSession sess { sess with lease := renewed } :=
              ⟨rfl, rfl, possible renewed rfl, rfl⟩
            have onward : ReportKept repo ring live allows t
                { sess with lease := renewed } rest := by
              intro result last serial more
              exact goes result last serial ⟨more.storageKey, more.activeStorageKey,
                more.lease.trans same.lease, more.expectedRevision⟩
            exact serial_retry node attempt providerCommit ttl isKey (commits.same same)
              (begun.same same) onward
  · dsimp only
    rw [bind_assoc]
    exact serial_finish isKey lease serial _ goes

end Attempt

/-- The commit of a session under its lease. -/
theorem serial_planned (node : Runtime State) (plan : CommitPlan State)
    (isKey : live ∈ ring.keys) (commits : sess.Commits ring live)
    (begun : Begun ring live t sess shared) :
    SerialKept repo ring live allows t
      (commitPlanned repo node sess plan >>= fun result => closeSession result.1) shared := by
  have lease := commits.overRing.lease
  have closing : ReportKept repo ring live allows t sess fun result => closeSession result.1 := by
    intro _ _ serial same
    exact serial_close isKey (commits.same same).overRing.lease serial
  unfold commitPlanned
  rw [bind_assoc]
  refine serial_ask isKey begun.serial ⟨by trivial, rfl⟩ ?_
  intro now clocked _ relies
  have begun := begun.rely relies
  cases admitCommit node sess plan now with
  | error _ => exact serial_close isKey lease begun.serial
  | ok _ =>
    dsimp only
    rw [bind_assoc]
    refine serial_ask isKey begun.serial ⟨by trivial, rfl⟩ ?_
    intro nonce drawn _ relies
    have begun := begun.rely relies
    cases node.encryptJSON nonce ⟨sess.commitStorageKey.repositoryKey, .consensusState,
        node.revision plan.state⟩ plan.state with
    | error _ => exact serial_close isKey lease begun.serial
    | ok _ =>
      dsimp only
      by_cases recovery : plan.recovery = true
      · rw [if_pos recovery, bind_assoc]
        refine serial_ask isKey begun.serial ⟨by trivial, rfl⟩ ?_
        intro _ attempted _ relies
        rw [bind_assoc]
        apply serial_attempt node _ plan.providerCommit plan.ttl isKey commits (begun.rely relies)
        intro result _ serial same
        dsimp only
        rw [bind_assoc]
        refine serial_ask isKey serial ⟨by trivial, rfl⟩ ?_
        intro _ told _ relies
        exact closing result told (relies.serial serial) same
      · rw [if_neg recovery]
        unfold plainCommit
        rw [bind_assoc]
        apply serial_compareAndSwap isKey commits begun
        intro reply answered serial _
        rcases reply with _ | _
        · exact serial_close isKey lease serial
        · dsimp only
          rw [bind_assoc]
          exact serial_finish isKey lease serial _ closing

theorem runOperations_plain (ops : List LeaseOperation) (inRing : sess.OverRing ring)
    (same : SameSession sess other) :
    (runOperations ops other : Steps State _).Makes Call.Possible (Call.Plain · ring)
      (SameSession sess) := by
  induction ops generalizing other with
  | nil => exact same
  | cons op _ ih =>
    have lease : other.lease.OnRing ring := by
      rw [same.lease]
      exact inRing.lease
    cases op with
    | renew _ =>
      unfold runOperations
      split
      · exact ih same
      · refine ⟨⟨lease, rfl⟩, ?_⟩
        intro reply possible
        rcases reply with _ | renewed
        · exact ih ⟨same.storageKey, same.activeStorageKey, same.lease, same.expectedRevision⟩
        · have unchanged := possible renewed rfl
          exact ih ⟨same.storageKey, same.activeStorageKey,
            unchanged.trans same.lease, same.expectedRevision⟩
    | delete _ =>
      refine ⟨⟨?_, rfl⟩, fun _ _ => ih same⟩
      simp only [Call.OverRing, same.storageKey]
      exact inRing.storage

theorem serial_continue (node : Runtime State) (plan : SessionPlan State)
    (isKey : live ∈ ring.keys) (commits : sess.Commits ring live)
    (begun : Begun ring live t sess shared) :
    SerialKept repo ring live allows t
      (do let sess ← runOperations plan.operations sess
          match plan.commit with
          | none => closeSession sess
          | some commit =>
            let result ← commitPlanned repo node sess commit
            closeSession result.1) shared := by
  apply serial_plain isKey begun.serial
    (runOperations_plain plan.operations commits.overRing (SameSession.refl sess))
  intro _ _ same relies
  have begun := (begun.rely relies).same same
  have commits := commits.same same
  cases plan.commit with
  | none => exact serial_close isKey commits.overRing.lease begun.serial
  | some commit => exact serial_planned node commit isKey commits begun

/-- A session commits one revision after the other. -/
theorem serial_runSession (node : Runtime State) {plan : SessionPlan State}
    (active : ring.keys.head? = some live) (keys : plan.request.storageKeys = ring.keys)
    (serial : Serial ring live shared) (fresh : commitsBy t shared.history = []) :
    SerialKept repo ring live allows t (runSession repo node plan) shared := by
  have isKey : live ∈ ring.keys := List.mem_of_mem_head? active
  unfold runSession beginManagedConsensusSession
  rw [bind_assoc]
  refine serial_ask isKey serial ⟨by trivial, rfl⟩ ?_
  intro _ begins _ began
  rw [bind_assoc]
  apply serial_plain isKey (began.serial serial)
    ((locate_makes plan.request.storageKeys plan.request.expectedRevision).mono
      (fun _ reads => reads.plain) fun _ placed => placed)
  intro placed run found relies
  have began := began.trans relies
  rcases placed with err | storageKey
  · exact serial_done run
  · have isStorage : storageKey ∈ ring.keys := keys ▸ found storageKey rfl
    dsimp only
    rw [bind_assoc]
    apply serial_acquire isKey (began.serial serial) isStorage
    intro reply acquired relies granted
    have began := began.trans relies
    rcases reply with err | lease
    · exact serial_done acquired
    · rcases granted lease rfl with ⟨leased, issued⟩
      dsimp only
      rw [bind_assoc]
      refine serial_ask isKey (began.serial serial) ⟨by trivial, rfl⟩ ?_
      intro _ started _ relies
      have started := began.trans relies
      have issued := relies.grows _ issued
      rw [bind_assoc]
      apply keeps_loadForSession (serial_interference ring live t)
      intro loaded scanned relies empty _
      have began := started.trans relies
      have issued := relies.grows _ issued
      rcases openSession_cases node _ loaded with ⟨_, same⟩ | ⟨same, evidence⟩
      · rw [same, releaseAfterFailedBegin, bind_assoc]
        refine serial_ask isKey (began.serial serial) ⟨⟨storageKey, isStorage, leased⟩, rfl⟩ ?_
        intro _ released _ relies
        rw [bind_assoc]
        refine serial_ask isKey ((began.trans relies).serial serial) ⟨by trivial, rfl⟩ ?_
        intro _ abandoned _ _
        exact serial_done abandoned
      · -- Every key was read as missing, and no record comes to a retired key.
        have creates : plan.request.expectedRevision = 0 → Retired ring live scanned.store := by
          intro creates key isKey diff
          have missing : loaded = .error .notFound := by
            rcases evidence with ⟨-, missing⟩ | ⟨present, -⟩
            · exact missing
            · exact absurd creates present
          rcases empty missing creates key (keys ▸ isKey) with ⟨_, past, after, idle⟩
          have serialRead := (started.trans past).serial serial
          exact after.retired key isKey diff (serialRead.missing isKey idle)
        rw [same, bind_assoc]
        apply serial_note isKey (began.serial serial)
        intro _ relies opened
        have began := began.trans relies
        have activeKey : plan.request.storageKeys.headD storageKey = live := by
          rw [keys, List.headD_eq_head?_getD, active]
          rfl
        apply serial_continue node plan isKey
        · exact ⟨⟨isStorage, activeKey ▸ isKey, leased⟩, activeKey⟩
        · refine ⟨began.serial serial, relies.grows _ issued, opened, ?_, ?_⟩
          · intro fresh key isKey diff
            exact relies.retired key isKey diff (creates fresh key isKey diff)
          · rw [began.commits, fresh]
            simp

end Session

/-! ### All sessions -/

section Runs

variable {repo : RedisManagedConsensusRepository} {nodes : ℕ → Runtime State} {ring : Ring}
  {live : StorageKey} {plans : ℕ → SessionPlan State} {store : Store}
  {pool : SessionPool State}

theorem serial_settled (settled : Settled ring store) :
    Serial ring live (⟨store, []⟩ : Shared State) := by
  refine ⟨settled.readable, ?_, settled.single, by simp [commitsIn], by simp [commitsIn],
    by simp [commitsIn], ?_⟩
  · intro key isKey entry found
    rcases settled.records key isKey entry found with ⟨fields, rev, _, _, hash, text, -⟩
    exact ⟨fields, rev, hash, text⟩
  · exact List.IsChain.nil

theorem serial_holding {allows : ℕ → Call State → Choice → Shared State → Prop}
    {eventAllowed : ℕ → Shared State → Prop} {Further : Shared State → Prop}
    (settled : Settled ring store) (active : ring.keys.head? = some live)
    (keys : ∀ t, (plans t).request.storageKeys = ring.keys)
    (run : Reachable (SessionPool.step repo) (Concurrent.Pool.Allowed allows eventAllowed)
      (sessions repo nodes plans store) pool) (init : Further ⟨store, []⟩)
    (calls : ∀ t req pick shared, Serial ring live shared → Further shared →
      serialNeeds ring live t req shared → allows t req pick shared →
        Further (perform repo t req pick shared).2)
    (events : ∀ milliseconds shared, Serial ring live shared → Further shared →
      eventAllowed milliseconds shared → Further (elapse milliseconds shared)) :
    pool.Holding (perform repo) (fun shared => Serial ring live shared ∧ Further shared)
      (SerialRely ring live) allows (serialNeeds ring live) (fun _ _ _ => True) := by
  have isKey : live ∈ ring.keys := List.mem_of_mem_head? active
  have rely := @serial_interference State ring live
  refine Concurrent.Pool.holding_reachable run (fun t => (rely t).reflexive)
    (fun t => (rely t).transitive) ?_ ?_ ⟨⟨serial_settled settled, init⟩, ?_⟩
  · rintro t req pick shared ⟨serial, more⟩ needed allowed
    refine ⟨⟨serial_perform serial isKey needed,
      calls t req pick shared serial more needed allowed⟩, ?_⟩
    intro _ diff
    exact serialRely_perform serial isKey needed (.inl diff)
  · rintro milliseconds shared ⟨serial, more⟩ allowed
    exact ⟨⟨serial_elapse serial isKey milliseconds, events milliseconds shared serial more
      allowed⟩, fun _ => serialRely_elapse serial isKey milliseconds⟩
  · intro t
    exact serial_runSession (nodes t) active (keys t) (serial_settled settled) rfl

theorem ready_of_holding {Holds : Shared State → Prop}
    {allows : ℕ → Call State → Choice → Shared State → Prop}
    (holding : pool.Holding (perform repo) Holds (SerialRely ring live) allows
      (serialNeeds ring live) (fun _ _ _ => True)) {t : ℕ} {call : CommitCall}
    {next : (Call.commit call : Call State).Answer → Steps State Unit}
    (sends : pool.threads t = .call (.commit call) next) :
    Ready ring live t call pool.state := by
  have kept := holding.threads t
  rw [sends] at kept
  exact (kept pool.state (SerialRely.refl ring live t pool.state)).1.2 call rfl

end Runs

/-- What a commit of the thread that is applied finds, and what it leaves: its lease is stored
and was issued to the thread, the record is at the revision that the session has read, and the
only record after it is its own at the next revision. -/
structure Advances (ring : Ring) (t : ℕ) (call : CommitCall) (shared : Shared State)
    (after : Store) : Prop where
  leased : shared.store.textAt (leaseKey call.lease.repositoryKey) =
    .ok (some (managedLeaseValue call.lease))
  issued : .issued t call.lease ∈ shared.history
  opened : .noted t (.opened call.expectedRevision) ∈ shared.history
  found : RevisionAt shared.store call.storageKey call.expectedRevision ∨
    call.expectedRevision = 0 ∧ ∀ key ∈ ring.keys, shared.store.find key.repositoryKey = none
  written : RevisionAt after call.target (call.expectedRevision + 1)
  alone : ∀ key ∈ ring.keys, key.repositoryKey ≠ call.target.repositoryKey →
    after.find key.repositoryKey = none

theorem Serial.advances {repo : RedisManagedConsensusRepository} {ring : Ring}
    {live : StorageKey} {t : ℕ} {shared : Shared State}
    {call : CommitCall} {wire : Transport} (serial : Serial ring live shared)
    (ready : Ready ring live t call shared) (acts : call.Applies repo wire shared.store) :
    Advances ring t call shared (call.applied repo shared.store) := by
  have admitted := CommitCall.admitted acts.1
  refine ⟨?_, ready.issued, ready.opened, ?_, ?_, ?_⟩
  · rw [admitted.leaseKey]
    exact CommitCall.lease_of_ready acts.2.2.1
  · rcases acts.revisionAt_storage with found | ⟨creates, inPlace, missing⟩
    · exact .inl found
    · right
      refine ⟨creates, ?_⟩
      have here : call.target = call.storageKey := by simp [CommitCall.target, inPlace]
      intro key isKey
      by_cases active : key.repositoryKey = live.repositoryKey
      · by_contra present
        rcases serial.revisionAt isKey present with ⟨rev, at_⟩
        exact missing rev (at_.of_key (by rw [active, ← ready.target, here]))
      · exact ready.creates creates key isKey active
  · rcases acts.find_target with ⟨fields, _, found, text, -⟩
    exact ⟨fields, by simp [Redis.Store.hashAt, found], text⟩
  · intro key isKey diff
    rw [ready.target] at diff
    exact serial.retired_applied ready acts key isKey diff

end NewApi.ContextConsensus
