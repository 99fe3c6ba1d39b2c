import Mathlib.Data.List.Pairwise
import NewApi.ProviderFile.UploadStages

/-!
# An intent is uploaded once

What holds between the rows and the notes of all uploads: every row was created by one upload
under the active version of its node, an active row holds the reference of the upload that created
it, and no two rows have one intent.
-/

namespace NewApi.ProviderFile

open Relational Fallible
open NewApi.ProviderFile renaming ManagedProviderFileLifecycle → Lifecycle

def SameIntent (left right : UploadRequest) : Prop :=
  left.owner = right.owner ∧ left.idempotencyKey = right.idempotencyKey
deriving Decidable

/-- The requests upload the same content, for as long, to the same target. -/
def SameContent (left right : UploadRequest) : Prop :=
  left.body.contentDigest = right.body.contentDigest ∧ left.target = right.target ∧
    left.settings.providerFileExpirationSeconds = right.settings.providerFileExpirationSeconds

def SameVersions (reqs : ℕ → UploadRequest) : Prop :=
  ∀ left right : ℕ, (reqs left).runtime.versions.Perm (reqs right).runtime.versions

/-- No two of the payloads that identify the requests have the same hash. -/
def CollisionFree (keys : HexHMAC) (reqs : ℕ → UploadRequest) : Prop :=
  ∀ left right : ℕ, ∀ ver ∈ (reqs left).runtime.versions,
    ∀ other ∈ (reqs right).runtime.versions, ∀ first ∈ (reqs left).payloads keys ver,
        ∀ second ∈ (reqs right).payloads keys other,
          keys ver first = keys other second → ver = other ∧ first = second

/-! ## Digests -/

section Digests

variable {keys : HexHMAC} {reqs : ℕ → UploadRequest} {left right : ℕ} {ver other : String}

theorem CollisionFree.intent (noClash : CollisionFree keys reqs)
    (held : ver ∈ (reqs left).runtime.versions) (otherHeld : other ∈ (reqs right).runtime.versions)
    (same : (reqs left).intentHMAC keys ver = (reqs right).intentHMAC keys other) :
    ver = other ∧ (reqs left).ownerPayload = (reqs right).ownerPayload ∧
      (reqs left).idempotencyKey = (reqs right).idempotencyKey := by
  rcases noClash left right ver held other otherHeld
    ((reqs left).intentPayload keys ver) (by simp [UploadRequest.payloads])
    ((reqs right).intentPayload keys other) (by simp [UploadRequest.payloads]) same with
    ⟨rfl, samePayload⟩
  simp only [UploadRequest.intentPayload, HMACPayload.uploadIntent.injEq] at samePayload
  rcases noClash left right ver held ver otherHeld (reqs left).ownerPayload
    (by simp [UploadRequest.payloads]) (reqs right).ownerPayload
    (by simp [UploadRequest.payloads]) samePayload.1 with ⟨_, owner⟩
  exact ⟨rfl, owner, samePayload.2⟩

theorem intentHMACs_of_same (sameVers : SameVersions reqs)
    (owner : (reqs left).ownerPayload = (reqs right).ownerPayload)
    (sameKey : (reqs left).idempotencyKey = (reqs right).idempotencyKey)
    {digest : String} (inLeft : digest ∈ (reqs left).intentHMACs keys) :
    digest ∈ (reqs right).intentHMACs keys := by
  rcases List.mem_map.mp inLeft with ⟨ver, held, rfl⟩
  refine List.mem_map.mpr ⟨ver, (sameVers left right).mem_iff.mp held, ?_⟩
  simp only [UploadRequest.intentHMAC, UploadRequest.intentPayload, UploadRequest.ownerHMAC,
    owner, sameKey]

theorem SameIntent.of_payload
    (leftFamily : (reqs left).owner.endpointFamily = managedProviderFileEndpointFamily)
    (rightFamily : (reqs right).owner.endpointFamily = managedProviderFileEndpointFamily)
    (owner : (reqs left).ownerPayload = (reqs right).ownerPayload)
    (sameKey : (reqs left).idempotencyKey = (reqs right).idempotencyKey) :
    SameIntent (reqs left) (reqs right) := by
  refine ⟨?_, sameKey⟩
  simp only [UploadRequest.ownerPayload, HMACPayload.owner.injEq] at owner
  cases leftOwner : (reqs left).owner
  cases rightOwner : (reqs right).owner
  rw [leftOwner] at leftFamily owner
  rw [rightOwner] at rightFamily owner
  simp only at leftFamily rightFamily owner
  rw [leftFamily, rightFamily, owner.1, owner.2.1]

theorem SameIntent.ownerPayload {first second : UploadRequest} (same : SameIntent first second) :
    first.ownerPayload = second.ownerPayload := by
  simp only [UploadRequest.ownerPayload, same.1]

end Digests

/-! ## What all uploads keep -/

section Consistency

variable (keys : HexHMAC)
  (unlock : String → List UInt8 → Option ManagedProviderFileReferencePayload)
  (reqs : ℕ → UploadRequest)

/-- The row holds the reference of an upload, under a handle that it generated. -/
def BoundBy (history : List UploadNote) (t : ℕ) (row : Lifecycle) :
    Prop :=
  row.providerPayload ≠ [] ∧ row.providerCreatedAt.isSome ∧ row.expiresAt.isSome ∧
    ∃ handle, ⟨t, .generated handle⟩ ∈ history ∧
      Seals unlock row handle row.providerPayload

/-- The upload created the row, and bound it if it is active. -/
structure MadeBy (history : List UploadNote) (t : ℕ)
    (created row : Lifecycle) : Prop where
  noted : ⟨t, .created created⟩ ∈ history
  id : row.id = created.id
  frozen : row.frozen = created.frozen
  bound : row.state = .active → BoundBy unlock history t row

/-- No row is created twice, and an upload generates one handle and sends its file once. -/
def Apart (left right : UploadNote) : Prop :=
  (∀ first second, left.kind = .created first → right.kind = .created second →
      first.id ≠ second.id) ∧
    (left.thread = right.thread →
      ¬(left.kind = .sent ∧ right.kind = .sent) ∧
        ∀ first second, left.kind = .generated first → right.kind ≠ .generated second)

/-- What holds between the rows and the notes of all uploads. -/
structure UploadConsistent (s : UploadSystem) : Prop where
  created : ∀ t row, ⟨t, .created row⟩ ∈ s.history →
    (reqs t).owner.endpointFamily = managedProviderFileEndpointFamily ∧
      row.ValidIdentity ∧
      (∃ handle, ⟨t, .generated handle⟩ ∈ s.history ∧ namesWithin 256 handle ∧
        row.frozen = ((reqs t).intentRow keys handle).frozen) ∧
      ∃ later ∈ s.db.lifecycles.rows, later.id = row.id
  rows : ∀ row ∈ s.db.lifecycles.rows, ∃ t created, MadeBy unlock s.history t created row
  found : ∀ t row, ⟨t, .found row⟩ ∈ s.history →
    ∃ creator created, MadeBy unlock s.history creator created row
  single : ∀ t, ∀ row ∈ s.db.withIntent ((reqs t).intentHMACs keys),
    ∀ other ∈ s.db.withIntent ((reqs t).intentHMACs keys), row = other
  sent : ∀ t, ⟨t, .sent⟩ ∈ s.history →
    ∃ row, ⟨t, .created row⟩ ∈ s.history
  apart : s.history.Pairwise Apart

end Consistency

section Steps

variable {keys : HexHMAC}
  {unlock : String → List UInt8 → Option ManagedProviderFileReferencePayload}
  {reqs : ℕ → UploadRequest} {t : ℕ} {s : UploadSystem}

variable {row life : Lifecycle} {db after : Database}

theorem MadeBy.mono {history later : List UploadNote} {created : Lifecycle}
    (made : MadeBy unlock history t created row)
    (grown : ∀ note ∈ history, note ∈ later) : MadeBy unlock later t created row where
  noted := grown _ made.noted
  id := made.id
  frozen := made.frozen
  bound live := by
    rcases made.bound live with ⟨present, createdAt, expires, handle, generated, seals⟩
    exact ⟨present, createdAt, expires, handle, grown _ generated, seals⟩

theorem Apart.symm {left right : UploadNote} (apart : Apart left right) : Apart right left := by
  constructor
  · intro first second isFirst isSecond same
    exact apart.1 second first isSecond isFirst same.symm
  · intro sameThread
    rcases apart.2 sameThread.symm with ⟨notSent, notGenerated⟩
    refine ⟨fun both => notSent ⟨both.2, both.1⟩, ?_⟩
    intro first second isFirst isSecond
    exact notGenerated second first isSecond isFirst

variable (sound : UploadConsistent keys unlock reqs s)

include sound

theorem UploadConsistent.apart_of_ne
    {left right : UploadNote} (inLeft : left ∈ s.history) (inRight : right ∈ s.history)
    (differ : left ≠ right) : Apart left right := by
  have symmetric : Std.Symm Apart := ⟨fun _ _ apart => apart.symm⟩
  exact sound.apart.forall inLeft inRight differ

theorem UploadConsistent.creator_unique {other : ℕ} {first second : Lifecycle}
    (inFirst : ⟨t, .created first⟩ ∈ s.history)
    (inSecond : ⟨other, .created second⟩ ∈ s.history) (same : first.id = second.id) :
    t = other ∧ first = second := by
  by_contra differ
  have nodup : UploadNote.mk t (.created first) ≠ ⟨other, .created second⟩ := by
    intro equal
    simp only [UploadNote.mk.injEq, UploadNoteKind.created.injEq] at equal
    exact differ equal
  exact (sound.apart_of_ne inFirst inSecond nodup).1 first second rfl rfl same

theorem UploadConsistent.handle_unique {first second : String}
    (inFirst : ⟨t, .generated first⟩ ∈ s.history)
    (inSecond : ⟨t, .generated second⟩ ∈ s.history) : first = second := by
  by_contra differ
  have nodup : UploadNote.mk t (.generated first) ≠ ⟨t, .generated second⟩ := by
    intro equal
    simp only [UploadNote.mk.injEq, UploadNoteKind.generated.injEq, true_and] at equal
    exact differ equal
  exact ((sound.apart_of_ne inFirst inSecond nodup).2 rfl).2 first second rfl rfl

omit sound

theorem mem_uploadOwn {kind : UploadNoteKind} (staged : kind.Staged = true) :
    kind ∈ s.own t ↔ ⟨t, kind⟩ ∈ s.history := by
  simp only [UploadSystem.own, List.mem_map, List.mem_filter, Bool.and_eq_true, decide_eq_true_eq]
  constructor
  · rintro ⟨_, ⟨known, rfl, _⟩, rfl⟩
    exact known
  · intro known
    exact ⟨⟨t, kind⟩, ⟨known, rfl, staged⟩, rfl⟩

/-! ### Notes -/

def Fits (s : UploadSystem) (t : ℕ) : UploadNoteKind → Prop
  | .found row => row ∈ s.db.lifecycles.rows
  | .generated _ => s.own t = []
  | .created _ => False
  | .sent =>
    .sent ∉ s.own t ∧ ∃ row, .created row ∈ s.own t
  | .acknowledged _ | .refused => True

theorem UploadConsistent.noted (sound : UploadConsistent keys unlock reqs s)
    {kind : UploadNoteKind} (fits : Fits s t kind) :
    UploadConsistent keys unlock reqs (s.noted t [kind]) := by
  have grown : ∀ note ∈ s.history, note ∈ (s.noted t [kind]).history := by
    intro _ known
    exact List.mem_append_left _ known
  have notCreated : ∀ row, kind ≠ .created row := by
    rintro row rfl
    exact fits
  have cases : ∀ {other : ℕ} {otherKind : UploadNoteKind},
      ⟨other, otherKind⟩ ∈ (s.noted t [kind]).history →
        ⟨other, otherKind⟩ ∈ s.history ∨ (other = t ∧ otherKind = kind) := by
    intro _ _ known
    rcases List.mem_append.mp known with past | new
    · exact .inl past
    · simp only [List.map_cons, List.map_nil, List.mem_singleton, UploadNote.mk.injEq] at new
      exact .inr new
  refine ⟨?_, ?_, ?_, sound.single, ?_, ?_⟩
  · intro other row known
    rcases cases known with past | ⟨_, isKind⟩
    · rcases sound.created other row past with
        ⟨family, valid, ⟨handle, generated, facts⟩, later⟩
      exact ⟨family, valid, ⟨handle, grown _ generated, facts⟩, later⟩
    · exact absurd isKind.symm (notCreated row)
  · intro row stored
    rcases sound.rows row stored with ⟨other, created, made⟩
    exact ⟨other, created, made.mono grown⟩
  · intro other row known
    rcases cases known with past | ⟨_, isKind⟩
    · rcases sound.found other row past with ⟨creator, created, made⟩
      exact ⟨creator, created, made.mono grown⟩
    · rw [← isKind] at fits
      rcases sound.rows row fits with ⟨creator, created, made⟩
      exact ⟨creator, created, made.mono grown⟩
  · intro other known
    rcases cases known with past | ⟨isThread, isKind⟩
    · rcases sound.sent other past with ⟨row, created⟩
      exact ⟨row, grown _ created⟩
    · rw [← isKind] at fits
      rcases fits.2 with ⟨row, created⟩
      subst isThread
      exact ⟨row, grown _ ((mem_uploadOwn rfl).mp created)⟩
  · refine List.pairwise_append.mpr ⟨sound.apart, List.pairwise_singleton _ _, ?_⟩
    intro past known _ isNew
    rw [List.mem_singleton.mp isNew]
    refine ⟨fun _ second _ isSecond => absurd isSecond (notCreated second), ?_⟩
    rcases past with ⟨other, _⟩
    intro same
    simp only at same ⊢
    subst same
    constructor
    · rintro ⟨rfl, rfl⟩
      exact fits.1 ((mem_uploadOwn rfl).mpr known)
    · rintro first _ rfl rfl
      have none_before : s.own other = [] := fits
      have inOwn : UploadNoteKind.generated first ∈ s.own other :=
        (mem_uploadOwn rfl).mpr known
      rw [none_before] at inOwn
      cases inOwn

/-! ### Rows -/

theorem row_of_id {lifecycles : Table Lifecycle}
    {other : Lifecycle} (stored : row ∈ lifecycles.rows)
    (others : other ∈ lifecycles.rows) (same : row.id = other.id) : row = other := by
  have found := Table.find?_of_mem stored
  rw [show Keyed.key row = other.id from same,
    show lifecycles.find? other.id = some other from Table.find?_of_mem others] at found
  exact (Option.some.inj found).symm

theorem frozen_intent {other : Lifecycle} (same : row.frozen = other.frozen) :
    row.uploadIntentHMAC = other.uploadIntentHMAC ∧ row.repositoryKey = other.repositoryKey := by
  simp only [Lifecycle.frozen, Prod.mk.injEq] at same
  exact ⟨same.1, by simp only [Lifecycle.repositoryKey, same.1, same.2.2.1]⟩

theorem Seals.of_frozen {other : Lifecycle} {handle : String}
    {envelope : List UInt8} (seals : Seals unlock row handle envelope)
    (same : row.frozen = other.frozen) : Seals unlock other handle envelope := by
  rcases seals with ⟨payload, opens, facts⟩
  rw [(frozen_intent same).2] at opens
  exact ⟨payload, opens, facts⟩

theorem mem_withIntent {digests : List String} :
    row ∈ db.withIntent digests ↔ row ∈ db.lifecycles.rows ∧ row.uploadIntentHMAC ∈ digests := by
  simp [Database.withIntent]

variable (sound : UploadConsistent keys unlock reqs s)

include sound

theorem UploadConsistent.preserves {binds : Lifecycle → Prop}
    (preserves : Preserves binds s.db after)
    (owned : ∀ row later, Continues binds row later → binds later → ∀ creator created,
      MadeBy unlock s.history creator created row →
        BoundBy unlock s.history creator later) :
    UploadConsistent keys unlock reqs { s with db := after } where
  created := by
    intro t row known
    rcases sound.created t row known with
      ⟨family, valid, generated, later, stored, same⟩
    rcases preserves.later later stored with ⟨last, lastStored, goes⟩
    exact ⟨family, valid, generated, last, lastStored, goes.id.trans same⟩
  rows := by
    intro later stored
    rcases preserves.earlier later stored with ⟨row, rowStored, goes⟩
    rcases sound.rows row rowStored with ⟨creator, created, made⟩
    refine ⟨creator, created, made.noted, goes.id.trans made.id, goes.frozen.trans made.frozen, ?_⟩
    intro live
    rcases goes.active live with ⟨wasActive, reference⟩ | binding
    · rcases made.bound wasActive with ⟨present, createdAt, expires, handle, generated, seals⟩
      simp only [Lifecycle.reference, Prod.mk.injEq] at reference
      rcases reference with ⟨payload, sameCreated, sameExpires⟩
      refine ⟨?_, ?_, ?_, handle, generated, ?_⟩
      · rw [payload]
        exact present
      · rw [sameCreated]
        exact createdAt
      · rw [sameExpires]
        exact expires
      · rw [payload]
        exact seals.of_frozen goes.frozen.symm
    · exact owned row later goes binding creator created made
  found := sound.found
  single := by
    intro t row inRow other inOther
    rcases mem_withIntent.mp inRow with ⟨stored, intent⟩
    rcases mem_withIntent.mp inOther with ⟨others, otherIntent⟩
    rcases preserves.earlier row stored with ⟨past, beforeStored, goes⟩
    rcases preserves.earlier other others with
      ⟨otherBefore, otherBeforeStored, otherContinues⟩
    have sameBefore := sound.single t past (mem_withIntent.mpr ⟨beforeStored, by
        rw [← (frozen_intent goes.frozen).1]
        exact intent⟩) otherBefore
      (mem_withIntent.mpr ⟨otherBeforeStored, by
        rw [← (frozen_intent otherContinues.frozen).1]
        exact otherIntent⟩)
    apply row_of_id stored others
    rw [goes.id, otherContinues.id, sameBefore]
  sent := sound.sent
  apart := sound.apart

theorem UploadConsistent.preserves_all (preserves : Preserves NoBinding s.db after) :
    UploadConsistent keys unlock reqs { s with db := after } :=
  sound.preserves preserves fun _ _ _ never => by cases never

/-- The creation of a row for an intent that no other version claims. -/
theorem UploadConsistent.create (sameVers : SameVersions reqs)
    (noClash : CollisionFree keys reqs) {event : ManagedProviderFileLifecycleEvent}
    (needs : UploadNeeds keys unlock reqs t (.create life event) s)
    (free : Unclaimed keys (reqs t) (.create life event) s)
    (creates : Creates (freshIntent life) s.db after row) (valid : (freshIntent life).Valid) :
    UploadConsistent keys unlock reqs
      (UploadSystem.noted { s with db := after } t [.created row]) := by
  rcases needs with ⟨family, handle, own, named, frozen, intent⟩
  have generated : ⟨t, .generated handle⟩ ∈ s.history :=
    (mem_uploadOwn rfl).mp (by rw [own]; exact List.mem_singleton_self _)
  have rowFrozen : row.frozen = ((reqs t).intentRow keys handle).frozen :=
    creates.frozen.trans frozen
  have rowIntent : row.uploadIntentHMAC = (reqs t).intentHMAC keys (reqs t).runtime.activeVersion :=
    (frozen_intent rowFrozen).1
  have lifecycleIntent : row.uploadIntentHMAC = life.uploadIntentHMAC :=
    (frozen_intent creates.frozen).1
  have inserted : row ∈ after.lifecycles.rows := (creates.rows row).mpr (.inl rfl)
  have grown : ∀ note ∈ s.history, note ∈ (UploadSystem.noted { s with db := after }
      t [.created row]).history := fun _ known => List.mem_append_left _ known
  have cases : ∀ {other : ℕ} {otherKind : UploadNoteKind},
      ⟨other, otherKind⟩ ∈ (UploadSystem.noted { s with db := after } t [.created row]).history →
        ⟨other, otherKind⟩ ∈ s.history ∨ (other = t ∧ otherKind = .created row) := by
    intro _ _ known
    rcases List.mem_append.mp known with past | new
    · exact .inl past
    · simp only [List.map_cons, List.map_nil, List.mem_singleton, UploadNote.mk.injEq] at new
      exact .inr new
  -- A row that shares a lookup with the new one has the new one's intent.
  have alone : ∀ reader, row.uploadIntentHMAC ∈ (reqs reader).intentHMACs keys →
      ∀ other ∈ s.db.lifecycles.rows, other.uploadIntentHMAC ∉ (reqs reader).intentHMACs keys := by
    intro _ inReader other stored otherIn
    rw [rowIntent] at inReader
    rcases List.mem_map.mp inReader with ⟨_, held, same⟩
    rcases noClash.intent held List.mem_cons_self same with ⟨_, owner, sameKey⟩
    have otherOwn := intentHMACs_of_same sameVers owner sameKey otherIn
    have claimed := free other (mem_withIntent.mpr ⟨stored, otherOwn⟩)
    exact (creates.fresh other stored).2 claimed
  refine ⟨?_, ?_, ?_, ?_, ?_, ?_⟩
  · intro other created known
    rcases cases known with past | ⟨rfl, isRow⟩
    · rcases sound.created other created past with
        ⟨otherFamily, otherValid, ⟨otherHandle, otherGenerated, facts⟩, later, stored, same⟩
      exact ⟨otherFamily, otherValid, ⟨otherHandle, grown _ otherGenerated, facts⟩, later,
        (creates.rows later).mpr (.inr stored), same⟩
    · cases isRow
      exact ⟨family, creates.valid valid, ⟨handle, grown _ generated, named, rowFrozen⟩, row,
        inserted, rfl⟩
  · intro stored inRows
    rcases (creates.rows stored).mp inRows with rfl | past
    · refine ⟨t, stored, List.mem_append_right _ (by simp), rfl, rfl, ?_⟩
      intro live
      have state : stored.state = .intent := creates.state.trans intent
      rw [state] at live
      cases live
    · rcases sound.rows stored past with ⟨creator, created, made⟩
      exact ⟨creator, created, made.mono grown⟩
  · intro other found known
    rcases cases known with past | ⟨_, never⟩
    · rcases sound.found other found past with ⟨creator, created, made⟩
      exact ⟨creator, created, made.mono grown⟩
    · cases never
  · intro reader first inFirst second inSecond
    rcases mem_withIntent.mp inFirst with ⟨firstStored, firstIntent⟩
    rcases mem_withIntent.mp inSecond with ⟨secondStored, secondIntent⟩
    rcases (creates.rows first).mp firstStored with rfl | firstBefore
    · rcases (creates.rows second).mp secondStored with rfl | secondBefore
      · rfl
      · exact absurd secondIntent (alone reader firstIntent second secondBefore)
    · rcases (creates.rows second).mp secondStored with rfl | secondBefore
      · exact absurd firstIntent (alone reader secondIntent first firstBefore)
      · exact sound.single reader first (mem_withIntent.mpr ⟨firstBefore, firstIntent⟩)
          second (mem_withIntent.mpr ⟨secondBefore, secondIntent⟩)
  · intro other known
    rcases cases known with past | ⟨_, never⟩
    · rcases sound.sent other past with ⟨created, noted⟩
      exact ⟨created, grown _ noted⟩
    · cases never
  · refine List.pairwise_append.mpr ⟨sound.apart, List.pairwise_singleton _ _, ?_⟩
    intro past known _ isNew
    rw [List.mem_singleton.mp isNew]
    rcases past with ⟨other, _⟩
    constructor
    · intro first _ isFirst isSecond same
      cases isSecond
      simp only at isFirst
      subst isFirst
      rcases sound.created other first known with ⟨_, _, _, later, stored, laterId⟩
      exact (creates.fresh later stored).1 (laterId.trans same)
    · intro _
      exact ⟨by simp, by simp⟩

theorem UploadConsistent.noted_nil : UploadConsistent keys unlock reqs (s.noted t []) := by
  have silent : s.noted t [] = s := by
    simp [UploadSystem.noted]
  rw [silent]
  exact sound

theorem UploadConsistent.transact
    {Result : Type} {pick : UploadChoice} {result : Outcome (Result × Database)}
    (committed : ∀ reply after, result = .ok (reply, after) →
      UploadConsistent keys unlock reqs { s with db := after }) :
    UploadConsistent keys unlock reqs (s.transact t pick result).2 := by
  rcases upload_transact_cases s t pick result with
    ⟨err, kinds, rfl | rfl, failed⟩ | ⟨reply, after, done, told | told⟩
  · rw [failed]
    exact sound.noted_nil
  · rw [failed]
    exact sound.noted (by trivial)
  · rw [told]
    exact committed reply after done
  · rw [told]
    exact committed reply after done

omit sound

theorem unit_eq_ok {result : Outcome Database} {reply : Unit}
    (done : UploadSystem.unit result = .ok (reply, after)) : result = .ok after := by
  cases result with
  | error _ => cases done
  | ok _ =>
    cases done
    rfl

theorem activatedRow_ok {lifeId : ℤ} {result : Outcome (Bool × Database)}
    (done : activatedRow lifeId result = .ok (row, after)) :
    ∃ moved, result = .ok (moved, after) := by
  rcases bind_eq_ok.mp done with ⟨pair, pairDone, rest⟩
  split at rest
  · cases rest
  · cases rest
    exact ⟨pair.1, pairDone⟩

theorem UploadConsistent.activates (sound : UploadConsistent keys unlock reqs s)
    {activation : ManagedProviderFileLifecycleActivation} {moved : Bool} {first now : ℤ}
    (needs : UploadNeeds keys unlock reqs t (.activate activation) s)
    (done : activateManagedProviderFileLifecycle s.db activation first now = .ok (moved, after)) :
    UploadConsistent keys unlock reqs { s with db := after } := by
  rcases needs with ⟨handle, row, _, own, sameId, seals⟩
  have generated : ⟨t, .generated handle⟩ ∈ s.history :=
    (mem_uploadOwn rfl).mp (by rw [own]; exact List.mem_cons_self)
  have createdRow : ⟨t, .created row⟩ ∈ s.history :=
    (mem_uploadOwn rfl).mp (by rw [own]; exact List.mem_cons_of_mem _ List.mem_cons_self)
  apply sound.preserves (activation_preserves done)
  rintro _ _ goes ⟨laterId, payload, present, createdAt, expires⟩ _ created made
  have same : created.id = row.id := by
    rw [← made.id, ← goes.id, laterId, sameId]
  rcases sound.creator_unique made.noted createdRow same with ⟨rfl, rfl⟩
  refine ⟨present, createdAt, expires, handle, generated, ?_⟩
  rw [payload]
  exact seals.of_frozen (goes.frozen.trans made.frozen).symm

theorem find_mem {cands : List ManagedProviderFileUploadIntentLookupCandidate}
    (found : findManagedProviderFileLifecycleByUploadIntent db cands = .ok row) :
    row ∈ db.lifecycles.rows := by
  simp only [findManagedProviderFileLifecycleByUploadIntent, bind_eq_ok] at found
  rcases found with ⟨_, _, _, _, rest⟩
  split at rest
  · cases rest
  next chosen =>
    split at rest
    · cases rest
      have inSelected : row ∈ db.withIntent (cands.map
          ManagedProviderFileUploadIntentLookupCandidate.uploadIntentHMAC) := by
        rw [chosen]
        exact List.mem_singleton_self _
      exact (mem_withIntent.mp inSelected).1
    · cases rest
  · cases rest

theorem findIntentOrHandle_mem
    (found : findIntentOrHandle db life = some row) : row ∈ db.lifecycles.rows :=
  List.mem_of_find?_eq_some found

theorem findAfterError_mem {err : ManagedProviderFileError} {made : Bool}
    (found : findAfterError db life err = .ok (row, made)) :
    row ∈ db.lifecycles.rows := by
  simp only [findAfterError] at found
  split at found
  next isExisting =>
    split at found
    · cases found
      exact findIntentOrHandle_mem isExisting
    · cases found
  · cases found

theorem createUnder_found {fault : Fault} {event : ManagedProviderFileLifecycleEvent}
    (answered : (createUnder fault db life event).1 = .ok (row, false)) :
    row ∈ (createUnder fault db life event).2.2.lifecycles.rows := by
  have transaction : ∀ {after : Database},
      createManagedProviderFileLifecycleTransaction db (freshIntent life) event =
        .ok (row, false, after) → row ∈ after.lifecycles.rows := by
    intro _ done
    rcases createTransaction_ok done with ⟨_, rfl, isExisting⟩ | ⟨never, _⟩
    · exact findIntentOrHandle_mem isExisting
    · cases never
  have plain : ∀ refused, (createManagedProviderFileLifecycleIntent db life event refused).1 =
        .ok (row, false) →
      row ∈ (createManagedProviderFileLifecycleIntent db life event refused).2.lifecycles.rows := by
    intro _ done
    simp only [createManagedProviderFileLifecycleIntent] at done ⊢
    split at done
    · cases done
    · simp only [attemptCreation] at done ⊢
      split at done
      next committed =>
        split at committed
        · cases committed
        · cases done
          exact transaction committed
      next err _ => exact findAfterError_mem done
  cases fault with
  | none => exact plain false answered
  | refused => exact plain true answered
  | unanswered =>
    simp only [createUnder, createUnanswered] at answered ⊢
    split at answered
    · cases answered
    · split at answered
      next => exact findAfterError_mem answered
      next err _ => exact findAfterError_mem answered

/-- Every allowed call of an upload keeps the rows and the notes consistent. -/
theorem UploadConsistent.perform (sameVers : SameVersions reqs)
    (noClash : CollisionFree keys reqs) (sound : UploadConsistent keys unlock reqs s)
    {call : UploadCall} {pick : UploadChoice} (needs : UploadNeeds keys unlock reqs t call s)
    (allowed : UploadAllowed keys unlock reqs t call pick s) :
    UploadConsistent keys unlock reqs (UploadSystem.perform unlock t call pick s).2 := by
  cases call with
  | findByUploadIntent cands =>
    simp only [UploadSystem.perform]
    cases reply : UploadSystem.read pick
        (findManagedProviderFileLifecycleByUploadIntent s.db cands) with
    | error _ => exact sound.noted_nil
    | ok _ =>
      have stored := find_mem (read_ok reply)
      exact sound.noted stored
  | generateHandle =>
    simp only [UploadSystem.perform]
    split
    · exact sound.noted needs
    · exact sound
  | create life event =>
    simp only [UploadSystem.perform]
    split
    · exact sound
    · have found : ∀ {after : UploadSystem}, UploadConsistent keys unlock reqs after →
          after.db = (createUnder pick.fault s.db life event).2.2 →
            ∀ row, (createUnder pick.fault s.db life event).1 = .ok (row, false) →
              UploadConsistent keys unlock reqs (after.noted t [.found row]) := by
        intro _ kept sameDb _ answered
        apply kept.noted
        have stored := createUnder_found answered
        rw [← sameDb] at stored
        exact stored
      rcases createUnder_cases pick.fault s.db life event with
        ⟨unchanged, _⟩ | ⟨row, after, stored, creates, valid, _⟩
      · have sameDb : (createUnder pick.fault s.db life event).2.2 = s.db :=
          congrArg Prod.snd unchanged
        have none_stored : (createUnder pick.fault s.db life event).2.1 = none :=
          congrArg Prod.fst unchanged
        simp only
        rw [none_stored, sameDb]
        cases reply : (createUnder pick.fault s.db life event).1 with
        | error _ => exact sound.noted_nil
        | ok pair =>
          rcases pair with ⟨row, _ | _⟩
          · exact found sound sameDb.symm row reply
          · exact sound.noted_nil
      · have afterDb : (createUnder pick.fault s.db life event).2.2 = after :=
          congrArg Prod.snd stored
        have storedRow : (createUnder pick.fault s.db life event).2.1 =
            some row := congrArg Prod.fst stored
        have kept := sound.create sameVers noClash needs allowed.2 creates valid
        simp only
        rw [storedRow, afterDb]
        cases reply : (createUnder pick.fault s.db life event).1 with
        | error _ => exact kept
        | ok pair =>
          rcases pair with ⟨other, _ | _⟩
          · have both := found kept afterDb.symm other reply
            simp only [UploadSystem.noted, List.append_assoc] at both ⊢
            exact both
          · exact kept
  | advance _ =>
    apply sound.transact
    intro _ _ done
    exact sound.preserves_all (advance_preserves (unit_eq_ok done))
  | sendUpload _ =>
    rcases needs with ⟨_, row, own⟩
    apply sound.noted
    constructor
    · rw [own]
      simp
    · exact ⟨row, by rw [own]; simp⟩
  | awaitUpload _ =>
    simp only [UploadSystem.perform]
    split
    · exact sound
    · split
      · exact sound
      · exact sound.noted (by trivial)
  | recordVerificationFailure _ =>
    apply sound.transact
    intro _ _ done
    exact sound.preserves_all (verificationFailure_preserves (unit_eq_ok done))
  | activate _ =>
    apply sound.transact
    intro _ _ done
    rcases activatedRow_ok done with ⟨_, activated⟩
    exact sound.activates needs activated
  | now | loadChannel _ | openBody | encrypt _ _ | retrieve _ | decrypt _ _ => exact sound

end Steps

end NewApi.ProviderFile
