import NewApi.ProviderFile.UploadOnce

/-!
# Runs of the uploads

Any number of uploads on nodes that hold the same key versions, with the transactions of the
deletion worker between their calls.
-/

namespace NewApi.ProviderFile

open Concurrent (Action Keeps Pool Program)
open Relational Transition
open NewApi.ProviderFile renaming ManagedProviderFileLifecycle → Lifecycle,
  ManagedProviderFileReferencePayload → ReferencePayload,
  ManagedProviderFileUploadBinding → UploadBinding
open NewApi.ProviderFile renaming validManagedProviderFileDigest → validDigest,
  findManagedProviderFileLifecycleByUploadIntent → findByIntent

abbrev UploadPool := Pool UploadSystem UploadCall UploadCall.Answer UploadResult

def UploadSystem.deletion (call : LifecycleCall) (s : UploadSystem) : UploadSystem :=
  { s with db := (call.run s.db).2 }

def DeletesOnly (call : LifecycleCall) (_ : UploadSystem) : Prop :=
  ¬call.action.Uploads
deriving Decidable

section Decidability

variable (keys : HexHMAC) (unlock : String → List UInt8 → Option ReferencePayload)
  (req : UploadRequest)

instance (pick : UploadChoice) : (call : UploadCall) →
    Decidable (HonestEnvelope unlock call pick)
  | .encrypt repositoryKey payload =>
    inferInstanceAs (Decidable (unlock repositoryKey pick.envelope = some payload))
  | .now | .findByUploadIntent _ | .generateHandle | .create _ _ | .loadChannel _ | .advance _
  | .openBody | .sendUpload _ | .awaitUpload _ | .retrieve _ | .recordVerificationFailure _
  | .activate _ | .decrypt _ _ => inferInstanceAs (Decidable True)

instance (s : UploadSystem) : (call : UploadCall) →
    Decidable (Unclaimed keys req call s)
  | .create life _ =>
    inferInstanceAs (Decidable (∀ row ∈ s.db.withIntent (req.intentHMACs keys),
      row.uploadIntentHMAC = life.uploadIntentHMAC))
  | .now | .findByUploadIntent _ | .generateHandle | .loadChannel _ | .advance _ | .openBody
  | .sendUpload _ | .awaitUpload _ | .encrypt _ _ | .retrieve _ | .recordVerificationFailure _
  | .activate _ | .decrypt _ _ => inferInstanceAs (Decidable True)

end Decidability

instance (keys : HexHMAC) (unlock : String → List UInt8 → Option ReferencePayload)
    (reqs : ℕ → UploadRequest) (t : ℕ) (call : UploadCall) (pick : UploadChoice)
    (s : UploadSystem) :
    Decidable (UploadAllowed keys unlock reqs t call pick s) :=
  inferInstanceAs (Decidable (_ ∧ _))

namespace UploadPool

variable (keys : HexHMAC) (unlock : String → List UInt8 → Option ReferencePayload)
  (reqs : ℕ → UploadRequest)

def start (channelIds : List ℤ) : UploadPool where
  state := ⟨Database.start channelIds, []⟩
  threads t := upload keys (reqs t)

def next : UploadPool → Action UploadChoice LifecycleCall → UploadPool :=
  Pool.step (UploadSystem.perform unlock) UploadSystem.deletion

/-- The runs in which an envelope is an honest one and the others delete. -/
def Allowed : UploadPool → Action UploadChoice LifecycleCall → Prop :=
  Pool.Allowed (fun _ call pick _ => HonestEnvelope unlock call pick) DeletesOnly

/-- The runs in which moreover no intent is claimed under two versions. -/
def Careful : UploadPool → Action UploadChoice LifecycleCall → Prop :=
  Pool.Allowed (UploadAllowed keys unlock reqs) DeletesOnly

instance (pool : UploadPool) (action : Action UploadChoice LifecycleCall) :
    Decidable (Allowed unlock pool action) :=
  Pool.decidableAllowed _ _ pool action

instance (pool : UploadPool) (action : Action UploadChoice LifecycleCall) :
    Decidable (Careful keys unlock reqs pool action) :=
  Pool.decidableAllowed _ _ pool action

end UploadPool

section Holding

variable {keys : HexHMAC} {unlock : String → List UInt8 → Option ReferencePayload}
  {reqs : ℕ → UploadRequest} {channelIds : List ℤ} {pool : UploadPool} {t : ℕ}

/-- A call of one upload leaves the notes of the others. -/
theorem perform_sameStage {other : ℕ} (differ : other ≠ t) (call : UploadCall)
    (pick : UploadChoice) (s : UploadSystem) :
    SameStage other s (UploadSystem.perform unlock t call pick s).2 := by
  have noted : ∀ (found : UploadSystem) (kinds : List UploadNoteKind),
      (found.noted t kinds).own other = found.own other := by
    intro _ kinds
    have foreign : (kinds.map fun kind => UploadNote.mk t kind).filter
        (fun note => note.thread = other && note.kind.Staged) = [] := by
      apply List.filter_eq_nil_iff.mpr
      intro _ inLog mine
      rcases List.mem_map.mp inLog with ⟨_, _, rfl⟩
      simp only [Bool.and_eq_true, decide_eq_true_eq] at mine
      exact differ mine.1.symm
    simp only [UploadSystem.own, UploadSystem.noted, List.filter_append, foreign, List.append_nil]
  have transacted : ∀ {Result : Type} (result : Outcome (Result × Database)),
      (s.transact t pick result).2.own other = s.own other := by
    intro _ result
    rcases upload_transact_cases s t pick result with
      ⟨failure, kinds, _, failed⟩ | ⟨reply, after, _, told | told⟩
    · rw [failed]
      exact noted s kinds
    · rw [told]
      rfl
    · rw [told]
      rfl
  cases call with
  | findByUploadIntent _ => exact noted s _
  | generateHandle =>
    simp only [UploadSystem.perform]
    split
    · exact noted s _
    · rfl
  | create _ _ =>
    simp only [UploadSystem.perform]
    split
    · rfl
    · exact noted _ _
  | advance _ => exact transacted _
  | sendUpload _ => exact noted s _
  | awaitUpload _ =>
    simp only [UploadSystem.perform]
    split
    · rfl
    · split
      · rfl
      · exact noted s _
  | recordVerificationFailure _ | activate _ => exact transacted _
  | now | loadChannel _ | openBody | encrypt _ _ | retrieve _ | decrypt _ _ => rfl

theorem uploadConsistent_start (channelIds : List ℤ) :
    UploadConsistent keys unlock reqs ⟨Database.start channelIds, []⟩ where
  created _ _ noted := absurd noted List.not_mem_nil
  rows _ stored := absurd stored List.not_mem_nil
  found _ _ noted := absurd noted List.not_mem_nil
  single _ _ stored := absurd (mem_withIntent.mp stored).1 List.not_mem_nil
  sent _ noted := absurd noted List.not_mem_nil
  apart := List.Pairwise.nil

theorem uploads_holding_of_run (sameVers : SameVersions reqs) (noClash : CollisionFree keys reqs)
    (run : Reachable (UploadPool.next unlock) (UploadPool.Careful keys unlock reqs)
      (UploadPool.start keys reqs channelIds) pool) :
    pool.Holding (UploadSystem.perform unlock) (UploadConsistent keys unlock reqs) SameStage
      (UploadAllowed keys unlock reqs) (UploadNeeds keys unlock reqs)
      (UploadEnds keys unlock reqs) := by
  refine Pool.holding_reachable run SameStage.refl ?_ ?_ ?_ ?_
  · intro _ _ _ _ past after
    exact past.trans after
  · intro _ call pick s sound needs allowed
    refine ⟨sound.perform sameVers noClash needs allowed, ?_⟩
    intro _ differ
    exact perform_sameStage differ call pick s
  · intro _ _ sound deletes
    exact ⟨sound.preserves_all (LifecycleCall.preserves deletes), fun _ => rfl⟩
  · exact ⟨uploadConsistent_start channelIds, fun _ => upload_kept _ rfl⟩

end Holding

/-! ## One row and one request -/

section Once

variable {keys : HexHMAC} {unlock : String → List UInt8 → Option ReferencePayload}
  {reqs : ℕ → UploadRequest} {s : UploadSystem} {t other : ℕ}

theorem length_le_one {Entry : Type} {entries : List Entry} (nodup : entries.Nodup)
    (same : ∀ first ∈ entries, ∀ second ∈ entries, first = second) : entries.length ≤ 1 := by
  cases entries with
  | nil => simp
  | cons first rest =>
    cases rest with
    | nil => simp
    | cons second _ =>
      have equal := same first List.mem_cons_self second (List.mem_cons_of_mem _ List.mem_cons_self)
      rw [equal] at nodup
      exact absurd List.mem_cons_self (List.nodup_cons.mp nodup).1

variable (sound : UploadConsistent keys unlock reqs s)

include sound

theorem UploadConsistent.rows_le :
    (s.db.withIntent ((reqs t).intentHMACs keys)).length ≤ 1 := by
  have nodup := List.Nodup.of_map _ s.db.lifecycles.keys_nodup
  exact length_le_one (nodup.filter _) (sound.single t)

theorem UploadConsistent.stored (sameVers : SameVersions reqs) {row : Lifecycle}
    (made : ⟨t, .created row⟩ ∈ s.history) (same : SameIntent (reqs t) (reqs other)) :
    ∃ later ∈ s.db.withIntent ((reqs other).intentHMACs keys), later.id = row.id := by
  rcases sound.created t row made with
    ⟨_, _, ⟨handle, _, _, frozen⟩, later, stored, sameId⟩
  rcases sound.rows later stored with ⟨_, _, facts⟩
  rcases sound.creator_unique facts.noted made (facts.id.symm.trans sameId) with
    ⟨rfl, rfl⟩
  refine ⟨later, mem_withIntent.mpr ⟨stored, ?_⟩, sameId⟩
  rw [(frozen_intent (facts.frozen.trans frozen)).1]
  apply intentHMACs_of_same sameVers same.ownerPayload same.2
  exact List.mem_map.mpr ⟨_, List.mem_cons_self, rfl⟩

theorem UploadConsistent.creator_of_intent (sameVers : SameVersions reqs) {first second : Lifecycle}
    (inFirst : ⟨t, .created first⟩ ∈ s.history) (inSecond : ⟨other, .created second⟩ ∈ s.history)
    (same : SameIntent (reqs t) (reqs other)) : t = other := by
  rcases sound.stored sameVers inFirst same with ⟨row, stored, sameId⟩
  rcases sound.stored sameVers inSecond ⟨rfl, rfl⟩ with
    ⟨otherRow, others, otherId⟩
  have equal := sound.single other row stored otherRow others
  apply (sound.creator_unique inFirst inSecond ?_).1
  rw [← sameId, ← otherId, equal]

omit sound

def sentUploads (reqs : ℕ → UploadRequest) (history : List UploadNote)
    (req : UploadRequest) : List UploadNote :=
  history.filter fun note => note.kind = .sent && SameIntent (reqs note.thread) req

theorem UploadConsistent.sent_le (sound : UploadConsistent keys unlock reqs s)
    (sameVers : SameVersions reqs) :
    (sentUploads reqs s.history (reqs t)).length ≤ 1 := by
  have each : ∀ note ∈ sentUploads reqs s.history (reqs t), note ∈ s.history ∧ note.kind = .sent ∧
        SameIntent (reqs note.thread) (reqs t) := by
    intro _ inSent
    simpa [sentUploads] using inSent
  have same : ∀ first ∈ sentUploads reqs s.history (reqs t),
      ∀ second ∈ sentUploads reqs s.history (reqs t),
        first.thread = second.thread := by
    intro first inFirst second inSecond
    rcases first with ⟨firstThread, firstKind⟩
    rcases second with ⟨secondThread, secondKind⟩
    rcases each _ inFirst with ⟨firstNoted, rfl, firstIntent⟩
    rcases each _ inSecond with ⟨secondNoted, rfl, secondIntent⟩
    rcases sound.sent firstThread firstNoted with ⟨_, made⟩
    rcases sound.sent secondThread secondNoted with ⟨_, otherCreated⟩
    apply sound.creator_of_intent sameVers made otherCreated
    exact ⟨firstIntent.1.trans secondIntent.1.symm, firstIntent.2.trans secondIntent.2.symm⟩
  refine length_le_one ?_ ?_
  · apply (sound.apart.filter _).imp_of_mem
    rintro _ _ inFirst inSecond apart rfl
    exact (apart.2 rfl).1 ⟨(each _ inFirst).2.1, (each _ inFirst).2.1⟩
  · rintro ⟨firstThread, firstKind⟩ inFirst ⟨secondThread, secondKind⟩ inSecond
    have sameThread : firstThread = secondThread := same _ inFirst _ inSecond
    have firstSent : firstKind = .sent := (each _ inFirst).2.1
    have secondSent : secondKind = .sent := (each _ inSecond).2.1
    rw [sameThread, firstSent, secondSent]

end Once

/-! ## Replays -/

section Replays

variable {keys : HexHMAC} {unlock : String → List UInt8 → Option ReferencePayload}
  {reqs : ℕ → UploadRequest} {s : UploadSystem} {t : ℕ}

/-- The upload that created the row of an answer. -/
structure AnsweredBy (reqs : ℕ → UploadRequest) (history : List UploadNote) (t : ℕ)
    (file : File) (creator : ℕ) : Prop where
  intent : SameIntent (reqs creator) (reqs t)
  content : SameContent (reqs creator) (reqs t)
  created : ∃ row, ⟨creator, .created row⟩ ∈ history
  generated : ⟨creator, .generated file.id⟩ ∈ history

variable {row : Lifecycle} {handle : String} {req : UploadRequest} {bindings : List UploadBinding}

/-- A row that passes for the same upload was made from the same content. -/
theorem content_of_sameUpload (noClash : CollisionFree keys reqs) {creator : ℕ}
    {ver : String} (held : ver ∈ (reqs t).runtime.versions)
    (frozen : row.frozen = ((reqs creator).intentRow keys handle).frozen)
    (keyed : ((reqs t).bindingUnder keys ver).keyed row)
    (same : sameUpload row (reqs t).target ((reqs t).bindingUnder keys ver)) :
    (reqs creator).ownerPayload = (reqs t).ownerPayload ∧
      (reqs creator).idempotencyKey = (reqs t).idempotencyKey ∧
      SameContent (reqs creator) (reqs t) := by
  simp only [Lifecycle.frozen, UploadRequest.intentRow, lifecycleIntent,
    UploadRequest.bindingUnder, Prod.mk.injEq] at frozen
  rcases frozen with ⟨intent, _, _, fingerprint, _, _, _, _, _, _, _, credential, _⟩
  simp only [UploadBinding.keyed, UploadRequest.bindingUnder, Bool.and_eq_true] at keyed
  simp only [sameUpload, UploadRequest.bindingUnder, Bool.and_eq_true] at same
  rcases same with ⟨⟨⟨⟨⟨⟨⟨fingerprintAgrees, _⟩, _⟩, _⟩, _⟩, credentialAgrees⟩, _⟩, _⟩
  have sameFingerprint := of_decide_eq_true fingerprintAgrees
  have sameCredential := of_decide_eq_true credentialAgrees
  have live : (reqs creator).runtime.activeVersion ∈
      (reqs creator).runtime.versions := List.mem_cons_self
  rcases noClash.intent live held (intent.symm.trans (of_decide_eq_true keyed.2)) with
    ⟨sameVer, owner, sameKey⟩
  subst sameVer
  rcases noClash creator t _ live _ held
    ((reqs creator).fingerprintPayload keys (reqs creator).runtime.activeVersion)
    (by simp [UploadRequest.payloads])
    ((reqs t).fingerprintPayload keys (reqs creator).runtime.activeVersion)
    (by simp [UploadRequest.payloads])
    (fingerprint.symm.trans sameFingerprint) with ⟨_, samePrint⟩
  simp only [UploadRequest.fingerprintPayload, HMACPayload.uploadFingerprint.injEq,
    ManagedProviderFileUploadFingerprintIdentity.mk.injEq] at samePrint
  rcases samePrint with ⟨_, sameDigest, sameTarget, _, sameExpiry⟩
  rcases noClash creator t _ live _ held
    (.target (reqs creator).target.identity) (by simp [UploadRequest.payloads])
    (.target (reqs t).target.identity) (by simp [UploadRequest.payloads])
    sameTarget with ⟨_, sameUser⟩
  rcases noClash creator t _ live _ held (reqs creator).credentialPayload
    (by simp [UploadRequest.payloads]) (reqs t).credentialPayload
    (by simp [UploadRequest.payloads]) (credential.symm.trans sameCredential) with
    ⟨_, sameSecret⟩
  refine ⟨owner, sameKey, sameDigest, ?_, sameExpiry⟩
  simp only [HMACPayload.target.injEq, Target.identity,
    ManagedProviderFileTargetIdentity.mk.injEq] at sameUser
  simp only [UploadRequest.credentialPayload, HMACPayload.credential.injEq] at sameSecret
  cases first : (reqs creator).target
  cases second : (reqs t).target
  simp only [first, second] at sameUser sameSecret
  simp only [Target.mk.injEq]
  exact ⟨sameUser.1, sameUser.2.1, sameUser.2.2.2.2.1, sameUser.2.2.2.2.2.1,
    sameUser.2.2.2.2.2.2, sameSecret.2.2⟩

theorem UploadConsistent.answered (sound : UploadConsistent keys unlock reqs s)
    (noClash : CollisionFree keys reqs) {file : File}
    (gives : AnswersFor keys unlock (reqs t) (s.own t) file) :
    ∃ creator, AnsweredBy reqs s.history t file creator := by
  rcases gives with ⟨family, ⟨row, _, own⟩ | ⟨row, found, live, ⟨_, held, keyed,
    same⟩, _, opens, isHandle⟩⟩
  · have generated : ⟨t, .generated file.id⟩ ∈ s.history :=
      (mem_uploadOwn rfl).mp (by rw [own]; exact List.mem_cons_self)
    have created : ⟨t, .created row⟩ ∈ s.history :=
      (mem_uploadOwn rfl).mp (by rw [own]; exact List.mem_cons_of_mem _ List.mem_cons_self)
    exact ⟨t, ⟨rfl, rfl⟩, ⟨rfl, rfl, rfl⟩, ⟨row, created⟩, generated⟩
  · rcases sound.found t row ((mem_uploadOwn rfl).mp found) with
      ⟨creator, created, made⟩
    rcases sound.created creator created made.noted with
      ⟨creatorFamily, _, ⟨_, _, _, frozen⟩, _⟩
    rcases made.bound live with ⟨_, _, _, _, generated, _, opensSealed, isSealed, _⟩
    rcases content_of_sameUpload noClash held (made.frozen.trans frozen) keyed same with
      ⟨owner, sameKey, content⟩
    rw [opens] at opensSealed
    cases opensSealed
    refine ⟨creator, SameIntent.of_payload creatorFamily family owner sameKey, content,
      ⟨created, made.noted⟩, ?_⟩
    rw [isHandle, isSealed]
    exact generated

def UploadCall.Replays : UploadCall → Prop
  | .findByUploadIntent _ | .now | .decrypt _ _ => True
  | _ => False

/-- The row is found before it expires, and its envelope is decrypted. -/
def Timely (unlock : String → List UInt8 → Option ReferencePayload)
    (row : Lifecycle) : (call : UploadCall) → call.Answer → Prop
  | .findByUploadIntent _, reply => reply = .ok row
  | .now, time => ∀ expiresAt ∈ row.expiresAt, time < expiresAt
  | .decrypt repositoryKey envelope, reply =>
    ∀ payload, unlock repositoryKey envelope = some payload → reply = .ok payload
  | _, _ => True

theorem owner_checked (bound : req.bindings keys = .ok bindings) (ver : String) :
    deriveProviderFileOwnerHMAC keys ver req.owner = .ok (req.ownerHMAC keys ver) := by
  simp only [UploadRequest.bindings, providerFileUploadBindings, providerFileTargetBindings,
    ManagedConsensusRuntime.versions, List.mapM_cons, Fallible.bind_eq_ok] at bound
  rcases bound with ⟨_, ⟨_, _, _, _, isTargets⟩, bound⟩
  cases isTargets
  simp only [List.mapM_cons, Fallible.bind_eq_ok, providerFileUploadBinding,
    deriveProviderFileUploadIntentKey, deriveProviderFileOwnerHMAC, check_eq_ok] at bound
  rcases bound with ⟨_, ⟨_, ⟨_, ⟨_, valid, _, named, _⟩, _⟩, _⟩, _⟩
  have accepted : ∀ {holds : Prop} [Decidable holds] (text : String), holds →
      check holds text = .ok () := fun _ isTrue => check_eq_ok.mpr isTrue
  simp only [deriveProviderFileOwnerHMAC, accepted _ valid, accepted _ named]
  rfl

theorem bindingUnder_of_same (keys : HexHMAC) {left right : UploadRequest}
    (intent : SameIntent left right)
    (content : SameContent left right) (ver : String) :
    left.bindingUnder keys ver = right.bindingUnder keys ver := by
  simp only [UploadRequest.bindingUnder, UploadRequest.intentHMAC, UploadRequest.intentPayload,
    UploadRequest.fingerprintPayload, UploadRequest.ownerHMAC, UploadRequest.credentialPayload,
    intent.ownerPayload, intent.2, content.1, content.2.1, content.2.2]

theorem repositoryKey_not_blank (ownerHMAC uploadIntentHMAC : String) :
    Text.isBlank (managedProviderFileRepositoryKey ownerHMAC uploadIntentHMAC) = false := by
  have starts : managedProviderFileRepositoryPrefix.toList.all Text.isSpace = false := by
    decide +kernel
  simp only [Text.isBlank, managedProviderFileRepositoryKey, String.toList_append,
    List.all_append, starts, Bool.false_and]

/-- A request like that of the creator is answered with the creator's handle. -/
theorem replay_returns {creator : UploadRequest} (bound : req.bindings keys = .ok bindings)
    (held : creator.runtime.activeVersion ∈ req.runtime.versions) (intent : SameIntent creator req)
    (content : SameContent creator req)
    (frozen : row.frozen = (creator.intentRow keys handle).frozen) (named : namesWithin 256 handle)
    (digests : validDigest row.ownerHMAC ∧ validDigest row.uploadIntentHMAC)
    (live : row.state = .active) (present : row.providerPayload ≠ [])
    (createdAt : row.providerCreatedAt.isSome) (expires : row.expiresAt.isSome)
    (seals : Seals unlock row handle row.providerPayload) :
    Program.Makes (Timely unlock row) UploadCall.Replays
      (fun result => ∃ file, result = .ok file ∧ file.id = handle)
      (replayUpload keys req row bindings) := by
  have sameBinding := bindingUnder_of_same keys intent content creator.runtime.activeVersion
  simp only [Lifecycle.frozen, UploadRequest.intentRow, lifecycleIntent,
    sameBinding, Prod.mk.injEq] at frozen
  rcases frozen with ⟨isIntent, isHandle, _, fingerprint, lookupKey, _, _, chan,
    channelType, multiKey, keyIndex, credential, _, endpoint, scope, _⟩
  have matched : bindings.find? (fun binding => binding.keyed row) =
      some (req.bindingUnder keys creator.runtime.activeVersion) := by
    rw [bindings_eq bound]
    cases found : (req.runtime.versions.map fun ver =>
        req.bindingUnder keys ver).find? (fun binding => binding.keyed row) with
    | none =>
      have absent := List.find?_eq_none.mp found
        (req.bindingUnder keys creator.runtime.activeVersion)
        (List.mem_map.mpr ⟨_, held, rfl⟩)
      simp [UploadBinding.keyed, isIntent, lookupKey] at absent
    | some _ =>
      rcases List.mem_map.mp (List.mem_of_find?_eq_some found) with ⟨ver, _, rfl⟩
      have keyed := List.find?_some found
      simp only [UploadBinding.keyed, Bool.and_eq_true,
        decide_eq_true_eq] at keyed
      have sameVer : creator.runtime.activeVersion = ver :=
        lookupKey.symm.trans keyed.1
      rw [sameVer]
  have sameRow : sameUpload row req.target
      (req.bindingUnder keys creator.runtime.activeVersion) = true := by
    simp [sameUpload, fingerprint, chan, channelType, multiKey, keyIndex, credential,
      endpoint, scope, content.2.1]
  have validKey : repositoryKeyOf row = .ok row.repositoryKey := by
    have accepted : check (validDigest row.ownerHMAC = true ∧
        validDigest row.uploadIntentHMAC = true)
          "managed provider file repository identity is invalid" = .ok () :=
      check_eq_ok.mpr digests
    simp only [repositoryKeyOf, accepted]
    rfl
  rcases Option.isSome_iff_exists.mp createdAt with ⟨made, isCreated⟩
  rcases Option.isSome_iff_exists.mp expires with ⟨expiresAt, isExpires⟩
  rcases seals with ⟨payload, opens, isPayload, payloadValid⟩
  have handleKeys : providerFileHandleKeys keys req.runtime req.owner
      payload.gatewayHandle = .ok (req.runtime.versions.map fun ver =>
        { repositoryKey := managedProviderFileRepositoryPrefix ++ ":" ++
            req.ownerHMAC keys ver ++ ":" ++
            keys ver (.handle (req.ownerHMAC keys ver) handle)
          ownerHMAC := req.ownerHMAC keys ver
          handleHMAC := keys ver (.handle (req.ownerHMAC keys ver) handle)
          keyVersion := ver }) := by
    apply Fallible.mapM_eq_ok_map
    intro ver _
    have accepted : check (namesWithin 256 handle = true)
        "managed provider file handle is invalid" = .ok () := check_eq_ok.mpr named
    simp only [deriveProviderFileHandleKey, owner_checked bound ver, isPayload]
    simp only [bind, Except.bind, accepted]
    rfl
  have answered : replayedFile row expiresAt payload (req.runtime.versions.map fun ver =>
        { repositoryKey := managedProviderFileRepositoryPrefix ++ ":" ++
            req.ownerHMAC keys ver ++ ":" ++
            keys ver (.handle (req.ownerHMAC keys ver) handle)
          ownerHMAC := req.ownerHMAC keys ver
          handleHMAC := keys ver (.handle (req.ownerHMAC keys ver) handle)
          keyVersion := ver }) =
      .ok (publicFile payload.gatewayHandle
        { providerFileId := payload.providerFileId
          filename := payload.filename
          object := "file"
          purpose := row.purpose
          bytes := row.providerBytes
          createdAtUnix := unixSeconds made
          expiresAtUnix := unixSeconds expiresAt }) := by
    have owner : creator.ownerHMAC keys creator.runtime.activeVersion =
        req.ownerHMAC keys creator.runtime.activeVersion := by
      simp only [UploadRequest.ownerHMAC, intent.ownerPayload]
    simp only [replayedFile, isCreated]
    rw [if_neg]
    simp only [List.any_map, not_not, List.any_eq_true]
    refine ⟨_, held, ?_⟩
    have lookup : row.lookupKeyVersion = creator.runtime.activeVersion := lookupKey
    simp [lookup, isHandle, owner]
  simp only [replayUpload, matched, sameRow, live, isExpires, validKey]
  refine ⟨trivial, ?_⟩
  intro now timely
  have fresh : now < expiresAt := timely expiresAt isExpires
  simp only [Program.bind]
  rw [if_neg (not_le.mpr fresh)]
  have usable : ¬(Text.isBlank row.repositoryKey = true ∨ row.providerPayload = []) := by
    rintro (blank | empty)
    · rw [Lifecycle.repositoryKey, repositoryKey_not_blank] at blank
      cases blank
    · exact present empty
  simp only [decryptProviderFileReference, if_neg usable]
  refine ⟨trivial, ?_⟩
  intro _ decrypted
  cases decrypted payload opens
  simp only [Program.bind, if_neg (not_not.mpr payloadValid)]
  simp only [Program.pure_eq, Program.bind, handleKeys]
  change Program.Makes _ _ _ (pure (replayedFile row expiresAt payload _))
  rw [answered]
  exact ⟨_, rfl, isPayload⟩

theorem check_cases (holds : Prop) [Decidable holds] (text : String) :
    check holds text = .ok () ∨ ∃ refusal, check holds text = .error (.message refusal) := by
  by_cases decided : holds
  · exact .inl (check_eq_ok.mpr decided)
  · right
    refine ⟨text, ?_⟩
    simp only [check, if_neg decided]

theorem checkUploadIntentCandidates_cases (seen : List String)
    (cands : List ManagedProviderFileUploadIntentLookupCandidate) :
    checkUploadIntentCandidates seen cands = .ok () ∨
      ∃ refusal, checkUploadIntentCandidates seen cands = .error (.message refusal) := by
  induction cands generalizing seen with
  | nil => exact .inl rfl
  | cons cand _ ih =>
    simp only [checkUploadIntentCandidates]
    rcases check_cases (validDigest cand.uploadIntentHMAC ∧
      validDigest cand.ownerHMAC ∧
      validManagedProviderFileKeyVersion cand.keyVersion)
        "managed provider file upload intent candidate is invalid" with
      valid | ⟨refusal, refused⟩
    · rcases check_cases (cand.uploadIntentHMAC ∉ seen)
        "managed provider file upload intent candidates contain duplicates" with
        fresh | ⟨refusal, refused⟩
      · rw [valid, fresh]
        exact ih (cand.uploadIntentHMAC :: seen)
      · rw [valid, refused]
        exact .inr ⟨refusal, rfl⟩
    · rw [refused]
      exact .inr ⟨refusal, rfl⟩

variable (bound : req.bindings keys = .ok bindings)

include bound

theorem lookupCandidates_eq :
    (bindings.map lookupCandidate).map
        ManagedProviderFileUploadIntentLookupCandidate.uploadIntentHMAC =
      req.intentHMACs keys := by
  rw [bindings_eq bound]
  simp only [List.map_map, UploadRequest.intentHMACs]
  rfl

theorem lookup_finds {creator : UploadRequest} {db : Database}
    (held : creator.runtime.activeVersion ∈ req.runtime.versions) (intent : SameIntent creator req)
    (frozen : row.frozen = (creator.intentRow keys handle).frozen)
    (single : db.withIntent (req.intentHMACs keys) = [row]) :
    findByIntent db (bindings.map lookupCandidate) = .ok row ∨
      ∃ refusal, findByIntent db (bindings.map lookupCandidate) = .error (.message refusal) := by
  have named : (bindings.map lookupCandidate).any (fun cand => cand.matches row) := by
    simp only [Lifecycle.frozen, UploadRequest.intentRow, lifecycleIntent,
      UploadRequest.bindingUnder, Prod.mk.injEq] at frozen
    rcases frozen with ⟨isIntent, _, isOwner, _, lookupKey, _⟩
    rw [bindings_eq bound]
    simp only [List.any_eq_true, List.map_map, List.mem_map]
    refine ⟨_, ⟨_, held, rfl⟩, ?_⟩
    have owner : creator.ownerHMAC keys creator.runtime.activeVersion =
        req.ownerHMAC keys creator.runtime.activeVersion := by
      simp only [UploadRequest.ownerHMAC, intent.ownerPayload]
    have sameDigest : creator.intentHMAC keys creator.runtime.activeVersion =
        req.intentHMAC keys creator.runtime.activeVersion := by
      simp only [UploadRequest.intentHMAC, UploadRequest.intentPayload, owner, intent.2]
    simp [ManagedProviderFileUploadIntentLookupCandidate.matches, lookupCandidate,
      UploadRequest.bindingUnder, isIntent, isOwner, lookupKey, owner, sameDigest]
  simp only [findByIntent, lookupCandidates_eq bound, single, named, if_true]
  rcases check_cases (bindings.map lookupCandidate ≠ [] ∧
    (bindings.map lookupCandidate).length ≤ 5)
      "managed provider file upload intent candidates are invalid" with
    accepted | ⟨refusal, refused⟩
  · rw [accepted]
    rcases checkUploadIntentCandidates_cases [] (bindings.map lookupCandidate) with
      accepted | ⟨refusal, refused⟩
    · left
      rw [accepted]
      rfl
    · right
      rw [refused]
      exact ⟨refusal, rfl⟩
  · right
    rw [refused]
    exact ⟨refusal, rfl⟩

theorem upload_replays {creator : UploadRequest} {post : UploadResult → Prop}
    (family : creator.owner.endpointFamily = managedProviderFileEndpointFamily)
    (intent : SameIntent creator req)
    (replays : Program.Makes (Timely unlock row) UploadCall.Replays post
      (replayUpload keys req row bindings)) :
    Program.Makes (Timely unlock row) UploadCall.Replays post (upload keys req) := by
  have ownFamily : ¬req.owner.endpointFamily ≠ managedProviderFileEndpointFamily := by
    rw [← intent.1]
    exact not_not.mpr family
  have live := bindings_eq bound
  simp only [ManagedConsensusRuntime.versions, List.map_cons] at live
  simp only [upload, if_neg ownFamily, bound]
  subst live
  refine ⟨trivial, ?_⟩
  intro _ isRow
  cases isRow
  exact replays

end Replays

/-! ## The runs -/

/-- An intent has one row and is sent once, an upload with other content, target or expiry is
not answered, and one with the same is answered with the handle of the row. -/
structure UploadedOnce (keys : HexHMAC)
    (unlock : String → List UInt8 → Option ReferencePayload)
    (reqs : ℕ → UploadRequest) (pool : UploadPool) : Prop where
  rows : ∀ t, (pool.state.db.withIntent ((reqs t).intentHMACs keys)).length ≤ 1
  sent : ∀ t, (sentUploads reqs pool.state.history (reqs t)).length ≤ 1
  answered : ∀ t file, pool.threads t = .done (.ok file) →
    ∃ creator, AnsweredBy reqs pool.state.history t file creator
  rejected : ∀ creator row, ⟨creator, .created row⟩ ∈ pool.state.history → ∀ t,
    SameIntent (reqs creator) (reqs t) →
    ¬SameContent (reqs creator) (reqs t) →
      ∀ file, pool.threads t ≠ .done (.ok file)
  same : ∀ left right leftFile rightFile, SameIntent (reqs left) (reqs right) →
    pool.threads left = .done (.ok leftFile) → pool.threads right = .done (.ok rightFile) →
      leftFile.id = rightFile.id
  replays : ∀ creator created, ⟨creator, .created created⟩ ∈ pool.state.history → ∀ t,
    SameIntent (reqs creator) (reqs t) →
    SameContent (reqs creator) (reqs t) →
    ∀ row ∈ pool.state.db.withIntent ((reqs t).intentHMACs keys),
      row.state = .active → ∀ bindings, (reqs t).bindings keys = .ok bindings →
        ∃ handle, ⟨creator, .generated handle⟩ ∈ pool.state.history ∧
          (findByIntent pool.state.db (bindings.map lookupCandidate) = .ok row ∨
            ∃ refusal, findByIntent pool.state.db
              (bindings.map lookupCandidate) = .error (.message refusal)) ∧
          Program.Makes (Timely unlock row) UploadCall.Replays
            (fun result => ∃ file, result = .ok file ∧ file.id = handle)
            (upload keys (reqs t))

section Runs

variable {keys : HexHMAC} {unlock : String → List UInt8 → Option ReferencePayload}
  {reqs : ℕ → UploadRequest} {s : UploadSystem} {t creator : ℕ}

theorem UploadConsistent.answered_same (sound : UploadConsistent keys unlock reqs s)
    (sameVers : SameVersions reqs) {other otherCreator : ℕ} {file otherFile : File}
    (answered : AnsweredBy reqs s.history t file creator)
    (others : AnsweredBy reqs s.history other otherFile otherCreator)
    (same : SameIntent (reqs t) (reqs other)) :
    creator = otherCreator ∧ file.id = otherFile.id := by
  rcases answered.created with ⟨_, made⟩
  rcases others.created with ⟨_, otherCreated⟩
  have intent : SameIntent (reqs creator) (reqs otherCreator) := by
    refine ⟨?_, ?_⟩
    · exact answered.intent.1.trans (same.1.trans others.intent.1.symm)
    · exact answered.intent.2.trans (same.2.trans others.intent.2.symm)
  have equal := sound.creator_of_intent sameVers made otherCreated intent
  subst equal
  exact ⟨rfl, sound.handle_unique answered.generated others.generated⟩

theorem UploadConsistent.replays (sound : UploadConsistent keys unlock reqs s)
    (sameVers : SameVersions reqs) {created row : Lifecycle} {bindings : List UploadBinding}
    (known : ⟨creator, .created created⟩ ∈ s.history)
    (intent : SameIntent (reqs creator) (reqs t)) (content : SameContent (reqs creator) (reqs t))
    (stored : row ∈ s.db.withIntent ((reqs t).intentHMACs keys)) (live : row.state = .active)
    (bound : (reqs t).bindings keys = .ok bindings) :
    ∃ handle, ⟨creator, .generated handle⟩ ∈ s.history ∧
      (findByIntent s.db (bindings.map lookupCandidate) = .ok row ∨
        ∃ refusal, findByIntent s.db (bindings.map lookupCandidate) = .error (.message refusal)) ∧
      Program.Makes (Timely unlock row) UploadCall.Replays
        (fun result => ∃ file, result = .ok file ∧ file.id = handle)
        (upload keys (reqs t)) := by
  rcases sound.stored sameVers known intent with ⟨later, laterStored, sameId⟩
  have isRow := sound.single t later laterStored row stored
  subst isRow
  rcases sound.rows later (mem_withIntent.mp laterStored).1 with ⟨owner, made, facts⟩
  rcases sound.creator_unique facts.noted known (facts.id.symm.trans sameId) with
    ⟨rfl, rfl⟩
  rcases sound.created owner made known with
    ⟨family, valid, ⟨handle, generated, named, frozen⟩, _⟩
  rcases facts.bound live with
    ⟨present, createdAt, expires, sealedHandle, sealedGenerated, seals⟩
  have sameHandle := sound.handle_unique sealedGenerated generated
  subst sameHandle
  have held : (reqs owner).runtime.activeVersion ∈ (reqs t).runtime.versions :=
    (sameVers owner t).mem_iff.mp List.mem_cons_self
  have laterFrozen := facts.frozen.trans frozen
  have single : s.db.withIntent ((reqs t).intentHMACs keys) = [later] := by
    have atMost : (s.db.withIntent ((reqs t).intentHMACs keys)).length ≤ 1 :=
      sound.rows_le
    match chosen : s.db.withIntent ((reqs t).intentHMACs keys), atMost with
    | [], _ =>
      rw [chosen] at stored
      exact absurd stored List.not_mem_nil
    | [only], _ =>
      rw [chosen, List.mem_singleton] at stored
      rw [stored]
    | first :: second :: rest, never =>
      simp only [List.length_cons] at never
      omega
  refine ⟨sealedHandle, generated, lookup_finds bound held intent laterFrozen single, ?_⟩
  apply upload_replays bound family intent
  have digests : validDigest later.ownerHMAC ∧
      validDigest later.uploadIntentHMAC := by
    have same := facts.frozen
    simp only [Lifecycle.frozen, Prod.mk.injEq] at same
    rw [same.1, same.2.2.1]
    exact ⟨valid.2.2.1, valid.1⟩
  exact replay_returns bound held intent content laterFrozen named digests live present
    createdAt expires seals

/-! ### Uploads that claim an intent under one version -/

/-- Nodes with one active version create the rows of an intent under one digest. -/
theorem UploadConsistent.unclaimed_of_active (sound : UploadConsistent keys unlock reqs s)
    (noClash : CollisionFree keys reqs)
    (sameActive : ∀ other, (reqs other).runtime.activeVersion = (reqs t).runtime.activeVersion)
    {call : UploadCall} (needs : UploadNeeds keys unlock reqs t call s) :
    Unclaimed keys (reqs t) call s := by
  cases call with
  | create life event =>
    intro row inRows
    rcases needs with ⟨_, _, _, _, lifeFrozen, _⟩
    rcases mem_withIntent.mp inRows with ⟨stored, digest⟩
    rcases sound.rows row stored with ⟨other, created, made⟩
    rcases sound.created other created made.noted with ⟨_, _, ⟨_, _, _, frozen⟩, _⟩
    have rowIntent : row.uploadIntentHMAC =
        (reqs other).intentHMAC keys (reqs other).runtime.activeVersion :=
      (frozen_intent (made.frozen.trans frozen)).1
    have lifeIntent : life.uploadIntentHMAC =
        (reqs t).intentHMAC keys (reqs t).runtime.activeVersion := (frozen_intent lifeFrozen).1
    rcases List.mem_map.mp digest with ⟨ver, held, same⟩
    have isActive : ver = (reqs other).runtime.activeVersion :=
      (noClash.intent held List.mem_cons_self (same.trans rowIntent)).1
    rw [lifeIntent, ← sameActive other, ← isActive]
    exact same.symm
  | _ => trivial

/-- No creation came between the lookup and the creation: the row is still not found. -/
theorem unclaimed_of_notFound {bindings : List UploadBinding} {call : UploadCall}
    (bound : (reqs t).bindings keys = .ok bindings)
    (missing : findByIntent s.db (bindings.map lookupCandidate) = .error .recordNotFound) :
    Unclaimed keys (reqs t) call s := by
  cases call with
  | create life event =>
    intro row inRows
    rcases check_cases (bindings.map lookupCandidate ≠ [] ∧
      (bindings.map lookupCandidate).length ≤ 5)
        "managed provider file upload intent candidates are invalid" with
      accepted | ⟨refusal, refused⟩
    · rcases checkUploadIntentCandidates_cases [] (bindings.map lookupCandidate) with
        distinct | ⟨refusal, refused⟩
      · simp only [findByIntent, accepted, distinct, lookupCandidates_eq bound] at missing
        split at missing
        next empty =>
          rw [empty] at inRows
          cases inRows
        · split at missing <;> cases missing
        · cases missing
      · simp only [findByIntent, accepted, refused] at missing
        cases missing
    · simp only [findByIntent, refused] at missing
      cases missing
  | _ => trivial

end Runs

/-- On nodes with one active version every run of honest envelopes meets the condition. -/
theorem careful_of_active {keys : HexHMAC} {unlock : String → List UInt8 → Option ReferencePayload}
    {reqs : ℕ → UploadRequest} {channelIds : List ℤ} {pool : UploadPool}
    (sameVers : SameVersions reqs) (noClash : CollisionFree keys reqs)
    (sameActive : ∀ left right,
      (reqs left).runtime.activeVersion = (reqs right).runtime.activeVersion)
    (run : Reachable (UploadPool.next unlock) (UploadPool.Allowed unlock)
      (UploadPool.start keys reqs channelIds) pool) :
    Reachable (UploadPool.next unlock) (UploadPool.Careful keys unlock reqs)
      (UploadPool.start keys reqs channelIds) pool := by
  refine run.invariant (fun pool => Reachable (UploadPool.next unlock)
    (UploadPool.Careful keys unlock reqs) (UploadPool.start keys reqs channelIds) pool) ?_
    (Reachable.refl _)
  intro pool action allowed reached
  refine reached.step action ?_
  have holding := uploads_holding_of_run sameVers noClash reached
  cases action with
  | perform t pick =>
    have kept := holding.threads t
    simp only [UploadPool.Allowed, UploadPool.Careful, Pool.Allowed] at allowed ⊢
    cases program : pool.threads t with
    | done _ => trivial
    | call call next =>
      rw [program] at allowed kept
      have needs := (kept pool.state (SameStage.refl t pool.state)).1
      exact ⟨allowed, holding.state.unclaimed_of_active noClash (fun other => sameActive other t)
        needs⟩
  | occur event => exact allowed

/-- In every run of uploads on nodes with the same key versions, in which no upload creates an
intent that a row under another version has, every intent is uploaded once. -/
theorem intent_uploaded_once (keys : HexHMAC)
    (unlock : String → List UInt8 → Option ReferencePayload)
    (channelIds : List ℤ) (reqs : ℕ → UploadRequest) (sameVersions : SameVersions reqs)
    (collisionFree : CollisionFree keys reqs) (pool : UploadPool)
    (reached : Reachable (UploadPool.next unlock) (UploadPool.Careful keys unlock reqs)
      (UploadPool.start keys reqs channelIds) pool) :
    UploadedOnce keys unlock reqs pool := by
  have holding := uploads_holding_of_run sameVersions collisionFree reached
  have sound := holding.state
  have answered : ∀ t file, pool.threads t = .done (.ok file) →
      ∃ creator, AnsweredBy reqs pool.state.history t file creator := by
    intro t file done
    have ends := holding.threads t
    rw [done] at ends
    exact sound.answered collisionFree (ends pool.state (SameStage.refl t _) file rfl)
  refine ⟨fun t => sound.rows_le, fun t => sound.sent_le sameVersions, answered, ?_, ?_, ?_⟩
  · intro _ _ created t intent differ file done
    rcases answered t file done with ⟨_, by_answerer⟩
    rcases by_answerer.created with ⟨_, otherCreated⟩
    have same := sound.creator_of_intent sameVersions otherCreated created
      ⟨by_answerer.intent.1.trans intent.1.symm, by_answerer.intent.2.trans intent.2.symm⟩
    subst same
    exact differ by_answerer.content
  · intro left right leftFile rightFile intent leftDone rightDone
    rcases answered left leftFile leftDone with ⟨creator, byCreator⟩
    rcases answered right rightFile rightDone with ⟨_, byOther⟩
    exact (sound.answered_same sameVersions byCreator byOther intent).2
  · intro _ _ known _ intent content _ stored live _ bound
    exact sound.replays sameVersions known intent content stored live bound

def versionDigit (ver : String) : Char :=
  if ver = "v1" then '1' else '2'

def payloadDigit : HMACPayload → Char
  | .owner .. => '0'
  | .uploadIntent .. => '1'
  | .handle .. => '2'
  | .reference .. => '3'
  | .deletion .. => '4'
  | .target .. => '5'
  | .endpoint .. => '6'
  | .scope .. => '7'
  | .uploadFingerprint .. => '8'
  | .credential .. => '9'
  | .event .. => 'a'

def sampleKeys : HexHMAC := fun ver payload =>
  String.ofList (versionDigit ver :: payloadDigit payload :: List.replicate 62 '0')

def requestUnder (activeVersion previousVersion : String) : UploadRequest where
  owner := ⟨3, 4, managedProviderFileEndpointFamily⟩
  idempotencyKey := "key"
  body := ⟨"notes.txt", 10, sampleDigest 'e'⟩
  settings := ⟨⟨7, 10, 3, 30⟩, true, 3600, 60, 600⟩
  runtime := ⟨activeVersion, [previousVersion]⟩
  target := ⟨7, channelTypeOpenAI, "https://api.openai.com", "", "", "secret"⟩

def rotatingRequests : ℕ → UploadRequest
  | 0 => requestUnder "v1" "v2"
  | _ + 1 => requestUnder "v2" "v1"

theorem rotatingRequests_sameVersions : SameVersions rotatingRequests := by
  intro left right
  cases left with
  | zero => cases right with
    | zero => exact List.Perm.refl _
    | succ _ => exact List.Perm.swap _ _ _
  | succ _ => cases right with
    | zero => exact List.Perm.swap _ _ _
    | succ _ => exact List.Perm.refl _

theorem rotatingRequests_same (t : ℕ) :
    (∀ ver, (rotatingRequests t).payloads sampleKeys ver =
      (requestUnder "v1" "v2").payloads sampleKeys ver) ∧
      ∀ ver ∈ (rotatingRequests t).runtime.versions, ver ∈ ["v1", "v2"] := by
  cases t with
  | zero => exact ⟨fun ver => rfl, fun ver held => held⟩
  | succ _ =>
    refine ⟨fun ver => rfl, ?_⟩
    intro _ held
    exact (List.Perm.swap "v1" "v2" []).mem_iff.mp held

theorem rotatingRequests_collisionFree : CollisionFree sampleKeys rotatingRequests := by
  intro left right ver held other otherHeld payload listed otherPayload otherListed equal
  have digits := String.ofList_injective equal
  simp only [List.cons.injEq, and_true] at digits
  have each : ∀ ver ∈ ["v1", "v2"], ∀ other ∈ ["v1", "v2"], versionDigit ver = versionDigit other →
        ∀ payload ∈ (requestUnder "v1" "v2").payloads sampleKeys ver,
          ∀ otherPayload ∈ (requestUnder "v1" "v2").payloads sampleKeys other,
            payloadDigit payload = payloadDigit otherPayload →
              ver = other ∧ payload = otherPayload := by
    decide +kernel
  rw [(rotatingRequests_same left).1] at listed
  rw [(rotatingRequests_same right).1] at otherListed
  exact each ver ((rotatingRequests_same left).2 ver held) other ((rotatingRequests_same right).2
    other otherHeld) digits.1 payload listed otherPayload otherListed digits.2

def sampleHandle (t : ℕ) : String :=
  managedProviderFileHandlePrefix ++
    String.ofList ((if t = 0 then 'A' else 'B') :: List.replicate 42 'A')

def sampleUploadChoice (t : ℕ) : UploadChoice where
  first := (unixEpochSeconds + 3600) * second
  now := (unixEpochSeconds + 3600) * second
  cancelled := false
  fault := .none
  handle := sampleHandle t
  target := some (requestUnder "v1" "v2").target
  bodyOpens := true
  metadata := none
  envelope := []

def sampleUnlock (_ : String) (_ : List UInt8) : Option ReferencePayload :=
  none

def callsOf (threads : List ℕ) : List (Action UploadChoice LifecycleCall) :=
  threads.map fun t => .perform t (sampleUploadChoice t)

def createdUpload : List (Action UploadChoice LifecycleCall) :=
  callsOf [0, 1, 0, 0, 0]

def crossedUploads : List (Action UploadChoice LifecycleCall) :=
  callsOf [0, 1, 0, 0, 0, 1, 1, 1]

theorem crossedUploads_run :
    (RunAllowed (UploadPool.next sampleUnlock)
      (UploadPool.Careful sampleKeys sampleUnlock rotatingRequests)
      (UploadPool.start sampleKeys rotatingRequests [7]) createdUpload ∧
        (createdUpload.foldl (UploadPool.next sampleUnlock) (UploadPool.start sampleKeys
          rotatingRequests [7])).state.db.lifecycles.rows.length = 1) ∧
      RunAllowed (UploadPool.next sampleUnlock) (UploadPool.Allowed sampleUnlock)
        (UploadPool.start sampleKeys rotatingRequests [7]) crossedUploads ∧
        ((crossedUploads.foldl (UploadPool.next sampleUnlock) (UploadPool.start sampleKeys
          rotatingRequests [7])).state.db.withIntent
            ((rotatingRequests 0).intentHMACs sampleKeys)).length = 2 := by
  decide +kernel

theorem intent_uploaded_once_created :
    ∃ pool : UploadPool, (pool.state.db.lifecycles.rows.length = 1) ∧
      UploadedOnce sampleKeys sampleUnlock rotatingRequests pool := by
  have run := crossedUploads_run.1
  refine ⟨_, run.2, ?_⟩
  exact intent_uploaded_once sampleKeys sampleUnlock [7] rotatingRequests
    rotatingRequests_sameVersions rotatingRequests_collisionFree _
    (Reachable.of_run createdUpload _ run.1)

/-- Each node creates the intent under its own active version. -/
theorem intent_created_twice :
    ¬∀ (keys : HexHMAC) (unlock : String → List UInt8 → Option ReferencePayload)
      (channelIds : List ℤ) (reqs : ℕ → UploadRequest), SameVersions reqs →
        CollisionFree keys reqs → ∀ pool : UploadPool,
          Reachable (UploadPool.next unlock) (UploadPool.Allowed unlock)
            (UploadPool.start keys reqs channelIds) pool →
              UploadedOnce keys unlock reqs pool := by
  intro once
  have run := crossedUploads_run.2
  have rows := (once sampleKeys sampleUnlock [7] rotatingRequests rotatingRequests_sameVersions
    rotatingRequests_collisionFree _ (Reachable.of_run crossedUploads _ run.1)).rows 0
  rw [run.2] at rows
  omega

end NewApi.ProviderFile
