import NewApi.ProviderFile.UploadMoves

/-!
# Stages of an upload

What an upload has noted when it makes a call. Other uploads do not write its notes.
-/

namespace NewApi.ProviderFile

open Concurrent (Program Keeps)
open Relational Fallible Concurrent.Program
open NewApi.ProviderFile renaming ManagedProviderFileLifecycle → Lifecycle,
  ManagedProviderFileReferencePayload → ReferencePayload,
  ManagedProviderFileUploadBinding → UploadBinding

/-! ## The bindings of a request -/

namespace UploadRequest

variable (keys : HexHMAC) (ver : String) (req : UploadRequest)

def ownerPayload : HMACPayload :=
  .owner req.owner.userId req.owner.tokenId (Text.trimSpace req.owner.endpointFamily).toLower

def ownerHMAC : String :=
  keys ver req.ownerPayload

def intentPayload : HMACPayload :=
  .uploadIntent (req.ownerHMAC keys ver) req.idempotencyKey

def intentHMAC : String :=
  keys ver (req.intentPayload keys ver)

def credentialPayload : HMACPayload :=
  .credential req.target.channelId 0 req.target.credential

def fingerprintPayload : HMACPayload :=
  .uploadFingerprint
    { ownerHMAC := req.ownerHMAC keys ver
      contentDigest := req.body.contentDigest
      targetFingerprint := keys ver (.target req.target.identity)
      purpose := managedProviderFilePurposeUserData
      expirationSeconds := req.settings.providerFileExpirationSeconds }

def payloads : List HMACPayload :=
  [req.ownerPayload, req.intentPayload keys ver, .target req.target.identity,
    req.credentialPayload, req.fingerprintPayload keys ver]

def bindingUnder : UploadBinding where
  intentKey :=
    { repositoryKey := managedProviderFileRepositoryKey (req.ownerHMAC keys ver)
        (req.intentHMAC keys ver)
      ownerHMAC := req.ownerHMAC keys ver
      uploadIntentHMAC := req.intentHMAC keys ver
      keyVersion := ver }
  targetFingerprint := keys ver (.target req.target.identity)
  credentialFingerprint := keys ver req.credentialPayload
  endpointFingerprint := keys ver (.endpoint req.target.endpoint)
  scopeFingerprint := keys ver (.scope req.target.organization req.target.project)
  requestFingerprint := keys ver (req.fingerprintPayload keys ver)

def intentHMACs : List String :=
  req.runtime.versions.map fun ver => req.intentHMAC keys ver

def intentRow (handle : String) : Lifecycle :=
  lifecycleIntent req (req.bindingUnder keys req.runtime.activeVersion)
    (keys req.runtime.activeVersion (.handle (req.ownerHMAC keys req.runtime.activeVersion) handle))

end UploadRequest

section Bindings

variable {keys : HexHMAC} {ver : String} {req : UploadRequest}

theorem ownerHMAC_ok {ownerHMAC : String}
    (done : deriveProviderFileOwnerHMAC keys ver req.owner = .ok ownerHMAC) :
    ownerHMAC = req.ownerHMAC keys ver := by
  simp only [deriveProviderFileOwnerHMAC, bind_eq_ok] at done
  rcases done with ⟨_, _, _, _, last⟩
  cases last
  rfl

def UploadRequest.targetBindingUnder (keys : HexHMAC) (ver : String)
    (req : UploadRequest) : ManagedProviderFileTargetBinding where
  keyVersion := ver
  targetFingerprint := keys ver (.target req.target.identity)
  credentialFingerprint := keys ver req.credentialPayload
  endpointFingerprint := keys ver (.endpoint req.target.endpoint)
  scopeFingerprint := keys ver (.scope req.target.organization req.target.project)

theorem targetBinding_ok {binding : ManagedProviderFileTargetBinding}
    (done : providerFileTargetBinding keys ver req.target.identity
      req.target.credential = .ok binding) :
    binding = req.targetBindingUnder keys ver := by
  simp only [providerFileTargetBinding, deriveProviderFileTargetFingerprint,
    deriveProviderFileCredentialFingerprint, deriveProviderFileEndpointFingerprint,
    deriveProviderFileScopeFingerprint, bind_eq_ok] at done
  rcases done with ⟨_, ⟨_, _, goal⟩, _, ⟨_, _, credential⟩, _, ⟨_, _, endpoint⟩, _,
    ⟨_, _, scope⟩, last⟩
  cases goal
  cases credential
  cases endpoint
  cases scope
  cases last
  rfl

theorem uploadBinding_ok {binding : UploadBinding}
    (done : providerFileUploadBinding keys ver req.owner req.idempotencyKey
      req.body.contentDigest managedProviderFilePurposeUserData
      req.settings.providerFileExpirationSeconds (req.targetBindingUnder keys ver) =
        .ok binding) : binding = req.bindingUnder keys ver := by
  simp only [providerFileUploadBinding, deriveProviderFileUploadIntentKey,
    deriveProviderFileUploadFingerprint, bind_eq_ok] at done
  rcases done with ⟨_, ⟨_, owner, _, _, intentKey⟩, _, ⟨_, _, fingerprint⟩, last⟩
  cases ownerHMAC_ok owner
  cases intentKey
  cases fingerprint
  cases last
  rfl

theorem bindings_eq {bindings : List UploadBinding} (done : req.bindings keys = .ok bindings) :
    bindings = req.runtime.versions.map fun ver => req.bindingUnder keys ver := by
  simp only [UploadRequest.bindings, providerFileUploadBindings, bind_eq_ok] at done
  rcases done with ⟨targets, targetsDone, done⟩
  have targetsEq : targets = req.runtime.versions.map fun ver =>
      req.targetBindingUnder keys ver :=
    eq_map_of_mapM_eq_ok (fun _ _ bound => targetBinding_ok bound) targetsDone
  rw [targetsEq, List.mapM_map] at done
  exact eq_map_of_mapM_eq_ok (fun _ _ bound => uploadBinding_ok bound) done

theorem handleKey_ok {handle : String} {key : ManagedProviderFileHandleKey}
    (done : deriveProviderFileHandleKey keys ver req.owner handle = .ok key) :
    namesWithin 256 handle ∧
      key.handleHMAC = keys ver (.handle (req.ownerHMAC keys ver) handle) := by
  simp only [deriveProviderFileHandleKey, bind_eq_ok, check_eq_ok] at done
  rcases done with ⟨_, owner, _, named, last⟩
  cases ownerHMAC_ok owner
  cases last
  exact ⟨named, rfl⟩

end Bindings

/-! ## Notes of one upload -/

def UploadNoteKind.Staged : UploadNoteKind → Bool
  | .found _ | .generated _ | .created _ | .sent => true
  | .acknowledged _ | .refused => false

def UploadSystem.own (s : UploadSystem) (t : ℕ) : List UploadNoteKind :=
  (s.history.filter fun note => note.thread = t && note.kind.Staged).map UploadNote.kind

def SameStage (t : ℕ) (past after : UploadSystem) : Prop :=
  after.own t = past.own t

def ManagedProviderFileLifecycle.repositoryKey (life : Lifecycle) :
    String :=
  managedProviderFileRepositoryKey life.ownerHMAC life.uploadIntentHMAC

section Stages

variable (keys : HexHMAC) (unlock : String → List UInt8 → Option ReferencePayload)
  (reqs : ℕ → UploadRequest) (t : ℕ)

/-- A payload that an envelope of a row decrypts to, with the handle of the row. -/
def Seals (row : Lifecycle) (handle : String) (envelope : List UInt8) : Prop :=
  ∃ payload, unlock row.repositoryKey envelope = some payload ∧ payload.gatewayHandle = handle ∧
    payload.Valid

def UploadNeeds (call : UploadCall) (s : UploadSystem) : Prop :=
  match call with
  | .generateHandle => s.own t = []
  | .create life _ =>
    (reqs t).owner.endpointFamily = managedProviderFileEndpointFamily ∧
      ∃ handle, s.own t = [.generated handle] ∧ namesWithin 256 handle ∧
        life.frozen = ((reqs t).intentRow keys handle).frozen ∧
        life.state = .intent
  | .sendUpload _ =>
    ∃ handle row, s.own t = [.generated handle, .created row]
  | .activate activation =>
    ∃ handle row rest, s.own t = .generated handle :: .created row :: rest ∧
      activation.lifecycleId = row.id ∧ Seals unlock row handle activation.providerPayload
  | _ => True

def HonestEnvelope (call : UploadCall) (pick : UploadChoice) : Prop :=
  match call with
  | .encrypt repositoryKey payload => unlock repositoryKey pick.envelope = some payload
  | _ => True

/-- No row of the intent is keyed by another version than the one that the creator checks. -/
def Unclaimed (req : UploadRequest) (call : UploadCall) (s : UploadSystem) : Prop :=
  match call with
  | .create life _ =>
    ∀ row ∈ s.db.withIntent (req.intentHMACs keys), row.uploadIntentHMAC = life.uploadIntentHMAC
  | _ => True

/-- The answer is the handle of the row that the upload created, or of an active row that it
found and that was made by a request like its own. -/
def AnswersFor (req : UploadRequest) (notes : List UploadNoteKind) (file : File) : Prop :=
  req.owner.endpointFamily = managedProviderFileEndpointFamily ∧
    ((∃ row rest, notes = .generated file.id :: .created row :: rest) ∨
      ∃ row, .found row ∈ notes ∧ row.state = .active ∧
        (∃ ver ∈ req.runtime.versions, (req.bindingUnder keys ver).keyed row ∧
            sameUpload row req.target (req.bindingUnder keys ver)) ∧
        ∃ payload, unlock row.repositoryKey row.providerPayload = some payload ∧
          file.id = payload.gatewayHandle)

def UploadEnds (result : UploadResult) (s : UploadSystem) : Prop :=
  ∀ file, result = .ok file →
    AnswersFor keys unlock (reqs t) (s.own t) file

/-- The steps in which an envelope is an honest one and no other version claims the intent. -/
def UploadAllowed (call : UploadCall) (pick : UploadChoice) (s : UploadSystem) : Prop :=
  HonestEnvelope unlock call pick ∧ Unclaimed keys (reqs t) call s

/-- Whatever the others do, the program goes on from the notes in the order of the stages. -/
def UploadKept (notes : List UploadNoteKind) (program : UploadProgram UploadResult) : Prop :=
  ∀ s : UploadSystem, s.own t = notes →
    Keeps (UploadSystem.perform unlock) (SameStage t)
      (UploadAllowed keys unlock reqs t) (UploadNeeds keys unlock reqs t) t
      (UploadEnds keys unlock reqs t) program s

end Stages

section Rules

variable {keys : HexHMAC} {unlock : String → List UInt8 → Option ReferencePayload}
  {reqs : ℕ → UploadRequest} {t : ℕ} {notes : List UploadNoteKind}

theorem SameStage.refl (t : ℕ) (s : UploadSystem) : SameStage t s s :=
  rfl

theorem SameStage.trans {first second third : UploadSystem} (past : SameStage t first second)
    (after : SameStage t second third) : SameStage t first third :=
  Eq.trans after past

theorem own_noted (s : UploadSystem) (kinds : List UploadNoteKind) :
    (s.noted t kinds).own t = s.own t ++ kinds.filter UploadNoteKind.Staged := by
  simp only [UploadSystem.own, UploadSystem.noted, List.filter_append, List.map_append]
  congr 1
  rw [List.filter_map, List.map_map]
  have same : (fun note : UploadNote => decide (note.thread = t) && note.kind.Staged) ∘
      (fun kind => UploadNote.mk t kind) = UploadNoteKind.Staged := by
    funext kind
    simp
  rw [same]
  exact List.map_id _

theorem keeps_error (err : UploadError) :
    UploadKept keys unlock reqs t notes (.done (.error err)) := by
  intro _ _ _ _ _ never
  cases never

theorem keeps_ok {file : File} (gives : AnswersFor keys unlock (reqs t) notes file) :
    UploadKept keys unlock reqs t notes (.done (.ok file)) := by
  intro _ own later same _ isFile
  cases isFile
  have ownLater : later.own t = notes := Eq.trans same own
  rw [ownLater]
  exact gives

variable {call : UploadCall}

theorem keeps_call {next : call.Answer → UploadProgram UploadResult}
    (needed : ∀ s : UploadSystem, s.own t = notes → UploadNeeds keys unlock reqs t call s)
    (goes : ∀ pick (s : UploadSystem), s.own t = notes →
      HonestEnvelope unlock call pick → UploadKept keys unlock reqs t
          ((UploadSystem.perform unlock t call pick s).2.own t)
          (next (UploadSystem.perform unlock t call pick s).1)) :
    UploadKept keys unlock reqs t notes (ask call >>= next) := by
  intro _ own later same
  have ownLater : later.own t = notes := Eq.trans same own
  refine ⟨needed later ownLater, ?_⟩
  intro pick allowed
  exact goes pick later ownLater allowed.1 _ rfl

/-- The calls at every stage, after which an upload is as far as before. -/
def UploadCall.Quiet : UploadCall → Prop
  | .now | .loadChannel _ | .advance _ | .openBody | .awaitUpload _ | .encrypt _ _ | .retrieve _
  | .recordVerificationFailure _ | .decrypt _ _ => True
  | _ => False

def Possible (unlock : String → List UInt8 → Option ReferencePayload) :
    (call : UploadCall) → call.Answer → Prop
  | .encrypt repositoryKey payload, reply =>
    ∀ envelope, reply = .ok envelope → unlock repositoryKey envelope = some payload
  | .decrypt repositoryKey envelope, reply =>
    ∀ payload, reply = .ok payload → unlock repositoryKey envelope = some payload
  | _, _ => True

theorem read_ok {Result : Type} {pick : UploadChoice} {result : Outcome Result} {val : Result}
    (done : UploadSystem.read pick result = .ok val) : result = .ok val := by
  simp only [UploadSystem.read, guard_eq_ok] at done
  exact done.2.2

theorem perform_possible {pick : UploadChoice} (s : UploadSystem)
    (honest : HonestEnvelope unlock call pick) :
    Possible unlock call (UploadSystem.perform unlock t call pick s).1 := by
  cases call with
  | encrypt _ _ =>
    intro _ done
    cases read_ok done
    exact honest
  | decrypt _ _ =>
    intro _ done
    have opened := read_ok done
    split at opened
    · cases opened
    next found =>
      cases opened
      exact found
  | now | findByUploadIntent _ | generateHandle | create _ _ | loadChannel _ | advance _ | openBody
  | sendUpload _ | awaitUpload _ | retrieve _ | recordVerificationFailure _ | activate _ => trivial

theorem upload_transact_cases {Result : Type} (s : UploadSystem) (t : ℕ)
    (pick : UploadChoice) (result : Outcome (Result × Database)) :
    (∃ err kinds, (kinds = [] ∨ kinds = [.refused]) ∧
        s.transact t pick result = (.error err, s.noted t kinds)) ∨
      ∃ reply after, result = .ok (reply, after) ∧
        (s.transact t pick result = (.ok reply, { s with db := after }) ∨
          s.transact t pick result = (.error .database, { s with db := after })) := by
  have silent : s = s.noted t [] := by
    simp [UploadSystem.noted]
  by_cases cancelled : pick.cancelled
  · exact .inl ⟨contextCanceled, [], .inl rfl, by simp [UploadSystem.transact, cancelled, ← silent]⟩
  cases result with
  | error err =>
    left
    cases fault : pick.fault with
    | refused =>
      exact ⟨.database, [.refused], .inr rfl, by simp [UploadSystem.transact, cancelled, fault]⟩
    | none =>
      by_cases refused : err = .database
      · exact ⟨.database, [.refused], .inr rfl, by simp [UploadSystem.transact, cancelled,
          fault, refused]⟩
      · exact ⟨err, [], .inl rfl, by simp [UploadSystem.transact, cancelled, fault, ← silent]⟩
    | unanswered =>
      by_cases refused : err = .database
      · exact ⟨.database, [.refused], .inr rfl, by simp [UploadSystem.transact, cancelled,
          fault, refused]⟩
      · exact ⟨err, [], .inl rfl, by simp [UploadSystem.transact, cancelled, fault, ← silent]⟩
  | ok pair =>
    cases fault : pick.fault with
    | none =>
      exact .inr ⟨pair.1, pair.2, rfl, .inl (by simp [UploadSystem.transact, cancelled, fault])⟩
    | refused =>
      exact .inl ⟨.database, [.refused], .inr rfl, by simp [UploadSystem.transact,
        cancelled, fault]⟩
    | unanswered =>
      exact .inr ⟨pair.1, pair.2, rfl, .inr (by simp [UploadSystem.transact, cancelled, fault])⟩

theorem own_transact {Result : Type} (s : UploadSystem) (pick : UploadChoice)
    (result : Outcome (Result × Database)) :
    (s.transact t pick result).2.own t = s.own t := by
  rcases upload_transact_cases s t pick result with
    ⟨err, kinds, rfl | rfl, failed⟩ | ⟨reply, after, _, told | told⟩
  · rw [failed, own_noted]
    simp
  · rw [failed, own_noted]
    simp [UploadNoteKind.Staged]
  · rw [told]
    rfl
  · rw [told]
    rfl

theorem own_quiet (quiet : call.Quiet) (pick : UploadChoice) (s : UploadSystem) :
    (UploadSystem.perform unlock t call pick s).2.own t = s.own t := by
  cases call with
  | awaitUpload _ =>
    simp only [UploadSystem.perform]
    split
    · rfl
    · split
      · rfl
      · rw [own_noted]
        simp [UploadNoteKind.Staged]
  | advance _ | recordVerificationFailure _ => exact own_transact _ _ _
  | activate _ => cases quiet
  | now | loadChannel _ | openBody | encrypt _ _ | retrieve _ | decrypt _ _ => rfl
  | findByUploadIntent _ | generateHandle | create _ _ | sendUpload _ => cases quiet

theorem uploadNeeds_quiet (quiet : call.Quiet) (s : UploadSystem) :
    UploadNeeds keys unlock reqs t call s := by
  cases call <;> trivial

theorem keeps_quiet {next : call.Answer → UploadProgram UploadResult} (quiet : call.Quiet)
    (goes : ∀ reply, Possible unlock call reply →
      UploadKept keys unlock reqs t notes (next reply)) :
    UploadKept keys unlock reqs t notes (ask call >>= next) := by
  apply keeps_call
  · intro s _
    exact uploadNeeds_quiet quiet s
  · intro _ s own honest
    rw [own_quiet quiet, own]
    exact goes _ (perform_possible s honest)

theorem keeps_activate {activation : ManagedProviderFileLifecycleActivation}
    {next : Outcome Lifecycle → UploadProgram UploadResult}
    (needed : ∀ s : UploadSystem, s.own t = notes →
      UploadNeeds keys unlock reqs t (.activate activation) s)
    (goes : ∀ reply, UploadKept keys unlock reqs t notes (next reply)) :
    UploadKept keys unlock reqs t notes (ask (.activate activation) >>= next) := by
  apply keeps_call needed
  intro pick s own _
  have sameOwn : (UploadSystem.perform unlock t (.activate activation) pick
      s).2.own t = notes := (own_transact _ _ _).trans own
  rw [sameOwn]
  exact goes _

theorem keeps_event {env : ManagedConsensusRuntime} {lifeId : ℤ}
    {eventFromState : Option LifecycleState} {ident : ManagedProviderFileEventIdentity}
    {next : Outcome ManagedProviderFileLifecycleEvent → UploadProgram UploadResult}
    (fails : ∀ err, ∃ out, next (.error err) = .done (.error out))
    (goes : ∀ event, UploadKept keys unlock reqs t notes (next (.ok event))) :
    UploadKept keys unlock reqs t notes
      (providerFileEvent keys env lifeId eventFromState ident >>= next) := by
  have each : ∀ event, UploadKept keys unlock reqs t notes (next event) := by
    intro event
    cases event with
    | error err =>
      rcases fails err with ⟨_, ends⟩
      rw [ends]
      exact keeps_error _
    | ok event => exact goes event
  simp only [providerFileEvent, providerFileEventWithAttempt]
  split
  · exact each _
  · exact each _

end Rules

/-! ## The parts of the program -/

section Programs

variable {keys : HexHMAC} {unlock : String → List UInt8 → Option ReferencePayload}
  {reqs : ℕ → UploadRequest} {t : ℕ} {notes : List UploadNoteKind}

theorem decrypt_kept {repositoryKey : String} {encodedEnvelope : List UInt8}
    {next : Outcome ReferencePayload → UploadProgram UploadResult}
    (goes : ∀ result,
      (∀ payload, result = .ok payload → unlock repositoryKey encodedEnvelope = some payload) →
        UploadKept keys unlock reqs t notes (next result)) :
    UploadKept keys unlock reqs t notes
      (decryptProviderFileReference repositoryKey encodedEnvelope >>= next) := by
  simp only [decryptProviderFileReference]
  split
  · exact goes _ (by simp)
  · rw [bind_assoc]
    apply keeps_quiet (by trivial)
    intro reply possible
    cases reply with
    | error _ => exact goes _ (by simp)
    | ok payload =>
      simp only
      split
      · exact goes _ (by simp)
      · apply goes
        intro _ isPayload
        cases isPayload
        exact possible payload rfl

variable {bindings : List UploadBinding} {handle : String} {life : Lifecycle}
  (family : (reqs t).owner.endpointFamily = managedProviderFileEndpointFamily)

include family in
theorem replay_kept {row : Lifecycle}
    (found : .found row ∈ notes) (bound : (reqs t).bindings keys = .ok bindings) :
    UploadKept keys unlock reqs t notes (replayUpload keys (reqs t) row bindings) := by
  simp only [replayUpload]
  split
  · exact keeps_error _
  next isMatch =>
    split
    · exact keeps_error _
    next same =>
      split
      · exact keeps_error _
      next live =>
        split
        · exact keeps_error _
        next expiresAt _ =>
          apply keeps_quiet (by trivial)
          intro now _
          split
          · exact keeps_error _
          · split
            · exact keeps_error _
            next keyDone =>
              apply decrypt_kept
              intro result opens
              cases result with
              | error _ => exact keeps_error _
              | ok payload =>
                simp only
                split
                · exact keeps_error _
                next handleKeys _ =>
                  simp only [replayedFile]
                  split
                  · exact keeps_error _
                  · split
                    · exact keeps_error _
                    · apply keeps_ok
                      refine ⟨family, .inr ⟨row, found, not_not.mp live, ?_, payload, ?_, rfl⟩⟩
                      · rw [bindings_eq bound] at isMatch
                        have inBindings := List.mem_of_find?_eq_some isMatch
                        rcases List.mem_map.mp inBindings with
                          ⟨ver, inVersions, rfl⟩
                        refine ⟨ver, inVersions, ?_, ?_⟩
                        · have keyed := List.find?_some isMatch
                          exact keyed
                        · simpa using same
                      · simp only [repositoryKeyOf, bind_eq_ok] at keyDone
                        rcases keyDone with ⟨_, _, last⟩
                        cases last
                        exact opens payload rfl

theorem encrypt_kept {env : ManagedConsensusRuntime} {key : ManagedProviderFileUploadIntentKey}
    {payload : ReferencePayload}
    {next : Outcome (List UInt8 × String) → UploadProgram UploadResult} (goes : ∀ result,
      (∀ sealed, result = .ok sealed → payload.Valid ∧
        unlock key.repositoryKey sealed.1 = some payload) →
        UploadKept keys unlock reqs t notes (next result)) :
    UploadKept keys unlock reqs t notes
      (encryptProviderFileReference env key payload >>= next) := by
  simp only [encryptProviderFileReference]
  split
  · exact goes _ (by simp)
  · split
    · exact goes _ (by simp)
    next valid =>
      rw [bind_assoc]
      apply keeps_quiet (by trivial)
      intro reply possible
      apply goes
      intro _ isSealed
      cases reply with
      | error _ => cases isSealed
      | ok envelope =>
        cases isSealed
        exact ⟨not_not.mp valid, possible envelope rfl⟩

theorem providerReference_kept {req : UploadRequest}
    {binding : UploadBinding} {mdata : ProviderFileMetadata}
    {next : Outcome (String × List UInt8 × String) → UploadProgram UploadResult}
    (goes : ∀ result, (∀ sealed, result = .ok sealed → ∃ payload : ReferencePayload,
        payload.Valid ∧ payload.gatewayHandle = handle ∧
          unlock binding.intentKey.repositoryKey sealed.2.1 = some payload) →
        UploadKept keys unlock reqs t notes (next result)) :
    UploadKept keys unlock reqs t notes
      (providerReference keys req binding handle mdata >>= next) := by
  simp only [providerReference]
  split
  · exact goes _ (by simp)
  · rw [bind_assoc]
    apply encrypt_kept
    intro result seals
    apply goes
    intro _ isSealed
    cases result with
    | error _ => cases isSealed
    | ok envelope =>
      cases isSealed
      rcases seals envelope rfl with ⟨valid, opens⟩
      exact ⟨_, valid, rfl, opens⟩

theorem markUploadUnknown_kept {env : ManagedConsensusRuntime}
    {requestFingerprint reason : String} {err : UploadError} :
    UploadKept keys unlock reqs t notes
      (markUploadUnknown keys env life requestFingerprint reason >>= fun _ =>
        .done (.error err)) := by
  simp only [markUploadUnknown]
  rw [bind_assoc]
  apply keeps_quiet (by trivial)
  intro now _
  rw [bind_assoc]
  apply keeps_event (fun _ => ⟨_, rfl⟩)
  intro _
  simp only
  rw [bind_assoc]
  apply keeps_quiet (by trivial)
  intro reply _
  exact keeps_error _

theorem recordEncrypted_kept {req : UploadRequest} {binding : UploadBinding}
    {providerLookupHMAC reason : String} {mdata : ProviderFileMetadata}
    {encryptedPayload : List UInt8} :
    UploadKept keys unlock reqs t notes
      (recordEncryptedVerificationFailure keys req life binding handle mdata
        providerLookupHMAC encryptedPayload reason) := by
  simp only [recordEncryptedVerificationFailure]
  split
  · exact keeps_error _
  · apply keeps_quiet (by trivial)
    intro now _
    apply keeps_event (fun _ => ⟨_, rfl⟩)
    intro _
    simp only
    apply keeps_quiet (by trivial)
    intro reply _
    exact keeps_error _

section Own

variable {row life : Lifecycle} {handle : String}
  {rest : List UploadNoteKind} {binding : UploadBinding}

/-- The row is the one of the binding. -/
structure RowOf (binding : UploadBinding)
    (row life : Lifecycle) : Prop where
  id : life.id = row.id
  repositoryKey : row.repositoryKey = binding.intentKey.repositoryKey

include family in
theorem finishUpload_kept {mdata : ProviderFileMetadata} (isRow : RowOf binding row life) :
    UploadKept keys unlock reqs t (.generated handle :: .created row :: rest)
      (finishUpload keys (reqs t) life binding handle mdata) := by
  simp only [finishUpload]
  split
  · simp only [recordVerificationFailure]
    apply providerReference_kept
    intro result _
    cases result with
    | error _ => exact keeps_error _
    | ok _ => exact recordEncrypted_kept
  · apply providerReference_kept
    intro result seals
    cases result with
    | error _ => exact keeps_error _
    | ok sealed =>
      rcases seals sealed rfl with ⟨payload, valid, sameHandle, opens⟩
      simp only
      apply keeps_quiet (by trivial)
      intro retrieved _
      cases retrieved with
      | none => exact recordEncrypted_kept
      | some _ =>
        simp only
        split
        · exact recordEncrypted_kept
        · simp only [activateUpload]
          split
          · exact keeps_error _
          · apply keeps_quiet (by trivial)
            intro now _
            apply keeps_event (fun _ => ⟨_, rfl⟩)
            intro _
            simp only
            apply keeps_activate
            · intro _ own
              refine ⟨handle, row, rest, own, isRow.id, payload, ?_, sameHandle, valid⟩
              rw [isRow.repositoryKey]
              exact opens
            · intro reply
              cases reply with
              | error _ => exact keeps_error _
              | ok _ =>
                simp only
                split
                · exact keeps_error _
                · exact keeps_ok ⟨family, .inl ⟨row, rest, rfl⟩⟩

include family in
theorem sendBody_kept (isRow : RowOf binding row life) :
    UploadKept keys unlock reqs t [.generated handle, .created row]
      (sendBody keys (reqs t) life binding handle) := by
  simp only [sendBody]
  apply keeps_quiet (by trivial)
  intro opens _
  split
  · simp only [clientUpload]
    split
    · exact markUploadUnknown_kept
    · rw [bind_assoc]
      apply keeps_call
      · intro _ own
        exact ⟨handle, row, own⟩
      · intro pick s own _
        have sent : (UploadSystem.perform unlock t (.sendUpload
              { filename := (reqs t).body.filename
                sizeBytes := (reqs t).body.sizeBytes
                expiresAfterSeconds :=
                  (reqs t).settings.providerFileExpirationSeconds })
            pick s).2.own t = [.generated handle, .created row, .sent] := by
          simp only [UploadSystem.perform]
          rw [own_noted, own]
          rfl
        rw [sent]
        apply keeps_quiet (by trivial)
        intro mdata _
        cases mdata with
        | none => exact markUploadUnknown_kept
        | some _ => exact finishUpload_kept family isRow
  · exact markUploadUnknown_kept

theorem failChangedTarget_kept {req : UploadRequest} {requestFingerprint detail : String} :
    UploadKept keys unlock reqs t notes
      (failChangedTarget keys req life requestFingerprint detail) := by
  simp only [failChangedTarget]
  apply keeps_quiet (by trivial)
  intro now _
  apply keeps_event (fun _ => ⟨_, rfl⟩)
  intro _
  simp only
  apply keeps_quiet (by trivial)
  intro reply _
  exact keeps_error _

include family in
theorem dispatchUpload_kept (isRow : RowOf binding row row) :
    UploadKept keys unlock reqs t [.generated handle, .created row]
      (dispatchUpload keys (reqs t) row binding handle) := by
  have loaded : ∀ {next : Option Target → UploadProgram UploadResult},
      (∀ goal, UploadKept keys unlock reqs t [.generated handle, .created row] (next goal)) →
      UploadKept keys unlock reqs t [.generated handle, .created row]
        (loadTarget (reqs t).settings >>= next) := by
    intro _ goes
    simp only [loadTarget]
    split
    · exact goes none
    · exact keeps_quiet (by trivial) fun goal _ => goes goal
  simp only [dispatchUpload]
  apply loaded
  intro goal
  cases goal with
  | none => exact failChangedTarget_kept
  | some _ =>
    simp only
    split
    · exact failChangedTarget_kept
    · apply keeps_quiet (by trivial)
      intro now _
      apply keeps_event (fun _ => ⟨_, rfl⟩)
      intro _
      simp only
      apply keeps_quiet (by trivial)
      intro reply _
      cases reply with
      | error _ => exact keeps_error _
      | ok _ => exact sendBody_kept family ⟨rfl, isRow.repositoryKey⟩

end Own

include family in
theorem create_kept {event : ManagedProviderFileLifecycleEvent}
    (bound : (reqs t).bindings keys = .ok bindings) (named : namesWithin 256 handle)
    (isIntent : life = (reqs t).intentRow keys handle)
    {next : Outcome (Lifecycle × Bool) → UploadProgram UploadResult}
    (fails : ∀ err, ∃ reported, next (.error err) = .done (.error reported))
    (replays : ∀ row, next (.ok (row, false)) = replayUpload keys (reqs t) row bindings)
    (dispatches : ∀ row, next (.ok (row, true)) = dispatchUpload keys (reqs t) row
      ((reqs t).bindingUnder keys (reqs t).runtime.activeVersion) handle) :
    UploadKept keys unlock reqs t [.generated handle] (ask (.create life event) >>= next) := by
  apply keeps_call
  · intro _ own
    exact ⟨family, handle, own, named, by rw [isIntent], by rw [isIntent]; rfl⟩
  · intro pick s own _
    simp only [UploadSystem.perform]
    split
    · rcases fails contextCanceled with ⟨reported, isDone⟩
      rw [isDone]
      exact keeps_error _
    · simp only
      rw [own_noted]
      have ownLater : ({ s with
          db := (createUnder pick.fault s.db life event).2.2 } :
            UploadSystem).own t = [.generated handle] := own
      rw [ownLater]
      cases reply : (createUnder pick.fault s.db life event).1 with
      | error err =>
        rcases fails err with ⟨_, isDone⟩
        rw [isDone]
        exact keeps_error _
      | ok pair =>
        rcases pair with ⟨row, _ | _⟩
        · rw [replays]
          apply replay_kept family ?_ bound
          simp [creationNotes, UploadNoteKind.Staged]
        · rw [dispatches]
          rcases createUnder_cases pick.fault s.db life event with
            ⟨_, notCreated⟩ | ⟨created, after, stored, creates, _, same⟩
          · exact absurd reply (notCreated row)
          · have isRow := same row reply
            subst isRow
            have storedRow : (createUnder pick.fault s.db life event).2.1 =
                some row := congrArg Prod.fst stored
            rw [storedRow]
            have notes : [UploadNoteKind.generated handle] ++
                (creationNotes (.ok (row, true)) (some row)).filter UploadNoteKind.Staged =
                  [.generated handle, .created row] := rfl
            rw [notes]
            apply dispatchUpload_kept family
            refine ⟨rfl, ?_⟩
            have frozen := creates.frozen
            simp only [Lifecycle.frozen, Prod.mk.injEq] at frozen
            simp only [Lifecycle.repositoryKey, frozen.1, frozen.2.2.1, isIntent]
            rfl

include family in
theorem createUpload_kept (bound : (reqs t).bindings keys = .ok bindings) :
    UploadKept keys unlock reqs t [] (createUpload keys (reqs t)
        ((reqs t).bindingUnder keys (reqs t).runtime.activeVersion) bindings) := by
  simp only [createUpload]
  apply keeps_call
  · intro _ own
    exact own
  · intro pick s own _
    simp only [UploadSystem.perform]
    split
    · rw [own_noted, own]
      simp only
      split
      · exact keeps_error _
      next derived =>
        apply keeps_quiet (by trivial)
        intro now _
        apply keeps_event (fun _ => ⟨_, rfl⟩)
        intro _
        rcases handleKey_ok derived with ⟨named, digest⟩
        apply create_kept family bound named
        · rw [digest]
          rfl
        · intro _
          exact ⟨.lifecycleConflict, rfl⟩
        · intro _
          rfl
        · intro _
          rfl
    · exact keeps_error _

theorem upload_kept : UploadKept keys unlock reqs t [] (upload keys (reqs t)) := by
  simp only [upload]
  split
  · exact keeps_error _
  next family =>
    split
    · exact keeps_error _
    · exact keeps_error _
    next activeBinding rest bound =>
      have live : activeBinding = (reqs t).bindingUnder keys (reqs t).runtime.activeVersion := by
        have same := bindings_eq bound
        rw [ManagedConsensusRuntime.versions, List.map_cons] at same
        exact (List.cons.inj same).1
      apply keeps_call
      · intro s _
        trivial
      intro pick s own _
      simp only [UploadSystem.perform]
      rw [own_noted, own]
      cases reply : UploadSystem.read pick (findManagedProviderFileLifecycleByUploadIntent s.db
            ((activeBinding :: rest).map lookupCandidate)) with
      | ok _ =>
        apply replay_kept (not_not.mp family) ?_ bound
        simp [lookupNotes, UploadNoteKind.Staged]
      | error err =>
        have quietly : [] ++ (lookupNotes (.error err)).filter UploadNoteKind.Staged =
            ([] : List UploadNoteKind) := rfl
        rw [quietly]
        cases err with
        | recordNotFound =>
          rw [live] at bound ⊢
          exact createUpload_kept (not_not.mp family) bound
        | lifecycleConflict | lifecycleStateConflict | lifecycleLookupConflict | deletionLeaseLost
        | message _ | database => exact keeps_error _

end Programs

end NewApi.ProviderFile
