import NewApi.ProviderFile.LifecycleLog

/-!
# Runs of the lifecycle store

Any interleaving of the transactions, at any times, with arbitrary arguments.
-/

namespace NewApi.ProviderFile

open Relational Transition Fallible Table
open NewApi.ProviderFile renaming ManagedProviderFileLifecycle → Lifecycle,
  ManagedProviderFileLifecycleEvent → LifecycleEvent
open NewApi.ProviderFile renaming createManagedProviderFileLifecycleIntent → createIntent,
  createManagedProviderFileLifecycleTransaction → createTransaction

section Creation

variable {db after : Database} {life row : Lifecycle} {event : LifecycleEvent} {created : Bool}

theorem sound_created (valid : life.Valid) (intent : life.state = .intent)
    (eventValid : event.Valid) (id : ℤ) :
    ((setEventHead event).apply (life.withId id)).Sound where
  valid := by
    refine ⟨?_, ?_, valid.2.2⟩
    · have same : ((setEventHead event).apply (life.withId id)).frozen = life.frozen :=
        rfl
      exact valid.1.change same valid.1.version_pos valid.1.bytes_nonneg valid.1.reason_fits
    · have pos : 0 < ((setEventHead event).apply (life.withId id)).lastEventSequence :=
        eventValid.1.2.1
      constructor
      · intro _
        omega
      · intro _
        exact ⟨le_of_lt pos, eventValid.1.2.2.1⟩
  undeleted := by
    intro dispatched
    have state : life.state = .uploadDispatched := dispatched
    rw [intent] at state
    cases state

theorem Database.Sound.eventsOf_nextKey (sound : db.Sound) :
    db.eventsOf db.lifecycles.nextKey = [] := by
  apply List.filter_eq_nil_iff.mpr
  intro event inEvents owner
  rcases sound.owned event inEvents with ⟨row, isRow, _⟩
  have below := key_lt_nextKey isRow
  have key : Keyed.key row = row.id := rfl
  simp only [decide_eq_true_eq] at owner
  omega

theorem createTransaction_ok (done : createTransaction db life event = .ok (row, created, after)) :
    created = false ∧ after = db ∧ findIntentOrHandle db life = some row ∨
      created = true ∧ findIntentOrHandle db life = none ∧
        let numbered := { event with lifecycleId := db.lifecycles.nextKey }
        row = (setEventHead numbered).apply (life.withId db.lifecycles.nextKey) ∧
          numbered.Valid ∧ (db.eventsOf db.lifecycles.nextKey = [] →
            event.sequence = 1 ∧ event.previousEventHMAC = "") ∧
          (∀ stored, stored ∈ after.lifecycles.rows ↔ stored = row ∨ stored ∈ db.lifecycles.rows) ∧
          after.outboxes = db.outboxes ∧ after.events = db.events ++ [db.stored numbered] := by
  simp only [createTransaction, guard_eq_ok] at done
  rcases done with ⟨_, rest⟩
  split at rest
  next isExisting =>
    simp only [guard_eq_ok, Except.ok.injEq, Prod.mk.injEq] at rest
    rcases rest with ⟨_, rfl, rfl, rfl⟩
    exact .inl ⟨rfl, rfl, isExisting⟩
  next missing =>
    simp only [guard_eq_ok] at rest
    rcases bind_eq_ok.mp rest.2 with ⟨_, append, last⟩
    rcases append_ok append with ⟨rfl, valid, first⟩
    simp only [guard_eq_ok, Except.ok.injEq, Prod.mk.injEq] at last
    rcases last with ⟨hits, rfl, rfl, rfl⟩
    rcases updateWhere_affected (not_not.mp hits) with ⟨_, _, _, moved⟩
    refine .inr ⟨rfl, missing, rfl, valid, first, ?_, rfl, rfl⟩
    have inserted : ∀ stored, stored ∈ (db.lifecycles.insert life.withId life.key_withId).rows ↔
        stored ∈ db.lifecycles.rows ∨ stored = life.withId db.lifecycles.nextKey :=
      fun _ => mem_insert
    intro stored
    rw [moved]
    constructor
    · intro isRow
      rcases mem_modify.mp isRow with ⟨old, prior, _, rfl⟩ | ⟨kept, apart⟩
      · rcases (inserted old).mp prior with past | rfl
        · have below := key_lt_nextKey past
          omega
        · exact .inl rfl
      · rcases (inserted stored).mp kept with past | rfl
        · exact .inr past
        · exact absurd rfl apart
    · rintro (rfl | past)
      · exact mem_modify.mpr (.inl ⟨_, (inserted _).mpr (.inr rfl), rfl, rfl⟩)
      · have below := key_lt_nextKey past
        exact mem_modify.mpr (.inr ⟨(inserted stored).mpr (.inl past), ne_of_lt below⟩)

theorem createTransaction_unchanged (done : createTransaction db life event =
      .ok (row, false, after)) : after = db := by
  rcases createTransaction_ok done with ⟨_, same, _⟩ | ⟨never, _⟩
  · exact same
  · cases never

theorem Database.Reached.create {base : Database} (run : base.Reached db) (valid : life.Valid)
    (intent : life.state = .intent) (typed : event.eventType = .intentCreated)
    (done : createTransaction db life event = .ok (row, created, after)) : base.Reached after := by
  rcases createTransaction_ok done with
    ⟨_, rfl, _⟩ | ⟨_, _, rfl, eventValid, first, rows, outboxes, events⟩
  · exact run
  · have noEvents := run.eventsOf_nextKey
    have begins := first noEvents
    have move := eventValid.2
    simp only [LifecycleEvent.ValidTransition, typed] at move
    have eventsOf : ∀ lifeId, after.eventsOf lifeId =
        (db.withEvent { event with lifecycleId := db.lifecycles.nextKey }).eventsOf lifeId := by
      intro _
      rw [Database.eventsOf, events]
      rfl
    refine ⟨⟨?_, ?_, by rw [outboxes]; exact run.outboxes, ?_⟩, ?_⟩
    · intro stored isRow
      rcases (rows stored).mp isRow with rfl | past
      · exact sound_created valid intent eventValid _
      · exact run.lifecycles stored past
    · intro stored isRow
      rw [eventsOf, eventsOf_withEvent]
      rcases (rows stored).mp isRow with rfl | past
      · have follows : Journal.Follows blankHead
            (db.stored { event with lifecycleId := db.lifecycles.nextKey }) :=
          ⟨begins.1, begins.2, move.2.1⟩
        have replayed := Journal.replay_snoc
          (show Journal.replay blankHead [] = some blankHead from rfl) follows
        have ofNew : db.eventsOf ((setEventHead { event with
            lifecycleId := db.lifecycles.nextKey }).apply
              (life.withId db.lifecycles.nextKey)).id = [] := noEvents
        rw [ofNew, List.nil_append]
        refine (congrArg _ (if_pos rfl)).trans (replayed.trans ?_)
        have goal : event.toState = life.state := move.2.2.1.trans intent.symm
        simp only [Journal.leave, Lifecycle.head, Option.some.injEq]
        congr 1
        exact congrArg some goal
      · have below : stored.id < db.lifecycles.nextKey := key_lt_nextKey past
        rw [if_neg (ne_of_gt below), List.append_nil]
        exact run.explained stored past
    · intro owned inEvents
      rw [events] at inEvents
      rcases List.mem_append.mp inEvents with old | new
      · rcases run.owned owned old with ⟨stored, isRow, same⟩
        exact ⟨stored, (rows stored).mpr (.inr isRow), same⟩
      · rw [List.mem_singleton.mp new]
        exact ⟨_, (rows _).mpr (.inl rfl), rfl⟩
    · refine run.grown.trans ⟨?_, fun stored isRow => ⟨stored, by rwa [outboxes], rfl, le_refl _⟩,
        by rw [events]; exact List.prefix_append _ _⟩
      intro stored isRow
      exact ⟨stored, (rows stored).mpr (.inr isRow), rfl, le_refl _, le_refl _, fun _ => rfl⟩

end Creation

/-- The transactions on lifecycles. -/
inductive LifecycleAction where
  | create (life : Lifecycle) (event : LifecycleEvent)
  | advance (move : ManagedProviderFileUploadTransition)
  | recordVerificationFailure (err : ManagedProviderFileVerificationFailure)
  | activate (activation : ManagedProviderFileLifecycleActivation)
  | claim (claim : ManagedProviderFileDeletionClaim)
  | markDispatched (dispatch : ManagedProviderFileDeletionDispatch)
  | retry (retry : ManagedProviderFileDeletionRetry)
  | complete (terminal : ManagedProviderFileDeletionTerminal)
  | fail (terminal : ManagedProviderFileDeletionTerminal)
  | quarantine (boxId expected : ℤ)

/-- A call of a transaction at its clock readings; the database may refuse it. -/
structure LifecycleCall where
  action : LifecycleAction
  (first now : ℤ)
  refused : Bool

namespace LifecycleCall

def commit {Result : Type} (db : Database) (changes : Result → Bool)
    (result : Outcome (Result × Database)) : Outcome Bool × Database :=
  match result with
  | .ok (reply, after) => (.ok (changes reply), after)
  | .error err => (.error err, db)

def commitUnit (db : Database) (result : Outcome Database) : Outcome Bool × Database :=
  match result with
  | .ok after => (.ok true, after)
  | .error err => (.error err, db)

/-- The answer of a call, or whether it changed anything, and the database after it. -/
def run (call : LifecycleCall) (db : Database) : Outcome Bool × Database :=
  match call.action with
  | .create life event =>
    let created := createIntent db life event call.refused
    (created.1.map Prod.snd, created.2)
  | action =>
    if call.refused then (.error .database, db)
    else
      match action with
      | .create _ _ => (.error .database, db)
      | .advance move =>
        commitUnit db (advanceManagedProviderFileUploadState db move call.now)
      | .recordVerificationFailure err =>
        commitUnit db (recordManagedProviderFileVerificationFailure db err call.first call.now)
      | .activate activation =>
        commit db id (activateManagedProviderFileLifecycle db activation call.first call.now)
      | .claim claim =>
        commit db Option.isSome (claimManagedProviderFileDeletion db claim call.now)
      | .markDispatched dispatch =>
        commit db (fun _ => true) (markManagedProviderFileDeletionDispatched db dispatch call.now)
      | .retry retry =>
        commitUnit db (retryManagedProviderFileDeletion db retry call.first call.now)
      | .complete terminal =>
        commitUnit db (completeManagedProviderFileDeletion db terminal call.now)
      | .fail terminal => commitUnit db (failManagedProviderFileDeletion db terminal call.now)
      | .quarantine boxId expected =>
        commit db id (quarantineOrphanedManagedProviderFileDeletion db boxId expected call.now)

end LifecycleCall

namespace Database

/-- The empty tables. -/
def start (channelIds : List ℤ) : Database where
  channelIds := channelIds
  lifecycles := empty
  outboxes := empty
  events := []

def next (db : Database) (call : LifecycleCall) : Database :=
  (call.run db).2

/-- The identifiers and times of a call are positive. -/
def Allowed (_ : Database) (call : LifecycleCall) : Prop :=
  0 < call.first ∧ 0 < call.now
deriving Decidable

/-- A creation carries a creation event, an upload transition the event of its next state, a
verification failure an expiry other than the zero time, and a completion an error code that
fits its column. -/
def Careful (db : Database) (call : LifecycleCall) : Prop :=
  db.Allowed call ∧
    match call.action with
    | .create _ event => event.eventType = .intentCreated
    | .advance move => move.event.eventType = uploadEventType move.nextState
    | .recordVerificationFailure err => truncate err.expiresAt ≠ 0
    | .complete terminal => terminal.errorCode.utf8ByteSize ≤ 64
    | _ => True

instance (db : Database) : (call : LifecycleCall) → Decidable (db.Careful call)
  | ⟨.create _ event, _, _, _⟩ =>
    inferInstanceAs (Decidable (_ ∧ event.eventType = .intentCreated))
  | ⟨.advance move, _, _, _⟩ =>
    inferInstanceAs (Decidable (_ ∧ move.event.eventType = uploadEventType move.nextState))
  | ⟨.recordVerificationFailure err, _, _, _⟩ =>
    inferInstanceAs (Decidable (_ ∧ truncate err.expiresAt ≠ 0))
  | ⟨.complete terminal, _, _, _⟩ =>
    inferInstanceAs (Decidable (_ ∧ terminal.errorCode.utf8ByteSize ≤ 64))
  | ⟨.activate _, _, _, _⟩ => inferInstanceAs (Decidable (_ ∧ True))
  | ⟨.claim _, _, _, _⟩ => inferInstanceAs (Decidable (_ ∧ True))
  | ⟨.markDispatched _, _, _, _⟩ => inferInstanceAs (Decidable (_ ∧ True))
  | ⟨.retry _, _, _, _⟩ => inferInstanceAs (Decidable (_ ∧ True))
  | ⟨.fail _, _, _, _⟩ => inferInstanceAs (Decidable (_ ∧ True))
  | ⟨.quarantine _ _, _, _, _⟩ => inferInstanceAs (Decidable (_ ∧ True))

end Database

theorem commitUnit_cases (db : Database) (result : Outcome Database) :
    (∃ after, result = .ok after ∧ LifecycleCall.commitUnit db result = (.ok true, after)) ∨
      ∃ err, LifecycleCall.commitUnit db result = (.error err, db) := by
  cases result with
  | ok after => exact .inl ⟨after, rfl, rfl⟩
  | error err => exact .inr ⟨err, rfl⟩

theorem commit_cases {Result : Type} (db : Database) (changes : Result → Bool)
    (result : Outcome (Result × Database)) :
    (∃ reply after, result = .ok (reply, after) ∧
        LifecycleCall.commit db changes result = (.ok (changes reply), after)) ∨
      ∃ err, LifecycleCall.commit db changes result = (.error err, db) := by
  cases result with
  | ok pair => exact .inl ⟨pair.1, pair.2, rfl, rfl⟩
  | error err => exact .inr ⟨err, rfl⟩

theorem checkIntent_ok {life : Lifecycle}
    {event : LifecycleEvent} (checked : checkIntent life event = .ok ()) :
    life.state = .intent ∧ (freshIntent life).Valid := by
  simp only [checkIntent, guard_eq_ok, not_or, not_not] at checked
  rcases checked with ⟨⟨_, intent, _⟩, rest⟩
  rcases bind_eq_ok.mp rest with ⟨_, valid, _⟩
  exact ⟨intent, (freshIntent life).validate_eq_ok.mp valid⟩

theorem findAfterError_found {db : Database} {life row : Lifecycle}
    {err : ManagedProviderFileError} {created : Bool}
    (found : findAfterError db life err = .ok (row, created)) : created = false := by
  simp only [findAfterError] at found
  split at found
  · split at found
    · cases found
      rfl
    · cases found
  · cases found

theorem create_cases (db : Database) (life : Lifecycle) (event : LifecycleEvent) (refused : Bool) :
    ((createIntent db life event refused).2 = db ∧
        ∀ row, (createIntent db life event refused).1 ≠ .ok (row, true)) ∨ ∃ row created after,
        createIntent db life event refused =
          (.ok (row, created), after) ∧ life.state = .intent ∧ (freshIntent life).Valid ∧
        createTransaction db (freshIntent life) event = .ok (row, created, after) := by
  cases checked : checkIntent life event with
  | error err =>
    have refusal : createIntent db life event refused = (.error err, db) := by
      simp only [createIntent, checked]
    rw [refusal]
    refine .inl ⟨rfl, ?_⟩
    intro _ never
    cases never
  | ok _ =>
    have accepted := checkIntent_ok checked
    cases attempted : attemptCreation db (freshIntent life) event refused with
    | ok result =>
      rcases result with ⟨row, created, after⟩
      have committed : createIntent db life event refused = (.ok (row, created), after) := by
        simp only [createIntent, checked, attempted]
      simp only [attemptCreation, guard_eq_ok] at attempted
      exact .inr ⟨row, created, after, committed, accepted.1, accepted.2, attempted.2⟩
    | error err =>
      have lookup : createIntent db life event refused =
          (findAfterError db (freshIntent life) err, db) := by
        simp only [createIntent, checked, attempted]
      rw [lookup]
      refine .inl ⟨rfl, ?_⟩
      intro _ never
      have old := findAfterError_found never
      cases old

section Runs

variable {base db : Database} {call : LifecycleCall} {channelIds : List ℤ}

theorem commitUnit_unchanged {result : Outcome Database}
    (failed : (LifecycleCall.commitUnit db result).1 ≠ .ok true) :
    (LifecycleCall.commitUnit db result).2 = db := by
  rcases commitUnit_cases db result with ⟨_, _, committed⟩ | ⟨_, refused⟩
  · rw [committed] at failed
    exact absurd rfl failed
  · rw [refused]

theorem commit_unchanged {Result : Type} {changes : Result → Bool}
    {result : Outcome (Result × Database)}
    (idle : ∀ reply after, result = .ok (reply, after) → changes reply = false → after = db)
    (failed : (LifecycleCall.commit db changes result).1 ≠ .ok true) :
    (LifecycleCall.commit db changes result).2 = db := by
  rcases commit_cases db changes result with ⟨reply, after, done, committed⟩ | ⟨_, refused⟩
  · rw [committed] at failed ⊢
    cases moved : changes reply with
    | true => exact absurd (by rw [moved]) failed
    | false => exact idle reply after done moved
  · rw [refused]

theorem Database.Sound.run_unchanged (sound : db.Sound) (real : db.Allowed call)
    (failed : (call.run db).1 ≠ .ok true) : (call.run db).2 = db := by
  have run : db.Reached db := { sound with grown := Grown.refl db }
  rcases call with ⟨action, _, _, refused⟩
  cases action with
  | create life event =>
    rcases create_cases db life event refused with
      ⟨same, _⟩ | ⟨row, created, after, done, _, _, committed⟩
    · exact same
    · simp only [LifecycleCall.run, done] at failed ⊢
      cases created with
      | true => exact absurd rfl failed
      | false => exact createTransaction_unchanged committed
  | advance _ =>
    cases refused with
    | true => rfl
    | false => exact commitUnit_unchanged failed
  | recordVerificationFailure _ =>
    cases refused with
    | true => rfl
    | false => exact commitUnit_unchanged failed
  | activate _ =>
    cases refused with
    | true => rfl
    | false =>
      exact commit_unchanged (fun _ _ done idle => (run.activation done).2 idle) failed
  | claim _ =>
    cases refused with
    | true => rfl
    | false =>
      refine commit_unchanged (fun reply _ done idle => (run.claim real.2 done).2 ?_) failed
      cases reply with
      | none => rfl
      | some _ => cases idle
  | markDispatched _ =>
    cases refused with
    | true => rfl
    | false => exact commit_unchanged (fun _ _ _ never => by cases never) failed
  | retry _ =>
    cases refused with
    | true => rfl
    | false => exact commitUnit_unchanged failed
  | complete _ =>
    cases refused with
    | true => rfl
    | false => exact commitUnit_unchanged failed
  | fail _ =>
    cases refused with
    | true => rfl
    | false => exact commitUnit_unchanged failed
  | quarantine _ _ =>
    cases refused with
    | true => rfl
    | false =>
      exact commit_unchanged (fun _ _ done idle => (run.quarantine done).2 idle) failed

section Keeping

variable {Keeps : Database → Prop} {refused : Bool} (keeps : Keeps db)

include keeps

theorem commitUnit_keeps {result : Outcome Database}
    (kept : ∀ after, result = .ok after → Keeps after) :
    Keeps (if refused then (.error .database, db) else LifecycleCall.commitUnit db result).2 := by
  rcases refused with _ | _
  · rcases commitUnit_cases db result with ⟨after, done, committed⟩ | ⟨_, failed⟩
    · rw [committed]
      exact kept after done
    · rw [failed]
      exact keeps
  · exact keeps

theorem commit_keeps {Result : Type} {changes : Result → Bool}
    {result : Outcome (Result × Database)}
    (kept : ∀ reply after, result = .ok (reply, after) → Keeps after) :
    Keeps (if refused then (.error .database, db)
      else LifecycleCall.commit db changes result).2 := by
  rcases refused with _ | _
  · rcases commit_cases db changes result with ⟨reply, after, done, committed⟩ | ⟨_, failed⟩
    · rw [committed]
      exact kept reply after done
    · rw [failed]
      exact keeps
  · exact keeps

end Keeping

theorem Database.Reached.next (run : base.Reached db) (care : db.Careful call) :
    base.Reached (db.next call) := by
  rcases call with ⟨action, _, _, refused⟩
  rcases care with ⟨⟨realFirst, realNow⟩, care⟩
  cases action with
  | create life event =>
    rcases create_cases db life event refused with
      ⟨same, _⟩ | ⟨row, created, after, done, intent, valid, committed⟩
    · simp only [Database.next, LifecycleCall.run, same]
      exact run
    · have final := run.create valid intent care committed
      simp only [Database.next, LifecycleCall.run, done]
      exact final
  | advance _ => exact commitUnit_keeps run fun _ done => run.upload (by omega) care done
  | recordVerificationFailure _ =>
    exact commitUnit_keeps run fun _ done => run.verificationFailure (by omega) care done
  | activate _ => exact commit_keeps run fun _ _ done => (run.activation done).1
  | claim _ => exact commit_keeps run fun _ _ done => (run.claim realNow done).1
  | markDispatched _ => exact commit_keeps run fun _ _ done => run.mark done
  | retry _ => exact commitUnit_keeps run fun _ done => run.retry realFirst done
  | complete _ => exact commitUnit_keeps run fun _ done => run.complete care done
  | fail _ => exact commitUnit_keeps run fun _ done => run.fail done
  | quarantine _ _ => exact commit_keeps run fun _ _ done => (run.quarantine done).1

theorem sound_start (channelIds : List ℤ) : (Database.start channelIds).Sound where
  lifecycles _ stored := absurd stored List.not_mem_nil
  explained _ stored := absurd stored List.not_mem_nil
  outboxes _ stored := absurd stored List.not_mem_nil
  owned _ stored := absurd stored List.not_mem_nil

theorem Database.Sound.reached (sound : db.Sound) : db.Reached db :=
  { sound with grown := Grown.refl db }

end Runs

/-! ## What a run guarantees -/

/-- Every row satisfies its own `Validate`, and the numbered, chained events of a lifecycle
lead to its record. -/
structure Database.Accounted (db : Database) : Prop where
  lifecycles : ∀ row ∈ db.lifecycles.rows, row.validate = .ok ()
  outboxes : ∀ row ∈ db.outboxes.rows, row.validate = .ok ()
  counted : ∀ row ∈ db.lifecycles.rows, (db.eventsOf row.id).length = row.lastEventSequence
  numbered : ∀ row ∈ db.lifecycles.rows, ∀ (i : ℕ) (event),
    (db.eventsOf row.id)[i]? = some event → event.sequence = i + 1
  explained : ∀ row ∈ db.lifecycles.rows,
    Journal.replay blankHead (db.eventsOf row.id) = some row.head

theorem Database.Sound.accounted {db : Database} (sound : db.Sound) : db.Accounted where
  lifecycles row stored := row.validate_eq_ok.mpr (sound.lifecycles row stored).valid
  outboxes row stored := row.validate_eq_ok.mpr (sound.outboxes row stored)
  counted := by
    intro row stored
    have length := Journal.length_of_replay (sound.explained row stored)
    simp only [blankHead, Lifecycle.head] at length
    omega
  numbered := by
    intro row stored i _ held
    have sequence := Journal.sequence_of_replay (sound.explained row stored) i held
    simp only [blankHead, Journal.Chained.sequence] at sequence
    omega
  explained := sound.explained

theorem Database.Sound.run {db later : Database} (sound : db.Sound)
    (run : Reachable Database.next Database.Careful db later) : db.Reached later :=
  run.invariant db.Reached (fun _ _ care past => past.next care) sound.reached

/-- In every run the rows, their events and the outbox account for each other. -/
theorem lifecycle_accounted (channelIds : List ℤ) (db : Database)
    (reached : Reachable Database.next Database.Careful (Database.start channelIds) db) :
    db.Accounted ∧ (∀ later, Reachable Database.next Database.Careful db later → Grown db later) ∧
      ∀ call, db.Allowed call → (call.run db).1 ≠ .ok true → (call.run db).2 = db := by
  have sound := ((sound_start channelIds).run reached).toSound
  refine ⟨sound.accounted, ?_, ?_⟩
  · intro _ reachedLater
    exact (sound.run reachedLater).grown
  · intro _ real failed
    exact sound.run_unchanged real failed

def sampleDigest (digit : Char) : String :=
  String.ofList (digit :: List.replicate 63 '0')

def sampleIntent : Lifecycle where
  id := 0
  uploadIntentHMAC := sampleDigest '1'
  handleLookupHMAC := sampleDigest '2'
  providerLookupHMAC := none
  ownerHMAC := sampleDigest '3'
  lookupKeyVersion := "v1"
  requestFingerprint := sampleDigest '4'
  provider := managedProviderFileProviderOpenAI
  state := .intent
  version := 1
  lastEventSequence := 0
  lastEventHMAC := ""
  channelId := 7
  channelType := channelTypeOpenAI
  channelIsMultiKey := false
  channelMultiKeyIndex := 0
  credentialFingerprint := sampleDigest '5'
  credentialFingerprintKeyVersion := "v1"
  endpointFingerprint := sampleDigest '6'
  providerScopeFingerprint := sampleDigest '7'
  providerPayload := []
  payloadKeyVersion := "v1"
  purpose := managedProviderFilePurposeUserData
  providerBytes := 0
  providerCreatedAt := none
  metadataVerifiedAt := none
  expiresAt := none
  activatedAt := none
  uploadDispatchedAt := none
  uploadFailedAt := none
  uploadUnknownAt := none
  verificationFailedAt := none
  terminalReasonCode := ""
  deletionStartedAt := none
  deletedAt := none
  deletionFailedAt := none

def sampleCreated : LifecycleEvent where
  id := 0
  lifecycleId := 0
  sequence := 1
  previousEventHMAC := ""
  eventHMAC := sampleDigest 'a'
  eventType := .intentCreated
  fromState := none
  toState := .intent
  attemptCount := 0
  resultCode := ""
  evidenceDigest := sampleDigest '0'
  keyVersion := "v1"

def sampleDispatched : LifecycleEvent :=
  { sampleCreated with
    lifecycleId := 1
    sequence := 2
    previousEventHMAC := sampleDigest 'a'
    eventHMAC := sampleDigest 'b'
    eventType := .uploadDispatched
    fromState := some .intent
    toState := .uploadDispatched }

def sampleUpload : List LifecycleCall :=
  [⟨.create sampleIntent sampleCreated, 1, 1, false⟩,
    ⟨.advance ⟨1, 1, sampleDigest '4', .intent, .uploadDispatched, "", sampleDispatched⟩,
      2, 2, false⟩]

theorem sampleUpload_accounted :
    ∃ db, (db.lifecycles.rows.map Lifecycle.state = [.uploadDispatched]) ∧
      (db.Accounted ∧
        (∀ later, Reachable Database.next Database.Careful db later → Grown db later) ∧
        ∀ call, db.Allowed call → (call.run db).1 ≠ .ok true → (call.run db).2 = db) := by
  have run : RunAllowed Database.next Database.Careful (Database.start [7]) sampleUpload ∧
      (sampleUpload.foldl Database.next (Database.start [7])).lifecycles.rows.map Lifecycle.state =
        [.uploadDispatched] := by
    decide +kernel
  refine ⟨sampleUpload.foldl Database.next (Database.start [7]), run.2, ?_⟩
  exact lifecycle_accounted [7] _ (Reachable.of_run sampleUpload _ run.1)

def mistypedCreation : LifecycleCall :=
  ⟨.create sampleIntent { sampleDispatched with
    lifecycleId := 0, sequence := 1, previousEventHMAC := "" }, 1, 1, false⟩

/-- A creation stores an event of another type, and the events no longer explain the row. -/
theorem creation_unexplained :
    ¬∀ (channelIds : List ℤ) (db : Database),
      Reachable Database.next Database.Allowed (Database.start channelIds) db → db.Accounted := by
  intro accounted
  have run : RunAllowed Database.next Database.Allowed (Database.start [7]) [mistypedCreation] ∧
      ¬∀ row ∈ ([mistypedCreation].foldl Database.next (Database.start [7])).lifecycles.rows,
        Journal.replay blankHead (([mistypedCreation].foldl Database.next
          (Database.start [7])).eventsOf row.id) = some row.head := by
    decide +kernel
  exact run.2 (accounted [7] _ (Reachable.of_run [mistypedCreation] _ run.1)).explained

end NewApi.ProviderFile
