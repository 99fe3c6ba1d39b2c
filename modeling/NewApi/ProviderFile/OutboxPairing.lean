import NewApi.ProviderFile.DeletionRun

/-!
# A lifecycle and its deletion outbox

A lifecycle gets an outbox row when its upload is bound, and the two change state together.
-/

namespace NewApi.ProviderFile

open Relational Transition Fallible Table
open NewApi.ProviderFile renaming ManagedProviderFileDeletionOutbox → Outbox,
  ManagedProviderFileLifecycle → Lifecycle,
  appendEventAndAdvanceManagedProviderFileLifecycle → appendAndAdvance

/-- The states of the outbox rows of a lifecycle in a state, or of one that is not stored. -/
def pairedStates : Option LifecycleState → List (List DeletionOutboxState)
  | some .active | some .verificationFailed => [[.pending]]
  | some .deletionPending => [[.inProgress], [.retryWait]]
  | some .deleted => [[.completed]]
  | some .deletionFailed => [[.terminalFailed]]
  | _ => [[]]

theorem pairedStates_length {state : Option LifecycleState} {states : List DeletionOutboxState}
    (isPaired : states ∈ pairedStates state) : states.length ≤ 1 := by
  have short : ∀ states ∈ pairedStates state, states.length ≤ 1 := by
    rcases state with _ | state
    · decide
    · cases state <;> decide
  exact short states isPaired

theorem deletionPending_of_inProgress {state : LifecycleState}
    (isPaired : [.inProgress] ∈ pairedStates (some state)) : state = .deletionPending := by
  revert isPaired
  cases state <;> decide

namespace Database

def outboxesOf (db : Database) (lifeId : ℤ) : List Outbox :=
  db.outboxes.rows.filter fun row => row.lifecycleId = lifeId

def stateOf (db : Database) (lifeId : ℤ) : Option LifecycleState :=
  (db.lifecycles.find? lifeId).map (·.state)

/-- The outbox rows of a file are those of its state. -/
def Paired (db : Database) : Prop :=
  ∀ lifeId, (db.outboxesOf lifeId).map (·.state) ∈ pairedStates (db.stateOf lifeId)

/-- Only a row whose lifecycle is missing is quarantined. -/
def QuarantinesOrphans (db : Database) (call : LifecycleCall) : Prop :=
  match call.action with
  | .quarantine boxId _ =>
    ∀ box, db.outboxes.find? boxId = some box → db.lifecycles.find? box.lifecycleId = none
  | _ => True

namespace Paired

variable {db mid after : Database} {life : Lifecycle} {box : Outbox}
  {updates : RowUpdate Lifecycle} {event : ManagedProviderFileLifecycleEvent}
  {wanted first now : ℤ} (paired : db.Paired)

include paired

theorem outboxesOf_eq (stored : box ∈ db.outboxes.rows) :
    db.outboxesOf box.lifecycleId = [box] := by
  have inOf : box ∈ db.outboxesOf box.lifecycleId := List.mem_filter.mpr ⟨stored, by simp⟩
  have short := pairedStates_length (paired box.lifecycleId)
  rw [List.length_map] at short
  obtain ⟨only, isOnly⟩ := List.length_eq_one_iff.mp
    (le_antisymm short (List.length_pos_of_mem inOf))
  rw [isOnly, List.mem_singleton] at inOf
  rw [isOnly, inOf]

theorem owned (stored : box ∈ db.outboxes.rows) :
    ∃ life, db.lifecycles.find? box.lifecycleId = some life := by
  have isPaired := paired box.lifecycleId
  rw [paired.outboxesOf_eq stored, stateOf] at isPaired
  cases found : db.lifecycles.find? box.lifecycleId with
  | some life => exact ⟨life, rfl⟩
  | none => simp [found, pairedStates] at isPaired

/-- A transaction moves one lifecycle, after it has moved the outbox row of that lifecycle. -/
theorem advance (found : db.lifecycles.find? life.id = some life)
    (advanced : appendAndAdvance mid life wanted updates event = .ok after)
    (sameRows : mid.lifecycles = db.lifecycles)
    (others : ∀ lifeId, lifeId ≠ life.id →
      (mid.outboxesOf lifeId).map (·.state) = (db.outboxesOf lifeId).map (·.state))
    (own : (db.outboxesOf life.id).map (·.state) ∈ pairedStates (some life.state) →
      (mid.outboxesOf life.id).map (·.state) ∈ pairedStates (some (updates.apply life).state)) :
    after.Paired := by
  rcases advance_ok advanced with ⟨rfl, _⟩
  intro lifeId
  have isPaired := paired lifeId
  rw [stateOf] at isPaired ⊢
  rw [sameRows]
  by_cases same : lifeId = life.id
  · rw [same, found] at isPaired
    rw [same, find?_modify_self, found]
    exact own isPaired
  · rw [find?_modify_ne _ same]
    rw [← others lifeId same] at isPaired
    exact isPaired

/-- A deletion step moves the row and its lifecycle to states that go together. -/
theorem deletionStep {boxId : ℤ} {change : RowUpdate Outbox}
    (step : DeletionStep db after boxId box life change updates event)
    (owner : ∀ row, (change.apply row).lifecycleId = row.lifecycleId)
    (moves : [box.state] ∈ pairedStates (some life.state) →
      [(change.apply box).state] ∈ pairedStates (some (updates.apply life).state)) :
    after.Paired := by
  have sameId : life.id = box.lifecycleId := key_of_find? step.found
  have rowsOf : ∀ lifeId, outboxesOf { db with outboxes := db.outboxes.modify box.id change }
      lifeId = (db.outboxesOf lifeId).map
        fun row => if Keyed.key row = box.id then change.apply row else row := by
    intro lifeId
    apply filter_modify
    intro row _ _
    rw [owner row]
  refine paired.advance (find?_id step.found) step.advanced rfl ?_ ?_
  · intro lifeId apart
    rw [rowsOf, List.map_map]
    apply List.map_congr_left
    intro row inOf
    rcases List.mem_filter.mp inOf with ⟨isRow, isOwner⟩
    rw [Function.comp_apply, if_neg]
    intro same
    rw [eq_of_find? (find?_outbox_id step.foundOutbox) isRow same] at isOwner
    exact apart ((of_decide_eq_true isOwner).symm.trans sameId.symm)
  · rw [rowsOf, sameId, paired.outboxesOf_eq (mem_of_find? step.foundOutbox)]
    have isRow : Keyed.key box = box.id := rfl
    simpa [isRow] using moves

theorem bind {operationHMAC : String} {maxAttempts nextAttemptAt : ℤ}
    (found : db.lifecycles.find? life.id = some life) (dispatched : life.state = .uploadDispatched)
    (created : db.createOutbox (pendingDeletion life.id operationHMAC maxAttempts nextAttemptAt) =
      .ok mid)
    (advanced : appendAndAdvance mid life wanted updates event = .ok after)
    (binds : pairedStates (some (updates.apply life).state) = [[.pending]]) : after.Paired := by
  simp only [createOutbox, guard_eq_ok, Except.ok.injEq] at created
  rcases created with ⟨_, isMid⟩
  refine paired.advance found advanced (by rw [← isMid]) ?_ ?_
  · intro lifeId apart
    simp [← isMid, outboxesOf, Table.insert, pendingDeletion, apart.symm]
  · rw [binds, dispatched]
    intro unbound
    have none : db.outboxesOf life.id = [] := by simpa [pairedStates] using unbound
    rw [outboxesOf] at none
    simp [← isMid, outboxesOf, Table.insert, pendingDeletion, none]

theorem create {row : Lifecycle} {created : Bool}
    (done : createManagedProviderFileLifecycleTransaction db life event = .ok (row, created, after))
    (intent : life.state = .intent) : after.Paired := by
  rcases createTransaction_ok done with ⟨_, rfl, _⟩ | ⟨_, _, rfl, _, _, rows, outboxes, _⟩
  · exact paired
  · intro lifeId
    have isPaired := paired lifeId
    have missing : db.lifecycles.find? db.lifecycles.nextKey = none := by
      by_contra found
      obtain ⟨row, found⟩ := Option.ne_none_iff_exists'.mp found
      have below := key_lt_nextKey (mem_of_find? found)
      have key := key_of_find? found
      omega
    rw [outboxesOf, stateOf, outboxes]
    by_cases same : lifeId = db.lifecycles.nextKey
    · -- An identifier that is not stored has no outbox row yet, as an intent has none.
      have isNew : after.lifecycles.find? db.lifecycles.nextKey = some _ :=
        find?_eq_some_iff.mpr ⟨(rows _).mpr (.inl rfl), rfl⟩
      rw [same, stateOf, missing] at isPaired
      rw [same, isNew]
      change _ ∈ pairedStates (some life.state)
      rw [intent]
      exact isPaired
    · have kept : after.lifecycles.find? lifeId = db.lifecycles.find? lifeId := by
        ext row
        rw [find?_eq_some_iff, find?_eq_some_iff, rows]
        constructor
        · rintro ⟨rfl | past, key⟩
          · exact absurd key.symm same
          · exact ⟨past, key⟩
        · rintro ⟨past, key⟩
          exact ⟨.inr past, key⟩
      rw [kept]
      exact isPaired

theorem upload {move : ManagedProviderFileUploadTransition}
    (done : advanceManagedProviderFileUploadState db move now = .ok after) : after.Paired := by
  rcases upload_ok done with ⟨life, found, accepted, _, _, expected, advanced⟩
  refine paired.advance (find?_id found) advanced rfl (fun _ _ => rfl) ?_
  rw [expected]
  change _ → _ ∈ pairedStates (some move.nextState)
  rcases accepted with ⟨old, new, _⟩ | ⟨old | old, new, _⟩ | ⟨old, new, _⟩
  all_goals
    rw [old, new]
    exact id

theorem claim {claim : ManagedProviderFileDeletionClaim} {claimed : Option Outbox}
    (done : claimManagedProviderFileDeletion db claim now = .ok (claimed, after)) :
    after.Paired := by
  rcases claim_ok done with ⟨_, rfl⟩ | ⟨valid, box, life, fresh, _, _, step⟩
  · exact paired
  · refine paired.deletionStep step (fun _ => rfl) ?_
    have expected : box.state = claim.expectedState := by
      by_contra differs
      exact fresh (.inl differs)
    rcases valid with ⟨_, _, _, _, _, claimable⟩
    rw [← expected] at claimable
    simp only [claimLifecycleUpdates, ManagedProviderFileDeletionClaim.outboxUpdates]
    cases isState : life.state with
    | active | verificationFailed | deletionPending => simp [pairedStates, isState]
    | deleted | deletionFailed =>
      rcases claimable with state | state | state
      all_goals simp [pairedStates, state]
    | intent | uploadDispatched | uploadFailed | uploadUnknown => simp [pairedStates]

theorem retry {retry : ManagedProviderFileDeletionRetry}
    (done : retryManagedProviderFileDeletion db retry first now = .ok after) : after.Paired := by
  rcases retry_ok done with ⟨_, _, _, _, box, life, _, held, step⟩
  refine paired.deletionStep step (fun _ => rfl) ?_
  rw [(heldUnder_iff.mp held).1]
  intro before
  change [.retryWait] ∈ pairedStates (some life.state)
  rw [deletionPending_of_inProgress before]
  decide

theorem finish {terminal : ManagedProviderFileDeletionTerminal} {boxState : DeletionOutboxState}
    {lifeState : LifecycleState} {eventType : LifecycleEventType}
    (ends : [boxState] ∈ pairedStates (some lifeState))
    (done : finishManagedProviderFileDeletion db terminal boxState lifeState eventType
      now = .ok after) : after.Paired := by
  rcases finish_ok done with ⟨_, _, life, _, step⟩
  refine paired.deletionStep step (fun _ => rfl) fun _ => ?_
  have isLast : ((terminal.lifecycleUpdates lifeState now).apply life).state = lifeState := by
    simp only [ManagedProviderFileDeletionTerminal.lifecycleUpdates]
    split <;> rfl
  rw [isLast]
  exact ends

/-- No row is orphaned, so a quarantine of orphans finds nothing to change. -/
theorem quarantine {boxId expected : ℤ} {moved : Bool}
    (orphan : ∀ box, db.outboxes.find? boxId = some box →
      db.lifecycles.find? box.lifecycleId = none)
    (done : quarantineOrphanedManagedProviderFileDeletion db boxId expected now =
      .ok (moved, after)) : after.Paired := by
  rcases quarantine_ok done with ⟨_, rfl⟩ | ⟨_, box, found, rfl, _⟩
  · exact paired
  · obtain ⟨life, isLife⟩ := paired.owned (mem_of_find? found)
    rw [orphan box found] at isLife
    cases isLife

theorem next {call : LifecycleCall} (orphans : db.QuarantinesOrphans call) :
    (db.next call).Paired := by
  rcases call with ⟨action, _, _, refused⟩
  cases action with
  | create life event =>
    rcases create_cases db life event refused with
      ⟨same, _⟩ | ⟨row, created, after, done, intent, _, committed⟩
    · simp only [Database.next, LifecycleCall.run, same]
      exact paired
    · simp only [Database.next, LifecycleCall.run, done]
      exact paired.create committed intent
  | advance _ => exact commitUnit_keeps paired fun _ done => paired.upload done
  | recordVerificationFailure _ =>
    refine commitUnit_keeps paired fun _ done => ?_
    rcases verificationFailure_ok done with ⟨_, _, found, _, _, dispatched, _, _, made, advanced⟩
    exact paired.bind (find?_id found) dispatched made advanced rfl
  | activate _ =>
    refine commit_keeps paired fun _ _ done => ?_
    rcases activation_ok done with
      ⟨_, rfl⟩ | ⟨_, _, _, found, _, _, dispatched, _, _, made, advanced⟩
    · exact paired
    · exact paired.bind (find?_id found) dispatched made advanced rfl
  | claim _ => exact commit_keeps paired fun _ _ done => paired.claim done
  | markDispatched _ =>
    refine commit_keeps paired fun _ _ done => ?_
    rcases mark_ok done with ⟨_, _, _, _, _, _, _, step⟩
    exact paired.deletionStep step (fun _ => rfl) id
  | retry _ => exact commitUnit_keeps paired fun _ done => paired.retry done
  | complete _ =>
    refine commitUnit_keeps paired fun _ done => ?_
    simp only [completeManagedProviderFileDeletion, guard_eq_ok] at done
    exact paired.finish (by decide) done.2
  | fail _ =>
    refine commitUnit_keeps paired fun _ done => ?_
    simp only [failManagedProviderFileDeletion, guard_eq_ok] at done
    exact paired.finish (by decide) done.2
  | quarantine _ _ => exact commit_keeps paired fun _ _ done => paired.quarantine orphans done

end Paired

end Database

/-- In every run each lifecycle has the outbox row that its state asks for and no other, and no
row is without its lifecycle. -/
theorem outboxes_paired (channelIds : List ℤ) (db : Database)
    (run : Reachable Database.next Database.QuarantinesOrphans (Database.start channelIds) db) :
    db.Paired ∧
      ∀ box ∈ db.outboxes.rows, ∃ life, db.lifecycles.find? box.lifecycleId = some life := by
  have paired : db.Paired := by
    refine run.invariant Database.Paired (fun _ _ orphans paired => paired.next orphans) ?_
    intro lifeId
    exact List.mem_singleton.mpr rfl
  exact ⟨paired, fun _ stored => paired.owned stored⟩

def sampleDeletionEvent (sequence : ℤ) (previous own : Char) (eventType : LifecycleEventType)
    (fromState toState : LifecycleState) (resultCode : String) :
    ManagedProviderFileLifecycleEvent :=
  { sampleDispatched with
    sequence := sequence
    previousEventHMAC := sampleDigest previous
    eventHMAC := sampleDigest own
    eventType := eventType
    fromState := some fromState
    toState := toState
    attemptCount := 1
    resultCode := resultCode }

/-- An upload that is bound, a quarantine of a row that does not exist, and the deletion. -/
def samplePairing : List LifecycleCall :=
  sampleUpload ++
    [sampleActivation, ⟨.quarantine 2 1, 4, 4, false⟩,
      ⟨.claim ⟨1, 1, sampleDigest 'd', 90 * second, .pending, 0,
        sampleDeletionEvent 4 'c' 'e' .deletionStarted .active .deletionPending ""⟩,
        60 * second, 60 * second, false⟩,
      ⟨.markDispatched ⟨1, 1, 2, sampleDigest 'd', 1, 61 * second,
        sampleDeletionEvent 5 'e' 'f' .deletionDispatched .deletionPending .deletionPending ""⟩,
        61 * second, 61 * second, false⟩,
      ⟨.complete ⟨1, 3, sampleDigest 'd', 1, managedProviderFileDeletionResultDeleted, "",
        sampleDigest '0', sampleDeletionEvent 6 'f' '1' .deletionCompleted .deletionPending .deleted
          managedProviderFileDeletionResultDeleted⟩,
        62 * second, 62 * second, false⟩]

theorem outboxes_paired_sample :
    ∃ db : Database, db.lifecycles.rows.map ManagedProviderFileLifecycle.state = [.deleted] ∧
      db.outboxes.rows.map ManagedProviderFileDeletionOutbox.state = [.completed] ∧
      (db.Paired ∧ ∀ box ∈ db.outboxes.rows,
        ∃ life, db.lifecycles.find? box.lifecycleId = some life) := by
  have states : (samplePairing.foldl Database.next (Database.start [7])).lifecycles.rows.map
        ManagedProviderFileLifecycle.state = [.deleted] ∧
      (samplePairing.foldl Database.next (Database.start [7])).outboxes.rows.map
        ManagedProviderFileDeletionOutbox.state = [.completed] := by
    decide +kernel
  have absent : (((sampleUpload ++ [sampleActivation]).foldl Database.next
      (Database.start [7])).outboxes.find? 2).isSome = false := by
    decide +kernel
  have orphan : Database.QuarantinesOrphans ((sampleUpload ++ [sampleActivation]).foldl
      Database.next (Database.start [7])) ⟨.quarantine 2 1, 4, 4, false⟩ := by
    intro box found
    rw [found] at absent
    cases absent
  exact ⟨_, states.1, states.2, outboxes_paired [7] _ (Reachable.of_run samplePairing _
    ⟨trivial, trivial, trivial, orphan, trivial, trivial, trivial, trivial⟩)⟩

end NewApi.ProviderFile
