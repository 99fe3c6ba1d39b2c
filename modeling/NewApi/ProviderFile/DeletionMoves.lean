import NewApi.ProviderFile.DeletionWorker
import NewApi.ProviderFile.LifecycleRun

/-!
# Moves of the deletion outbox

What each transaction can do to an outbox row: one row moves to its next version, and at
most the lifecycle of that row changes with it. An upload adds rows and moves none.
-/

namespace NewApi.ProviderFile

open Relational Fallible Table
open NewApi.ProviderFile renaming ManagedProviderFileDeletionOutbox → Outbox,
  ManagedProviderFileLifecycle → Lifecycle, ManagedProviderFileDeletionClaim → DeletionClaim

namespace DeletionOutboxState

def Ended (state : DeletionOutboxState) : Prop :=
  state = .completed ∨ state = .terminalFailed
deriving Decidable

end DeletionOutboxState

/-- What a kind of write does to the state of a row and to its attempt. -/
def NoteKind.Turns (kind : NoteKind) (old new : Outbox) : Prop :=
  match kind with
  | .claimed =>
    new.state = .inProgress ∧
      (old.state = .inProgress ∧ new.attemptCount = old.attemptCount ∧
          new.dispatchedAt = old.dispatchedAt ∨
        (old.state = .pending ∨ old.state = .retryWait) ∧
          new.attemptCount = old.attemptCount + 1 ∧ old.attemptCount < old.maxAttempts ∧
          new.dispatchedAt = none)
  | .marked =>
    old.state = .inProgress ∧ old.dispatchedAt = none ∧ new.state = .inProgress ∧
      new.attemptCount = old.attemptCount ∧ new.dispatchedAt.isSome ∧ 0 < new.attemptCount
  | .retried _ =>
    old.state = .inProgress ∧ new.state = .retryWait ∧ new.attemptCount = old.attemptCount
  | .completed =>
    old.state = .inProgress ∧ new.state.Ended ∧ new.attemptCount = old.attemptCount ∧
      new.dispatchedAt = old.dispatchedAt
  | .failed =>
    old.state = .inProgress ∧ new.state.Ended ∧ new.attemptCount = old.attemptCount ∧
      new.dispatchedAt = old.dispatchedAt
  | .quarantined =>
    ¬old.state.Ended ∧ new.state.Ended ∧
      new.attemptCount = (if old.attemptCount < 1 then 1 else old.attemptCount) ∧
      new.dispatchedAt = old.dispatchedAt
  | _ => False

/-- How a row goes on by one version. -/
structure Moves (kind : NoteKind) (old new : Outbox) : Prop where
  id : new.id = old.id
  lifecycleId : new.lifecycleId = old.lifecycleId
  maxAttempts : new.maxAttempts = old.maxAttempts
  version : new.version = old.version + 1
  turns : kind.Turns old new

/-- A transaction that moves one row, and changes no lifecycle besides the one of that row. -/
structure Rewrites (kind : NoteKind) (db after : Database)
    (old new : Outbox) : Prop where
  found : db.outboxes.find? old.id = some old
  outboxes : ∃ change, after.outboxes = db.outboxes.modify old.id change ∧ change.apply old = new
  moves : Moves kind old new
  others : ∀ id, id ≠ old.lifecycleId → after.lifecycles.find? id = db.lifecycles.find? id
  deleted : ∀ row ∈ after.lifecycles.rows, row.state = .deleted →
    row ∈ db.lifecycles.rows ∨ (row.id = old.lifecycleId ∧ kind = .completed)

section Rewrites

variable {kind : NoteKind} {db after : Database} {old new : Outbox}

variable (rewrites : Rewrites kind db after old new)

include rewrites

theorem Rewrites.mem_iff {row : Outbox} :
    row ∈ after.outboxes.rows ↔ row = new ∨ (row ∈ db.outboxes.rows ∧ row.id ≠ old.id) := by
  rcases rewrites.outboxes with ⟨_, moved, applied⟩
  rw [moved, mem_modify]
  constructor
  · rintro (⟨_, stored, sameKey, rfl⟩ | other)
    · left
      have found := find?_of_mem stored
      rw [sameKey, rewrites.found] at found
      rw [← Option.some.inj found]
      exact applied
    · exact .inr other
  · rintro (rfl | other)
    · exact .inl ⟨old, mem_of_find? rewrites.found, rfl, applied.symm⟩
    · exact .inr other

theorem Rewrites.mem_old : old ∈ db.outboxes.rows :=
  mem_of_find? rewrites.found

theorem Rewrites.mem_new : new ∈ after.outboxes.rows :=
  rewrites.mem_iff.mpr (.inl rfl)

theorem Rewrites.find?_other {id : ℤ}
    (apart : id ≠ old.id) : after.outboxes.find? id = db.outboxes.find? id := by
  rcases rewrites.outboxes with ⟨change, moved, _⟩
  rw [moved]
  exact find?_modify_ne db.outboxes apart change

end Rewrites

theorem advance_others {db after : Database} {life : Lifecycle}
    {expectedVersion : ℤ} {updates : RowUpdate Lifecycle}
    {event : ManagedProviderFileLifecycleEvent}
    (found : db.lifecycles.find? life.id = some life)
    (advanced : appendEventAndAdvanceManagedProviderFileLifecycle db life expectedVersion
      updates event = .ok after) :
    after.outboxes = db.outboxes ∧
      (∀ id, id ≠ life.id → after.lifecycles.find? id = db.lifecycles.find? id) ∧
      ¬life.state.Terminal ∧ ∀ row ∈ after.lifecycles.rows, row ∈ db.lifecycles.rows ∨
        (row.id = life.id ∧ row.state = (updates.apply life).state) := by
  rcases advance_ok advanced with ⟨rfl, valid, _, follows, _⟩
  refine ⟨rfl, ?_, not_terminal_of_valid valid follows.2.2, ?_⟩
  · intro _ apart
    exact find?_modify_ne db.lifecycles apart _
  · intro _ stored
    rcases mem_modify.mp stored with ⟨_, prior, oldKey, rfl⟩ | ⟨other, _⟩
    · right
      cases eq_of_find? found prior oldKey
      exact ⟨(advance updates expectedVersion event).key_apply life, rfl⟩
    · exact .inl other

section Transactions

variable {db after : Database} {first now : ℤ}

theorem rewrites_of_step {kind : NoteKind} {box : Outbox} {life : Lifecycle} {boxId : ℤ}
    {change : RowUpdate Outbox} {updates : RowUpdate Lifecycle}
    {event : ManagedProviderFileLifecycleEvent}
    (step : DeletionStep db after boxId box life change updates event)
    (moves : Moves kind box (change.apply box))
    (deletes : ¬life.state.Terminal → (updates.apply life).state = .deleted →
      kind = .completed) : Rewrites kind db after box (change.apply box) := by
  have owner : life.id = box.lifecycleId := key_of_find? step.found
  have stored : ({ db with outboxes := db.outboxes.modify box.id change } :
      Database).lifecycles.find? life.id = some life := find?_id step.found
  rcases advance_others stored step.advanced with ⟨outboxes, others, open_, rows⟩
  refine ⟨find?_outbox_id step.foundOutbox, ⟨change, outboxes, rfl⟩, moves, ?_, ?_⟩
  · intro _ apart
    apply others
    rw [owner]
    exact apart
  · intro row stored deleted
    rcases rows row stored with past | ⟨same, state⟩
    · exact .inl past
    · exact .inr ⟨same.trans owner, deletes open_ (state.symm.trans deleted)⟩

theorem claim_rewrites {claim : DeletionClaim} {claimed : Outbox}
    (done : claimManagedProviderFileDeletion db claim now = .ok (some claimed, after)) :
    ∃ old, old.id = claim.outboxId ∧ old.version = claim.expectedVersion ∧
      Rewrites .claimed db after old claimed := by
  rcases claim_ok done with ⟨⟨⟩, _⟩ | ⟨valid, box, life, current, _, ⟨⟩, step⟩
  simp only [DeletionClaim.Stale, not_or, not_not, not_and, not_le] at current
  refine ⟨box, key_of_find? step.foundOutbox, current.2.1, rewrites_of_step step ?_ ?_⟩
  · refine ⟨rfl, rfl, rfl, rfl, rfl, ?_⟩
    by_cases moving : box.state = .inProgress
    · left
      simp [DeletionClaim.outboxUpdates, nextAttemptCount, moving]
    · right
      refine ⟨?_, ?_, current.2.2.2.1 moving, ?_⟩
      · rw [current.1] at moving ⊢
        have expected := valid.2.2.2.2.2
        tauto
      · simp [DeletionClaim.outboxUpdates, nextAttemptCount, moving]
      · simp [DeletionClaim.outboxUpdates, moving]
  · intro open_ deleted
    simp only [claimLifecycleUpdates] at deleted
    split at deleted
    · cases deleted
    · exact absurd (.inl deleted) open_

theorem claim_idle {claim : DeletionClaim}
    (done : claimManagedProviderFileDeletion db claim now = .ok (none, after)) : after = db := by
  rcases claim_ok done with ⟨_, same⟩ | ⟨_, _, _, _, _, never, _⟩
  · exact same
  · cases never

theorem mark_rewrites {dispatch : ManagedProviderFileDeletionDispatch} {marked : Outbox}
    (done : markManagedProviderFileDeletionDispatched db dispatch now = .ok (marked, after)) :
    ∃ old, old.id = dispatch.outboxId ∧ old.version = dispatch.expectedVersion ∧
      Rewrites .marked db after old marked := by
  rcases mark_ok done with ⟨pos, _, box, _, held, unsent, rfl, step⟩
  rcases heldUnder_iff.mp held with ⟨state, ver, _, attempt⟩
  refine ⟨box, key_of_find? step.foundOutbox, ver, rewrites_of_step step ?_ ?_⟩
  · refine ⟨rfl, rfl, rfl, ?_, ?_⟩
    · rw [ver]
      rfl
    · refine ⟨state, unsent, state, rfl, rfl, ?_⟩
      exact lt_of_lt_of_eq pos attempt.symm
  · intro open_ deleted
    exact absurd (.inl deleted) open_

theorem retry_rewrites {retry : ManagedProviderFileDeletionRetry}
    (done : retryManagedProviderFileDeletion db retry first now = .ok after) :
    ∃ old new, old.id = retry.outboxId ∧ old.version = retry.expectedVersion ∧
      Rewrites (.retried retry.errorCode) db after old new := by
  rcases retry_ok done with ⟨_, _, _, _, box, _, _, held, step⟩
  rcases heldUnder_iff.mp held with ⟨state, ver, _, _⟩
  refine ⟨box, (retry.outboxUpdates box).apply box, key_of_find? step.foundOutbox, ver,
    rewrites_of_step step ?_ ?_⟩
  · exact ⟨rfl, rfl, rfl, rfl, state, rfl, rfl⟩
  · intro open_ deleted
    exact absurd (.inl deleted) open_

variable {terminal : ManagedProviderFileDeletionTerminal}

theorem finish_rewrites {kind : NoteKind}
    {boxState : DeletionOutboxState} {lifeState : LifecycleState}
    {eventType : LifecycleEventType}
    (turns : ∀ old new : Outbox, old.state = .inProgress →
      new.state = boxState → new.attemptCount = old.attemptCount →
        new.dispatchedAt = old.dispatchedAt → kind.Turns old new)
    (ends : lifeState = .deleted → kind = .completed)
    (done : finishManagedProviderFileDeletion db terminal boxState lifeState eventType
      now = .ok after) :
    ∃ old new, old.id = terminal.outboxId ∧ old.version = terminal.expectedVersion ∧
      Rewrites kind db after old new := by
  rcases finish_ok done with ⟨_, box, _, held, step⟩
  rcases heldUnder_iff.mp held with ⟨state, ver, _, _⟩
  refine ⟨box, (terminal.outboxUpdates box boxState now).apply box,
    key_of_find? step.foundOutbox, ver, rewrites_of_step step ?_ ?_⟩
  · exact ⟨rfl, rfl, rfl, rfl, turns _ _ state rfl rfl rfl⟩
  · intro _ deleted
    apply ends
    simp only [ManagedProviderFileDeletionTerminal.lifecycleUpdates] at deleted
    split at deleted
    · exact deleted
    · exact deleted

theorem complete_rewrites (done : completeManagedProviderFileDeletion db terminal now = .ok after) :
    ∃ old new, old.id = terminal.outboxId ∧ old.version = terminal.expectedVersion ∧
      Rewrites .completed db after old new := by
  simp only [completeManagedProviderFileDeletion, guard_eq_ok] at done
  apply finish_rewrites ?_ (fun _ => rfl) done.2
  intro _ _ state ended attempt dispatched
  exact ⟨state, .inl ended, attempt, dispatched⟩

theorem fail_rewrites (done : failManagedProviderFileDeletion db terminal now = .ok after) :
    ∃ old new, old.id = terminal.outboxId ∧ old.version = terminal.expectedVersion ∧
      Rewrites .failed db after old new := by
  simp only [failManagedProviderFileDeletion, guard_eq_ok] at done
  refine finish_rewrites ?_ ?_ done.2
  · intro _ _ state ended attempt dispatched
    exact ⟨state, .inr ended, attempt, dispatched⟩
  · intro never
    cases never

theorem quarantine_rewrites {boxId expectedVersion : ℤ} {moved : Bool}
    (done : quarantineOrphanedManagedProviderFileDeletion db boxId expectedVersion now =
      .ok (moved, after)) :
    moved = false ∧ after = db ∨
      moved = true ∧ ∃ old new, old.id = boxId ∧ old.version = expectedVersion ∧
        Rewrites .quarantined db after old new := by
  rcases quarantine_ok done with idle | ⟨isMoved, row, found, rfl, rfl, state, rfl⟩
  · exact .inl idle
  · refine .inr ⟨isMoved, row, (quarantineUpdates row.version now).apply row, rfl, rfl, found,
      ⟨_, rfl, rfl⟩, ⟨rfl, rfl, rfl, rfl, ?_, .inr rfl, rfl, rfl⟩, fun _ _ => rfl,
      fun _ stored _ => .inl stored⟩
    rintro (ended | ended)
    · rw [ended] at state
      simp at state
    · rw [ended] at state
      simp at state

end Transactions

/-! ## Uploads -/

def LifecycleAction.Uploads : LifecycleAction → Prop
  | .create _ _ | .advance _ | .recordVerificationFailure _ | .activate _ => True
  | _ => False

instance : DecidablePred LifecycleAction.Uploads
  | .create _ _ | .advance _ | .recordVerificationFailure _ | .activate _ =>
    inferInstanceAs (Decidable True)
  | .claim _ | .markDispatched _ | .retry _ | .complete _ | .fail _ | .quarantine _ _ =>
    inferInstanceAs (Decidable False)

/-- A new row of a file that had none. -/
structure FreshRow (db : Database) (row : Outbox) : Prop where
  id : row.id = db.outboxes.nextKey
  attempts : row.attemptCount = 0
  room : 0 < row.maxAttempts
  single : ∀ other ∈ db.outboxes.rows, other.lifecycleId ≠ row.lifecycleId

/-- An upload leaves every outbox row, adds at most one, and deletes no lifecycle. -/
structure Uploaded (db after : Database) : Prop where
  outboxes : after.outboxes = db.outboxes ∨
    ∃ row, FreshRow db row ∧ after.outboxes.rows = db.outboxes.rows ++ [row]
  deleted : ∀ row ∈ after.lifecycles.rows, row.state = .deleted → row ∈ db.lifecycles.rows

section Uploads

variable {db after : Database} {first now : ℤ}

theorem Uploaded.refl (db : Database) : Uploaded db db where
  outboxes := .inl rfl
  deleted _ stored _ := stored

theorem uploaded_of_advance {life : Lifecycle} {expectedVersion : ℤ}
    {updates : RowUpdate Lifecycle} {event : ManagedProviderFileLifecycleEvent}
    {due : Database} (found : due.lifecycles.find? life.id = some life)
    (outboxes : due.outboxes = db.outboxes ∨
      ∃ row, FreshRow db row ∧ due.outboxes.rows = db.outboxes.rows ++ [row])
    (lifecycles : due.lifecycles = db.lifecycles)
    (undeleted : (updates.apply life).state ≠ .deleted)
    (advanced : appendEventAndAdvanceManagedProviderFileLifecycle due life
      expectedVersion updates event = .ok after) : Uploaded db after := by
  rcases advance_others found advanced with ⟨same, _, _, rows⟩
  refine ⟨?_, ?_⟩
  · rw [same]
    exact outboxes
  · intro row stored deleted
    rcases rows row stored with past | ⟨_, state⟩
    · rw [← lifecycles]
      exact past
    · exact absurd (state.symm.trans deleted) undeleted

theorem createOutbox_fresh {box : Outbox} (attempts : box.attemptCount = 0) (valid : box.Valid)
    (made : db.createOutbox box = .ok after) :
    after.lifecycles = db.lifecycles ∧
      ∃ row, FreshRow db row ∧ after.outboxes.rows = db.outboxes.rows ++ [row] := by
  simp only [Database.createOutbox, guard_eq_ok, Except.ok.injEq] at made
  rcases made with ⟨free, rfl⟩
  refine ⟨rfl, { box with id := db.outboxes.nextKey }, ⟨rfl, attempts, ?_, ?_⟩, rfl⟩
  · exact valid.1.2.2.2.2.1
  · intro other stored same
    apply free
    simp only [Database.outboxTaken, List.any_eq_true]
    exact ⟨other, stored, by simp [same]⟩

theorem create_uploaded {life row : Lifecycle}
    {event : ManagedProviderFileLifecycleEvent} {made : Bool}
    (intent : life.state = .intent)
    (done : createManagedProviderFileLifecycleTransaction db life event =
      .ok (row, made, after)) : Uploaded db after := by
  rcases createTransaction_ok done with ⟨_, rfl, _⟩ | ⟨_, _, rfl, _, _, rows, outboxes, _⟩
  · exact Uploaded.refl _
  · refine ⟨.inl outboxes, ?_⟩
    intro stored isRow deleted
    rcases (rows stored).mp isRow with rfl | past
    · have state : life.state = .deleted := deleted
      rw [intent] at state
      cases state
    · exact past

theorem upload_uploaded {move : ManagedProviderFileUploadTransition}
    (done : advanceManagedProviderFileUploadState db move now = .ok after) :
    Uploaded db after := by
  rcases upload_ok done with ⟨_, found, accepted, _, _, _, advanced⟩
  apply uploaded_of_advance (find?_id found) (.inl rfl) rfl ?_ advanced
  simp only [ManagedProviderFileUploadTransition.updates]
  rcases accepted with ⟨_, next, _⟩ | ⟨_, next, _⟩ | ⟨_, next, _⟩
  · simp [next]
  · simp [next]
  · simp [next]

theorem verificationFailure_uploaded {err : ManagedProviderFileVerificationFailure}
    (done : recordManagedProviderFileVerificationFailure db err first now = .ok after) :
    Uploaded db after := by
  rcases verificationFailure_ok done with ⟨_, _, found, _, _, _, _, valid, made, advanced⟩
  rcases createOutbox_fresh rfl ((Outbox.validate_eq_ok _).mp valid) made with
    ⟨lifecycles, fresh⟩
  have stored := find?_id found
  rw [← lifecycles] at stored
  refine uploaded_of_advance stored (.inr fresh) lifecycles ?_ advanced
  simp [ManagedProviderFileVerificationFailure.updates]

theorem activation_uploaded {activation : ManagedProviderFileLifecycleActivation} {moved : Bool}
    (done : activateManagedProviderFileLifecycle db activation first now = .ok (moved, after)) :
    Uploaded db after := by
  rcases activation_ok done with
    ⟨_, rfl⟩ | ⟨_, _, _, found, _, _, _, _, valid, made, advanced⟩
  · exact Uploaded.refl _
  · rcases createOutbox_fresh rfl ((Outbox.validate_eq_ok _).mp valid) made with
      ⟨lifecycles, fresh⟩
    have stored := find?_id found
    rw [← lifecycles] at stored
    refine uploaded_of_advance stored (.inr fresh) lifecycles ?_ advanced
    simp [ManagedProviderFileLifecycleActivation.updates]

theorem LifecycleCall.uploaded {call : LifecycleCall} (uploads : call.action.Uploads) :
    Uploaded db (call.run db).2 := by
  rcases call with ⟨action, first, now, refused⟩
  cases action with
  | create life event =>
    rcases create_cases db life event refused with
      ⟨same, _⟩ | ⟨row, created, after, done, intent, _, committed⟩
    · simp only [LifecycleCall.run, same]
      exact Uploaded.refl db
    · have fresh : (freshIntent life).state = .intent := intent
      simp only [LifecycleCall.run, done]
      exact create_uploaded fresh committed
  | advance _ => exact commitUnit_keeps (Uploaded.refl db) fun _ done => upload_uploaded done
  | recordVerificationFailure _ =>
    exact commitUnit_keeps (Uploaded.refl db) fun _ done => verificationFailure_uploaded done
  | activate _ => exact commit_keeps (Uploaded.refl db) fun _ _ done => activation_uploaded done
  | claim _ | markDispatched _ | retry _ | complete _ | fail _ | quarantine _ _ => cases uploads

end Uploads

end NewApi.ProviderFile
