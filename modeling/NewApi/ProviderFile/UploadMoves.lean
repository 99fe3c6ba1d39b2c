import NewApi.ProviderFile.DeletionMoves
import NewApi.ProviderFile.Upload

/-!
# Moves of the lifecycles

What the transactions leave of the rows that identify an intent.
-/

namespace NewApi.ProviderFile

open Relational Fallible Table
open NewApi.ProviderFile renaming ManagedProviderFileLifecycle → Lifecycle

def ManagedProviderFileLifecycle.reference (lifecycle : Lifecycle) :=
  (lifecycle.providerPayload, lifecycle.providerCreatedAt, lifecycle.expiresAt)

/-- The row at a later time: it is bound once. -/
structure Continues (binds : Lifecycle → Prop)
    (row later : Lifecycle) : Prop where
  id : later.id = row.id
  frozen : later.frozen = row.frozen
  active : later.state = .active →
    (row.state = .active ∧ later.reference = row.reference) ∨ binds later

/-- The rows stay what they are; a row that becomes active is bound by the transaction. -/
structure Preserves (binds : Lifecycle → Prop) (past after : Database) :
    Prop where
  later : ∀ row ∈ past.lifecycles.rows, ∃ later ∈ after.lifecycles.rows, Continues binds row later
  earlier : ∀ later ∈ after.lifecycles.rows, ∃ row ∈ past.lifecycles.rows, Continues binds row later

def NoBinding (_ : Lifecycle) : Prop :=
  False

section Preserves

variable {binds : Lifecycle → Prop} {past db after : Database}

theorem Continues.refl (binds : Lifecycle → Prop) (row : Lifecycle) : Continues binds row row where
  id := rfl
  frozen := rfl
  active live := .inl ⟨live, rfl⟩

theorem Preserves.of_same (binds : Lifecycle → Prop)
    (same : after.lifecycles = past.lifecycles) : Preserves binds past after where
  later row stored := ⟨row, same ▸ stored, Continues.refl binds row⟩
  earlier row stored := ⟨row, same ▸ stored, Continues.refl binds row⟩

theorem Preserves.advance {due : Database} {lifecycle : Lifecycle}
    {expectedVersion : ℤ} {updates : RowUpdate Lifecycle}
    {event : ManagedProviderFileLifecycleEvent} {id : ℤ}
    (same : due.lifecycles = db.lifecycles) (found : db.lifecycles.find? id = some lifecycle)
    (goes : ∀ later : Lifecycle,
      later = (ProviderFile.advance updates expectedVersion event).apply lifecycle →
        Continues binds lifecycle later)
    (advanced : appendEventAndAdvanceManagedProviderFileLifecycle due lifecycle
      expectedVersion updates event = .ok after) : Preserves binds db after := by
  rcases advance_ok advanced with ⟨rfl, _, _, _, _⟩
  have stored := mem_of_find? found
  have isRow : ∀ row ∈ db.lifecycles.rows, row.id = lifecycle.id → row = lifecycle := by
    intro row inRows sameId
    have foundRow := find?_of_mem inRows
    rw [show Keyed.key row = lifecycle.id from sameId, find?_id found] at foundRow
    exact (Option.some.inj foundRow).symm
  constructor
  · intro row inRows
    by_cases moved : row.id = lifecycle.id
    · have isLifecycle := isRow row inRows moved
      subst isLifecycle
      refine ⟨_, mem_modify.mpr (.inl ⟨row, ?_, rfl, rfl⟩), goes _ rfl⟩
      rw [same]
      exact inRows
    · refine ⟨row, mem_modify.mpr (.inr ⟨?_, moved⟩), Continues.refl binds row⟩
      rw [same]
      exact inRows
  · intro later inRows
    rcases mem_modify.mp inRows with ⟨old, prior, oldKey, rfl⟩ | ⟨other, _⟩
    · rw [same] at prior
      have isLifecycle := isRow old prior oldKey
      subst isLifecycle
      exact ⟨old, prior, goes _ rfl⟩
    · rw [same] at other
      exact ⟨later, other, Continues.refl binds later⟩

end Preserves

section Transactions

variable {db after : Database} {first now : ℤ}

/-! ## Uploads -/

theorem createOutbox_lifecycles {box : ManagedProviderFileDeletionOutbox}
    (made : db.createOutbox box = .ok after) : after.lifecycles = db.lifecycles := by
  simp only [Database.createOutbox, guard_eq_ok, Except.ok.injEq] at made
  rcases made with ⟨_, rfl⟩
  rfl

theorem advance_preserves {transition : ManagedProviderFileUploadTransition}
    (done : advanceManagedProviderFileUploadState db transition now = .ok after) :
    Preserves NoBinding db after := by
  rcases upload_ok done with ⟨_, found, accepted, _, _, _, advanced⟩
  refine Preserves.advance rfl found ?_ advanced
  rintro _ rfl
  refine ⟨rfl, rfl, ?_⟩
  intro live
  have nextState : transition.nextState = .active := live
  rcases accepted with ⟨_, next, _⟩ | ⟨_, next, _⟩ | ⟨_, next, _⟩
  · rw [next] at nextState
    cases nextState
  · rw [next] at nextState
    cases nextState
  · rw [next] at nextState
    cases nextState

theorem verificationFailure_preserves {err : ManagedProviderFileVerificationFailure}
    (done : recordManagedProviderFileVerificationFailure db err first now = .ok after) :
    Preserves NoBinding db after := by
  rcases verificationFailure_ok done with ⟨_, _, found, _, _, _, _, _, made, advanced⟩
  refine Preserves.advance (createOutbox_lifecycles made) found ?_ advanced
  rintro _ rfl
  refine ⟨rfl, rfl, ?_⟩
  intro live
  cases live

def ManagedProviderFileLifecycleActivation.Binds
    (activation : ManagedProviderFileLifecycleActivation)
    (lifecycle : Lifecycle) : Prop :=
  lifecycle.id = activation.lifecycleId ∧ lifecycle.providerPayload = activation.providerPayload ∧
    lifecycle.providerPayload ≠ [] ∧ lifecycle.providerCreatedAt.isSome ∧
    lifecycle.expiresAt.isSome

theorem activation_preserves {activation : ManagedProviderFileLifecycleActivation} {moved : Bool}
    (done : activateManagedProviderFileLifecycle db activation first now = .ok (moved, after)) :
    Preserves activation.Binds db after := by
  rcases activation_ok done with
    ⟨_, rfl⟩ | ⟨_, lifecycle, _, found, valid, _, _, _, _, made, advanced⟩
  · exact Preserves.of_same _ rfl
  · refine Preserves.advance (createOutbox_lifecycles made) found ?_ advanced
    rintro _ rfl
    have sameId : lifecycle.id = activation.lifecycleId := key_of_find? found
    exact ⟨rfl, rfl, fun _ => .inr ⟨sameId, rfl, valid.2.2.2.2.1, rfl, rfl⟩⟩

/-- A creation adds a row whose intent no row has, and leaves all others. -/
structure Creates (lifecycle : Lifecycle) (past after : Database)
    (row : Lifecycle) : Prop where
  stored : ∃ id event, row = (setEventHead event).apply (lifecycle.withId id)
  fresh : ∀ other ∈ past.lifecycles.rows,
    other.id ≠ row.id ∧ other.uploadIntentHMAC ≠ lifecycle.uploadIntentHMAC
  rows : ∀ other, other ∈ after.lifecycles.rows ↔ other = row ∨ other ∈ past.lifecycles.rows

namespace Creates

variable {lifecycle row : Lifecycle}

variable (creates : Creates lifecycle db after row)

include creates

theorem frozen : row.frozen = lifecycle.frozen := by
  rcases creates.stored with ⟨_, _, rfl⟩
  rfl

theorem state : row.state = lifecycle.state := by
  rcases creates.stored with ⟨_, _, rfl⟩
  rfl

theorem valid (valid : lifecycle.Valid) : row.ValidIdentity := by
  have frozen := creates.frozen
  rcases creates.stored with ⟨_, _, rfl⟩
  exact valid.1.change frozen valid.1.version_pos valid.1.bytes_nonneg valid.1.reason_fits

end Creates

theorem create_creates {lifecycle row : Lifecycle} {event : ManagedProviderFileLifecycleEvent}
    (done : createManagedProviderFileLifecycleTransaction db lifecycle event =
      .ok (row, true, after)) : Creates lifecycle db after row := by
  rcases createTransaction_ok done with ⟨never, _⟩ | ⟨_, missing, rfl, _, _, rows, _⟩
  · cases never
  · refine ⟨⟨_, _, rfl⟩, ?_, rows⟩
    intro other stored
    have below := key_lt_nextKey stored
    refine ⟨ne_of_lt below, ?_⟩
    intro same
    have absent := List.find?_eq_none.mp missing other stored
    simp [same] at absent

/-- A creation under a fault: nothing is stored, or one row with its event. -/
theorem createUnder_cases (fault : Fault) (db : Database)
    (lifecycle : Lifecycle) (event : ManagedProviderFileLifecycleEvent) :
    ((createUnder fault db lifecycle event).2 = (none, db) ∧
        ∀ row, (createUnder fault db lifecycle event).1 ≠ .ok (row, true)) ∨
      ∃ row after, (createUnder fault db lifecycle event).2 = (some row, after) ∧
        Creates (freshIntent lifecycle) db after row ∧ (freshIntent lifecycle).Valid ∧
        ∀ found, (createUnder fault db lifecycle event).1 = .ok (found, true) → found = row := by
  have answered : ∀ refused,
      ((createdRow (createManagedProviderFileLifecycleIntent db lifecycle event refused).1,
          (createManagedProviderFileLifecycleIntent db lifecycle event refused).2) = (none, db) ∧
        ∀ row, (createManagedProviderFileLifecycleIntent db lifecycle event refused).1 ≠
          .ok (row, true)) ∨
      ∃ row after,
        (createdRow (createManagedProviderFileLifecycleIntent db lifecycle event refused).1,
          (createManagedProviderFileLifecycleIntent db lifecycle event refused).2) =
            (some row, after) ∧
        Creates (freshIntent lifecycle) db after row ∧ (freshIntent lifecycle).Valid ∧
        ∀ found, (createManagedProviderFileLifecycleIntent db lifecycle event refused).1 =
          .ok (found, true) → found = row := by
    intro refused
    rcases create_cases db lifecycle event refused with
      ⟨same, none_created⟩ | ⟨row, made, after, done, _, valid, committed⟩
    · left
      refine ⟨?_, none_created⟩
      rw [same]
      cases reply : (createManagedProviderFileLifecycleIntent db lifecycle event refused).1 with
      | error _ => rfl
      | ok found =>
        rcases found with ⟨row, _ | _⟩
        · rfl
        · exact absurd reply (none_created row)
    · rw [done]
      cases made with
      | false =>
        rw [createTransaction_unchanged committed]
        exact .inl ⟨rfl, by simp⟩
      | true =>
        refine .inr ⟨row, after, rfl, create_creates committed, valid, ?_⟩
        intro _ same
        cases same
        rfl
  cases fault with
  | none => exact answered false
  | refused => exact answered true
  | unanswered =>
    simp only [createUnder, createUnanswered]
    cases checked : checkIntent lifecycle event with
    | error _ => exact .inl ⟨rfl, by simp⟩
    | ok _ =>
      have notCreated : ∀ (db : Database) (err : ManagedProviderFileError) row,
          findAfterError db (freshIntent lifecycle) err ≠ .ok (row, true) := by
        intro _ _ _ found
        cases findAfterError_found found
      cases committed : createManagedProviderFileLifecycleTransaction db
          (freshIntent lifecycle) event with
      | error err => exact .inl ⟨rfl, notCreated db err⟩
      | ok done =>
        rcases done with ⟨row, made, after⟩
        cases made with
        | false =>
          rw [createTransaction_unchanged committed]
          exact .inl ⟨rfl, notCreated db _⟩
        | true =>
          refine .inr ⟨row, after, rfl, create_creates committed, (checkIntent_ok checked).2, ?_⟩
          intro found never
          exact absurd never (notCreated after _ found)

/-! ## Deletions -/

theorem claim_preserves {claim : ManagedProviderFileDeletionClaim}
    {claimed : Option ManagedProviderFileDeletionOutbox}
    (done : claimManagedProviderFileDeletion db claim now = .ok (claimed, after)) :
    Preserves NoBinding db after := by
  rcases claim_ok done with ⟨_, rfl⟩ | ⟨_, _, lifecycle, _, _, _, step⟩
  · exact Preserves.of_same _ rfl
  · refine Preserves.advance (by rfl) step.found ?_ step.advanced
    rintro _ rfl
    by_cases starts : lifecycle.state = .active ∨ lifecycle.state = .verificationFailed
    · simp only [advance, claimLifecycleUpdates, if_pos starts]
      exact ⟨rfl, rfl, by simp⟩
    · simp only [advance, claimLifecycleUpdates, if_neg starts]
      exact ⟨rfl, rfl, fun live => .inl ⟨live, rfl⟩⟩

theorem noUpdates_preserves {boxId : ℤ} {box : ManagedProviderFileDeletionOutbox}
    {lifecycle : Lifecycle} {change : RowUpdate ManagedProviderFileDeletionOutbox}
    {event : ManagedProviderFileLifecycleEvent}
    (step : DeletionStep db after boxId box lifecycle change noUpdates event) :
    Preserves NoBinding db after := by
  refine Preserves.advance (by rfl) step.found ?_ step.advanced
  rintro _ rfl
  exact ⟨rfl, rfl, fun live => .inl ⟨live, rfl⟩⟩

theorem mark_preserves {dispatch : ManagedProviderFileDeletionDispatch}
    {marked : ManagedProviderFileDeletionOutbox}
    (done : markManagedProviderFileDeletionDispatched db dispatch now = .ok (marked, after)) :
    Preserves NoBinding db after := by
  rcases mark_ok done with ⟨_, _, _, _, _, _, _, step⟩
  exact noUpdates_preserves step

theorem retry_preserves {retry : ManagedProviderFileDeletionRetry}
    (done : retryManagedProviderFileDeletion db retry first now = .ok after) :
    Preserves NoBinding db after := by
  rcases retry_ok done with ⟨_, _, _, _, _, _, _, _, step⟩
  exact noUpdates_preserves step

theorem finish_preserves {terminal : ManagedProviderFileDeletionTerminal}
    {boxState : DeletionOutboxState} {lifeState : LifecycleState}
    {eventType : LifecycleEventType} (ends : lifeState ≠ .active)
    (done : finishManagedProviderFileDeletion db terminal boxState lifeState eventType
      now = .ok after) : Preserves NoBinding db after := by
  rcases finish_ok done with ⟨_, _, _, _, step⟩
  refine Preserves.advance (by rfl) step.found ?_ step.advanced
  rintro _ rfl
  by_cases deletes : lifeState = .deleted
  · simp only [advance, ManagedProviderFileDeletionTerminal.lifecycleUpdates, if_pos deletes]
    exact ⟨rfl, rfl, fun live => absurd live ends⟩
  · simp only [advance, ManagedProviderFileDeletionTerminal.lifecycleUpdates, if_neg deletes]
    exact ⟨rfl, rfl, fun live => absurd live ends⟩

theorem quarantine_preserves {boxId expectedVersion : ℤ} {moved : Bool}
    (done : quarantineOrphanedManagedProviderFileDeletion db boxId expectedVersion now =
      .ok (moved, after)) : Preserves NoBinding db after := by
  rcases quarantine_ok done with ⟨_, rfl⟩ | ⟨_, _, _, _, _, _, rfl⟩
  · exact Preserves.of_same _ rfl
  · exact Preserves.of_same _ rfl

theorem LifecycleCall.preserves {call : LifecycleCall} (deletes : ¬call.action.Uploads) :
    Preserves NoBinding db (call.run db).2 := by
  rcases call with ⟨action, _, _, refused⟩
  cases action with
  | create _ _ | advance _ | recordVerificationFailure _ | activate _ =>
    exact absurd trivial deletes
  | claim _ => exact commit_keeps (Preserves.of_same _ rfl) fun _ _ done => claim_preserves done
  | markDispatched _ =>
    exact commit_keeps (Preserves.of_same _ rfl) fun _ _ done => mark_preserves done
  | retry _ => exact commitUnit_keeps (Preserves.of_same _ rfl) fun _ done => retry_preserves done
  | complete _ =>
    refine commitUnit_keeps (Preserves.of_same _ rfl) fun _ done => ?_
    simp only [completeManagedProviderFileDeletion, guard_eq_ok] at done
    exact finish_preserves (by simp) done.2
  | fail _ =>
    refine commitUnit_keeps (Preserves.of_same _ rfl) fun _ done => ?_
    simp only [failManagedProviderFileDeletion, guard_eq_ok] at done
    exact finish_preserves (by simp) done.2
  | quarantine _ _ =>
    exact commit_keeps (Preserves.of_same _ rfl) fun _ _ done => quarantine_preserves done

end Transactions

end NewApi.ProviderFile
