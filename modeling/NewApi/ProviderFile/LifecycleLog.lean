import NewApi.Library.Transition
import NewApi.ProviderFile.Deletion

/-!
# The event log explains the records

Every transaction that changes a lifecycle appends an event that continues the chain of the
lifecycle at its head, and changes the row to the state that the event names.
-/

namespace NewApi.ProviderFile

open Relational Transition Fallible Table
open NewApi.ProviderFile renaming ManagedProviderFileDeletionOutbox → Outbox,
  ManagedProviderFileLifecycle → Lifecycle, ManagedProviderFileLifecycleEvent → LifecycleEvent,
  ManagedProviderFileDeletionTerminal → DeletionTerminal

def ManagedProviderFileLifecycle.head (life : Lifecycle) :
    Journal.Head String (Option LifecycleState) where
  sequence := life.lastEventSequence
  digest := life.lastEventHMAC
  state := some life.state

def blankHead : Journal.Head String (Option LifecycleState) where
  sequence := 0
  digest := ""
  state := none

/-- A stored lifecycle is valid, and was not deleted before it was bound. -/
structure ManagedProviderFileLifecycle.Sound (life : Lifecycle) :
    Prop where
  valid : life.Valid
  undeleted : life.state = .uploadDispatched → life.Undeleted

/-- Every row is valid, and the events of each lifecycle explain it. -/
structure Database.Sound (db : Database) : Prop where
  lifecycles : ∀ row ∈ db.lifecycles.rows, row.Sound
  explained : ∀ row ∈ db.lifecycles.rows,
    Journal.replay blankHead (db.eventsOf row.id) = some row.head
  outboxes : ∀ row ∈ db.outboxes.rows, row.Valid
  owned : ∀ event ∈ db.events, ∃ row ∈ db.lifecycles.rows, row.id = event.lifecycleId

def LifecycleState.Terminal (state : LifecycleState) : Prop :=
  state = .deleted ∨ state = .deletionFailed ∨ state = .uploadFailed ∨ state = .uploadUnknown

/-- Versions and sequences have only grown, terminal states and events have stayed. -/
structure Grown (past after : Database) : Prop where
  lifecycles : ∀ row ∈ past.lifecycles.rows, ∃ later ∈ after.lifecycles.rows,
    later.id = row.id ∧ row.version ≤ later.version ∧
      row.lastEventSequence ≤ later.lastEventSequence ∧
      (row.state.Terminal → later.state = row.state)
  outboxes : ∀ row ∈ past.outboxes.rows, ∃ later ∈ after.outboxes.rows,
    later.id = row.id ∧ row.version ≤ later.version
  events : past.events <+: after.events

theorem Grown.refl (db : Database) : Grown db db where
  lifecycles row stored := ⟨row, stored, rfl, le_refl _, le_refl _, fun _ => rfl⟩
  outboxes row stored := ⟨row, stored, rfl, le_refl _⟩
  events := List.prefix_refl _

theorem Grown.trans {past middle after : Database} (first : Grown past middle)
    (second : Grown middle after) : Grown past after where
  lifecycles := by
    intro row stored
    rcases first.lifecycles row stored with
      ⟨between, storedBetween, sameBetween, ver, sequence, stays⟩
    rcases second.lifecycles between storedBetween with
      ⟨later, storedLater, sameLater, versionLater, sequenceLater, staysLater⟩
    refine ⟨later, storedLater, sameLater.trans sameBetween, le_trans ver versionLater,
      le_trans sequence sequenceLater, ?_⟩
    intro terminal
    have same := stays terminal
    rw [← same] at terminal
    exact (staysLater terminal).trans same
  outboxes := by
    intro row stored
    rcases first.outboxes row stored with ⟨between, storedBetween, sameBetween, ver⟩
    rcases second.outboxes between storedBetween with
      ⟨later, storedLater, sameLater, versionLater⟩
    exact ⟨later, storedLater, sameLater.trans sameBetween, le_trans ver versionLater⟩
  events := first.events.trans second.events

structure Database.Reached (base db : Database) : Prop extends db.Sound where
  grown : Grown base db

/-! ## Appending an event -/

section Append

variable {db after : Database} {life : Lifecycle} {wanted : ℤ}
  {updates : RowUpdate Lifecycle} {event : LifecycleEvent}

def Database.stored (db : Database) (event : LifecycleEvent) :
    LifecycleEvent :=
  { event with id := if event.id = 0 then db.nextEventId else event.id }

def Database.withEvent (db : Database) (event : LifecycleEvent) : Database :=
  { db with events := db.events ++ [db.stored event] }

theorem createEvent_ok (made : db.createEvent event = .ok after) :
    after = db.withEvent event := by
  simp only [Database.createEvent, guard_eq_ok, Except.ok.injEq] at made
  exact made.2.symm

theorem append_ok (added : appendManagedProviderFileLifecycleEvent db event = .ok after) :
    after = db.withEvent event ∧ event.Valid ∧ (db.eventsOf event.lifecycleId = [] →
        event.sequence = 1 ∧ event.previousEventHMAC = "") := by
  simp only [appendManagedProviderFileLifecycleEvent] at added
  split at added
  next =>
    simp only [guard_eq_ok, not_or, not_not] at added
    rcases added with ⟨first, rest⟩
    rcases bind_eq_ok.mp rest with ⟨_, valid, made⟩
    exact ⟨createEvent_ok made, event.validate_eq_ok.mp valid, fun _ => first⟩
  next found =>
    simp only [guard_eq_ok] at added
    rcases bind_eq_ok.mp added.2 with ⟨_, valid, made⟩
    refine ⟨createEvent_ok made, event.validate_eq_ok.mp valid, ?_⟩
    intro empty
    rw [empty] at found
    cases found

variable (found : db.lifecycles.find? life.id = some life)
  (advanced : appendEventAndAdvanceManagedProviderFileLifecycle db life wanted
    updates event = .ok after)

include advanced in
theorem advance_ok :
    after =
        { db.withEvent event with
          lifecycles := db.lifecycles.modify life.id (advance updates wanted event) } ∧
      event.Valid ∧ event.lifecycleId = life.id ∧
      Journal.Follows life.head event ∧ life.version = wanted := by
  simp only [appendEventAndAdvanceManagedProviderFileLifecycle, guard_eq_ok] at advanced
  rcases advanced with ⟨current, goes, rest⟩
  rcases bind_eq_ok.mp rest with ⟨_, append, last⟩
  rcases append_ok append with ⟨rfl, valid, _⟩
  simp only [not_or, not_not] at current goes
  simp only [guard_eq_ok, Except.ok.injEq] at last
  rcases last with ⟨_, hits, rfl⟩
  have update := updateWhere_affected (not_not.mp hits)
  rcases update with ⟨_, _, _, moved⟩
  refine ⟨?_, valid, goes.1, ⟨goes.2.1, goes.2.2.1, goes.2.2.2⟩, current.1⟩
  rw [moved]
  rfl

theorem eventsOf_withEvent (db : Database) (event : LifecycleEvent) (lifeId : ℤ) :
    (db.withEvent event).eventsOf lifeId = db.eventsOf lifeId ++
        if event.lifecycleId = lifeId then [db.stored event] else [] := by
  simp only [Database.eventsOf, Database.withEvent, List.filter_append]
  by_cases same : event.lifecycleId = lifeId
  · simp [Database.stored, same]
  · simp [Database.stored, same]

theorem not_terminal_of_valid {state : LifecycleState} (valid : event.Valid)
    (src : event.fromState = some state) : ¬state.Terminal := by
  have move := valid.2
  simp only [LifecycleEvent.ValidTransition, src] at move
  rintro (rfl | rfl | rfl | rfl)
  · split at move <;> simp at move
  · split at move <;> simp at move
  · split at move <;> simp at move
  · split at move <;> simp at move

include found advanced in
theorem Grown.advance : Grown db after := by
  rcases advance_ok advanced with ⟨rfl, valid, _, follows, _⟩
  refine ⟨?_, fun row stored => ⟨row, stored, rfl, le_refl _⟩, List.prefix_append _ _⟩
  intro row stored
  by_cases moved : row.id = life.id
  · have same : row = life := eq_of_find? found stored moved
    subst same
    refine ⟨(ProviderFile.advance updates wanted event).apply row,
      mem_modify.mpr (.inl ⟨row, stored, rfl, rfl⟩), updates.key_apply row, ?_, ?_, ?_⟩
    · simp only [ProviderFile.advance]
      omega
    · have numbered : event.sequence = row.lastEventSequence + 1 := follows.1
      simp only [ProviderFile.advance]
      omega
    · intro terminal
      exact absurd terminal (not_terminal_of_valid valid follows.2.2)
  · exact ⟨row, mem_modify.mpr (.inr ⟨stored, moved⟩), rfl, le_refl _, le_refl _, fun _ => rfl⟩

variable (changedSound : event.Valid → Journal.Follows life.head event →
    ((ProviderFile.advance updates wanted event).apply life).Sound)
  (named : event.Valid → event.fromState = some life.state →
    (updates.apply life).state = event.toState)

include found advanced changedSound named

theorem Database.Sound.advance (sound : db.Sound) : after.Sound := by
  rcases advance_ok advanced with ⟨rfl, valid, owner, follows, _⟩
  have stored := mem_of_find? found
  have key : ∀ row : Lifecycle, Keyed.key row = row.id := fun _ => rfl
  constructor
  · intro row isRow
    rcases mem_modify.mp isRow with ⟨old, prior, oldKey, rfl⟩ | ⟨other, _⟩
    · have same : old = life := eq_of_find? found prior oldKey
      subst same
      exact changedSound valid follows
    · exact sound.lifecycles row other
  · intro row isRow
    rcases mem_modify.mp isRow with ⟨old, prior, oldKey, rfl⟩ | ⟨other, apart⟩
    · have same : old = life := eq_of_find? found prior oldKey
      subst same
      have id_kept : ((ProviderFile.advance updates wanted event).apply old).id = old.id :=
        updates.key_apply old
      have events : Database.eventsOf
          { db.withEvent event with
            lifecycles := db.lifecycles.modify old.id
              (ProviderFile.advance updates wanted event) } old.id =
          db.eventsOf old.id ++ [db.stored event] := by
        have grown := eventsOf_withEvent db event old.id
        rw [if_pos owner] at grown
        exact grown
      rw [id_kept, events]
      have followsStored : Journal.Follows old.head (db.stored event) := follows
      rw [Journal.replay_snoc (sound.explained old prior) followsStored]
      have state := named valid follows.2.2
      simp only [Journal.leave, Lifecycle.head, Option.some.injEq]
      congr 1
      exact congrArg some state.symm
    · have events := eventsOf_withEvent db event row.id
      have notOwner : event.lifecycleId ≠ row.id := by
        intro same
        exact apart ((key row).trans (same.symm.trans owner))
      rw [if_neg notOwner, List.append_nil] at events
      exact (congrArg _ events).trans (sound.explained row other)
  · exact sound.outboxes
  · intro added inEvents
    rcases List.mem_append.mp inEvents with old | new
    · rcases sound.owned added old with ⟨row, isRow, same⟩
      by_cases moved : row.id = life.id
      · refine ⟨(ProviderFile.advance updates wanted event).apply row,
          mem_modify.mpr (.inl ⟨row, isRow, moved, rfl⟩), ?_⟩
        rw [← same]
        exact updates.key_apply row
      · exact ⟨row, mem_modify.mpr (.inr ⟨isRow, moved⟩), same⟩
    · rw [List.mem_singleton.mp new]
      refine ⟨(ProviderFile.advance updates wanted event).apply life,
        mem_modify.mpr (.inl ⟨life, stored, rfl, rfl⟩), ?_⟩
      exact (updates.key_apply life).trans owner.symm

theorem Database.Reached.advance {base : Database} (reached : base.Reached db) :
    base.Reached after :=
  { reached.toSound.advance found advanced changedSound named with
    grown := reached.grown.trans (Grown.advance found advanced) }

end Append

/-! ## Changed rows stay valid -/

namespace ManagedProviderFileLifecycle

def frozen (life : Lifecycle) :=
  (life.uploadIntentHMAC, life.handleLookupHMAC, life.ownerHMAC,
    life.requestFingerprint, life.lookupKeyVersion, life.payloadKeyVersion,
    life.provider, life.channelId, life.channelType, life.channelIsMultiKey,
    life.channelMultiKeyIndex, life.credentialFingerprint,
    life.credentialFingerprintKeyVersion, life.endpointFingerprint,
    life.providerScopeFingerprint, life.purpose)

theorem ValidIdentity.change {old new : Lifecycle} (valid : old.ValidIdentity)
    (same : new.frozen = old.frozen) (ver : 0 < new.version) (bytes : 0 ≤ new.providerBytes)
    (reason : new.terminalReasonCode.utf8ByteSize ≤ 64) : new.ValidIdentity := by
  simp only [frozen, Prod.mk.injEq] at same
  rcases same with ⟨intent, handle, owner, fingerprint, lookupKey, payloadKey, provider, chan,
    channelType, multiKey, keyIndex, credential, credentialKey, endpoint, scope, purpose⟩
  rcases valid with ⟨v1, v2, v3, v4, v5, v6, v7, v8, v9, v10, v11, v12, v13, v14, v15, v16, _⟩
  rw [← intent] at v1
  rw [← handle] at v2
  rw [← owner] at v3
  rw [← fingerprint] at v4
  rw [← lookupKey] at v5
  rw [← payloadKey] at v6
  rw [← provider] at v7
  rw [← chan] at v8
  rw [← channelType] at v9
  rw [← multiKey] at v10
  rw [← keyIndex] at v11
  rw [← credential] at v12
  rw [← credentialKey] at v13
  rw [← endpoint] at v14
  rw [← scope] at v15
  rw [← purpose] at v16
  exact ⟨v1, v2, v3, v4, v5, v6, v7, v8, v9, v10, v11, v12, v13, v14, v15, v16, ver, bytes, reason⟩

variable {life : Lifecycle}

variable (valid : life.ValidIdentity)

include valid

theorem ValidIdentity.version_pos : 0 < life.version := by
  rcases valid with ⟨_, _, _, _, _, _, _, _, _, _, _, _, _, _, _, _, ver, _⟩
  exact ver

theorem ValidIdentity.bytes_nonneg : 0 ≤ life.providerBytes := by
  rcases valid with ⟨_, _, _, _, _, _, _, _, _, _, _, _, _, _, _, _, _, bytes, _⟩
  exact bytes

theorem ValidIdentity.reason_fits : life.terminalReasonCode.utf8ByteSize ≤ 64 := by
  rcases valid with ⟨_, _, _, _, _, _, _, _, _, _, _, _, _, _, _, _, _, _, reason⟩
  exact reason

end ManagedProviderFileLifecycle

section Changes

variable {life : Lifecycle} {wanted now : ℤ}
  {updates : RowUpdate Lifecycle} {event : LifecycleEvent}

theorem sound_advance (sound : life.Sound) (current : life.version = wanted)
    (valid : event.Valid) (same : (updates.apply life).frozen = life.frozen)
    (bytes : 0 ≤ (updates.apply life).providerBytes)
    (reason : (updates.apply life).terminalReasonCode.utf8ByteSize ≤ 64)
    (state : (updates.apply life).ValidState)
    (undeleted : (updates.apply life).state = .uploadDispatched → (updates.apply life).Undeleted) :
    ((advance updates wanted event).apply life).Sound where
  valid := by
    refine ⟨?_, ?_, state⟩
    · have moved : ((advance updates wanted event).apply life).frozen =
          life.frozen := same
      have pos := sound.valid.1.version_pos
      have ver : 0 < ((advance updates wanted event).apply life).version := by
        simp only [advance]
        omega
      exact sound.valid.1.change moved ver bytes reason
    · have pos := valid.1.2.1
      have digest := valid.1.2.2.1
      constructor
      · intro zero
        simp only [advance] at zero
        omega
      · intro _
        exact ⟨le_of_lt pos, digest⟩
  undeleted := undeleted

theorem setTime_some {time : ℤ} (set : time ≠ 0) : setTime (some time) :=
  ⟨time, rfl, set⟩

theorem setTime.isSome {time : Option ℤ} (set : setTime time) : time.isSome := by
  rcases set with ⟨_, held, _⟩
  rw [Option.mem_def.mp held]
  rfl

/-- The event type that an upload transition to a state has to carry. -/
def uploadEventType : LifecycleState → LifecycleEventType
  | .uploadDispatched => .uploadDispatched
  | .uploadFailed => .uploadFailed
  | _ => .uploadUnknown

theorem sound_upload {move : ManagedProviderFileUploadTransition} (sound : life.Sound)
    (current : life.version = wanted)
    (expected : life.state = move.expectedState) (accepted : move.Valid)
    (fits : move.reasonCode.utf8ByteSize ≤ 64) (real : now ≠ 0) (valid : event.Valid) :
    ((advance (move.updates now) wanted event).apply life).Sound := by
  have bytes := sound.valid.1.bytes_nonneg
  have state := sound.valid.2.2
  apply sound_advance sound current valid rfl bytes fits
  · simp only [Lifecycle.ValidState] at state ⊢
    rcases accepted with ⟨from_state, to_state, reason⟩ | ⟨from_state, to_state, reason⟩ |
      ⟨from_state, to_state, reason⟩
    · rw [expected, from_state] at state
      simp only [ManagedProviderFileUploadTransition.updates, to_state]
      rcases state with ⟨unbound, _, failed, unknown, raw, _, _⟩
      exact ⟨unbound, setTime_some real, failed, unknown, raw, reason⟩
    · simp only [ManagedProviderFileUploadTransition.updates, to_state]
      rcases from_state with from_state | from_state
      · rw [expected, from_state] at state
        rcases state with ⟨unbound, _, _, _, raw, _, _⟩
        exact ⟨unbound, setTime_some real, raw, reason⟩
      · rw [expected, from_state] at state
        rcases state with ⟨unbound, _, _, _, raw, _⟩
        exact ⟨unbound, setTime_some real, raw, reason⟩
    · rw [expected, from_state] at state
      simp only [ManagedProviderFileUploadTransition.updates, to_state]
      rcases state with ⟨unbound, dispatched, _, _, raw, _⟩
      exact ⟨unbound, dispatched.isSome, setTime_some real, raw, reason⟩
  · intro dispatched
    rcases accepted with ⟨from_state, _, _⟩ | ⟨_, to_state, _⟩ | ⟨_, to_state, _⟩
    · simp only [Lifecycle.ValidState] at state
      rw [expected, from_state] at state
      exact state.2.2.2.2.2.1
    · simp [ManagedProviderFileUploadTransition.updates, to_state] at dispatched
    · simp [ManagedProviderFileUploadTransition.updates, to_state] at dispatched

theorem upload_named {move : ManagedProviderFileUploadTransition} (accepted : move.Valid)
    (typed : move.event.eventType = uploadEventType move.nextState)
    (valid : move.event.Valid) : move.nextState = move.event.toState := by
  have named := valid.2
  simp only [LifecycleEvent.ValidTransition, typed] at named
  rcases accepted with ⟨_, to_state, _⟩ | ⟨_, to_state, _⟩ | ⟨_, to_state, _⟩
  · rw [to_state] at named ⊢
    exact named.2.1.symm
  · rw [to_state] at named ⊢
    exact named.2.1.symm
  · rw [to_state] at named ⊢
    exact named.2.1.symm

theorem sound_verificationFailure {err : ManagedProviderFileVerificationFailure}
    (sound : life.Sound) (current : life.version = wanted)
    (dispatched : life.state = .uploadDispatched) (accepted : err.Valid)
    (expires : err.expiresAt ≠ 0) (real : now ≠ 0) (valid : event.Valid) :
    ((advance (err.updates now) wanted event).apply life).Sound := by
  rcases accepted with ⟨_, _, _, lookup, body, bytes, made, ordered, reason, fits, _⟩
  have state := sound.valid.2.2
  simp only [Lifecycle.ValidState] at state
  rw [dispatched] at state
  rcases state with ⟨unbound, dispatchedAt, _, _, _, _⟩
  rcases unbound with ⟨_, _, _, _, raw, _, inactive⟩
  apply sound_advance sound current valid rfl (le_of_lt bytes) fits
  · exact ⟨⟨⟨_, rfl, lookup⟩, bytes, setTime_some made, setTime_some expires, _, rfl, _, rfl,
      ordered⟩, body, raw, inactive, dispatchedAt.isSome, setTime_some real, reason,
      sound.undeleted dispatched⟩
  · intro never
    cases never

theorem sound_activation {activation : ManagedProviderFileLifecycleActivation} {first : ℤ}
    (sound : life.Sound) (current : life.version = wanted)
    (dispatched : life.state = .uploadDispatched) (accepted : activation.Valid first)
    (valid : event.Valid) :
    ((advance (activation.updates now) wanted event).apply life).Sound := by
  rcases accepted with ⟨_, _, _, lookup, body, bytes, made, verified, expires, _, ordered, _⟩
  have state := sound.valid.2.2
  simp only [Lifecycle.ValidState] at state
  rw [dispatched] at state
  rcases state with ⟨_, _, _, _, notFailed, reason⟩
  have binding : ((activation.updates now).apply life).VerifiedBinding :=
    ⟨notFailed, setTime_some verified, rfl⟩
  apply sound_advance sound current valid rfl (le_of_lt bytes) sound.valid.1.reason_fits
  · exact ⟨⟨⟨⟨_, rfl, lookup⟩, bytes, setTime_some made, setTime_some expires, _, rfl, _, rfl,
      ordered⟩, .inl binding, fun _ => body⟩, binding, sound.undeleted dispatched, reason⟩
  · intro never
    cases never

theorem sound_claim (sound : life.Sound) (current : life.version = wanted) (valid : event.Valid) :
    ((advance (claimLifecycleUpdates life now) wanted event).apply life).Sound := by
  have ident := sound.valid.1
  by_cases starts : life.state = .active ∨ life.state = .verificationFailed
  · have moved : (claimLifecycleUpdates life now).apply life =
        { life with state := .deletionPending, deletionStartedAt := some now } := if_pos starts
    have state := sound.valid.2.2
    simp only [Lifecycle.ValidState] at state
    apply sound_advance sound current valid
    · rw [moved]
      rfl
    · rw [moved]
      exact ident.bytes_nonneg
    · rw [moved]
      exact ident.reason_fits
    · rw [moved]
      rcases starts with live | failed
      · rw [live] at state
        rcases state with ⟨⟨binding, verified, body⟩, _, undeleted, _⟩
        exact ⟨⟨binding, verified, fun _ => body (by rw [live]; decide)⟩, rfl, undeleted.2.1,
          undeleted.2.2⟩
      · rw [failed] at state
        rcases state with ⟨binding, body, raw, inactive, _, failedAt, _, undeleted⟩
        exact ⟨⟨binding, .inr ⟨failedAt, raw, inactive⟩, fun _ => body⟩, rfl,
          undeleted.2.1, undeleted.2.2⟩
    · intro never
      rw [moved] at never
      cases never
  · have kept : (claimLifecycleUpdates life now).apply life = life :=
      if_neg starts
    apply sound_advance sound current valid
    · rw [kept]
    · rw [kept]
      exact ident.bytes_nonneg
    · rw [kept]
      exact ident.reason_fits
    · rw [kept]
      exact sound.valid.2.2
    · rw [kept]
      exact sound.undeleted

theorem claim_named (valid : event.Valid) (src : event.fromState = some life.state)
    (typed : event.eventType = .deletionRecoveryStarted ∨ event.eventType = .deletionStarted ∨
      event.eventType = .deletionAttemptStarted) :
    ((claimLifecycleUpdates life now).apply life).state = event.toState := by
  have move := valid.2
  simp only [LifecycleEvent.ValidTransition] at move
  by_cases starts : life.state = .active ∨ life.state = .verificationFailed
  · have moved : (claimLifecycleUpdates life now).apply life =
        { life with state := .deletionPending, deletionStartedAt := some now } := if_pos starts
    rw [moved]
    rcases typed with typed | typed | typed
    · rw [typed] at move
      exact move.2.1.symm
    · rw [typed] at move
      exact move.2.1.symm
    · rw [typed] at move
      exact move.2.1.symm
  · have kept : (claimLifecycleUpdates life now).apply life = life :=
      if_neg starts
    rw [kept]
    have pending : event.fromState = some .deletionPending := by
      rcases typed with typed | typed | typed
      · rw [typed] at move
        exact move.1
      · rw [typed, src] at move
        rcases move.1 with live | failed
        · exact absurd (.inl (Option.some.inj live)) starts
        · exact absurd (.inr (Option.some.inj failed)) starts
      · rw [typed] at move
        exact move.1
    have goal : event.toState = .deletionPending := by
      rcases typed with typed | typed | typed
      · rw [typed] at move
        exact move.2.1
      · rw [typed] at move
        exact move.2.1
      · rw [typed] at move
        exact move.2.1
    rw [goal]
    exact Option.some.inj (src.symm.trans pending)

theorem sound_unchanged (sound : life.Sound) (current : life.version = wanted)
    (valid : event.Valid) : ((advance noUpdates wanted event).apply life).Sound :=
  sound_advance sound current valid rfl sound.valid.1.bytes_nonneg sound.valid.1.reason_fits
    sound.valid.2.2 sound.undeleted

theorem sound_finish {terminal : DeletionTerminal} {lifeState : LifecycleState} (sound : life.Sound)
    (current : life.version = wanted) (pending : life.state = .deletionPending)
    (ends : lifeState = .deleted ∨
      (lifeState = .deletionFailed ∧ Text.isBlank terminal.errorCode = false ∧
        terminal.errorCode.utf8ByteSize ≤ 64)) (valid : event.Valid) :
    ((advance (terminal.lifecycleUpdates lifeState now) wanted event).apply life).Sound := by
  have ident := sound.valid.1
  have state := sound.valid.2.2
  simp only [Lifecycle.ValidState] at state
  rw [pending] at state
  rcases state with ⟨⟨binding, verified, body⟩, started, undeleted, unfailed⟩
  rcases ends with rfl | ⟨rfl, reason, fits⟩
  · apply sound_advance sound current valid rfl ident.bytes_nonneg ident.reason_fits
    · exact ⟨⟨binding, verified, fun never => absurd rfl never⟩, started, rfl, unfailed, rfl⟩
    · intro never
      cases never
  · apply sound_advance sound current valid rfl ident.bytes_nonneg fits
    · exact ⟨⟨binding, verified, fun _ => body (by rw [pending]; decide)⟩, started, undeleted,
        rfl, reason⟩
    · intro never
      cases never

end Changes

/-! ## Outbox rows stay valid -/

section Outboxes

variable {box : Outbox} {now : ℤ}

/-- A claim leaves the outbox row valid. -/
theorem valid_claim {claim : ManagedProviderFileDeletionClaim} (valid : box.Valid)
    (accepted : claim.Valid now) (fresh : ¬claim.Stale box now) (real : 0 < now) :
    ((claim.outboxUpdates box now).apply box).Valid := by
  rcases valid with ⟨⟨owner, op, _, _, some_attempts, most, bounded, due, error⟩, state⟩
  rcases accepted with ⟨_, _, lease, _, _, _⟩
  simp only [ManagedProviderFileDeletionClaim.Stale, not_or, not_and, not_le, not_lt, not_not]
    at fresh
  rcases fresh with ⟨expected, _, _, attempts, _, _⟩
  have leased : setTime (some claim.leaseExpiresAt) := setTime_some (by omega)
  simp only [Outbox.ValidState] at state
  have unfinished : box.completedAt = none ∧ box.terminalResult = "" := by
    cases known : box.state with
    | pending =>
      rw [known] at state
      exact ⟨state.2.2.2.2.2.1, state.2.2.2.2.2.2⟩
    | inProgress =>
      rw [known] at state
      exact ⟨state.2.2.2.2.1, state.2.2.2.2.2⟩
    | retryWait =>
      rw [known] at state
      exact ⟨state.2.2.2.2.2.2.2.1, state.2.2.2.2.2.2.2.2⟩
    | completed =>
      exact absurd (expected.symm.trans known) (by
        rcases ‹claim.expectedState = _ ∨ _ ∨ _› with first | second | third
        · rw [first]; decide
        · rw [second]; decide
        · rw [third]; decide)
    | terminalFailed =>
      exact absurd (expected.symm.trans known) (by
        rcases ‹claim.expectedState = _ ∨ _ ∨ _› with first | second | third
        · rw [first]; decide
        · rw [second]; decide
        · rw [third]; decide)
  have counted : 0 < nextAttemptCount box ∧ nextAttemptCount box ≤ box.maxAttempts := by
    by_cases recovering : box.state = .inProgress
    · rw [recovering] at state
      rw [nextAttemptCount, if_pos recovering]
      exact ⟨state.1, bounded⟩
    · have room := attempts recovering
      rw [nextAttemptCount, if_neg recovering]
      constructor
      · omega
      · omega
  refine ⟨⟨owner, op, ?_, le_of_lt counted.1, some_attempts, most, counted.2, due,
    error⟩, counted.1, lease, leased, rfl, unfinished.1, unfinished.2⟩
  simp only [ManagedProviderFileDeletionClaim.outboxUpdates]
  omega

theorem heldUnder_iff {wanted attemptCount : ℤ} {lease : String} :
    box.heldUnder wanted lease attemptCount = true ↔
      box.state = .inProgress ∧ box.version = wanted ∧
        box.leaseTokenHMAC = lease ∧ box.attemptCount = attemptCount := by
  simp [Outbox.heldUnder, and_assoc]

theorem inProgress_of_held {wanted attemptCount : ℤ} {lease : String}
    (valid : box.Valid) (held : box.heldUnder wanted lease attemptCount = true) :
    box.ValidHead ∧ box.ValidInProgress ∧ box.state = .inProgress ∧
      box.version = wanted := by
  have known := heldUnder_iff.mp held
  have state := valid.2
  simp only [Outbox.ValidState] at state
  rw [known.1] at state
  exact ⟨valid.1, state, known.1, known.2.1⟩

theorem valid_mark {dispatch : ManagedProviderFileDeletionDispatch} (valid : box.Valid)
    (held : box.heldUnder dispatch.expectedVersion dispatch.leaseTokenHMAC
      dispatch.attemptCount = true) : (dispatch.outboxUpdates.apply box).Valid := by
  rcases inProgress_of_held valid held with ⟨⟨owner, op, _, rest⟩, state, known, _⟩
  refine ⟨⟨owner, op, ?_, rest⟩, ?_⟩
  · simp only [ManagedProviderFileDeletionDispatch.outboxUpdates]
    omega
  · simp only [Outbox.ValidState]
    rw [show (dispatch.outboxUpdates.apply box).state = .inProgress from known]
    exact state

theorem marked_grows {dispatch : ManagedProviderFileDeletionDispatch}
    (held : box.heldUnder dispatch.expectedVersion dispatch.leaseTokenHMAC
      dispatch.attemptCount = true) :
    box.version ≤ (dispatch.outboxUpdates.apply box).version := by
  have known := (heldUnder_iff.mp held).2.1
  simp only [ManagedProviderFileDeletionDispatch.outboxUpdates]
  omega

variable (valid : box.Valid)

include valid

theorem valid_retry {retry : ManagedProviderFileDeletionRetry}
    (held : box.heldUnder retry.expectedVersion retry.leaseTokenHMAC retry.attemptCount = true)
    (room : box.attemptCount < box.maxAttempts) (due : retry.nextAttemptAt ≠ 0)
    (reason : Text.isBlank retry.errorCode = false) (fits : retry.errorCode.utf8ByteSize ≤ 64) :
    ((retry.outboxUpdates box).apply box).Valid := by
  rcases inProgress_of_held valid held with
    ⟨⟨owner, op, ver, count, some_attempts, most, bounded, _, _⟩, state, _, _⟩
  rcases state with ⟨pos, _, _, attempted, uncompleted, unfinished⟩
  refine ⟨⟨owner, op, ?_, count, some_attempts, most, bounded, due, fits⟩, pos,
    room, rfl, rfl, attempted, rfl, reason, uncompleted, unfinished⟩
  simp only [ManagedProviderFileDeletionRetry.outboxUpdates]
  omega

theorem valid_complete {terminal : DeletionTerminal}
    (held : box.heldUnder terminal.expectedVersion terminal.leaseTokenHMAC
      terminal.attemptCount = true)
    (result : terminal.result = managedProviderFileDeletionResultDeleted)
    (fits : terminal.errorCode.utf8ByteSize ≤ 64) :
    ((terminal.outboxUpdates box .completed now).apply box).Valid := by
  rcases inProgress_of_held valid held with
    ⟨⟨owner, op, ver, count, some_attempts, most, bounded, due, _⟩, state, _, _⟩
  refine ⟨⟨owner, op, ?_, count, some_attempts, most, bounded, due, fits⟩, state.1,
    rfl, rfl, rfl, result⟩
  simp only [DeletionTerminal.outboxUpdates]
  omega

theorem valid_fail {terminal : DeletionTerminal}
    (held : box.heldUnder terminal.expectedVersion terminal.leaseTokenHMAC
      terminal.attemptCount = true)
    (result : terminal.result = managedProviderFileDeletionResultFailed)
    (reason : Text.isBlank terminal.errorCode = false)
    (fits : terminal.errorCode.utf8ByteSize ≤ 64) :
    ((terminal.outboxUpdates box .terminalFailed now).apply box).Valid := by
  rcases inProgress_of_held valid held with
    ⟨⟨owner, op, ver, count, some_attempts, most, bounded, due, _⟩, state, _, _⟩
  refine ⟨⟨owner, op, ?_, count, some_attempts, most, bounded, due, fits⟩, state.1,
    rfl, rfl, rfl, result, reason⟩
  simp only [DeletionTerminal.outboxUpdates]
  omega

theorem valid_quarantine : ((quarantineUpdates box.version now).apply box).Valid := by
  rcases valid with
    ⟨⟨owner, op, ver, count, some_attempts, most, bounded, due, _⟩, _⟩
  have attempted : 0 < (if box.attemptCount < 1 then 1 else box.attemptCount) ∧
      (if box.attemptCount < 1 then 1 else box.attemptCount) ≤ box.maxAttempts := by
    split
    · omega
    · omega
  have short : "lifecycle_missing".utf8ByteSize ≤ 64 := by decide
  have named : Text.isBlank "lifecycle_missing" = false := by decide
  refine ⟨⟨owner, op, ?_, le_of_lt attempted.1, some_attempts, most, attempted.2, due,
    short⟩, attempted.1, rfl, rfl, rfl, rfl, named⟩
  simp only [quarantineUpdates]
  omega

end Outboxes

/-! ## What the transactions do -/

/-- A step of a deletion changes its outbox row, and the lifecycle row with an event. -/
structure DeletionStep (db after : Database) (boxId : ℤ) (box : Outbox) (life : Lifecycle)
    (change : RowUpdate Outbox) (updates : RowUpdate Lifecycle) (event : LifecycleEvent) :
    Prop where
  foundOutbox : db.outboxes.find? boxId = some box
  found : db.lifecycles.find? box.lifecycleId = some life
  advanced : appendEventAndAdvanceManagedProviderFileLifecycle
    { db with outboxes := db.outboxes.modify box.id change } life life.version updates event =
      .ok after

section Inversion

variable {db after : Database} {life : Lifecycle} {box : Outbox} {first now : ℤ}

theorem updateOutbox_ok {Result : Type} {guard : Outbox → Bool} {change : RowUpdate Outbox}
    {otherwise : Outcome Result} {proceed : Database → Outcome Result} {result : Result}
    (updated : updateOutbox db box guard change otherwise proceed = .ok result) :
    otherwise = .ok result ∨
      proceed { db with outboxes := db.outboxes.modify box.id change } = .ok result := by
  simp only [updateOutbox] at updated
  split at updated
  · exact .inl updated
  next hits =>
    rcases updateWhere_affected (not_not.mp hits) with ⟨_, _, _, moved⟩
    rw [moved] at updated
    exact .inr updated

theorem find?_id {lifecycles : Table Lifecycle} {id : ℤ} (found : lifecycles.find? id = some life) :
    lifecycles.find? life.id = some life := by
  have same : life.id = id := key_of_find? found
  rw [same]
  exact found

theorem find?_outbox_id {outboxes : Table Outbox} {id : ℤ}
    (found : outboxes.find? id = some box) : outboxes.find? box.id = some box := by
  have same : box.id = id := key_of_find? found
  rw [same]
  exact found

theorem upload_ok {move : ManagedProviderFileUploadTransition}
    (done : advanceManagedProviderFileUploadState db move now = .ok after) :
    ∃ life, db.lifecycles.find? move.lifecycleId = some life ∧ move.Valid ∧
      move.reasonCode.utf8ByteSize ≤ 64 ∧ life.version = move.expectedVersion ∧
      life.state = move.expectedState ∧
      appendEventAndAdvanceManagedProviderFileLifecycle db life move.expectedVersion
        (move.updates now) move.event = .ok after := by
  simp only [advanceManagedProviderFileUploadState, guard_eq_ok, not_or, not_lt, not_not] at done
  rcases done with ⟨⟨_, _, _, fits⟩, accepted, rest⟩
  split at rest
  · cases rest
  next life found =>
    simp only [guard_eq_ok, not_or, not_not] at rest
    rcases rest with ⟨⟨current, expected, _⟩, added⟩
    exact ⟨life, found, accepted, fits, current, expected, added⟩

theorem verificationFailure_ok {err : ManagedProviderFileVerificationFailure}
    (done : recordTruncatedVerificationFailure db err now = .ok after) :
    ∃ life due, db.lifecycles.find? err.lifecycleId = some life ∧ err.Valid ∧
      life.version = err.expectedVersion ∧ life.state = .uploadDispatched ∧
      err.event.eventType = .verificationFailed ∧
      (pendingDeletion life.id err.deletionOperationHMAC err.maxDeletionAttempts
        err.deletionNextAttemptAt).validate = .ok () ∧
      db.createOutbox (pendingDeletion life.id err.deletionOperationHMAC err.maxDeletionAttempts
        err.deletionNextAttemptAt) = .ok due ∧
      appendEventAndAdvanceManagedProviderFileLifecycle due life err.expectedVersion
        (err.updates now) err.event = .ok after := by
  simp only [recordTruncatedVerificationFailure, guard_eq_ok, not_not] at done
  rcases done with ⟨accepted, rest⟩
  split at rest
  · cases rest
  next life found =>
    simp only [guard_eq_ok, not_or, not_not] at rest
    rcases rest with ⟨⟨current, dispatched, _, _, typed⟩, rest⟩
    rcases bind_eq_ok.mp rest with ⟨_, valid, rest⟩
    rcases bind_eq_ok.mp rest with ⟨due, made, added⟩
    exact ⟨life, due, found, accepted, current, dispatched, typed, valid, made, added⟩

theorem activation_ok {activation : ManagedProviderFileLifecycleActivation} {activated : Bool}
    (done : activateTruncated db activation first now = .ok (activated, after)) :
    activated = false ∧ after = db ∨ activated = true ∧
      ∃ life due, db.lifecycles.find? activation.lifecycleId = some life ∧
        activation.Valid first ∧ life.version = activation.expectedVersion ∧
        life.state = .uploadDispatched ∧ activation.event.eventType = .activated ∧
        (pendingDeletion life.id activation.deletionOperationHMAC activation.maxDeletionAttempts
          activation.deletionNextAttemptAt).validate = .ok () ∧
        db.createOutbox (pendingDeletion life.id activation.deletionOperationHMAC
          activation.maxDeletionAttempts activation.deletionNextAttemptAt) = .ok due ∧
        appendEventAndAdvanceManagedProviderFileLifecycle due life
          activation.expectedVersion (activation.updates now) activation.event = .ok after := by
  simp only [activateTruncated, guard_eq_ok, not_not] at done
  rcases done with ⟨accepted, rest⟩
  split at rest
  · cases rest
  next life found =>
    simp only [guard_eq_ok] at rest
    rcases rest with ⟨_, rest⟩
    split at rest
    · simp only [guard_eq_ok] at rest
      rcases rest with ⟨_, rest⟩
      split at rest
      · cases rest
      · simp only [guard_eq_ok, Except.ok.injEq, Prod.mk.injEq] at rest
        exact .inl ⟨rest.2.1.symm, rest.2.2.symm⟩
    · simp only [guard_eq_ok, not_or, not_not] at rest
      rcases rest with ⟨⟨dispatched, current⟩, rest⟩
      rcases bind_eq_ok.mp rest with ⟨_, valid, rest⟩
      rcases bind_eq_ok.mp rest with ⟨due, made, rest⟩
      simp only [guard_eq_ok, not_or, not_not] at rest
      rcases rest with ⟨⟨_, typed⟩, rest⟩
      rcases bind_eq_ok.mp rest with ⟨_, added, last⟩
      cases last
      exact .inr ⟨rfl, life, due, found, accepted, current, dispatched, typed, valid, made, added⟩

theorem claim_ok {claim : ManagedProviderFileDeletionClaim} {claimed : Option Outbox}
    (done : claimManagedProviderFileDeletion db claim now = .ok (claimed, after)) :
    claimed = none ∧ after = db ∨ claim.Valid now ∧ ∃ box life, ¬claim.Stale box now ∧
      claimEventType box life = .ok claim.event.eventType ∧
      claimed = some ((claim.outboxUpdates box now).apply box) ∧
      DeletionStep db after claim.outboxId box life (claim.outboxUpdates box now)
        (claimLifecycleUpdates life now) claim.event := by
  simp only [claimManagedProviderFileDeletion, guard_eq_ok, not_not] at done
  rcases done with ⟨accepted, rest⟩
  split at rest
  · cases rest
  next box foundOutbox =>
    split at rest
    · cases rest
    next life found =>
      split at rest
      · cases rest
        exact .inl ⟨rfl, rfl⟩
      next fresh =>
        rcases bind_eq_ok.mp rest with ⟨_, typed, rest⟩
        simp only [guard_eq_ok, not_or, not_not] at rest
        rcases rest with ⟨⟨_, sameType, _⟩, rest⟩
        rcases updateOutbox_ok rest with idle | rest
        · cases idle
          exact .inl ⟨rfl, rfl⟩
        · rcases bind_eq_ok.mp rest with ⟨_, added, last⟩
          cases last
          rw [← sameType] at typed
          exact .inr ⟨accepted, box, life, fresh, typed, rfl, foundOutbox, found, added⟩

theorem mark_ok {dispatch : ManagedProviderFileDeletionDispatch} {marked : Outbox}
    (done : markManagedProviderFileDeletionDispatched db dispatch now = .ok (marked, after)) :
    0 < dispatch.attemptCount ∧ dispatch.event.eventType = .deletionDispatched ∧ ∃ box life,
      box.heldUnder dispatch.expectedVersion dispatch.leaseTokenHMAC
        dispatch.attemptCount = true ∧ box.dispatchedAt = none ∧
      marked = dispatch.outboxUpdates.apply box ∧
      DeletionStep db after dispatch.outboxId box life dispatch.outboxUpdates noUpdates
        dispatch.event := by
  simp only [markManagedProviderFileDeletionDispatched, guard_eq_ok, not_or, not_le] at done
  rcases done with ⟨⟨_, _, _, pos, _, _⟩, rest⟩
  split at rest
  · cases rest
  next life found =>
    split at rest
    · cases rest
    next box foundOutbox =>
      simp only [guard_eq_ok, not_or, not_not, Bool.not_eq_true, Bool.not_eq_false'] at rest
      rcases rest with ⟨owner, ⟨held, unsent, _⟩, ⟨_, typed, _⟩, rest⟩
      rcases updateOutbox_ok rest with lost | rest
      · cases lost
      · rcases bind_eq_ok.mp rest with ⟨_, added, last⟩
        cases last
        rw [← owner] at found
        exact ⟨pos, typed, box, life, held, unsent, rfl, foundOutbox, found, added⟩

theorem retry_ok {retry : ManagedProviderFileDeletionRetry}
    (done : retryManagedProviderFileDeletion db retry first now = .ok after) :
    first < retry.nextAttemptAt ∧ Text.isBlank retry.errorCode = false ∧
      retry.errorCode.utf8ByteSize ≤ 64 ∧ retry.event.eventType = .deletionRetryScheduled ∧
      ∃ box life, box.attemptCount < box.maxAttempts ∧
        box.heldUnder retry.expectedVersion retry.leaseTokenHMAC retry.attemptCount = true ∧
        DeletionStep db after retry.outboxId box life (retry.outboxUpdates box) noUpdates
          retry.event := by
  simp only [retryManagedProviderFileDeletion, guard_eq_ok, not_or, not_le, Bool.not_eq_true,
    not_lt] at done
  rcases done with ⟨⟨_, _, _, _, later, reason, fits⟩, rest⟩
  split at rest
  · cases rest
  next box foundOutbox =>
    split at rest
    · cases rest
    next life found =>
      simp only [guard_eq_ok, not_or, not_not, not_le, Bool.not_eq_true, Bool.not_eq_false'] at rest
      rcases rest with ⟨⟨held, _⟩, room, ⟨_, typed, _⟩, rest⟩
      rcases updateOutbox_ok rest with lost | added
      · cases lost
      · exact ⟨later, reason, fits, typed, box, life, room, held, foundOutbox, found, added⟩

theorem finish_ok {terminal : DeletionTerminal} {boxState : DeletionOutboxState}
    {lifeState : LifecycleState} {eventType : LifecycleEventType}
    (done : finishManagedProviderFileDeletion db terminal boxState lifeState eventType
      now = .ok after) :
    terminal.event.eventType = eventType ∧ ∃ box life, box.heldUnder terminal.expectedVersion
        terminal.leaseTokenHMAC terminal.attemptCount = true ∧
      DeletionStep db after terminal.outboxId box life (terminal.outboxUpdates box boxState now)
        (terminal.lifecycleUpdates lifeState now) terminal.event := by
  simp only [finishManagedProviderFileDeletion, guard_eq_ok] at done
  rcases done with ⟨_, rest⟩
  split at rest
  · cases rest
  next box foundOutbox =>
    split at rest
    · cases rest
    next life found =>
      simp only [guard_eq_ok, not_or, not_not, Bool.not_eq_true, Bool.not_eq_false'] at rest
      rcases rest with ⟨⟨held, _⟩, _, ⟨_, typed, _⟩, _, _, rest⟩
      rcases updateOutbox_ok rest with lost | added
      · cases lost
      · exact ⟨typed, box, life, held, foundOutbox, found, added⟩

theorem quarantine_ok {boxId wanted : ℤ} {moved : Bool}
    (done : quarantineOrphanedManagedProviderFileDeletion db boxId wanted now =
      .ok (moved, after)) :
    moved = false ∧ after = db ∨ moved = true ∧ ∃ box, db.outboxes.find? box.id = some box ∧
      boxId = box.id ∧ wanted = box.version ∧
      (box.state = .pending ∨ box.state = .retryWait ∨ box.state = .inProgress) ∧
      after = { db with
        outboxes := db.outboxes.modify box.id (quarantineUpdates box.version now) } := by
  simp only [quarantineOrphanedManagedProviderFileDeletion, guard_eq_ok, Except.ok.injEq,
    Prod.mk.injEq] at done
  rcases done with ⟨_, rfl, rfl⟩
  rcases db.outboxes.updateWhere_cases boxId (fun row => row.version = wanted &&
        (row.state = .pending || row.state = .retryWait || row.state = .inProgress))
      (quarantineUpdates wanted now) with kept | ⟨box, found, guard, moved⟩
  · rw [kept]
    exact .inl ⟨rfl, rfl⟩
  · rw [moved]
    have same : box.id = boxId := key_of_find? found
    simp only [Bool.and_eq_true, Bool.or_eq_true, decide_eq_true_eq, or_assoc] at guard
    rcases guard with ⟨rfl, state⟩
    subst same
    exact .inr ⟨rfl, box, found, rfl, rfl, state, rfl⟩

end Inversion

/-! ## Each transaction keeps the database sound -/

section Transactions

variable {base db after : Database} {life : Lifecycle} {box : Outbox} {first now : ℤ}

theorem Database.Reached.updateOutbox (reached : base.Reached db) {change : RowUpdate Outbox}
    (found : db.outboxes.find? box.id = some box) (valid : (change.apply box).Valid)
    (grows : box.version ≤ (change.apply box).version) :
    base.Reached { db with outboxes := db.outboxes.modify box.id change } where
  lifecycles := reached.lifecycles
  explained := reached.explained
  outboxes := by
    intro row isRow
    rcases mem_modify.mp isRow with ⟨_, prior, oldKey, rfl⟩ | ⟨other, _⟩
    · cases eq_of_find? found prior oldKey
      exact valid
    · exact reached.outboxes row other
  owned := reached.owned
  grown := by
    refine reached.grown.trans
      ⟨fun row stored => ⟨row, stored, rfl, le_refl _, le_refl _, fun _ => rfl⟩, ?_,
        List.prefix_refl _⟩
    intro row stored
    by_cases moved : row.id = box.id
    · have same : row = box := eq_of_find? found stored moved
      subst same
      exact ⟨change.apply row, mem_modify.mpr (.inl ⟨row, stored, rfl, rfl⟩),
        change.key_apply row, grows⟩
    · exact ⟨row, mem_modify.mpr (.inr ⟨stored, moved⟩), rfl, le_refl _⟩

variable (reached : base.Reached db)

include reached

theorem Database.Reached.createOutbox {row : Outbox} (valid : row.validate = .ok ())
    (made : db.createOutbox row = .ok after) :
    base.Reached after ∧ after.lifecycles = db.lifecycles := by
  simp only [Database.createOutbox, guard_eq_ok, Except.ok.injEq] at made
  rcases made with ⟨_, rfl⟩
  refine ⟨⟨⟨reached.lifecycles, reached.explained, ?_, reached.owned⟩, ?_⟩, rfl⟩
  · intro stored isRow
    rcases mem_insert.mp isRow with old | rfl
    · exact reached.outboxes stored old
    · exact row.validate_eq_ok.mp valid
  · refine reached.grown.trans
      ⟨fun row stored => ⟨row, stored, rfl, le_refl _, le_refl _, fun _ => rfl⟩, ?_,
        List.prefix_refl _⟩
    intro stored isRow
    exact ⟨stored, mem_insert.mpr (.inl isRow), rfl, le_refl _⟩

theorem Database.Reached.upload {move : ManagedProviderFileUploadTransition} (real : now ≠ 0)
    (typed : move.event.eventType = uploadEventType move.nextState)
    (advanced : advanceManagedProviderFileUploadState db move now = .ok after) :
    base.Reached after := by
  rcases upload_ok advanced with ⟨life, found, accepted, fits, current, expected, added⟩
  have rowSound := reached.lifecycles life (mem_of_find? found)
  apply reached.advance (find?_id found) added
  · intro valid _
    exact sound_upload rowSound current expected accepted fits real valid
  · intro valid _
    exact upload_named accepted typed valid

theorem Database.Reached.verificationFailure {err : ManagedProviderFileVerificationFailure}
    (real : now ≠ 0) (expires : truncate err.expiresAt ≠ 0)
    (recorded : recordManagedProviderFileVerificationFailure db err first now = .ok after) :
    base.Reached after := by
  rcases verificationFailure_ok recorded with
    ⟨life, _, found, accepted, current, dispatched, typed, valid, made, added⟩
  rcases reached.createOutbox valid made with ⟨sound, same⟩
  rw [← same] at found
  have rowSound := sound.lifecycles life (mem_of_find? found)
  apply sound.advance (find?_id found) added
  · intro validEvent _
    exact sound_verificationFailure rowSound current dispatched accepted expires real validEvent
  · intro validEvent _
    have named := validEvent.2
    simp only [LifecycleEvent.ValidTransition, typed] at named
    exact named.2.1.symm

theorem Database.Reached.activation
    {activation : ManagedProviderFileLifecycleActivation} {activated : Bool}
    (done : activateManagedProviderFileLifecycle db activation first now =
      .ok (activated, after)) : base.Reached after ∧ (activated = false → after = db) := by
  rcases activation_ok done with ⟨_, rfl⟩ | ⟨rfl, life, _, found, accepted, current, dispatched,
    typed, valid, made, added⟩
  · exact ⟨reached, fun _ => rfl⟩
  · rcases reached.createOutbox valid made with ⟨sound, same⟩
    rw [← same] at found
    have rowSound := sound.lifecycles life (mem_of_find? found)
    refine ⟨?_, by rintro ⟨⟩⟩
    apply sound.advance (find?_id found) added
    · intro validEvent _
      exact sound_activation rowSound current dispatched accepted validEvent
    · intro validEvent _
      have named := validEvent.2
      simp only [LifecycleEvent.ValidTransition, typed] at named
      exact named.2.1.symm

theorem Database.Reached.deletionStep {boxId : ℤ} {change : RowUpdate Outbox}
    {updates : RowUpdate Lifecycle} {event : LifecycleEvent}
    (step : DeletionStep db after boxId box life change updates event)
    (valid : box.Valid → (change.apply box).Valid)
    (grows : box.version ≤ (change.apply box).version)
    (changedSound : life.Sound → event.Valid → Journal.Follows life.head event →
      ((ProviderFile.advance updates life.version event).apply life).Sound)
    (named : event.Valid → event.fromState = some life.state →
      (updates.apply life).state = event.toState) : base.Reached after := by
  have moved := reached.updateOutbox (find?_outbox_id step.foundOutbox)
    (valid (reached.outboxes box (mem_of_find? step.foundOutbox))) grows
  refine moved.advance ?_ step.advanced ?_ named
  · exact find?_id step.found
  · exact changedSound (reached.lifecycles life (mem_of_find? step.found))

theorem Database.Reached.claim {claim : ManagedProviderFileDeletionClaim} {claimed : Option Outbox}
    (real : 0 < now) (done : claimManagedProviderFileDeletion db claim now = .ok (claimed, after)) :
    base.Reached after ∧ (claimed = none → after = db) := by
  rcases claim_ok done with ⟨_, rfl⟩ | ⟨accepted, box, life, fresh, typed, rfl, step⟩
  · exact ⟨reached, fun _ => rfl⟩
  · have types : claim.event.eventType = .deletionRecoveryStarted ∨
        claim.event.eventType = .deletionStarted ∨
        claim.event.eventType = .deletionAttemptStarted := by
      simp only [claimEventType] at typed
      split at typed
      · exact .inl (Except.ok.inj typed).symm
      · split at typed
        · exact .inr (.inl (Except.ok.inj typed).symm)
        · simp only [guard_eq_ok, Except.ok.injEq] at typed
          exact .inr (.inr typed.2.symm)
    refine ⟨?_, by rintro ⟨⟩⟩
    apply reached.deletionStep step (fun valid => valid_claim valid accepted fresh real)
      (Int.le_add_one (le_refl _))
    · intro rowSound validEvent _
      exact sound_claim rowSound rfl validEvent
    · intro validEvent src
      exact claim_named validEvent src types

theorem Database.Reached.keepsPending {boxId : ℤ} {change : RowUpdate Outbox}
    {event : LifecycleEvent} (step : DeletionStep db after boxId box life change noUpdates event)
    (valid : box.Valid → (change.apply box).Valid)
    (grows : box.version ≤ (change.apply box).version)
    (typed : event.eventType = .deletionDispatched ∨ event.eventType = .deletionRetryScheduled) :
    base.Reached after := by
  apply reached.deletionStep step valid grows
  · intro rowSound validEvent _
    exact sound_unchanged rowSound rfl validEvent
  · intro validEvent src
    have named := validEvent.2
    rcases typed with typed | typed
    · simp only [LifecycleEvent.ValidTransition, typed] at named
      exact (Option.some.inj (src.symm.trans named.1)).trans named.2.1.symm
    · simp only [LifecycleEvent.ValidTransition, typed] at named
      exact (Option.some.inj (src.symm.trans named.1)).trans named.2.1.symm

theorem Database.Reached.mark {dispatch : ManagedProviderFileDeletionDispatch} {marked : Outbox}
    (done : markManagedProviderFileDeletionDispatched db dispatch now = .ok (marked, after)) :
    base.Reached after := by
  rcases mark_ok done with ⟨_, typed, _, _, held, _, _, step⟩
  exact reached.keepsPending step (fun valid => valid_mark valid held) (marked_grows held)
    (.inl typed)

theorem Database.Reached.retry {retry : ManagedProviderFileDeletionRetry} (real : 0 < first)
    (done : retryManagedProviderFileDeletion db retry first now = .ok after) :
    base.Reached after := by
  rcases retry_ok done with ⟨later, reason, fits, typed, _, _, room, held, step⟩
  exact reached.keepsPending step (fun valid => valid_retry valid held room (by omega) reason fits)
    (Int.le_add_one (le_refl _)) (.inr typed)

variable {terminal : DeletionTerminal}

theorem Database.Reached.finish {boxState : DeletionOutboxState} {lifeState : LifecycleState}
    {eventType : LifecycleEventType}
    (ends : lifeState = .deleted ∧ eventType = .deletionCompleted ∨
      lifeState = .deletionFailed ∧ eventType = .deletionTerminalFailed ∧
        Text.isBlank terminal.errorCode = false ∧ terminal.errorCode.utf8ByteSize ≤ 64)
    (finishes : ∀ box : Outbox, box.Valid →
      box.heldUnder terminal.expectedVersion terminal.leaseTokenHMAC terminal.attemptCount = true →
      ((terminal.outboxUpdates box boxState now).apply box).Valid)
    (done : finishManagedProviderFileDeletion db terminal boxState lifeState eventType
      now = .ok after) : base.Reached after := by
  rcases finish_ok done with ⟨typed, box, life, held, step⟩
  have pending : terminal.event.Valid → terminal.event.fromState = some life.state →
      life.state = .deletionPending ∧
        ∀ row, ((terminal.lifecycleUpdates lifeState now).apply row).state =
          terminal.event.toState := by
    intro valid src
    have named := valid.2
    rcases ends with ⟨rfl, rfl⟩ | ⟨rfl, rfl, _⟩
    · simp only [LifecycleEvent.ValidTransition, typed] at named
      exact ⟨Option.some.inj (src.symm.trans named.1), fun _ => named.2.1.symm⟩
    · simp only [LifecycleEvent.ValidTransition, typed] at named
      exact ⟨Option.some.inj (src.symm.trans named.1), fun _ => named.2.1.symm⟩
  apply reached.deletionStep step (fun valid => finishes box valid held)
    (Int.le_add_one (le_refl _))
  · intro rowSound validEvent follows
    apply sound_finish rowSound rfl (pending validEvent follows.2.2).1 ?_ validEvent
    rcases ends with ⟨deleted, _⟩ | ⟨failed, _, reason, fits⟩
    · exact .inl deleted
    · exact .inr ⟨failed, reason, fits⟩
  · intro validEvent src
    exact (pending validEvent src).2 life

theorem Database.Reached.complete (fits : terminal.errorCode.utf8ByteSize ≤ 64)
    (done : completeManagedProviderFileDeletion db terminal now = .ok after) :
    base.Reached after := by
  simp only [completeManagedProviderFileDeletion, guard_eq_ok, not_not] at done
  exact reached.finish (.inl ⟨rfl, rfl⟩)
    (fun _ valid held => valid_complete valid held done.1 fits) done.2

theorem Database.Reached.fail
    (done : failManagedProviderFileDeletion db terminal now = .ok after) : base.Reached after := by
  simp only [failManagedProviderFileDeletion, guard_eq_ok, not_or, not_not, not_lt,
    Bool.not_eq_true] at done
  rcases done with ⟨⟨result, reason, fits⟩, finished⟩
  exact reached.finish (.inr ⟨rfl, rfl, reason, fits⟩)
    (fun _ valid held => valid_fail valid held result reason fits) finished

theorem Database.Reached.quarantine {boxId wanted : ℤ} {moved : Bool}
    (done : quarantineOrphanedManagedProviderFileDeletion db boxId wanted now =
      .ok (moved, after)) : base.Reached after ∧ (moved = false → after = db) := by
  rcases quarantine_ok done with ⟨_, rfl⟩ | ⟨rfl, box, found, _, _, _, rfl⟩
  · exact ⟨reached, fun _ => rfl⟩
  · refine ⟨reached.updateOutbox found (valid_quarantine (reached.outboxes box (mem_of_find?
      found))) (Int.le_add_one (le_refl _)), ?_⟩
    intro never
    cases never

end Transactions

end NewApi.ProviderFile
