import NewApi.Library.Sequential
import NewApi.ProviderFile.DeletionSafety

/-!
# A deletion batch by itself

`RunDeletionBatch` when no other worker runs and its database calls succeed. A row whose target is
not available stays as it is.
-/

namespace NewApi.ProviderFile

open Concurrent (Program)
open Relational Fallible Table
open NewApi.ProviderFile renaming ManagedProviderFileDeletionOutbox → Outbox

/-- `loadDeletionTarget` and the bindings of the target, by channel. -/
abbrev DeletionTargets := ℤ → Option (Target × List ManagedProviderFileTargetBinding)

/-- The target of a lifecycle can be loaded and is the one that the lifecycle names. -/
def DeletionTargets.matching (targets : DeletionTargets)
    (life : ManagedProviderFileLifecycle) : Bool :=
  (targets life.channelId).any fun loaded =>
    matchesLifecycleTarget life loaded.1 loaded.2

namespace ManagedProviderFileDeletionOutbox

def available (targets : DeletionTargets) (db : Database) (row : Outbox) : Bool :=
  (db.lifecycles.find? row.lifecycleId).any targets.matching

/-- The lifecycle of the row exists, and its target is not available. -/
def stuck (targets : DeletionTargets) (db : Database) (row : Outbox) : Bool :=
  (db.lifecycles.find? row.lifecycleId).any fun life => !targets.matching life

def remaining (row : Outbox) : ℕ :=
  if row.state.Ended then 0
  else (row.maxAttempts - row.attemptCount).toNat + if row.state = .inProgress then 1 else 0

end ManagedProviderFileDeletionOutbox

/-- The answer of a call that goes well. The lookup of a lifecycle may find none, and a
reference may be undecipherable. -/
def WorkerCall.Succeeds : (call : WorkerCall) → call.Answer → Prop
  | .contextError, done => done = false
  | .listDue _ _, due => due.isOk
  | .getLifecycle _, found => found = .error .recordNotFound ∨ found.isOk
  | .quarantine _ _, changed => changed.isOk
  | .deriveLease _, digest => digest.isOk
  | .deriveEvent _, digest => digest.isOk
  | .deriveEvidence _ _ _, digest => digest.isOk
  | .claim _, claimed => claimed.isOk
  | .markDispatched _, marked => marked.isOk
  | .retry _, done => done.isOk
  | .complete _, done => done.isOk
  | .fail _, done => done.isOk
  | _, _ => True

/-- A call of the batch that lists what is due at a time: it succeeds, the clock does not run
back to before the listing, and the channels offer their targets. -/
def WorkerCall.Serves (targets : DeletionTargets) (time : ℤ) (worker : ℕ) (call : WorkerCall)
    (pick : WorkerChoice) (sys : DeletionSystem) : Prop :=
  call.Succeeds (DeletionSystem.perform worker call pick sys).1 ∧
    match call with
    | .listDue instant _ => instant = time
    | .claim _ => time ≤ pick.now
    | .loadDeletionTarget channelId => pick.target = targets channelId
    | _ => True

def claimsOf (history : List DeletionNote) (boxId : ℤ) : ℕ :=
  history.countP fun note => note.kind = .claimed && note.outbox.id = boxId

def Database.remaining (db : Database) : ℤ :=
  db.outboxes.total fun row => (row.remaining : ℤ)

theorem isOk_iff {Result : Type} {reply : Outcome Result} :
    reply.isOk ↔ ∃ val, reply = .ok val := by
  cases reply with
  | error _ | ok _ => simp [Except.isOk, Except.toBool]

/-! ## Moves of one row -/

/-- One row has moved on, and nothing happened to the rows of other lifecycles. -/
structure MovesOn (before after : DeletionSystem) (old new : Outbox) :
    Prop where
  stored : before.db.outboxes.find? old.id = some old
  found : after.db.outboxes.find? old.id = some new
  id : new.id = old.id
  lifecycleId : new.lifecycleId = old.lifecycleId
  version : old.version < new.version
  others : ∀ id, id ≠ old.id → after.db.outboxes.find? id = before.db.outboxes.find? id
  lifecycles : ∀ id, id ≠ old.lifecycleId →
    after.db.lifecycles.find? id = before.db.lifecycles.find? id
  claims : ∀ id, id ≠ old.id → claimsOf after.history id = claimsOf before.history id
  claimed : claimsOf before.history old.id ≤ claimsOf after.history old.id
  remaining : after.db.remaining = before.db.remaining + (new.remaining - old.remaining)

theorem MovesOn.trans {before middle after : DeletionSystem} {old between new : Outbox}
    (first : MovesOn before middle old between) (second : MovesOn middle after between new) :
    MovesOn before after old new where
  stored := first.stored
  found := by
    rw [← first.id]
    exact second.found
  id := second.id.trans first.id
  lifecycleId := second.lifecycleId.trans first.lifecycleId
  version := first.version.trans second.version
  others id differ := by
    rw [← first.others id differ]
    apply second.others
    rw [first.id]
    exact differ
  lifecycles id differ := by
    rw [← first.lifecycles id differ]
    apply second.lifecycles
    rw [first.lifecycleId]
    exact differ
  claims id differ := by
    rw [← first.claims id differ]
    apply second.claims
    rw [first.id]
    exact differ
  claimed := by
    have later := second.claimed
    rw [first.id] at later
    exact first.claimed.trans later
  remaining := by
    rw [second.remaining, first.remaining]
    omega

@[simp]
theorem claimsOf_append (history notes : List DeletionNote) (boxId : ℤ) :
    claimsOf (history ++ notes) boxId = claimsOf history boxId + claimsOf notes boxId :=
  List.countP_append

theorem claimsOf_eq_zero {notes : List DeletionNote} {id boxId : ℤ}
    (about : ∀ note ∈ notes, note.outbox.id = id) (differ : boxId ≠ id) :
    claimsOf notes boxId = 0 := by
  apply List.countP_eq_zero.mpr
  intro note inLog counted
  simp only [Bool.and_eq_true, decide_eq_true_eq] at counted
  exact differ (counted.2.symm.trans (about note inLog))

section Calls

variable {sys later : DeletionSystem} {worker : ℕ}

theorem MovesOn.of_rewrites {kind : NoteKind} {after : Database}
    {old new : Outbox} (edits : Rewrites kind sys.db after old new)
    {notes : List DeletionNote} (about : ∀ note ∈ notes, note.outbox.id = old.id) :
    MovesOn sys ⟨after, sys.history ++ notes⟩ old new := by
  rcases edits.outboxes with ⟨_, moved, applied⟩
  refine ⟨edits.found, ?_, edits.moves.id, edits.moves.lifecycleId, ?_, ?_,
    edits.others, ?_, ?_, ?_⟩
  · have stored := find?_of_mem edits.mem_new
    rw [show Keyed.key new = old.id from edits.moves.id] at stored
    exact stored
  · have next := edits.moves.version
    omega
  · intro _ differ
    exact edits.find?_other differ
  · intro _ differ
    rw [claimsOf_append, claimsOf_eq_zero about differ]
    rfl
  · rw [claimsOf_append]
    exact Nat.le_add_right _ _
  · simp only [Database.remaining, moved]
    rw [total_modify edits.found, applied]

theorem transact_succeeds {Result : Type} {fault : Fault}
    {result : Outcome (Result × Database)} {committed : Result → List DeletionNote}
    (isOk : (sys.transact fault result committed).1.isOk) :
    ∃ reply after, result = .ok (reply, after) ∧ sys.transact fault result committed =
        (.ok reply, ⟨after, sys.history ++ committed reply⟩) := by
  rcases transact_cases sys fault result committed with
    ⟨failure, failed⟩ | ⟨reply, after, done, told | told⟩
  · rw [failed] at isOk
    cases isOk
  · exact ⟨reply, after, done, told⟩
  · rw [told] at isOk
    cases isOk

theorem noteOf_about (sys : DeletionSystem) (worker : ℕ) (boxId : ℤ) (kind : NoteKind) :
    ∀ note ∈ sys.noteOf worker boxId kind, note.outbox.id = boxId := by
  intro _ inLog
  simp only [DeletionSystem.noteOf, List.mem_map, Option.mem_toList] at inLog
  rcases inLog with ⟨_, found, rfl⟩
  exact key_of_find? found

end Calls

/-! ## The attempts that are left -/

section Remaining

variable {old new : Outbox}

variable {row : Outbox} {time : ℤ}

theorem remaining_of_ended (ended : row.state.Ended) : row.remaining = 0 := by
  simp [Outbox.remaining, ended]

theorem remaining_inProgress (moving : row.state = .inProgress) :
    row.remaining = (row.maxAttempts - row.attemptCount).toNat + 1 := by
  simp [Outbox.remaining, moving, DeletionOutboxState.Ended]

theorem remaining_of_waiting (waiting : row.state = .pending ∨ row.state = .retryWait) :
    row.remaining = (row.maxAttempts - row.attemptCount).toNat := by
  rcases waiting with state | state
  · simp [Outbox.remaining, state, DeletionOutboxState.Ended]
  · simp [Outbox.remaining, state, DeletionOutboxState.Ended]

theorem remaining_claimed (moves : Moves .claimed old new) : new.remaining = old.remaining := by
  have limit := moves.maxAttempts
  rcases moves.turns with ⟨moving, ⟨before, same, _⟩ | ⟨before, _, _, _⟩⟩
  · rw [remaining_inProgress moving, remaining_inProgress before, same, limit]
  · rw [remaining_inProgress moving, remaining_of_waiting before]
    omega

theorem remaining_marked (moves : Moves .marked old new) : new.remaining = old.remaining := by
  have limit := moves.maxAttempts
  rcases moves.turns with ⟨before, _, moving, same, _⟩
  rw [remaining_inProgress moving, remaining_inProgress before, same, limit]

theorem remaining_retried {errorCode : String} (moves : Moves (.retried errorCode) old new) :
    new.remaining < old.remaining := by
  have limit := moves.maxAttempts
  rcases moves.turns with ⟨before, waiting, same⟩
  rw [remaining_of_waiting (.inr waiting), remaining_inProgress before, same, limit]
  omega

theorem remaining_completed (moves : Moves .completed old new) : new.remaining < old.remaining := by
  rcases moves.turns with ⟨before, ended, _⟩
  rw [remaining_of_ended ended, remaining_inProgress before]
  omega

theorem remaining_failed (moves : Moves .failed old new) : new.remaining < old.remaining := by
  rcases moves.turns with ⟨before, ended, _⟩
  rw [remaining_of_ended ended, remaining_inProgress before]
  omega

theorem due_iff :
    row.due time ↔
      ((row.state = .pending ∨ row.state = .retryWait) ∧ row.attemptCount < row.maxAttempts ∧
        row.nextAttemptAt ≤ time ∧ ∀ expiry ∈ row.leaseExpiresAt, expiry < time) ∨
      (row.state = .inProgress ∧ ∃ expiry ∈ row.leaseExpiresAt, expiry < time) := by
  simp only [Outbox.due, Bool.or_eq_true, Bool.and_eq_true,
    decide_eq_true_eq, Option.all_eq_true, Option.any_eq_true, and_assoc, Option.mem_def]

theorem lapsed_of_due (due : row.due time) : ∀ expiry ∈ row.leaseExpiresAt, expiry < time := by
  rcases due_iff.mp due with ⟨_, _, _, lapsed⟩ | ⟨_, _, lease, expired⟩
  · exact lapsed
  · intro _ other
    rw [lease] at other
    cases other
    exact expired

theorem due_later {later : ℤ} (due : row.due time) (passes : time ≤ later) : row.due later := by
  apply due_iff.mpr
  rcases due_iff.mp due with ⟨waiting, room, ready, lapsed⟩ | ⟨moving, held, lease, expired⟩
  · refine .inl ⟨waiting, room, ready.trans passes, ?_⟩
    intro expiry lease
    exact (lapsed expiry lease).trans_le passes
  · exact .inr ⟨moving, held, lease, expired.trans_le passes⟩

theorem remaining_pos_of_due (due : row.due time) : 0 < row.remaining := by
  rcases due_iff.mp due with ⟨waiting, _, _⟩ | ⟨moving, _⟩
  · rw [remaining_of_waiting waiting]
    omega
  · rw [remaining_inProgress moving]
    omega

theorem remaining_quarantined (due : old.due time) (moves : Moves .quarantined old new) :
    new.remaining < old.remaining := by
  rw [remaining_of_ended moves.turns.2.1]
  exact remaining_pos_of_due due

end Remaining

def Settles (before after : DeletionSystem) (row : Outbox) : Prop :=
  ∃ new, MovesOn before after row new ∧ new.remaining < row.remaining

theorem MovesOn.settles {before middle after : DeletionSystem}
    {row between : Outbox} (moves : MovesOn before middle row between)
    (same : between.remaining = row.remaining) (settles : Settles middle after between) :
    Settles before after row := by
  rcases settles with ⟨new, more, _⟩
  refine ⟨new, moves.trans more, ?_⟩
  omega

theorem Settles.of_noted {sys after : DeletionSystem} {row : Outbox}
    {notes : List DeletionNote} (free : ∀ id, claimsOf notes id = 0)
    (settles : Settles ⟨sys.db, sys.history ++ notes⟩ after row) :
    Settles sys after row := by
  rcases settles with ⟨new, moves, fewer⟩
  have same : ∀ id, claimsOf (sys.history ++ notes) id = claimsOf sys.history id := by
    intro _
    rw [claimsOf_append, free, Nat.add_zero]
  refine ⟨new, ⟨moves.stored, moves.found, moves.id, moves.lifecycleId, moves.version,
    moves.others, moves.lifecycles, ?_, ?_, moves.remaining⟩, fewer⟩
  · intro id differ
    exact (moves.claims id differ).trans (same id)
  · exact (same row.id).symm.trans_le moves.claimed

/-! ## The end of an attempt -/

section Programs

variable {targets : DeletionTargets} {time : ℤ} {worker : ℕ} {opts : DeletionWorkerOptions}
  {summary : DeletionSummary} {life : ManagedProviderFileLifecycle}
  {sys later : DeletionSystem} {box : Outbox}
  {result : Processed}

abbrev Served (targets : DeletionTargets) (time : ℤ) (worker : ℕ) {Result : Type}
    (program : WorkerProgram Result) (sys : DeletionSystem) (result : Result)
    (later : DeletionSystem) : Prop :=
  Program.Ends (DeletionSystem.perform worker) (WorkerCall.Serves targets time worker) program
    sys result later

theorem served_quiet {Result : Type} {result : Result} {call : WorkerCall}
    {next : call.Answer → WorkerProgram Result} (quiet : call.Quiet)
    (run : Served targets time worker (request call >>= next) sys result later) :
    ∃ pick, call.Serves targets time worker pick sys ∧
      Served targets time worker (next (DeletionSystem.perform worker call pick sys).1)
        sys result later := by
  rcases Program.ends_ask.mp run with ⟨pick, serves, rest⟩
  rw [perform_quiet quiet] at rest
  exact ⟨pick, serves, rest⟩

theorem served_event {eventType : LifecycleEventType} {toState : LifecycleState}
    {attemptCount createdAt : ℤ} {resultCode evidenceDigest : String}
    {next : Outcome ManagedProviderFileLifecycleEvent → WorkerProgram Processed}
    (run : Served targets time worker
      (workerEvent opts life eventType toState attemptCount resultCode evidenceDigest
        createdAt >>= next) sys result later) :
    ∃ event, Served targets time worker (next (.ok event)) sys result later := by
  rcases Program.ends_bind.mp run with ⟨derived, _, deriving_, rest⟩
  simp only [workerEvent, providerFileEventWithAttempt, ne_eq, not_true_eq_false,
    if_false] at deriving_
  rcases served_quiet (by trivial) deriving_ with ⟨pick, serves, done⟩
  rcases Program.ends_pure.mp done with ⟨rfl, rfl⟩
  rcases isOk_iff.mp serves.1 with ⟨digest, derived⟩
  have answered : pick.digest = .ok digest := derived
  simp only [DeletionSystem.perform, answered] at rest
  exact ⟨_, rest⟩

/-- An attempt ends when its row, held by the worker, has fewer attempts left. -/
def EndsAttempt (targets : DeletionTargets) (time : ℤ) (worker : ℕ)
    (box : Outbox) (program : WorkerProgram Processed) : Prop :=
  ∀ sys result later, sys.db.outboxes.find? box.id = some box →
    Served targets time worker program sys result later →
      Settles sys later box ∧ result.2 = .ok ()

theorem settles_of_rewrites {kind : NoteKind} {after : Database} {notes : List DeletionNote}
    {old new : Outbox} (sameId : old.id = box.id) (held : sys.db.outboxes.find? box.id = some box)
    (edits : Rewrites kind sys.db after old new)
    (about : ∀ note ∈ notes, note.outbox.id = box.id) (fewer : new.remaining < old.remaining) :
    Settles sys ⟨after, sys.history ++ notes⟩ box := by
  have found := edits.found
  rw [sameId, held] at found
  cases found
  exact ⟨new, MovesOn.of_rewrites edits about, fewer⟩

theorem finishDeletionSuccess_ends :
    EndsAttempt targets time worker box (finishDeletionSuccess opts summary life box) := by
  intro sys _ _ held run
  simp only [finishDeletionSuccess] at run
  rcases served_quiet (by trivial) run with ⟨_, derives, run⟩
  rcases isOk_iff.mp derives.1 with ⟨_, derived⟩
  rw [derived] at run
  rcases served_quiet (by trivial) run with ⟨_, _, run⟩
  rcases served_event run with ⟨_, run⟩
  rcases Program.ends_ask.mp run with ⟨_, serves, run⟩
  rcases transact_succeeds serves.1 with ⟨_, _, done, told⟩
  rcases complete_rewrites (unit_ok done) with ⟨_, _, sameId, _, edits⟩
  simp only [DeletionSystem.perform, told] at run
  rcases Program.ends_pure.mp run with ⟨rfl, rfl⟩
  refine ⟨?_, rfl⟩
  exact settles_of_rewrites sameId held edits (noteOf_about sys worker _ _)
    (remaining_completed edits.moves)

theorem finishDeletionFailure_ends (resultCode : String) :
    EndsAttempt targets time worker box
      (finishDeletionFailure opts summary life box resultCode) := by
  intro sys _ _ held run
  simp only [finishDeletionFailure] at run
  rcases served_quiet (by trivial) run with ⟨_, derives, run⟩
  rcases isOk_iff.mp derives.1 with ⟨_, derived⟩
  rw [derived] at run
  rcases served_quiet (by trivial) run with ⟨_, _, run⟩
  rcases served_event run with ⟨_, run⟩
  rcases Program.ends_ask.mp run with ⟨_, serves, run⟩
  rcases transact_succeeds serves.1 with ⟨_, _, done, told⟩
  rcases fail_rewrites (unit_ok done) with ⟨_, _, sameId, _, edits⟩
  simp only [DeletionSystem.perform, told] at run
  rcases Program.ends_pure.mp run with ⟨rfl, rfl⟩
  refine ⟨?_, rfl⟩
  exact settles_of_rewrites sameId held edits (noteOf_about sys worker _ _)
    (remaining_failed edits.moves)

theorem scheduleDeletionRetry_ends (resultCode : String) :
    EndsAttempt targets time worker box
      (scheduleDeletionRetry opts summary life box resultCode) := by
  simp only [scheduleDeletionRetry]
  split
  · exact finishDeletionFailure_ends resultCode
  · intro sys _ _ held run
    rcases served_quiet (by trivial) run with ⟨_, _, run⟩
    rcases served_event run with ⟨_, run⟩
    rcases Program.ends_ask.mp run with ⟨_, serves, run⟩
    rcases transact_succeeds serves.1 with ⟨_, _, done, told⟩
    rcases retry_rewrites (unit_ok done) with ⟨_, _, sameId, _, edits⟩
    simp only [DeletionSystem.perform] at told
    simp only [DeletionSystem.perform, told] at run
    rcases Program.ends_pure.mp run with ⟨rfl, rfl⟩
    refine ⟨?_, rfl⟩
    exact settles_of_rewrites sameId held edits (noteOf_about sys worker _ _)
      (remaining_retried edits.moves)

theorem finishDelete_ends (reply : DeleteAnswer) :
    EndsAttempt targets time worker box (finishDelete opts summary life box reply) := by
  unfold finishDelete
  split
  · exact finishDeletionSuccess_ends
  · exact scheduleDeletionRetry_ends _
  · exact finishDeletionFailure_ends _

theorem dispatchDelete_ends :
    EndsAttempt targets time worker box (dispatchDelete opts summary life box) := by
  intro _ _ _ held run
  simp only [dispatchDelete] at run
  rcases served_quiet (by trivial) run with ⟨_, _, run⟩
  split at run
  · exact scheduleDeletionRetry_ends _ _ _ _ held run
  · rcases served_quiet (by trivial) run with ⟨_, _, run⟩
    rcases served_event run with ⟨_, run⟩
    rcases served_quiet (by trivial) run with ⟨_, _, run⟩
    rcases Program.ends_ask.mp run with ⟨_, serves, run⟩
    rcases transact_succeeds serves.1 with ⟨dispatched, after, done, told⟩
    rcases mark_rewrites done with ⟨old, sameId, _, edits⟩
    simp only [DeletionSystem.perform] at told
    simp only [DeletionSystem.perform, told] at run
    have found := edits.found
    rw [show old.id = box.id from sameId, held] at found
    cases found
    have about : ∀ note ∈ [(⟨worker, dispatched, .marked⟩ : DeletionNote)],
        note.outbox.id = box.id := by
      intro _ inLog
      rw [List.mem_singleton.mp inLog]
      exact edits.moves.id
    have marked := MovesOn.of_rewrites edits about
    have heldLater : after.outboxes.find? dispatched.id = some dispatched := by
      have found := marked.found
      rw [← marked.id] at found
      exact found
    rcases Program.ends_ask.mp run with ⟨_, _, run⟩
    rcases Program.ends_ask.mp run with ⟨_, _, run⟩
    rcases finishDelete_ends _ _ _ _ heldLater run with ⟨settles, ended⟩
    refine ⟨marked.settles (remaining_marked edits.moves) ?_, ended⟩
    apply Settles.of_noted _ (Settles.of_noted _ settles)
    · intro _
      rfl
    · intro _
      rfl

theorem claim_takes {db after : Database} {claim : ManagedProviderFileDeletionClaim} {now : ℤ}
    (held : db.outboxes.find? claim.outboxId = some box) (due : box.due time)
    (state : claim.expectedState = box.state) (ver : claim.expectedVersion = box.version)
    (attempts : claim.expectedAttemptCount = box.attemptCount) (later : time ≤ now) :
    claimManagedProviderFileDeletion db claim now ≠ .ok (none, after) := by
  intro idle
  have lapsed : ∀ expiry ∈ box.leaseExpiresAt, expiry < now := by
    intro expiry lease
    exact (lapsed_of_due due expiry lease).trans_le later
  have current : ¬claim.Stale box now := by
    rintro (other | other | other | ⟨waiting, _⟩ | ⟨waiting, _⟩ | ⟨expiry, lease, _⟩)
    · exact other state.symm
    · exact other ver.symm
    · exact other attempts.symm
    · rcases due_iff.mp due with ⟨_, _, _⟩ | ⟨moving, _⟩
      · omega
      · exact waiting moving
    · rcases due_iff.mp due with ⟨_, _, _, _⟩ | ⟨moving, _⟩
      · omega
      · exact waiting moving
    · have past := lapsed expiry lease
      omega
  have guarded : (box.version = claim.expectedVersion && box.state = claim.expectedState &&
      box.attemptCount = claim.expectedAttemptCount &&
      box.leaseExpiresAt.all fun expiry => expiry < now) = true := by
    rw [state, ver, attempts]
    simpa [Option.all_eq_true] using lapsed
  simp only [claimManagedProviderFileDeletion, guard_eq_ok, held] at idle
  rcases idle with ⟨_, rest⟩
  split at rest
  · cases rest
  · simp only [if_neg current] at rest
    rcases bind_eq_ok.mp rest with ⟨_, _, rest⟩
    simp only [guard_eq_ok, updateOutbox] at rest
    rw [updateWhere_of_find? (find?_outbox_id held) guarded] at rest
    rcases bind_eq_ok.mp rest.2 with ⟨_, _, done⟩
    cases done

theorem claimAndDelete_ends {now : ℤ} (held : sys.db.outboxes.find? box.id = some box)
    (due : box.due time)
    (run : Served targets time worker (claimAndDelete opts summary life box now) sys result later) :
    Settles sys later box ∧ result.2 = .ok () ∧
      claimsOf sys.history box.id < claimsOf later.history box.id := by
  simp only [claimAndDelete] at run
  rcases served_quiet (by trivial) run with ⟨_, derives, run⟩
  rcases isOk_iff.mp derives.1 with ⟨_, derived⟩
  rw [derived] at run
  rcases served_event run with ⟨_, run⟩
  rcases Program.ends_ask.mp run with ⟨_, serves, run⟩
  rcases transact_succeeds serves.1 with ⟨taken, after, done, told⟩
  simp only [DeletionSystem.perform, told] at run
  cases taken with
  | none => exact absurd done (claim_takes held due rfl rfl rfl serves.2)
  | some claimed =>
    rcases claim_rewrites done with ⟨old, sameId, _, edits⟩
    have found := edits.found
    rw [show old.id = box.id from sameId, held] at found
    cases found
    have about : ∀ note ∈ [(⟨worker, claimed, .claimed⟩ : DeletionNote)],
        note.outbox.id = box.id := by
      intro _ inLog
      rw [List.mem_singleton.mp inLog]
      exact edits.moves.id
    have moved := MovesOn.of_rewrites edits about
    have heldLater : after.outboxes.find? claimed.id = some claimed := by
      have stored := moved.found
      rw [← moved.id] at stored
      exact stored
    have ended : Settles ⟨after, sys.history ++ [⟨worker, claimed, .claimed⟩]⟩ later claimed ∧
        result.2 = .ok () := by
      simp only at run
      split at run
      · exact finishDeletionFailure_ends _ _ _ _ heldLater run
      · exact dispatchDelete_ends _ _ _ heldLater run
    rcases ended with ⟨settles, ok⟩
    refine ⟨moved.settles (remaining_claimed edits.moves) settles, ok, ?_⟩
    rcases settles with ⟨_, more, _⟩
    have kept := more.claimed
    rw [moved.id] at kept
    apply lt_of_lt_of_le ?_ kept
    simp [claimsOf, moved.id]

theorem quarantine_takes {db after : Database} {now : ℤ}
    (held : db.outboxes.find? box.id = some box) (due : box.due time) :
    quarantineOrphanedManagedProviderFileDeletion db box.id box.version now ≠
      .ok (false, after) := by
  intro idle
  have guarded : (box.version = box.version && (box.state = .pending ||
      box.state = .retryWait || box.state = .inProgress)) = true := by
    rcases due_iff.mp due with ⟨state | state, _⟩ | ⟨state, _⟩
    · simp [state]
    · simp [state]
    · simp [state]
  simp only [quarantineOrphanedManagedProviderFileDeletion, guard_eq_ok] at idle
  rw [updateWhere_of_find? held guarded] at idle
  simp at idle

theorem lookup_cases {lifeId : ℤ} {pick : WorkerChoice}
    (isOk : (WorkerCall.getLifecycle lifeId).Succeeds
      (DeletionSystem.perform worker (.getLifecycle lifeId) pick sys).1) :
    (sys.db.lifecycles.find? lifeId = none ∧
        (DeletionSystem.perform worker (.getLifecycle lifeId) pick sys).1 =
          .error .recordNotFound) ∨
      ∃ life, sys.db.lifecycles.find? lifeId = some life ∧
        (DeletionSystem.perform worker (.getLifecycle lifeId) pick sys).1 = .ok life := by
  simp only [DeletionSystem.perform, DeletionSystem.read,
    getManagedProviderFileDeletionLifecycle, WorkerCall.Succeeds, isOk_iff] at isOk ⊢
  cases fault : pick.fault with
  | refused | unanswered => simp [fault] at isOk
  | none =>
    by_cases unnamed : lifeId ≤ 0
    · simp [fault, unnamed] at isOk
    · cases stored : sys.db.lifecycles.find? lifeId with
      | none => exact .inl ⟨rfl, by simp [unnamed]⟩
      | some life => exact .inr ⟨life, rfl, by simp [unnamed]⟩

theorem processDeletionOutbox_ends (held : sys.db.outboxes.find? box.id = some box)
    (due : box.due time)
    (run : Served targets time worker (processDeletionOutbox opts summary box) sys result later) :
    (box.stuck targets sys.db = true ∧ later = sys) ∨
      (box.stuck targets sys.db = false ∧ Settles sys later box ∧
        (box.available targets sys.db = true →
          claimsOf sys.history box.id < claimsOf later.history box.id)) := by
  simp only [processDeletionOutbox] at run
  rcases served_quiet (by trivial) run with ⟨_, serves, run⟩
  rcases lookup_cases serves.1 with ⟨missing, answered⟩ | ⟨life, stored, answered⟩
  · right
    rw [answered] at run
    rcases Program.ends_ask.mp run with ⟨_, quarantines, run⟩
    rcases transact_succeeds quarantines.1 with ⟨_, _, done, told⟩
    simp only [DeletionSystem.perform, told] at run
    refine ⟨by simp [Outbox.stuck, missing], ?_,
      by simp [Outbox.available, missing]⟩
    rcases quarantine_rewrites done with ⟨rfl, _⟩ | ⟨rfl, old, new, sameId, _, edits⟩
    · exact absurd done (quarantine_takes held due)
    · rcases Program.ends_pure.mp run with ⟨rfl, rfl⟩
      have fewer : new.remaining < old.remaining := by
        have found := edits.found
        rw [sameId, held] at found
        cases found
        exact remaining_quarantined due edits.moves
      exact settles_of_rewrites sameId held edits (noteOf_about sys worker _ _) fewer
  · rw [answered] at run
    rcases served_quiet (by trivial) run with ⟨_, _, run⟩
    rcases served_quiet (by trivial) run with ⟨loading, loads, run⟩
    have offered : loading.target = targets life.channelId := loads.2
    simp only [DeletionSystem.perform, offered] at run
    cases goal : targets life.channelId with
    | none =>
      rw [goal] at run
      rcases Program.ends_pure.mp run with ⟨_, rfl⟩
      left
      simp [Outbox.stuck, stored, DeletionTargets.matching, goal]
    | some loaded =>
      rw [goal] at run
      cases matches_ : matchesLifecycleTarget life loaded.1 loaded.2 with
      | false =>
        simp only [matches_, Bool.not_false, if_true] at run
        rcases Program.ends_pure.mp run with ⟨_, rfl⟩
        left
        simp [Outbox.stuck, stored, DeletionTargets.matching, goal, matches_]
      | true =>
        simp only [matches_, Bool.not_true, Bool.false_eq_true, if_false] at run
        rcases claimAndDelete_ends held due run with ⟨settles, _, claims⟩
        right
        refine ⟨?_, settles, fun _ => claims⟩
        simp [Outbox.stuck, stored, DeletionTargets.matching, goal, matches_]

end Programs

/-! ## The rows of a batch -/

def Database.SingleOutboxes (db : Database) : Prop :=
  ∀ left ∈ db.outboxes.rows, ∀ right ∈ db.outboxes.rows,
    left.lifecycleId = right.lifecycleId → left = right

/-- The batch did nothing to the row. -/
structure Undisturbed (before after : DeletionSystem) (row : Outbox) :
    Prop where
  found : after.db.outboxes.find? row.id = some row
  lifecycle : after.db.lifecycles.find? row.lifecycleId = before.db.lifecycles.find? row.lifecycleId
  claims : claimsOf after.history row.id = claimsOf before.history row.id

section Undisturbed

variable {targets : DeletionTargets} {before middle after : DeletionSystem} {row old new : Outbox}

theorem Undisturbed.refl (stored : row ∈ before.db.outboxes.rows) : Undisturbed before before row :=
  ⟨find?_of_mem stored, rfl, rfl⟩

theorem Undisturbed.trans (first : Undisturbed before middle row)
    (second : Undisturbed middle after row) : Undisturbed before after row :=
  ⟨second.found, second.lifecycle.trans first.lifecycle, second.claims.trans first.claims⟩

section

variable (undisturbed : Undisturbed before after row)

include undisturbed

theorem Undisturbed.stored :
    row ∈ after.db.outboxes.rows :=
  mem_of_find? undisturbed.found

theorem Undisturbed.stuck : row.stuck targets after.db = row.stuck targets before.db := by
  simp only [Outbox.stuck, undisturbed.lifecycle]

theorem Undisturbed.available :
    row.available targets after.db = row.available targets before.db := by
  simp only [Outbox.available, undisturbed.lifecycle]

end

theorem MovesOn.undisturbed (moves : MovesOn before after old new)
    (single : before.db.SingleOutboxes) (stored : row ∈ before.db.outboxes.rows)
    (differ : row.id ≠ old.id) : Undisturbed before after row := by
  refine ⟨?_, ?_, moves.claims row.id differ⟩
  · rw [moves.others row.id differ]
    exact find?_of_mem stored
  · apply moves.lifecycles
    intro same
    apply differ
    rw [single row stored old (mem_of_find? moves.stored) same]

theorem MovesOn.single (moves : MovesOn before after old new)
    (single : before.db.SingleOutboxes) : after.db.SingleOutboxes := by
  have base : ∀ stored ∈ after.db.outboxes.rows,
      ∃ src ∈ before.db.outboxes.rows, src.id = stored.id ∧
        src.lifecycleId = stored.lifecycleId := by
    intro stored isRow
    have found : after.db.outboxes.find? stored.id = some stored := find?_of_mem isRow
    by_cases same : stored.id = old.id
    · rw [same, moves.found] at found
      cases found
      exact ⟨old, mem_of_find? moves.stored, moves.id.symm, moves.lifecycleId.symm⟩
    · rw [moves.others stored.id same] at found
      exact ⟨stored, mem_of_find? found, rfl, rfl⟩
  intro left inLeft right inRight same
  rcases base left inLeft with ⟨leftSource, leftStored, leftId, leftOwner⟩
  rcases base right inRight with ⟨rightSource, rightStored, rightId, rightOwner⟩
  have equal := single leftSource leftStored rightSource rightStored
    (leftOwner.trans (same.trans rightOwner.symm))
  have sameId : left.id = right.id := by
    rw [← leftId, ← rightId, equal]
  have atLeft : after.db.outboxes.find? left.id = some left := find?_of_mem inLeft
  have atRight : after.db.outboxes.find? right.id = some right := find?_of_mem inRight
  rw [sameId, atRight] at atLeft
  exact (Option.some.inj atLeft).symm

end Undisturbed

/-- What a batch does: its rows move, all others and the stuck ones stay. -/
structure Worked (targets : DeletionTargets) (rows : List Outbox)
    (before after : DeletionSystem) : Prop where
  single : after.db.SingleOutboxes
  untouched : ∀ row ∈ before.db.outboxes.rows,
    row ∉ rows ∨ row.stuck targets before.db = true → Undisturbed before after row
  moved : ∀ row ∈ rows, row.stuck targets before.db = false →
    ∃ new, after.db.outboxes.find? row.id = some new ∧ row.version < new.version
  claimed : ∀ row ∈ rows, row.available targets before.db = true →
    claimsOf before.history row.id < claimsOf after.history row.id
  remaining : after.db.remaining ≤ before.db.remaining
  fewer : (∃ row ∈ rows, row.stuck targets before.db = false) →
    after.db.remaining < before.db.remaining

section Rows

variable {targets : DeletionTargets} {time : ℤ} {worker : ℕ} {opts : DeletionWorkerOptions}
  {sys later : DeletionSystem} {result : Processed}

theorem Worked.nil (single : sys.db.SingleOutboxes) : Worked targets [] sys sys where
  single := single
  untouched _ stored _ := Undisturbed.refl stored
  moved _ isRow _ := absurd isRow List.not_mem_nil
  claimed _ isRow _ := absurd isRow List.not_mem_nil
  remaining := le_refl _
  fewer exists_ := by
    rcases exists_ with ⟨_, isRow, _⟩
    cases isRow

theorem not_stuck_of_available {row : Outbox} {db : Database}
    (available : row.available targets db = true) : row.stuck targets db = false := by
  simp only [Outbox.available, Outbox.stuck] at available ⊢
  cases found : db.lifecycles.find? row.lifecycleId with
  | none => rfl
  | some _ =>
    rw [found] at available
    simpa using available

theorem Worked.cons_moved {middle : DeletionSystem} {row new : Outbox}
    {rest : List Outbox} (single : sys.db.SingleOutboxes)
    (nodup : ∀ other ∈ rest, other.id ≠ row.id)
    (stored : ∀ other ∈ rest, other ∈ sys.db.outboxes.rows)
    (free : row.stuck targets sys.db = false) (moves : MovesOn sys middle row new)
    (fewer : new.remaining < row.remaining) (claims : row.available targets sys.db = true →
      claimsOf sys.history row.id < claimsOf middle.history row.id)
    (worked : Worked targets rest middle later) : Worked targets (row :: rest) sys later := by
  have apart : ∀ other ∈ rest, Undisturbed sys middle other := by
    intro other isIn
    exact moves.undisturbed single (stored other isIn) (nodup other isIn)
  have keptNew : Undisturbed middle later new := by
    apply worked.untouched new (mem_of_find? moves.found)
    left
    intro isIn
    exact nodup new isIn moves.id
  have less : later.db.remaining < sys.db.remaining := by
    have first := moves.remaining
    have second := worked.remaining
    omega
  refine ⟨worked.single, ?_, ?_, ?_, less.le, fun _ => less⟩
  · intro other isRow out
    have differ : other.id ≠ row.id := by
      intro same
      have found : sys.db.outboxes.find? other.id = some other := find?_of_mem isRow
      rw [same, moves.stored] at found
      cases found
      rcases out with out | isStuck
      · exact out (List.mem_cons_self ..)
      · rw [free] at isStuck
        cases isStuck
    have first := moves.undisturbed single isRow differ
    apply first.trans
    apply worked.untouched other first.stored
    rcases out with out | isStuck
    · exact .inl fun isIn => out (List.mem_cons_of_mem _ isIn)
    · exact .inr (first.stuck.trans isStuck)
  · intro other isRow unstuck
    rcases List.mem_cons.mp isRow with rfl | isIn
    · refine ⟨new, ?_, moves.version⟩
      rw [← moves.id]
      exact keptNew.found
    · exact worked.moved other isIn ((apart other isIn).stuck.trans unstuck)
  · intro other isRow offered
    rcases List.mem_cons.mp isRow with rfl | isIn
    · have kept := keptNew.claims
      rw [moves.id] at kept
      rw [kept]
      exact claims offered
    · have more := worked.claimed other isIn ((apart other isIn).available.trans offered)
      rw [(apart other isIn).claims] at more
      exact more

theorem Worked.cons_stuck {row : Outbox} {rest : List Outbox}
    (isStuck : row.stuck targets sys.db = true) (worked : Worked targets rest sys later) :
    Worked targets (row :: rest) sys later := by
  refine ⟨worked.single, ?_, ?_, ?_, worked.remaining, ?_⟩
  · intro other isRow out
    apply worked.untouched other isRow
    rcases out with out | stuckToo
    · exact .inl fun isIn => out (List.mem_cons_of_mem _ isIn)
    · exact .inr stuckToo
  · intro other isRow unstuck
    rcases List.mem_cons.mp isRow with rfl | isIn
    · rw [isStuck] at unstuck
      cases unstuck
    · exact worked.moved other isIn unstuck
  · intro other isRow offered
    rcases List.mem_cons.mp isRow with rfl | isIn
    · rw [not_stuck_of_available offered] at isStuck
      cases isStuck
    · exact worked.claimed other isIn offered
  · rintro ⟨other, isRow, unstuck⟩
    rcases List.mem_cons.mp isRow with rfl | isIn
    · rw [isStuck] at unstuck
      cases unstuck
    · exact worked.fewer ⟨other, isIn, unstuck⟩

/-- The loop of a batch works on its rows in their order. -/
theorem processBatch_ends {rows : List Outbox} {summary : DeletionSummary}
    (nodup : (rows.map Outbox.id).Nodup) (stored : ∀ row ∈ rows, row ∈ sys.db.outboxes.rows)
    (due : ∀ row ∈ rows, row.due time) (single : sys.db.SingleOutboxes)
    (run : Served targets time worker (processBatch opts summary rows) sys result later) :
    Worked targets rows sys later := by
  induction rows generalizing sys summary with
  | nil =>
    simp only [processBatch] at run
    split at run
    · rcases Program.ends_pure.mp run with ⟨_, rfl⟩
      exact Worked.nil single
    · rcases Program.ends_pure.mp run with ⟨_, rfl⟩
      exact Worked.nil single
  | cons row rest ih =>
    simp only [List.map_cons, List.nodup_cons] at nodup
    simp only [processBatch] at run
    rcases served_quiet (by trivial) run with ⟨ctx, serves, run⟩
    have running : ctx.contextError = false := serves.1
    simp only [DeletionSystem.perform, running, Bool.false_eq_true, if_false] at run
    rcases Program.ends_bind.mp run with ⟨_, middle, processing, goesOn⟩
    have goes : ∃ following, Served targets time worker (processBatch opts following rest)
        middle result later := by
      split at goesOn
      · exact ⟨_, goesOn⟩
      · exact ⟨_, goesOn⟩
    rcases goes with ⟨_, more⟩
    have held : sys.db.outboxes.find? row.id = some row :=
      find?_of_mem (stored row (List.mem_cons_self ..))
    have restStored : ∀ other ∈ rest, other ∈ sys.db.outboxes.rows :=
      fun other isIn => stored other (List.mem_cons_of_mem _ isIn)
    have restDue : ∀ other ∈ rest, other.due time :=
      fun other isIn => due other (List.mem_cons_of_mem _ isIn)
    have apart : ∀ other ∈ rest, other.id ≠ row.id := by
      intro _ isIn same
      apply nodup.1
      rw [← same]
      exact List.mem_map_of_mem isIn
    rcases processDeletionOutbox_ends held (due row (List.mem_cons_self ..)) processing with
      ⟨isStuck, rfl⟩ | ⟨free, ⟨new, moves, fewer⟩, claims⟩
    · exact Worked.cons_stuck isStuck (ih nodup.2 restStored restDue single more)
    · apply Worked.cons_moved single apart restStored free moves fewer claims
      refine ih nodup.2 ?_ restDue (moves.single single) more
      intro other isIn
      exact (moves.undisturbed single (restStored other isIn) (apart other isIn)).stored

end Rows

end NewApi.ProviderFile
