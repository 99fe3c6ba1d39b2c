import NewApi.ProviderFile.DeletionMoves

/-!
# Stages of a deletion

What a worker has noted about a row when it makes a call about that row. Other workers do not
write its notes, so the stage of a row is known to its worker alone.
-/

namespace NewApi.ProviderFile

open Concurrent (Program Keeps)
open Relational
open NewApi.ProviderFile renaming ManagedProviderFileDeletionOutbox → Outbox

def DeletionSystem.own (s : DeletionSystem) (t : ℕ) (boxId : ℤ) :
    List DeletionNote :=
  s.history.filter fun note => note.thread = t && note.outbox.id = boxId

def SameNotes (t : ℕ) (past after : DeletionSystem) : Prop :=
  ∀ boxId, after.own t boxId = past.own t boxId

section Stages

variable (t : ℕ) (cand claimed marked : Outbox) (reply : DeleteAnswer) (held : Bool)

def listedNotes : List DeletionNote :=
  [⟨t, cand, .listed⟩]

def claimedNotes : List DeletionNote :=
  listedNotes t cand ++ [⟨t, claimed, .claimed⟩]

def markedNotes : List DeletionNote :=
  claimedNotes t cand claimed ++ [⟨t, marked, .marked⟩]

def sentNotes : List DeletionNote :=
  markedNotes t cand claimed marked ++ [⟨t, marked, .sent⟩]

def answeredNotes : List DeletionNote :=
  sentNotes t cand claimed marked ++ [⟨t, marked, .answered reply held⟩]

end Stages

def ClaimedAt (t : ℕ) (notes : List DeletionNote) (ver : ℤ) : Prop :=
  ∃ cand claimed, notes = claimedNotes t cand claimed ∧
    claimed.version = ver

/-- The same, for a row that had not been dispatched when it was listed. -/
def FreshAt (t : ℕ) (notes : List DeletionNote) (ver : ℤ) : Prop :=
  ∃ cand claimed, notes = claimedNotes t cand claimed ∧
    cand.dispatchedAt = none ∧ claimed.version = ver

def AnsweredAt (t : ℕ) (notes : List DeletionNote) (reply : DeleteAnswer) (ver : ℤ) :
    Prop :=
  ∃ cand claimed marked held, notes = answeredNotes t cand claimed marked reply held ∧
      marked.version = claimed.version + 1 ∧ marked.version = ver

/-- What a worker has noted about a row before it makes a call about it. -/
def Needs (t : ℕ) (call : WorkerCall) (s : DeletionSystem) : Prop :=
  match call with
  | .listDue _ _ => ∀ boxId, s.own t boxId = []
  | .quarantine boxId _ =>
    ∃ cand, s.own t boxId = listedNotes t cand
  | .claim claim =>
    ∃ cand, s.own t claim.outboxId = listedNotes t cand ∧
      cand.version = claim.expectedVersion
  | .markDispatched dispatch =>
    ClaimedAt t (s.own t dispatch.outboxId) dispatch.expectedVersion
  | .sendDelete box _ =>
    ∃ cand claimed, s.own t box.id = markedNotes t cand claimed box
  | .awaitDelete box =>
    ∃ cand claimed, s.own t box.id = sentNotes t cand claimed box
  | .retry retry =>
    FreshAt t (s.own t retry.outboxId) retry.expectedVersion ∨
      AnsweredAt t (s.own t retry.outboxId) (.failed .rateLimited)
        retry.expectedVersion ∧ retry.errorCode = "provider_rate_limited"
  | .complete terminal =>
    AnsweredAt t (s.own t terminal.outboxId) .deleted terminal.expectedVersion
  | .fail terminal =>
    ClaimedAt t (s.own t terminal.outboxId) terminal.expectedVersion ∨
      ∃ reply, AnsweredAt t (s.own t terminal.outboxId) reply terminal.expectedVersion
  | _ => True

/-! ## One row -/

def AnyCall (_ : WorkerCall) (_ : WorkerChoice) (_ : DeletionSystem) : Prop :=
  True

def Waiting (t : ℕ) (rest : List Outbox) (s : DeletionSystem) : Prop :=
  ∀ other ∈ rest, s.own t other.id = listedNotes t other

section Row

variable {t : ℕ} {boxId : ℤ} {rest : List Outbox}
  {notes : List DeletionNote} {s later : DeletionSystem}

def At (t : ℕ) (boxId : ℤ) (rest : List Outbox)
    (notes : List DeletionNote) (s : DeletionSystem) : Prop :=
  s.own t boxId = notes ∧ (∀ other ∈ rest, other.id ≠ boxId) ∧
    Waiting t rest s

theorem At.stable (at_ : At t boxId rest notes s)
    (same : SameNotes t s later) : At t boxId rest notes later := by
  refine ⟨(same boxId).trans at_.1, at_.2.1, ?_⟩
  intro other isIn
  exact (same other.id).trans (at_.2.2 other isIn)

theorem own_snoc (db : Database) (history : List DeletionNote) (note : DeletionNote) (boxId : ℤ) :
    (DeletionSystem.mk db (history ++ [note])).own t boxId =
      (DeletionSystem.mk db history).own t boxId ++
        if note.thread = t ∧ note.outbox.id = boxId then [note] else [] := by
  simp only [DeletionSystem.own, List.filter_append]
  by_cases mine : note.thread = t ∧ note.outbox.id = boxId
  · simp [mine]
  · rw [if_neg mine]
    simpa using mine

theorem At.note (at_ : At t boxId rest notes s) {db : Database}
    {row : Outbox} (kind : NoteKind) (same : row.id = boxId) :
    At t boxId rest (notes ++ [⟨t, row, kind⟩]) ⟨db, s.history ++ [⟨t, row, kind⟩]⟩ := by
  refine ⟨?_, at_.2.1, ?_⟩
  · rw [own_snoc, if_pos ⟨rfl, same⟩]
    exact congrArg (· ++ _) at_.1
  · intro other isIn
    have apart := at_.2.1 other isIn
    rw [own_snoc, if_neg, List.append_nil]
    · exact at_.2.2 other isIn
    · rintro ⟨_, sameOther⟩
      exact apart (sameOther.symm.trans same)

/-- Whatever the others do, the program about the row in hand makes each call at its stage, and
leaves the waiting rows. -/
def Kept (t : ℕ) (boxId : ℤ) (rest : List Outbox)
    (notes : List DeletionNote) (program : WorkerProgram Processed) : Prop :=
  ∀ s, At t boxId rest notes s →
    Keeps DeletionSystem.perform (SameNotes t) AnyCall (Needs t) t
      (fun _ => Waiting t rest) program s

theorem kept_done (result : Processed) : Kept t boxId rest notes (.done result) := by
  intro _ at_ _ same
  exact (at_.stable same).2.2

variable {call : WorkerCall}

theorem kept_call {next : call.Answer → WorkerProgram Processed}
    (needed : ∀ s, At t boxId rest notes s → Needs t call s)
    (goes : ∀ pick s, At t boxId rest notes s → ∃ more, At t boxId rest more
          (DeletionSystem.perform t call pick s).2 ∧ Kept t boxId rest more
          (next (DeletionSystem.perform t call pick s).1)) :
    Kept t boxId rest notes (.call call next) := by
  intro _ at_ later same
  have atLater := at_.stable same
  refine ⟨needed later atLater, ?_⟩
  intro pick _
  rcases goes pick later atLater with ⟨_, atFurther, kept⟩
  exact kept _ atFurther

/-- The calls that only read. -/
def WorkerCall.Quiet : WorkerCall → Prop
  | .contextError | .now | .getLifecycle _ | .loadDeletionTarget _ | .deriveLease _
  | .deriveEvent _ | .deriveEvidence _ _ _ | .decryptReference _ _ _ => True
  | _ => False

theorem perform_quiet (quiet : call.Quiet) (pick : WorkerChoice)
    (s : DeletionSystem) : (DeletionSystem.perform t call pick s).2 = s := by
  cases call with
  | getLifecycle _ =>
    simp only [DeletionSystem.perform, DeletionSystem.read]
    split
    · simp
    · rfl
    · rfl
  | contextError | now | loadDeletionTarget _ | deriveLease _ | deriveEvent _ | deriveEvidence _ _ _
  | decryptReference _ _ _ => rfl
  | listDue _ _ | quarantine _ _ | claim _ | markDispatched _ | sendDelete _ _ | awaitDelete _
  | retry _ | complete _ | fail _ => cases quiet

theorem needs_quiet (quiet : call.Quiet) (s : DeletionSystem) : Needs t call s := by
  cases call <;> trivial

theorem kept_quiet {next : call.Answer → WorkerProgram Processed}
    (quiet : call.Quiet) (goes : ∀ reply, Kept t boxId rest notes (next reply)) :
    Kept t boxId rest notes (request call >>= next) := by
  apply kept_call
  · intro s _
    exact needs_quiet quiet s
  · intro _ _ at_
    refine ⟨notes, ?_, goes _⟩
    rw [perform_quiet quiet]
    exact at_

theorem transact_cases {Result : Type} (s : DeletionSystem) (fault : Fault)
    (result : Outcome (Result × Database)) (committed : Result → List DeletionNote) :
    (∃ err, s.transact fault result committed = (.error err, s)) ∨
      ∃ reply after, result = .ok (reply, after) ∧ (s.transact fault result committed =
            (.ok reply, ⟨after, s.history ++ committed reply⟩) ∨
          s.transact fault result committed =
            (.error .database, ⟨after, s.history ++ committed reply⟩)) := by
  cases result with
  | error err =>
    left
    cases fault with
    | none => exact ⟨err, rfl⟩
    | refused => exact ⟨.database, rfl⟩
    | unanswered => exact ⟨err, rfl⟩
  | ok pair =>
    cases fault with
    | none => exact .inr ⟨pair.1, pair.2, rfl, .inl rfl⟩
    | refused => exact .inl ⟨.database, rfl⟩
    | unanswered => exact .inr ⟨pair.1, pair.2, rfl, .inr rfl⟩

theorem At.noteOf (at_ : At t boxId rest notes s) (db : Database) (kind : NoteKind) :
    ∃ more, At t boxId rest more ⟨db, s.history ++ s.noteOf t boxId kind⟩ := by
  simp only [DeletionSystem.noteOf]
  cases found : s.db.outboxes.find? boxId with
  | none =>
    refine ⟨notes, ?_⟩
    simp only [Option.toList_none, List.map_nil, List.append_nil]
    exact at_
  | some row =>
    have same : row.id = boxId := Table.key_of_find? found
    exact ⟨_, at_.note kind same⟩

theorem At.transact (at_ : At t boxId rest notes s) {Result : Type} {fault : Fault}
    {result : Outcome (Result × Database)} {committed : Result → List DeletionNote}
    (noted : ∀ reply db, ∃ more, At t boxId rest more ⟨db, s.history ++ committed reply⟩) :
    ∃ more, At t boxId rest more (s.transact fault result committed).2 := by
  rcases transact_cases s fault result committed with
    ⟨err, failed⟩ | ⟨reply, after, _, done | done⟩
  · rw [failed]
    exact ⟨notes, at_⟩
  · rw [done]
    exact noted reply after
  · rw [done]
    exact noted reply after

/-- The calls that end the work on a row. -/
inductive EndsRow (boxId : ℤ) : WorkerCall → Prop
  | quarantine (expected : ℤ) : EndsRow boxId (.quarantine boxId expected)
  | retry (retry : ManagedProviderFileDeletionRetry) (same : retry.outboxId = boxId) :
      EndsRow boxId (.retry retry)
  | complete (terminal : ManagedProviderFileDeletionTerminal)
      (same : terminal.outboxId = boxId) : EndsRow boxId (.complete terminal)
  | fail (terminal : ManagedProviderFileDeletionTerminal)
      (same : terminal.outboxId = boxId) : EndsRow boxId (.fail terminal)

theorem kept_end {next : call.Answer → WorkerProgram Processed} (ends : EndsRow boxId call)
    (needed : ∀ s, At t boxId rest notes s → Needs t call s)
    (finishes : ∀ reply, ∃ result, next reply = .done result) :
    Kept t boxId rest notes (request call >>= next) := by
  apply kept_call needed
  intro pick s at_
  have noted : ∃ more, At t boxId rest more (DeletionSystem.perform t call pick s).2 := by
    cases ends with
    | quarantine _ =>
      apply at_.transact
      intro moved db
      cases moved with
      | false =>
        refine ⟨notes, ?_⟩
        simp only [Bool.false_eq_true, if_false, List.append_nil]
        exact at_
      | true => exact at_.noteOf db .quarantined
    | retry _ same =>
      subst same
      exact at_.transact fun _ db => at_.noteOf db _
    | complete _ same =>
      subst same
      exact at_.transact fun _ db => at_.noteOf db _
    | fail _ same =>
      subst same
      exact at_.transact fun _ db => at_.noteOf db _
  rcases noted with ⟨more, atFurther⟩
  rcases finishes (DeletionSystem.perform t call pick s).1 with ⟨result, done⟩
  have kept : Kept t boxId rest more (next (DeletionSystem.perform t call pick s).1) := by
    rw [done]
    exact kept_done result
  exact ⟨more, atFurther, kept⟩

end Row

/-! ## The program of one row -/

section Programs

variable {t : ℕ} {rest : List Outbox}
  {notes : List DeletionNote} {opts : DeletionWorkerOptions} {summary : DeletionSummary}
  {life : ManagedProviderFileLifecycle} {box : Outbox}

theorem kept_event {eventType : LifecycleEventType} {toState : LifecycleState}
    {attemptCount createdAt : ℤ} {resultCode evidenceDigest : String}
    {next : Outcome ManagedProviderFileLifecycleEvent → WorkerProgram Processed}
    (goes : ∀ reply, Kept t box.id rest notes (next reply)) :
    Kept t box.id rest notes
      (workerEvent opts life eventType toState attemptCount resultCode evidenceDigest
        createdAt >>= next) := by
  simp only [workerEvent, providerFileEventWithAttempt, ne_eq, not_true_eq_false, if_false]
  refine kept_quiet (by trivial) ?_
  intro _
  exact goes _

theorem finishDeletionSuccess_kept (answered : AnsweredAt t notes .deleted box.version) :
    Kept t box.id rest notes (finishDeletionSuccess opts summary life box) := by
  refine kept_quiet (by trivial) ?_
  rintro (err | _)
  · exact kept_done _
  refine kept_quiet (by trivial) ?_
  intro _
  refine kept_event ?_
  rintro (err | _)
  · exact kept_done _
  refine kept_end (.complete _ rfl) ?_ ?_
  · intro _ at_
    simp only [Needs, deletionTerminal, at_.1]
    exact answered
  · rintro (_ | _)
    · exact ⟨_, rfl⟩
    · exact ⟨_, rfl⟩

theorem finishDeletionFailure_kept {resultCode : String} (staged : ClaimedAt t notes box.version ∨
      ∃ reply, AnsweredAt t notes reply box.version) :
    Kept t box.id rest notes (finishDeletionFailure opts summary life box resultCode) := by
  refine kept_quiet (by trivial) ?_
  rintro (err | _)
  · exact kept_done _
  refine kept_quiet (by trivial) ?_
  intro _
  refine kept_event ?_
  rintro (err | _)
  · exact kept_done _
  refine kept_end (.fail _ rfl) ?_ ?_
  · intro _ at_
    simp only [Needs, deletionTerminal, at_.1]
    exact staged
  · rintro (_ | _)
    · exact ⟨_, rfl⟩
    · exact ⟨_, rfl⟩

theorem scheduleDeletionRetry_kept {resultCode : String} (staged : FreshAt t notes box.version ∨
      AnsweredAt t notes (.failed .rateLimited) box.version ∧
        resultCode = "provider_rate_limited") :
    Kept t box.id rest notes (scheduleDeletionRetry opts summary life box resultCode) := by
  simp only [scheduleDeletionRetry]
  split
  · apply finishDeletionFailure_kept
    rcases staged with ⟨cand, claimed, same, _, ver⟩ | ⟨answered, _⟩
    · exact .inl ⟨cand, claimed, same, ver⟩
    · exact .inr ⟨_, answered⟩
  · refine kept_quiet (by trivial) ?_
    intro _
    refine kept_event ?_
    rintro (err | _)
    · exact kept_done _
    refine kept_end (.retry _ rfl) ?_ ?_
    · intro _ at_
      simp only [Needs, at_.1]
      exact staged
    · rintro (_ | _)
      · exact ⟨_, rfl⟩
      · exact ⟨_, rfl⟩

theorem finishDelete_kept {reply : DeleteAnswer} (answered : AnsweredAt t notes reply box.version) :
    Kept t box.id rest notes (finishDelete opts summary life box reply) := by
  simp only [finishDelete]
  split
  · exact finishDeletionSuccess_kept answered
  · exact scheduleDeletionRetry_kept (.inr ⟨answered, rfl⟩)
  · exact finishDeletionFailure_kept (.inr ⟨_, answered⟩)

theorem kept_delete {cand claimed : Outbox}
    {providerFileId : String} (grows : box.version = claimed.version + 1) :
    Kept t box.id rest (markedNotes t cand claimed box) (do
        request (.sendDelete box providerFileId)
        let reply ← request (.awaitDelete box)
        finishDelete opts summary life box reply) := by
  apply kept_call
  · intro _ at_
    exact ⟨cand, claimed, at_.1⟩
  intro _ _ at_
  refine ⟨_, at_.note .sent rfl, ?_⟩
  apply kept_call
  · intro _ atSent
    exact ⟨cand, claimed, atSent.1⟩
  intro choiceAnswer sent atSent
  refine ⟨_, atSent.note (.answered choiceAnswer.answer
    (decide (sent.db.outboxes.find? box.id = some box))) rfl, ?_⟩
  exact finishDelete_kept ⟨cand, claimed, box, _, rfl, grows, rfl⟩

theorem dispatchDelete_kept {cand : Outbox} (fresh : cand.dispatchedAt = none) :
    Kept t box.id rest (claimedNotes t cand box) (dispatchDelete opts summary life box) := by
  refine kept_quiet (by trivial) ?_
  rintro (err | _)
  · exact scheduleDeletionRetry_kept (.inl ⟨cand, box, rfl, fresh, rfl⟩)
  refine kept_quiet (by trivial) ?_
  intro _
  refine kept_event ?_
  rintro (err | _)
  · exact kept_done _
  refine kept_quiet (by trivial) ?_
  intro _
  apply kept_call
  · intro _ at_
    exact ⟨cand, box, at_.1, rfl⟩
  intro pick s at_
  simp only [DeletionSystem.perform]
  rcases transact_cases s pick.fault (markManagedProviderFileDeletionDispatched s.db _ pick.now)
      (fun row => [⟨t, row, .marked⟩]) with
    ⟨err, failed⟩ | ⟨marked, after, done, told | lost⟩
  · rw [failed]
    exact ⟨_, at_, kept_done _⟩
  · rcases mark_rewrites done with ⟨old, oldId, oldVersion, edits⟩
    have same : marked.id = box.id := edits.moves.id.trans oldId
    have grows : marked.version = box.version + 1 := by
      rw [edits.moves.version, oldVersion]
    rw [told]
    refine ⟨_, at_.note .marked same, ?_⟩
    rw [← same]
    exact kept_delete grows
  · rcases mark_rewrites done with ⟨_, oldId, _, edits⟩
    rw [lost]
    exact ⟨_, at_.note .marked (edits.moves.id.trans oldId), kept_done _⟩

/-- The stage from the claim of a row to its end. -/
theorem claimAndDelete_kept {now : ℤ} :
    Kept t box.id rest (listedNotes t box) (claimAndDelete opts summary life box now) := by
  refine kept_quiet (by trivial) ?_
  rintro (err | _)
  · exact kept_done _
  refine kept_event ?_
  rintro (err | _)
  · exact kept_done _
  apply kept_call
  · intro _ at_
    exact ⟨box, at_.1, rfl⟩
  intro pick s at_
  simp only [DeletionSystem.perform]
  rcases transact_cases s pick.fault (claimManagedProviderFileDeletion s.db _ pick.now)
      (fun claimed => claimed.toList.map fun row => ⟨t, row, .claimed⟩) with
    ⟨err, failed⟩ | ⟨reply, after, done, told⟩
  · rw [failed]
    exact ⟨_, at_, kept_done _⟩
  cases reply with
  | none =>
    refine ⟨listedNotes t box, ?_, ?_⟩
    · rcases told with told | told
      · rw [told]
        simp only [Option.toList_none, List.map_nil, List.append_nil]
        exact at_
      · rw [told]
        simp only [Option.toList_none, List.map_nil, List.append_nil]
        exact at_
    · rcases told with told | told
      · rw [told]
        exact kept_done _
      · rw [told]
        exact kept_done _
  | some claimed =>
    rcases claim_rewrites done with ⟨_, oldId, _, edits⟩
    have same : claimed.id = box.id := edits.moves.id.trans oldId
    rcases told with told | told
    · rw [told]
      refine ⟨claimedNotes t box claimed, at_.note .claimed same, ?_⟩
      rw [← same]
      split
      · exact finishDeletionFailure_kept (.inl ⟨box, claimed, rfl, rfl⟩)
      next fresh => exact dispatchDelete_kept (not_not.mp fresh)
    · rw [told]
      exact ⟨_, at_.note .claimed same, kept_done _⟩

theorem processDeletionOutbox_kept :
    Kept t box.id rest (listedNotes t box) (processDeletionOutbox opts summary box) := by
  refine kept_quiet (by trivial) ?_
  rintro (err | _)
  · cases err with
    | recordNotFound =>
      refine kept_end (.quarantine _) ?_ ?_
      · intro _ at_
        exact ⟨box, at_.1⟩
      · rintro (_ | moved)
        · exact ⟨_, rfl⟩
        · cases moved with
          | true | false => exact ⟨_, rfl⟩
    | lifecycleConflict | lifecycleStateConflict | lifecycleLookupConflict | deletionLeaseLost
    | message _ | database => exact kept_done _
  refine kept_quiet (by trivial) ?_
  intro _
  refine kept_quiet (by trivial) ?_
  rintro (_ | ⟨_, _⟩)
  · exact kept_done _
  · simp only
    split
    · exact kept_done _
    · exact claimAndDelete_kept

end Programs

/-! ## A batch -/

section Batch

variable {t : ℕ} {opts : DeletionWorkerOptions} {s : DeletionSystem}

theorem SameNotes.refl (t : ℕ) (s : DeletionSystem) : SameNotes t s s :=
  fun _ => rfl

theorem SameNotes.trans {first second third : DeletionSystem}
    (past : SameNotes t first second) (after : SameNotes t second third) :
    SameNotes t first third :=
  fun boxId => (after boxId).trans (past boxId)

def KeptBatch (t : ℕ) (program : WorkerProgram Processed) (s : DeletionSystem) : Prop :=
  Keeps DeletionSystem.perform (SameNotes t) AnyCall (Needs t) t (fun _ _ => True) program s

theorem keptBatch_quiet {call : WorkerCall} {next : call.Answer → WorkerProgram Processed}
    (quiet : call.Quiet)
    (goes : ∀ reply later, SameNotes t s later → KeptBatch t (next reply) later) :
    KeptBatch t (request call >>= next) s := by
  intro later same
  refine ⟨needs_quiet quiet later, ?_⟩
  intro pick _
  rw [perform_quiet quiet]
  exact goes _ later same

theorem Waiting.stable {rest : List Outbox} {later : DeletionSystem}
    (waiting : Waiting t rest s) (same : SameNotes t s later) :
    Waiting t rest later := by
  intro other isIn
  exact (same other.id).trans (waiting other isIn)

theorem processBatch_kept (rows : List Outbox) (nodup : (rows.map Outbox.id).Nodup)
    (waiting : Waiting t rows s) (summary : DeletionSummary) :
    KeptBatch t (processBatch opts summary rows) s := by
  induction rows generalizing s summary with
  | nil =>
    simp only [processBatch]
    split
    · exact fun _ _ => trivial
    · exact fun _ _ => trivial
  | cons cand rest ih =>
    simp only [List.map_cons, List.nodup_cons] at nodup
    simp only [processBatch]
    refine keptBatch_quiet (by trivial) ?_
    intro _ later same
    have waitingLater := waiting.stable same
    split
    · exact fun _ _ => trivial
    · apply Keeps.bind (SameNotes.refl t)
      have at_ : At t cand.id rest (listedNotes t cand) later := by
        refine ⟨waitingLater cand (List.mem_cons_self ..), ?_, ?_⟩
        · intro _ isIn sameId
          apply nodup.1
          rw [← sameId]
          exact List.mem_map_of_mem isIn
        · intro other isIn
          exact waitingLater other (List.mem_cons_of_mem _ isIn)
      refine Keeps.mono (processDeletionOutbox_kept later at_) ?_
      intro _ _ waitingFinal
      split
      · exact ih nodup.2 waitingFinal _
      · exact ih nodup.2 waitingFinal _

theorem filter_id_eq {rows : List Outbox} (nodup : (rows.map Outbox.id).Nodup)
    {row : Outbox} (isRow : row ∈ rows) :
    (rows.filter fun other => other.id = row.id) = [row] := by
  induction rows with
  | nil => cases isRow
  | cons head tail ih =>
    simp only [List.map_cons, List.nodup_cons] at nodup
    rcases List.mem_cons.mp isRow with rfl | inTail
    · have others : (tail.filter fun other => other.id = row.id) = [] := by
        apply List.filter_eq_nil_iff.mpr
        intro _ inTail sameId
        simp only [decide_eq_true_eq] at sameId
        apply nodup.1
        rw [← sameId]
        exact List.mem_map_of_mem inTail
      simp [others]
    · have apart : head.id ≠ row.id := by
        intro sameId
        apply nodup.1
        rw [sameId]
        exact List.mem_map_of_mem inTail
      simp [apart, ih nodup.2 inTail]

theorem listDue_distinct {db : Database} {now limit : ℤ} {due : List Outbox}
    (listed : listDueManagedProviderFileDeletions db now limit = .ok due) :
    (due.map Outbox.id).Nodup ∧ ∀ row ∈ due, row ∈ db.outboxes.rows := by
  simp only [listDueManagedProviderFileDeletions, Fallible.guard_eq_ok, Except.ok.injEq] at listed
  rcases listed with ⟨_, rfl⟩
  have nodup : (db.outboxes.rows.map Outbox.id).Nodup :=
    db.outboxes.keys_nodup
  refine ⟨?_, ?_⟩
  · apply List.Nodup.sublist ((List.take_sublist ..).map _)
    apply ((List.mergeSort_perm _ _).map _).nodup_iff.mpr
    exact nodup.sublist (List.filter_sublist.map _)
  · intro _ inDue
    have sorted := List.mem_of_mem_take inDue
    exact (List.mem_filter.mp (List.mem_mergeSort.mp sorted)).1

theorem runDeletionBatch_kept (blank : ∀ boxId, s.own t boxId = []) :
    KeptBatch t (runDeletionBatch opts) s := by
  simp only [runDeletionBatch]
  split
  · exact fun _ _ => trivial
  split
  · exact fun _ _ => trivial
  refine keptBatch_quiet (by trivial) ?_
  intro now later same
  have blankLater : ∀ boxId, later.own t boxId = [] := by
    intro boxId
    rw [same boxId]
    exact blank boxId
  intro final sameFinal
  refine ⟨?_, ?_⟩
  · intro boxId
    rw [sameFinal boxId]
    exact blankLater boxId
  intro pick _
  simp only [DeletionSystem.perform, DeletionSystem.read]
  cases fault : pick.fault with
  | refused | unanswered => exact fun _ _ => trivial
  | none =>
    cases listed : listDueManagedProviderFileDeletions final.db now opts.batchSize with
    | error _ => exact fun _ _ => trivial
    | ok due =>
      have nodup := (listDue_distinct listed).1
      apply processBatch_kept due nodup
      intro row inDue
      have past : (final.history.filter fun note =>
          note.thread = t && note.outbox.id = row.id) = [] :=
        (sameFinal row.id).trans (blankLater row.id)
      simp only [DeletionSystem.own, List.filter_append, past, List.nil_append,
        List.filter_map, listedNotes]
      have only := filter_id_eq nodup inDue
      simpa [Function.comp_def] using congrArg (List.map fun other =>
        (⟨t, other, .listed⟩ : DeletionNote)) only

end Batch

end NewApi.ProviderFile
