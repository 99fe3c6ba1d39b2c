import NewApi.SystemTask.Leases

/-!
# Runs of the system task runners

Each function knows what its next statement needs, whatever the other threads do in between.
Together with the statements this gives every run of careful steps its invariant: one lock for
each type, changes by the holder of the lock alone, and no running task without the lock of
its runner, so that a pass over the stale locks ends a task whose lease is over.
-/

namespace NewApi.SystemTask

open Concurrent Relational Transition Table Concurrent.Program
open NewApi.Model (SystemTask SystemTaskLock SystemTaskStatus SystemTaskTables)

/-- A program makes its statements only when it knows what they need, and ends in a sound
state. -/
abbrev Prepared {Result : Type} (claimer : Option String) (t : ℕ)
    (program : SystemTaskProgram Result) (board : TaskBoard) : Prop :=
  Keeps TaskBoard.perform (Rely claimer) (TaskBoard.Careful t) (Needs claimer) t
    (fun _ after => Sound after) program board

section Programs

variable {claimer : Option String} {t : ℕ} {board later : TaskBoard} {Result : Type}

theorem prep_pure (sound : Sound board) (result : Result) :
    Prepared claimer t (pure result) board :=
  fun _ rely => rely.sound sound

theorem prep_ask (sound : Sound board) {call : SystemTaskCall}
    (needs : ∀ later, Rely claimer board later → Needs claimer call later) :
    Prepared claimer t (ask call) board := by
  intro later rely
  refine ⟨needs later rely, ?_⟩
  intro _ care _ more
  exact more.sound ((rely.sound sound).perform (needs later rely) care).1

theorem prep_bind {First : Type} {first : SystemTaskProgram First}
    {rest : First → SystemTaskProgram Result} (prepared : Prepared claimer t first board)
    (goes : ∀ val later, Sound later → Prepared claimer t (rest val) later) :
    Prepared claimer t (first >>= rest) board := by
  refine Keeps.bind (Rely.refl claimer) ?_
  exact Keeps.mono prepared goes

theorem Sound.rely_own (sound : Sound board) {call : SystemTaskCall} {isOk : Bool}
    (starts : call.starter = none) (needs : Needs claimer call board)
    (care : TaskBoard.Careful t call isOk board) :
    Rely claimer board (TaskBoard.perform t call isOk board).2 := by
  refine (sound.perform needs care).2 claimer ?_
  rw [starts]
  intro _ isRunner
  cases isRunner

/-! ### Claims -/

/-- The task that a runner claims is stored and not its own yet. -/
structure Claiming (id : ℤ) (taskID taskType runnerID : String) (board : TaskBoard) : Prop where
  sound : Sound board
  present : ∃ task ∈ board.tables.tasks.rows, task.id = id ∧ task.taskID = taskID ∧
    task.type = taskType ∧ (task.status = .running → task.lockedBy ≠ runnerID)

namespace Claiming

variable {id now lockUntil : ℤ} {taskID taskType runnerID : String} {task : SystemTask}

variable (claiming : Claiming id taskID taskType runnerID board)

include claiming

theorem stable (rely : Rely (some runnerID) board later) :
    Claiming id taskID taskType runnerID later := by
  rcases claiming.present with ⟨task, isRow, isId, isTask, isType, idle⟩
  rcases rely.tasks task isRow with
    ⟨after, inAfter, sameId, sameTask, sameType, _, started⟩
  refine ⟨rely.sound claiming.sound, after, inAfter, sameId.trans isId,
    sameTask.trans isTask, sameType.trans isType, ?_⟩
  intro isRunning isRunner
  rcases started isRunning (by rw [isRunner]) with ⟨ran, same⟩
  exact idle ran (same.trans isRunner)

theorem hasTask : HasTask board.tables taskID taskType := by
  rcases claiming.present with ⟨task, isRow, _, isTask, isType, _⟩
  exact ⟨task, isRow, isTask, isType⟩

theorem notRunning :
    ∀ task ∈ board.tables.tasks.rows, task.taskID = taskID → task.status = .running →
      task.lockedBy ≠ runnerID := by
  intro task isRow isTask
  rcases claiming.present with ⟨own, ownRow, _, ownTask, _, idle⟩
  have same := claiming.sound.consistent.ids task isRow own ownRow (isTask.trans ownTask.symm)
  subst same
  exact idle

omit claiming

theorem of_findPending (sound : Sound board)
    (found : board.tables.findPending id taskType = some task) :
    Claiming id task.taskID taskType runnerID board := by
  simp only [SystemTaskTables.findPending, Option.filter_eq_some_iff, Bool.and_eq_true,
    decide_eq_true_eq] at found
  rcases found with ⟨stored, isType, isPending⟩
  refine ⟨sound, task, mem_of_find? stored, key_of_find? stored, rfl, isType, ?_⟩
  intro isRunning
  rw [isPending] at isRunning
  cases isRunning

theorem prep_abandonClaim (claiming : Claiming id task.taskID taskType runnerID board)
    (out : Except SystemTaskError (Option SystemTask)) :
    Prepared (some runnerID) t (abandonClaim task runnerID out) board := by
  refine prep_bind ?_ fun _ later sound => prep_pure sound _
  exact prep_ask claiming.sound fun _ rely => (claiming.stable rely).notRunning

theorem prep_startClaimedTask (claiming : Claiming id task.taskID taskType runnerID board) :
    Prepared (some runnerID) t (startClaimedTask id taskType runnerID now task) board := by
  intro later rely
  have claims := claiming.stable rely
  have needed : Needs (some runnerID) (.markRunning id taskType runnerID now) later := rfl
  refine ⟨needed, ?_⟩
  intro isOk care
  have sound := (claims.sound.perform needed care).1
  cases isOk with
  | false => exact claims.prep_abandonClaim _
  | true =>
    simp only [TaskBoard.perform, if_true, TaskBoard.withTables] at sound ⊢
    cases hits : (later.tables.markRunning id taskType runnerID now).2 with
    | zero =>
      have same : (later.tables.markRunning id taskType runnerID now).1 = later.tables := by
        simp only [SystemTaskTables.markRunning] at hits ⊢
        rcases later.tables.tasks.updateWhere_cases id
            (fun task => task.type = taskType && task.status = .pending)
            (SystemTask.markRunning runnerID now) with kept | ⟨_, _, _, moved⟩
        · rw [kept]
        · rw [moved] at hits
          cases hits
      rw [same]
      exact claims.prep_abandonClaim _
    | succ _ => exact prep_ask sound fun _ _ => trivial

/-- A statement that starts no task and needs no more than the stored task. -/
def NeedsTask (taskID taskType runnerID : String) (call : SystemTaskCall) : Prop :=
  call.starter = none ∧ ∀ board, HasTask board.tables taskID taskType →
    Needs (some runnerID) call board

theorem makes_acquireSystemTaskLock (taskID taskType runnerID : String) (now lockUntil : ℤ) :
    Program.Makes (fun _ _ => True) (NeedsTask taskID taskType runnerID) (fun _ => True)
      (acquireSystemTaskLock taskType taskID runnerID now lockUntil) := by
  refine ⟨⟨rfl, fun _ known => known⟩, ?_⟩
  intro made _
  cases made with
  | true => trivial
  | false =>
    refine ⟨⟨rfl, fun _ _ => trivial⟩, ?_⟩
    intro found _
    rcases found with failure | old
    · trivial
    · cases old with
      | none => trivial
      | some _ =>
        simp only [Program.bind]
        split
        · trivial
        · refine ⟨⟨rfl, fun _ known => known⟩, ?_⟩
          intro hits _
          rcases hits with _ | hits
          · trivial
          · cases hits with
            | zero | succ _ => trivial

theorem keeps_acquireSystemTaskLock (claiming : Claiming id taskID taskType runnerID board) :
    Keeps TaskBoard.perform (Rely (some runnerID)) (TaskBoard.Careful t)
      (Needs (some runnerID)) t (fun _ after => Claiming id taskID taskType runnerID after)
      (acquireSystemTaskLock taskType taskID runnerID now lockUntil) board := by
  refine Keeps.of_makes (Claiming id taskID taskType runnerID)
    (makes_acquireSystemTaskLock taskID taskType runnerID now lockUntil) claiming
    (fun _ _ claims rely => claims.stable rely)
    (fun call board made claims => made.2 board claims.hasTask) (fun _ _ _ => trivial) ?_
    (fun _ _ _ claims => claims)
  intro _ _ state made care claims
  exact claims.stable (claims.sound.rely_own made.1 (made.2 state claims.hasTask) care)

theorem prep_claimPendingTask (claiming : Claiming id task.taskID taskType runnerID board) :
    Prepared (some runnerID) t
      (claimPendingTask id taskType runnerID lockUntil now task) board := by
  refine Keeps.bind (Rely.refl _) ?_
  refine Keeps.mono claiming.keeps_acquireSystemTaskLock ?_
  intro acquired _ claims
  rcases acquired with _ | acquisition
  · exact prep_pure claims.sound _
  · simp only
    split
    · exact prep_pure claims.sound _
    · split
      · intro marked rely
        have claimsMarked := claims.stable rely
        have needed : Needs (some runnerID)
            (.markLeaseExpired acquisition.expiredTaskID none) marked := trivial
        refine ⟨needed, ?_⟩
        intro isOk care
        have claimsAfter := claimsMarked.stable (claimsMarked.sound.rely_own rfl needed care)
        cases isOk with
        | false => exact claimsAfter.prep_abandonClaim _
        | true => exact claimsAfter.prep_startClaimedTask
      · exact claims.prep_startClaimedTask

end Claiming

theorem prep_claimSystemTask (sound : Sound board) (id lockUntil : ℤ) (taskType runnerID : String) :
    Prepared (some runnerID) t (claimSystemTask id taskType runnerID lockUntil) board := by
  intro _ rely
  refine ⟨trivial, ?_⟩
  intro _ _ later more
  have soundLater := more.sound (rely.sound sound)
  refine ⟨trivial, ?_⟩
  intro isOk _
  cases isOk with
  | false => exact prep_pure soundLater _
  | true =>
    simp only [TaskBoard.perform, if_true]
    cases found : later.tables.findPending id taskType with
    | none => exact prep_pure soundLater _
    | some _ => exact (Claiming.of_findPending soundLater found).prep_claimPendingTask

theorem prep_runClaims (sound : Sound board) (runnerID : String) (reqs : List ClaimRequest) :
    Prepared (some runnerID) t (runClaims runnerID reqs) board := by
  induction reqs generalizing board with
  | nil => exact prep_pure sound ()
  | cons _ _ ih =>
    refine prep_bind (prep_claimSystemTask sound _ _ _ _) ?_
    intro _ later soundLater
    exact ih soundLater

/-! ### Finishes -/

theorem finish_affected {taskID lockedBy result error : String} {status : SystemTaskStatus}
    {now : ℤ} (final : status.isFinal = true)
    (hits : 0 < (board.tables.finishSystemTask taskID lockedBy status result error now).2) :
    ∃ task ∈ (board.tables.finishSystemTask taskID lockedBy status result error now).1.tasks.rows,
      task.taskID = taskID ∧ task.status.isFinal = true := by
  simp only [SystemTaskTables.finishSystemTask] at hits ⊢
  rcases List.countP_pos_iff.mp hits with ⟨task, isRow, chosen⟩
  refine ⟨(SystemTask.finish status result error now).apply task,
    mem_updateAll.mpr (.inr ⟨task, isRow, chosen, rfl⟩), ?_, final⟩
  simp only [SystemTaskTables.selects, Bool.and_eq_true, decide_eq_true_eq] at chosen
  exact chosen.1.1.1

theorem prep_releaseLock (sound : Sound board) {taskID : String} (lockedBy : String)
    (ended : ∃ task ∈ board.tables.tasks.rows, task.taskID = taskID ∧ task.status.isFinal = true) :
    Prepared claimer t (ask (.releaseLock taskID lockedBy)) board := by
  refine prep_ask sound ?_
  intro _ rely task isRow isTask isRunning
  rcases ended with ⟨done, doneRow, doneTask, final⟩
  rcases rely.tasks done doneRow with ⟨_, keptRow, _, _, _, same, _⟩
  rw [same final] at keptRow
  have isDone := (rely.sound sound).consistent.ids task isRow done keptRow
    (isTask.trans doneTask.symm)
  rw [← isDone, isRunning] at final
  cases final

theorem prep_releaseFinished {taskID : String} (lockedBy : String) {hits : ℕ}
    {after : TaskBoard} (sound : Sound after) (ended : 0 < hits →
      ∃ task ∈ after.tables.tasks.rows, task.taskID = taskID ∧ task.status.isFinal = true) :
    Prepared claimer t (match lockLostUnlessAffected (.ok hits) with
      | some failure => pure (some failure)
      | none => ask (SystemTaskCall.releaseLock taskID lockedBy)) after := by
  cases hits with
  | zero => exact prep_pure sound _
  | succ count => exact prep_releaseLock sound lockedBy (ended (Nat.succ_pos count))

theorem prep_finishSystemTask (sound : Sound board) (taskID lockedBy : String)
    {status : SystemTaskStatus} (final : status.isFinal = true) (result error : String) :
    Prepared claimer t (finishSystemTask taskID lockedBy status result error) board := by
  intro reading rely
  refine ⟨trivial, ?_⟩
  intro _ _ later more
  have soundLater := more.sound (rely.sound sound)
  have needed : Needs claimer
      (.finish taskID lockedBy status result error reading.now) later := final
  refine ⟨needed, ?_⟩
  intro isOk care
  have soundAfter := (soundLater.perform needed care).1
  cases isOk with
  | false => exact prep_pure soundAfter _
  | true => exact prep_releaseFinished lockedBy soundAfter (finish_affected final)

/-! ### Passes over the stale locks -/

theorem unused_markLeaseExpired (board : TaskBoard) (listed : SystemTaskLock) (now : ℤ) :
    Unused (board.markLeaseExpired listed.taskID).tables listed now := by
  intro lock _ _ _ _ task isRow isTask isRunning
  rcases mem_updateAll.mp isRow with ⟨_, out⟩ | ⟨_, _, _, rfl⟩
  · simp [isTask, isRunning] at out
  · cases isRunning

theorem prep_expireLocks {now : ℤ} (locks : List SystemTaskLock) (sound : Sound board)
    (stale : ∀ lock ∈ locks, lock.lockedUntil < now) (past : now ≤ board.now) :
    Prepared claimer t (expireLocks now locks) board := by
  induction locks generalizing board with
  | nil => exact prep_pure sound _
  | cons lock _ ih =>
    intro marking rely
    have soundMarking := rely.sound sound
    have pastMarking := le_trans past rely.clock
    have needed : Needs claimer (.markLeaseExpired lock.taskID (some lock)) marking :=
      ⟨rfl, lt_of_lt_of_le (stale lock List.mem_cons_self) pastMarking⟩
    refine ⟨needed, ?_⟩
    intro marks markCareful
    have soundMarked := (soundMarking.perform needed markCareful).1
    cases marks with
    | false => exact prep_pure soundMarked _
    | true =>
      intro deleting later
      have unused := later.unused lock now pastMarking (unused_markLeaseExpired marking lock now)
      have soundDeleting := later.sound soundMarked
      have pastDeleting := le_trans pastMarking later.clock
      have neededDeleting : Needs claimer (.deleteStaleLock lock now) deleting := unused
      refine ⟨neededDeleting, ?_⟩
      intro deletes deleteCareful
      have soundDeleted := (soundDeleting.perform neededDeleting deleteCareful).1
      cases deletes with
      | false => exact prep_pure soundDeleted _
      | true =>
        refine ih soundDeleted ?_ pastDeleting
        intro other inLocks
        exact stale other (List.mem_cons_of_mem _ inLocks)

theorem prep_expireStaleSystemTaskLocks {now : ℤ} (sound : Sound board) (past : now ≤ board.now) :
    Prepared claimer t (expireStaleSystemTaskLocks now) board := by
  intro _ rely
  refine ⟨trivial, ?_⟩
  intro isOk _
  cases isOk with
  | false => exact prep_pure (rely.sound sound) _
  | true =>
    refine prep_expireLocks _ (rely.sound sound) ?_ (le_trans past rely.clock)
    intro _ inStale
    simpa using (List.mem_filter.mp inStale).2

theorem prep_job (sound : Sound board) (job : RunnerJob) :
    Prepared job.claimer t job.run board := by
  cases job with
  | claims runnerID reqs => exact prep_runClaims sound runnerID reqs
  | renews _ _ _ =>
    refine prep_bind (prep_bind (prep_ask sound fun _ _ => trivial) ?_)
      fun _ _ final => prep_pure final _
    intro _ _ soundLater
    exact prep_bind (prep_ask soundLater fun _ _ => trivial) fun _ _ final => prep_pure final _
  | updates _ _ _ =>
    refine prep_bind (prep_bind (prep_ask sound fun _ _ => trivial) ?_)
      fun _ _ final => prep_pure final _
    intro _ _ soundLater
    exact prep_bind (prep_ask soundLater fun _ _ => trivial) fun _ _ final => prep_pure final _
  | finishes taskID runnerID req =>
    exact prep_bind (prep_finishSystemTask sound taskID runnerID req.final _ _)
      fun _ _ final => prep_pure final _
  | expires =>
    intro later rely
    refine ⟨trivial, ?_⟩
    intro _ _
    have pass : Prepared none t (expireStaleSystemTaskLocks later.now >>= fun _ => pure ()) later :=
      prep_bind (prep_expireStaleSystemTaskLocks (rely.sound sound) le_rfl)
        fun _ _ final => prep_pure final ()
    exact pass

end Programs

/-! ### A pass by itself -/

section Pass

variable {board : TaskBoard} {id : ℤ} {taskID : String} {t : ℕ}

def Ended (id : ℤ) (board : TaskBoard) : Prop :=
  ∃ task ∈ board.tables.tasks.rows, task.id = id ∧ task.status = .failed ∧
    task.activeKey = none

def RunningOrEnded (id : ℤ) (taskID : String) (board : TaskBoard) : Prop :=
  Ended id board ∨ ∃ task ∈ board.tables.tasks.rows, task.id = id ∧ task.taskID = taskID ∧
    task.status = .running

theorem Ended.markLeaseExpired (ended : Ended id board) (other : String) :
    Ended id (board.markLeaseExpired other) := by
  rcases ended with ⟨task, isRow, isId, isFailed, unblocked⟩
  refine ⟨task, mem_updateAll.mpr (.inl ⟨isRow, ?_⟩), isId, isFailed, unblocked⟩
  simp [isFailed]

theorem RunningOrEnded.markLeaseExpired (runs : RunningOrEnded id taskID board)
    (other : String) : RunningOrEnded id taskID (board.markLeaseExpired other) ∧
      (other = taskID → Ended id (board.markLeaseExpired other)) := by
  rcases runs with ended | ⟨task, isRow, isId, isTask, isRunning⟩
  · have after := ended.markLeaseExpired other
    exact ⟨.inl after, fun _ => after⟩
  · by_cases same : other = taskID
    · have after : Ended id (board.markLeaseExpired other) :=
        ⟨(SystemTask.leaseExpired board.now).apply task, mem_updateAll.mpr
            (.inr ⟨task, isRow, by simp [isTask, isRunning, same], rfl⟩), isId, rfl, rfl⟩
      exact ⟨.inl after, fun _ => after⟩
    · refine ⟨.inr ⟨task, mem_updateAll.mpr (.inl ⟨isRow, ?_⟩), isId, isTask,
        isRunning⟩, fun sameTask => absurd sameTask same⟩
      simp [isTask, Ne.symm same]

theorem ended_expireLocks {now : ℤ} (locks : List SystemTaskLock)
    (runs : RunningOrEnded id taskID board)
    (listed : Ended id board ∨ ∃ lock ∈ locks, lock.taskID = taskID) :
    Ended id ((expireLocks now locks).run (TaskBoard.perform t) (fun _ => true) board).2 := by
  induction locks generalizing board with
  | nil =>
    rcases listed with ended | ⟨lock, inNone, _⟩
    · exact ended
    · cases inNone
  | cons lock locks ih =>
    rcases runs.markLeaseExpired lock.taskID with ⟨runsMarked, endsMarked⟩
    have listedAfter : Ended id (board.markLeaseExpired lock.taskID) ∨
        ∃ other ∈ locks, other.taskID = taskID := by
      rcases listed with ended | ⟨other, inLocks, isTask⟩
      · exact .inl (ended.markLeaseExpired lock.taskID)
      · rcases List.mem_cons.mp inLocks with rfl | later
        · exact .inl (endsMarked isTask)
        · exact .inr ⟨other, later, isTask⟩
    have runsDeleted : RunningOrEnded id taskID
        { board.markLeaseExpired lock.taskID with
          tables := (board.markLeaseExpired lock.taskID).tables.deleteStaleLock lock now } :=
      runsMarked
    exact ih runsDeleted listedAfter

theorem ended_expireStaleSystemTaskLocks {task : SystemTask} {lock : SystemTaskLock} {now : ℤ}
    (isRow : task ∈ board.tables.tasks.rows) (isRunning : task.status = .running)
    (inLocks : lock ∈ board.tables.locks.rows) (isTask : lock.taskID = task.taskID)
    (lapsed : lock.lockedUntil < now) :
    Ended task.id ((expireStaleSystemTaskLocks now).run (TaskBoard.perform t)
      (fun _ => true) board).2 := by
  refine ended_expireLocks _ (.inr ⟨task, isRow, rfl, rfl, isRunning⟩) (.inr ⟨lock, ?_, isTask⟩)
  exact List.mem_filter.mpr ⟨inLocks, by simpa using lapsed⟩

end Pass

/-! ### Runs -/

section Runs

variable {board : TaskBoard} {task : SystemTask}

theorem final_updateAll {tasks : Table SystemTask} {guard : SystemTask → Bool}
    {change : RowUpdate SystemTask} (isRow : task ∈ tasks.rows)
    (final : task.status.isFinal = true)
    (live : ∀ task, guard task = true → task.status.isFinal = false) :
    task ∈ (tasks.updateAll guard change).table.rows := by
  refine mem_updateAll.mpr (.inl ⟨isRow, ?_⟩)
  by_contra chosen
  rw [live task (by simpa using chosen)] at final
  cases final

/-- A task that has ended is not written. -/
theorem final_perform (final : task.status.isFinal = true)
    (isRow : task ∈ board.tables.tasks.rows) (t : ℕ) (call : SystemTaskCall) (isOk : Bool) :
    task ∈ (TaskBoard.perform t call isOk board).2.tables.tasks.rows := by
  cases call with
  | getTimestamp | findPending _ _ | findLock _ | findTask _ | findStaleLocks _ => exact isRow
  | createLock _ =>
    simp only [TaskBoard.perform]
    split
    next made =>
      rcases Option.map_eq_some_iff.mp made with ⟨_, _, rfl⟩
      exact isRow
    · exact isRow
  | takeOverLock _ _ _ _ _ =>
    cases isOk with
    | false | true => exact isRow
  | markLeaseExpired _ _ =>
    cases isOk with
    | false => exact isRow
    | true =>
      refine final_updateAll isRow final ?_
      intro _ chosen
      simp only [Bool.and_eq_true, decide_eq_true_eq] at chosen
      rw [chosen.2]
      rfl
  | markRunning _ _ _ _ =>
    cases isOk with
    | false => exact isRow
    | true =>
      simp only [TaskBoard.perform, if_true, TaskBoard.withTables,
        SystemTaskTables.markRunning, updateWhere_table]
      refine final_updateAll isRow final ?_
      intro _ chosen
      simp only [Bool.and_eq_true, decide_eq_true_eq] at chosen
      rw [chosen.2.2]
      rfl
  | updateState _ _ _ _ =>
    cases isOk with
    | false => exact isRow
    | true =>
      refine final_updateAll isRow final ?_
      intro _ chosen
      simp only [SystemTaskTables.selects, Bool.and_eq_true, decide_eq_true_eq] at chosen
      rw [chosen.1.1.2]
      rfl
  | renewLock _ _ _ _ =>
    cases isOk with
    | false | true => exact isRow
  | finish _ _ _ _ _ _ =>
    cases isOk with
    | false => exact isRow
    | true =>
      refine final_updateAll isRow final ?_
      intro _ chosen
      simp only [SystemTaskTables.selects, Bool.and_eq_true, decide_eq_true_eq] at chosen
      rw [chosen.1.1.2]
      rfl
  | releaseLock _ _ =>
    cases isOk with
    | false | true => exact isRow
  | deleteStaleLock _ _ =>
    cases isOk with
    | false | true => exact isRow

theorem final_occur (isRow : task ∈ board.tables.tasks.rows) (event : TaskEvent) :
    task ∈ (board.occur event).tables.tasks.rows := by
  cases event with
  | elapse _ => exact isRow
  | createSystemTask _ _ _ _ =>
    simp only [TaskBoard.occur, SystemTaskTables.createSystemTask]
    split
    · exact isRow
    · exact List.mem_append_left _ isRow

end Runs

/-- No two programs claim under one name. -/
def DistinctRunners (jobs : ℕ → RunnerJob) : Prop :=
  ∀ first two, ∀ runnerID ∈ (jobs first).claimer, runnerID ∈ (jobs two).claimer →
    first = two

/-- A type has one lock, the notes are sound, an ended task stays as it is, a running one has the
lock of its runner, and it ends once that lock is over. -/
structure OneLiveRunner (pool : SystemTaskPool) : Prop where
  unique : ∀ first ∈ pool.state.tables.locks.rows, ∀ two ∈ pool.state.tables.locks.rows,
    first.type = two.type → first = two
  notes : ∀ note ∈ pool.state.notes, note.Sound
  absorbing : ∀ later, Reachable SystemTaskPool.step Unrestricted pool later →
    ∀ task ∈ pool.state.tables.tasks.rows, task.status.isFinal = true →
      task ∈ later.state.tables.tasks.rows
  locked : ∀ task ∈ pool.state.tables.tasks.rows, task.status = .running →
    ∃ lock ∈ pool.state.tables.locks.rows, lock.type = task.type ∧
      lock.taskID = task.taskID ∧ lock.lockedBy = task.lockedBy
  ends : ∀ task ∈ pool.state.tables.tasks.rows, task.status = .running → ∀ t now,
    (∀ lock ∈ pool.state.tables.locks.rows, lock.taskID = task.taskID →
      lock.lockedUntil < now) →
    Ended task.id ((expireStaleSystemTaskLocks now).run (TaskBoard.perform t)
      (fun _ => true) pool.state).2

/-- In every run of careful steps there is one live runner for each type, and a running task is
finished by it or ended by a pass over the stale locks. -/
theorem system_task_one_live_runner {jobs : ℕ → RunnerJob} {board : TaskBoard}
    {pool : SystemTaskPool} (distinct : DistinctRunners jobs) (sound : Sound board)
    (reached : Reachable SystemTaskPool.step SystemTaskPool.Careful
      (SystemTaskPool.start jobs board) pool) : OneLiveRunner pool := by
  have start : (SystemTaskPool.start jobs board).Holding TaskBoard.perform Sound
      (fun t => Rely (jobs t).claimer) TaskBoard.Careful
      (fun t => Needs (jobs t).claimer) (fun _ _ after => Sound after) :=
    ⟨sound, fun t => prep_job sound (jobs t)⟩
  have holding := Pool.holding_reachable reached (fun _ => Rely.refl _) (fun _ _ _ _ => Rely.trans)
    (by
      intro t call _ _ holds needs careful
      have leaves := holds.perform needs careful
      refine ⟨leaves.1, ?_⟩
      intro other apart
      apply leaves.2
      intro runner starts claims
      cases call with
      | markRunning _ _ _ _ =>
        cases starts
        exact apart (distinct other t runner claims needs)
      | _ => cases starts)
    (by
      intro event state holds _
      have leaves := holds.occur event
      exact ⟨leaves.1, fun _ => leaves.2 _ fun _ isNone => by cases isNone⟩)
    start
  have valid := holding.state.consistent
  refine ⟨?_, holding.state.notes, ?_, ?_, ?_⟩
  · intro _ inFirst _ inSecond sameType
    have foundFirst := find?_of_mem inFirst
    have foundSecond := find?_of_mem inSecond
    simp only [Keyed.key] at foundFirst foundSecond
    rw [sameType, foundSecond, Option.some.injEq] at foundFirst
    exact foundFirst.symm
  · intro _ continued task isRow final
    exact Pool.state_of_reachable (fun board => task ∈ board.tables.tasks.rows) continued
      (fun t call succeeds _ stored => final_perform final stored t call succeeds)
      (fun event _ stored => final_occur stored event) isRow
  · intro task isRow isRunning
    rcases valid.locked task isRow isRunning with ⟨lock, found, isTask, isRunner⟩
    exact ⟨lock, mem_of_find? found, key_of_find? found, isTask, isRunner⟩
  · intro task isRow isRunning _ _ lapsed
    rcases valid.locked task isRow isRunning with ⟨lock, found, isTask, _⟩
    have inLocks := mem_of_find? found
    exact ended_expireStaleSystemTaskLocks isRow isRunning inLocks isTask
      (lapsed lock inLocks isTask)

def sampleBoard : TaskBoard where
  tables :=
    { tasks := empty.insert (SystemTask.created "systask_1" "log_cleanup" "" "" 0)
        fun _ => rfl
      locks := empty }
  now := 0
  notes := []

theorem sampleBoard_sound : Sound sampleBoard where
  consistent :=
    { ids := by decide
      owned := fun _ inNone => absurd inNone List.not_mem_nil
      locked := by
        intro _ isRow isRunning
        rcases List.mem_singleton.mp isRow with rfl
        cases isRunning }
  notes := fun _ inNone => absurd inNone List.not_mem_nil

def sampleJobs : ℕ → RunnerJob
  | 0 => .claims "runner-a" [⟨1, "log_cleanup", 60⟩]
  | _ => .expires

theorem sampleJobs_distinct : DistinctRunners sampleJobs := by
  rintro (_ | _) (_ | _) _ isFirst second
  · rfl
  · cases second
  · cases isFirst
  · cases isFirst

/-- The claim, and a pass over the stale locks after the lease is over. -/
def claimedThenExpired : List (Action Bool TaskEvent) :=
  List.replicate 5 (.perform 0 true) ++ [.occur (.elapse 61)] ++ List.replicate 4 (.perform 1 true)

theorem system_task_one_live_runner_sample :
    OneLiveRunner (claimedThenExpired.foldl SystemTaskPool.step
      (SystemTaskPool.start sampleJobs sampleBoard)) :=
  system_task_one_live_runner sampleJobs_distinct sampleBoard_sound
    (Reachable.of_run claimedThenExpired _ (by decide))

/-- The runner pauses with its lock until the lease is over and the lock is deleted, and then
marks the task as running. -/
def pausedClaim : List (Action Bool TaskEvent) :=
  List.replicate 3 (.perform 0 true) ++ [.occur (.elapse 61)] ++
    List.replicate 4 (.perform 1 true) ++ [.perform 0 true]

/-- A running task is left without a lock. -/
theorem system_task_stuck :
    ¬∀ (jobs : ℕ → RunnerJob) (board : TaskBoard) (pool : SystemTaskPool),
      DistinctRunners jobs → Sound board →
      Reachable SystemTaskPool.step Unrestricted (SystemTaskPool.start jobs board) pool →
        OneLiveRunner pool := by
  intro live
  have promised := live sampleJobs sampleBoard _ sampleJobs_distinct sampleBoard_sound
    (Reachable.foldl SystemTaskPool.step pausedClaim _)
  have unlocked : ¬∀ task ∈ (pausedClaim.foldl SystemTaskPool.step
      (SystemTaskPool.start sampleJobs sampleBoard)).state.tables.tasks.rows,
      task.status = .running →
        ∃ lock ∈ (pausedClaim.foldl SystemTaskPool.step
          (SystemTaskPool.start sampleJobs sampleBoard)).state.tables.locks.rows,
          lock.type = task.type ∧ lock.taskID = task.taskID ∧ lock.lockedBy = task.lockedBy := by
    decide
  exact unlocked promised.locked

end NewApi.SystemTask
