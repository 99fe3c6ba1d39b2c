import NewApi.Library.Concurrent
import NewApi.Model.SystemTask

/-!
# Runners of system tasks

The functions on system tasks as programs that make one call for each statement. A thread that
takes no further step has crashed. Time passes by an event, and a task is created by an event.
Next to the tables stands a history: what was changed by a state update or a finish, what was
marked as expired, and the lock that each of these statements found.
-/

namespace NewApi.SystemTask

open Concurrent Relational
open NewApi.Model (SystemTask SystemTaskLock SystemTaskStatus SystemTaskTables)

/-- The errors of a runner. -/
inductive SystemTaskError where
  | database
  | lockLost

/-- The statements of a runner, one at a time. -/
inductive SystemTaskCall where
  | getTimestamp
  | findPending (id : ℤ) (taskType : String)
  | createLock (lock : SystemTaskLock)
  | findLock (taskType : String)
  | takeOverLock (taskType taskID lockedBy : String) (now lockUntil : ℤ)
  /-- `MarkSystemTaskLeaseExpired`, by a takeover or for a lock that an expirer listed. -/
  | markLeaseExpired (taskID : String) (listed : Option SystemTaskLock)
  | markRunning (id : ℤ) (taskType runner : String) (now : ℤ)
  | findTask (id : ℤ)
  | updateState (taskID lockedBy state : String) (now : ℤ)
  | renewLock (taskID lockedBy : String) (now lockUntil : ℤ)
  | finish (taskID lockedBy : String) (status : SystemTaskStatus) (result error : String)
      (now : ℤ)
  | releaseLock (taskID lockedBy : String)
  | findStaleLocks (now : ℤ)
  | deleteStaleLock (listed : SystemTaskLock) (now : ℤ)

abbrev SystemTaskCall.Answer : SystemTaskCall → Type
  | getTimestamp => ℤ
  | findPending _ _ => Except SystemTaskError (Option SystemTask)
  | createLock _ => Bool
  | findLock _ => Except SystemTaskError (Option SystemTaskLock)
  | takeOverLock _ _ _ _ _ => Except SystemTaskError ℕ
  | markLeaseExpired _ _ => Option SystemTaskError
  | markRunning _ _ _ _ => Except SystemTaskError ℕ
  | findTask _ => Except SystemTaskError (Option SystemTask)
  | updateState _ _ _ _ => Except SystemTaskError ℕ
  | renewLock _ _ _ _ => Except SystemTaskError ℕ
  | finish _ _ _ _ _ _ => Except SystemTaskError ℕ
  | releaseLock _ _ => Option SystemTaskError
  | findStaleLocks _ => Except SystemTaskError (List SystemTaskLock)
  | deleteStaleLock _ _ => Option SystemTaskError

abbrev SystemTaskProgram := Program SystemTaskCall SystemTaskCall.Answer

/-- Whether a lock was acquired, and the task of the expired lock that it replaced. -/
structure Acquisition where
  acquired : Bool
  expiredTaskID : String := ""

def acquireSystemTaskLock (taskType taskID lockedBy : String) (now lockUntil : ℤ) :
    SystemTaskProgram (Except SystemTaskError Acquisition) := do
  let lock : SystemTaskLock :=
    { type := taskType, taskID, lockedBy, lockedUntil := lockUntil, updatedAt := now }
  if ← Program.ask (SystemTaskCall.createLock lock) then
    pure (.ok { acquired := true })
  else
    match ← Program.ask (SystemTaskCall.findLock taskType) with
    | .error failure => pure (.error failure)
    | .ok none => pure (.ok { acquired := false })
    | .ok (some old) =>
      if now ≤ old.lockedUntil then
        pure (.ok { acquired := false })
      else
        match ← Program.ask
            (SystemTaskCall.takeOverLock taskType taskID lockedBy now lockUntil) with
        | .error failure => pure (.error failure)
        | .ok 0 => pure (.ok { acquired := false })
        | .ok (_ + 1) => pure (.ok { acquired := true, expiredTaskID := old.taskID })

/-- Gives the lock of a failed claim back; its own failure is ignored. -/
def abandonClaim (task : SystemTask) (runner : String)
    (out : Except SystemTaskError (Option SystemTask)) :
    SystemTaskProgram (Except SystemTaskError (Option SystemTask)) := do
  let _ ← Program.ask (SystemTaskCall.releaseLock task.taskID runner)
  pure out

/-- `ClaimSystemTask` from the claim of the pending task on. -/
def startClaimedTask (id : ℤ) (taskType runner : String) (now : ℤ) (task : SystemTask) :
    SystemTaskProgram (Except SystemTaskError (Option SystemTask)) := do
  match ← Program.ask (SystemTaskCall.markRunning id taskType runner now) with
  | .error failure => abandonClaim task runner (.error failure)
  | .ok 0 => abandonClaim task runner (.ok none)
  | .ok (_ + 1) => Program.ask (SystemTaskCall.findTask id)

/-- `ClaimSystemTask` of a task that was found pending. -/
def claimPendingTask (id : ℤ) (taskType runner : String) (lockUntil now : ℤ)
    (task : SystemTask) : SystemTaskProgram (Except SystemTaskError (Option SystemTask)) := do
  match ← acquireSystemTaskLock taskType task.taskID runner now lockUntil with
  | .error failure => pure (.error failure)
  | .ok acquisition =>
    if !acquisition.acquired then
      pure (.ok none)
    else if acquisition.expiredTaskID ≠ "" ∧ acquisition.expiredTaskID ≠ task.taskID then
      match ← Program.ask
          (SystemTaskCall.markLeaseExpired acquisition.expiredTaskID none) with
      | some failure => abandonClaim task runner (.error failure)
      | none => startClaimedTask id taskType runner now task
    else
      startClaimedTask id taskType runner now task

def claimSystemTask (id : ℤ) (taskType runner : String) (lockUntil : ℤ) :
    SystemTaskProgram (Except SystemTaskError (Option SystemTask)) := do
  let now ← Program.ask SystemTaskCall.getTimestamp
  match ← Program.ask (SystemTaskCall.findPending id taskType) with
  | .error failure => pure (.error failure)
  | .ok none => pure (.ok none)
  | .ok (some task) => claimPendingTask id taskType runner lockUntil now task

def lockLostUnlessAffected : Except SystemTaskError ℕ → Option SystemTaskError
  | .error failure => some failure
  | .ok 0 => some .lockLost
  | .ok (_ + 1) => none

def updateSystemTaskState (taskID lockedBy state : String) :
    SystemTaskProgram (Option SystemTaskError) := do
  let now ← Program.ask SystemTaskCall.getTimestamp
  let out ← Program.ask (SystemTaskCall.updateState taskID lockedBy state now)
  pure (lockLostUnlessAffected out)

def renewSystemTaskLock (taskID lockedBy : String) (lockUntil : ℤ) :
    SystemTaskProgram (Option SystemTaskError) := do
  let now ← Program.ask SystemTaskCall.getTimestamp
  let out ← Program.ask (SystemTaskCall.renewLock taskID lockedBy now lockUntil)
  pure (lockLostUnlessAffected out)

def finishSystemTask (taskID lockedBy : String) (status : SystemTaskStatus)
    (result error : String) : SystemTaskProgram (Option SystemTaskError) := do
  let now ← Program.ask SystemTaskCall.getTimestamp
  let out ← Program.ask (SystemTaskCall.finish taskID lockedBy status result error now)
  match lockLostUnlessAffected out with
  | some failure => pure (some failure)
  | none => Program.ask (SystemTaskCall.releaseLock taskID lockedBy)

/-- The loop of `ExpireStaleSystemTaskLocks`. -/
def expireLocks (now : ℤ) : List SystemTaskLock → SystemTaskProgram (Option SystemTaskError)
  | [] => pure none
  | lock :: locks => do
      match ← Program.ask (SystemTaskCall.markLeaseExpired lock.taskID (some lock)) with
      | some failure => pure (some failure)
      | none =>
        match ← Program.ask (SystemTaskCall.deleteStaleLock lock now) with
        | some failure => pure (some failure)
        | none => expireLocks now locks

def expireStaleSystemTaskLocks (now : ℤ) : SystemTaskProgram (Option SystemTaskError) := do
  match ← Program.ask (SystemTaskCall.findStaleLocks now) with
  | .error failure => pure (some failure)
  | .ok locks => expireLocks now locks

/-- The arguments of `ClaimSystemTask` but for the runner. -/
structure ClaimRequest where
  id : ℤ
  type : String
  lockUntil : ℤ

/-- The outcome that a handler reports: `succeeded` or `failed`. -/
structure FinishRequest where
  status : SystemTaskStatus
  (result error : String)
  final : status.isFinal = true

/-- What a runner does. -/
inductive RunnerJob where
  | claims (runner : String) (reqs : List ClaimRequest)
  | renews (taskID runner : String) (lockUntil : ℤ)
  | updates (taskID runner state : String)
  | finishes (taskID runner : String) (req : FinishRequest)
  | expires

def RunnerJob.claimer : RunnerJob → Option String
  | claims runner _ => some runner
  | _ => none

def runClaims (runner : String) : List ClaimRequest → SystemTaskProgram Unit
  | [] => pure ()
  | req :: reqs => do
      let _ ← claimSystemTask req.id req.type runner req.lockUntil
      runClaims runner reqs

def RunnerJob.run : RunnerJob → SystemTaskProgram Unit
  | claims runner reqs => runClaims runner reqs
  | renews taskID runner lockUntil => do
      let _ ← renewSystemTaskLock taskID runner lockUntil
      pure ()
  | updates taskID runner state => do
      let _ ← updateSystemTaskState taskID runner state
      pure ()
  | finishes taskID runner req => do
      let _ ← finishSystemTask taskID runner req.status req.result req.error
      pure ()
  | expires => do
      let now ← Program.ask SystemTaskCall.getTimestamp
      let _ ← expireStaleSystemTaskLocks now
      pure ()

/-- A statement that changed a task, the clock, and the lock of the task's type. -/
inductive TaskNote where
  | changed (taskID lockedBy : String) (clock : ℤ) (lock : Option SystemTaskLock)
  | expired (taskID : String) (clock : ℤ) (lock : Option SystemTaskLock)

/-- The tables, the clock, and what runners have noted. -/
structure TaskBoard where
  tables : SystemTaskTables
  now : ℤ
  notes : List TaskNote

namespace TaskBoard

variable (board : TaskBoard)

def lockOf (taskID : String) : Option SystemTaskLock :=
  (board.tables.tasks.rows.find? (·.taskID = taskID)).bind fun task =>
    board.tables.locks.find? task.type

def isRunning (taskID : String) : Bool :=
  board.tables.tasks.rows.any fun task => task.taskID = taskID && task.status = .running

def withTables {Answer : Type} (out : SystemTaskTables × Answer) :
    Except SystemTaskError Answer × TaskBoard :=
  (.ok out.2, { board with tables := out.1 })

def noteChange (taskID lockedBy : String) (out : SystemTaskTables × ℕ) :
    Except SystemTaskError ℕ × TaskBoard :=
  (.ok out.2,
    { board with
      tables := out.1
      notes :=
        if 0 < out.2 then
          board.notes ++ [.changed taskID lockedBy board.now (board.lockOf taskID)]
        else board.notes })

/-- `MarkSystemTaskLeaseExpired`, noted when it changed a row. -/
def markLeaseExpired (taskID : String) : TaskBoard :=
  { board with
    tables := board.tables.markSystemTaskLeaseExpired taskID board.now
    notes :=
      if board.isRunning taskID then
        board.notes ++ [.expired taskID board.now (board.lockOf taskID)]
      else board.notes }

def perform (_ : ℕ) :
    (call : SystemTaskCall) → Bool → TaskBoard → call.Answer × TaskBoard
  | .getTimestamp, _, board => (board.now, board)
  | .findPending id taskType, done, board =>
    (if done then .ok (board.tables.findPending id taskType) else .error .database, board)
  | .createLock lock, done, board =>
    match done, board.tables.createLock lock with
    | true, some tables => (true, { board with tables })
    | _, _ => (false, board)
  | .findLock taskType, done, board =>
    (if done then .ok (board.tables.locks.find? taskType) else .error .database, board)
  | .takeOverLock taskType taskID lockedBy now lockUntil, done, board =>
    if done then
      board.withTables (board.tables.takeOverLock taskType taskID lockedBy now lockUntil)
    else (.error .database, board)
  | .markLeaseExpired taskID _, done, board =>
    if done then (none, board.markLeaseExpired taskID) else (some .database, board)
  | .markRunning id taskType runner now, done, board =>
    if done then board.withTables (board.tables.markRunning id taskType runner now)
    else (.error .database, board)
  | .findTask id, done, board =>
    (if done then .ok (board.tables.tasks.find? id) else .error .database, board)
  | .updateState taskID lockedBy state now, done, board =>
    if done then
      board.noteChange taskID lockedBy
        (board.tables.updateSystemTaskState taskID lockedBy state now)
    else (.error .database, board)
  | .renewLock taskID lockedBy now lockUntil, done, board =>
    if done then
      board.withTables (board.tables.renewSystemTaskLock taskID lockedBy lockUntil now)
    else (.error .database, board)
  | .finish taskID lockedBy status result error now, done, board =>
    if done then
      board.noteChange taskID lockedBy
        (board.tables.finishSystemTask taskID lockedBy status result error now)
    else (.error .database, board)
  | .releaseLock taskID lockedBy, done, board =>
    if done then
      (none, { board with tables := board.tables.releaseSystemTaskLock taskID lockedBy })
    else (some .database, board)
  | .findStaleLocks now, done, board =>
    (if done then .ok (board.tables.findStaleLocks now) else .error .database, board)
  | .deleteStaleLock listed now, done, board =>
    if done then
      (none, { board with tables := board.tables.deleteStaleLock listed now })
    else (some .database, board)

end TaskBoard

/-- What happens beside the runners. -/
inductive TaskEvent where
  | createSystemTask (taskID type body state : String)
  | elapse (seconds : ℕ)

namespace TaskBoard

def occur (event : TaskEvent) (board : TaskBoard) : TaskBoard :=
  match event with
  | .createSystemTask taskID type body state =>
    { board with
      tables := board.tables.createSystemTask taskID type body state board.now }
  | .elapse seconds => { board with now := board.now + seconds }

/-- The conditions under which a statement does what the functions rely on:

* a takeover replaces the lock of a task that is not running;
* a task is marked as running under the runner's own lock, which is not over;
* a renewed lock is not over;
* a running task is marked as expired for a listed lock that still stands as it was listed;
* a task is updated or finished while its runner's lock is not over. -/
def Careful (_ : ℕ) (call : SystemTaskCall) (_ : Bool) (board : TaskBoard) : Prop :=
  match call with
  | .takeOverLock taskType _ _ _ _ =>
    ∀ lock ∈ board.tables.locks.find? taskType, board.isRunning lock.taskID = false
  | .markRunning id taskType runner _ =>
    ∀ task ∈ board.tables.tasks.find? id, task.status = .pending →
      ∃ lock ∈ board.tables.locks.find? taskType,
        lock.taskID = task.taskID ∧ lock.lockedBy = runner ∧ board.now ≤ lock.lockedUntil
  | .renewLock _ _ _ lockUntil => board.now ≤ lockUntil
  | .markLeaseExpired taskID listed =>
    board.isRunning taskID = true →
      ∃ lock ∈ listed, board.tables.locks.find? lock.type = some lock
  | .updateState taskID lockedBy _ _ =>
    board.isRunning taskID = true →
      ∀ lock ∈ board.lockOf taskID, lock.lockedBy = lockedBy → board.now ≤ lock.lockedUntil
  | .finish taskID lockedBy _ _ _ _ =>
    board.isRunning taskID = true →
      ∀ lock ∈ board.lockOf taskID, lock.lockedBy = lockedBy → board.now ≤ lock.lockedUntil
  | _ => True

instance (t : ℕ) (call : SystemTaskCall) (done : Bool) (board : TaskBoard) :
    Decidable (Careful t call done board) := by
  unfold Careful
  split <;> infer_instance

end TaskBoard

abbrev SystemTaskPool := Pool TaskBoard SystemTaskCall SystemTaskCall.Answer Unit

namespace SystemTaskPool

def start (jobs : ℕ → RunnerJob) (board : TaskBoard) : SystemTaskPool where
  state := board
  threads t := (jobs t).run

def step : SystemTaskPool → Action Bool TaskEvent → SystemTaskPool :=
  Pool.step TaskBoard.perform TaskBoard.occur

def Careful : SystemTaskPool → Action Bool TaskEvent → Prop :=
  Pool.Allowed TaskBoard.Careful fun _ _ => True

instance (pool : SystemTaskPool) (action : Action Bool TaskEvent) :
    Decidable (pool.Careful action) :=
  Pool.decidableAllowed TaskBoard.Careful (fun _ _ => True) pool action

end SystemTaskPool

end NewApi.SystemTask
