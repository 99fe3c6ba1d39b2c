import NewApi.Library.Table

/-!
# System tasks and their locks

The two tables behind system tasks and the single statements on them. A task is found by
its id or by its task id, a lock by the type of its task: the primary key of the lock
table allows one lock for each type. Whether the database carries a statement out is
decided outside; a failed statement changes nothing.
-/

namespace NewApi.Model

open Relational

/-- The states of a system task. -/
inductive SystemTaskStatus where
  | pending
  | running
  | succeeded
  | failed
deriving DecidableEq

/-- `succeeded` and `failed`. -/
def SystemTaskStatus.isFinal : SystemTaskStatus → Bool
  | pending => false
  | running => false
  | succeeded => true
  | failed => true

/-- A row of `system_tasks`. -/
structure SystemTask where
  id : ℤ
  (taskID type : String)
  status : SystemTaskStatus
  activeKey : Option String
  (payload state result error lockedBy : String)
  (createdAt updatedAt : ℤ)
deriving DecidableEq

/-- A row of `system_task_locks`. -/
structure SystemTaskLock where
  (type taskID lockedBy : String)
  (lockedUntil updatedAt : ℤ)
deriving DecidableEq

instance : Keyed SystemTask ℤ :=
  ⟨SystemTask.id⟩

instance : Keyed SystemTaskLock String :=
  ⟨SystemTaskLock.type⟩

/-- The tables of system tasks and of their locks. -/
structure SystemTaskTables where
  tasks : Table SystemTask
  locks : Table SystemTaskLock

namespace SystemTask

/-- The row that `CreateSystemTask` inserts. -/
def created (taskID type body state : String) (now id : ℤ) : SystemTask where
  id := id
  taskID := taskID
  type := type
  status := .pending
  activeKey := some type
  payload := body
  state := state
  result := ""
  error := ""
  lockedBy := ""
  createdAt := now
  updatedAt := now

def markRunning (runner : String) (now : ℤ) : RowUpdate SystemTask where
  apply task := { task with status := .running, lockedBy := runner, updatedAt := now }
  key_apply _ := rfl

def leaseExpired (now : ℤ) : RowUpdate SystemTask where
  apply task :=
    { task with
      status := .failed
      activeKey := none
      error := "task lease expired"
      updatedAt := now }
  key_apply _ := rfl

def setState (state : String) (now : ℤ) : RowUpdate SystemTask where
  apply task := { task with state := state, updatedAt := now }
  key_apply _ := rfl

def finish (status : SystemTaskStatus) (result error : String) (now : ℤ) :
    RowUpdate SystemTask where
  apply task :=
    { task with
      status := status
      activeKey := none
      result := result
      error := error
      updatedAt := now }
  key_apply _ := rfl

end SystemTask

namespace SystemTaskLock

def takeOver (taskID lockedBy : String) (lockUntil now : ℤ) : RowUpdate SystemTaskLock where
  apply lock :=
    { lock with
      taskID := taskID
      lockedBy := lockedBy
      lockedUntil := lockUntil
      updatedAt := now }
  key_apply _ := rfl

def renew (lockUntil now : ℤ) : RowUpdate SystemTaskLock where
  apply lock := { lock with lockedUntil := lockUntil, updatedAt := now }
  key_apply _ := rfl

end SystemTaskLock

namespace SystemTaskTables

variable (tables : SystemTaskTables)

/-- The insertion of `CreateSystemTask`; the task id and the active key are unique. -/
def createSystemTask (taskID type body state : String) (now : ℤ) : SystemTaskTables :=
  if tables.tasks.rows.any fun task => task.taskID = taskID || task.activeKey = some type then
    tables
  else
    { tables with
      tasks := tables.tasks.insert (SystemTask.created taskID type body state now) fun _ => rfl }

/-- The first read of `ClaimSystemTask`. -/
def findPending (id : ℤ) (taskType : String) : Option SystemTask :=
  (tables.tasks.find? id).filter fun task => task.type = taskType && task.status = .pending

/-- The insertion of a lock; `none` when its type is locked. -/
def createLock (lock : SystemTaskLock) : Option SystemTaskTables :=
  (tables.locks.insertOwn lock).map fun locks => { tables with locks }

/-- The takeover of an expired lock: the tables, and the rows affected. -/
def takeOverLock (taskType taskID lockedBy : String) (now lockUntil : ℤ) :
    SystemTaskTables × ℕ :=
  let result := tables.locks.updateWhere taskType (fun lock => lock.lockedUntil < now)
    (SystemTaskLock.takeOver taskID lockedBy lockUntil now)
  ({ tables with locks := result.table }, result.rowsAffected)

def markRunning (id : ℤ) (taskType runner : String) (now : ℤ) : SystemTaskTables × ℕ :=
  let result := tables.tasks.updateWhere id
    (fun task => task.type = taskType && task.status = .pending)
    (SystemTask.markRunning runner now)
  ({ tables with tasks := result.table }, result.rowsAffected)

def markSystemTaskLeaseExpired (taskID : String) (now : ℤ) : SystemTaskTables :=
  { tables with
    tasks := (tables.tasks.updateAll (fun task => task.taskID = taskID && task.status = .running)
      (SystemTask.leaseExpired now)).table }

/-- `EXISTS (SELECT 1 FROM system_task_locks ...)`. -/
def holdsLock (lockedBy : String) (now : ℤ) (task : SystemTask) : Bool :=
  tables.locks.rows.any fun lock =>
    lock.taskID = task.taskID && lock.lockedBy = lockedBy && now ≤ lock.lockedUntil

/-- The rows that `UpdateSystemTaskState` and `FinishSystemTask` select. -/
def selects (taskID lockedBy : String) (now : ℤ) (task : SystemTask) : Bool :=
  task.taskID = taskID && task.status = .running && task.lockedBy = lockedBy &&
    tables.holdsLock lockedBy now task

def updateSystemTaskState (taskID lockedBy state : String) (now : ℤ) : SystemTaskTables × ℕ :=
  let result := tables.tasks.updateAll (tables.selects taskID lockedBy now)
    (SystemTask.setState state now)
  ({ tables with tasks := result.table }, result.rowsAffected)

def finishSystemTask (taskID lockedBy : String) (status : SystemTaskStatus)
    (result error : String) (now : ℤ) : SystemTaskTables × ℕ :=
  let updated := tables.tasks.updateAll (tables.selects taskID lockedBy now)
    (SystemTask.finish status result error now)
  ({ tables with tasks := updated.table }, updated.rowsAffected)

def renewSystemTaskLock (taskID lockedBy : String) (lockUntil now : ℤ) :
    SystemTaskTables × ℕ :=
  let result := tables.locks.updateAll
    (fun lock => lock.taskID = taskID && lock.lockedBy = lockedBy && now ≤ lock.lockedUntil)
    (SystemTaskLock.renew lockUntil now)
  ({ tables with locks := result.table }, result.rowsAffected)

def releaseSystemTaskLock (taskID lockedBy : String) : SystemTaskTables :=
  { tables with
    locks := tables.locks.deleteAll fun lock =>
      lock.taskID = taskID && lock.lockedBy = lockedBy }

/-- The first read of `ExpireStaleSystemTaskLocks`. -/
def findStaleLocks (now : ℤ) : List SystemTaskLock :=
  tables.locks.rows.filter fun lock => lock.lockedUntil < now

def deleteStaleLock (listed : SystemTaskLock) (now : ℤ) : SystemTaskTables :=
  { tables with
    locks := tables.locks.deleteAll fun lock =>
      lock.type = listed.type && lock.taskID = listed.taskID &&
        lock.lockedBy = listed.lockedBy && lock.lockedUntil < now }

end SystemTaskTables

end NewApi.Model
