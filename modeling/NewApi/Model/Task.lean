import NewApi.Library.Table
import Mathlib.Data.List.Sort
import Mathlib.Data.Rat.Defs

/-!
# Asynchronous tasks

A task row is written in three ways: the whole row under a condition on its status, its quota
alone, and chosen columns of many rows without any condition.
-/

namespace NewApi.Model

open Relational Table

/-- `TaskStatus`. A status that the code does not name is kept as its text. -/
inductive TaskStatus where
  | notStart
  | submitted
  | queued
  | inProgress
  | failure
  | success
  | unknown
  | other (text : String)
deriving DecidableEq

/-- `SUCCESS` and `FAILURE`. -/
def TaskStatus.terminal (status : TaskStatus) : Bool :=
  status = .success ∨ status = .failure

/-- The platforms of tasks. -/
inductive TaskPlatform where
  | midjourney
  | suno
  | other (name : String)
deriving DecidableEq

/-- The ratios that a task was charged by. -/
structure TaskBillingContext where
  channelRatio : ℚ
  channelRatioSet : Bool
  otherRatios : List (String × ℚ)
  originModelName : String
  perCallBilling : Bool
deriving DecidableEq

/-- The private data of a task. -/
structure TaskPrivateData where
  (upstreamTaskId resultUrl : String)
  tokenId : ℤ
  billingContext : Option TaskBillingContext
deriving DecidableEq

/-- `Task`; `originModelName` is that of its properties, and `data` its marshalled bytes. -/
structure Task where
  id : ℤ
  taskId : String
  platform : TaskPlatform
  userId : ℤ
  group : String
  (channelId quota : ℤ)
  status : TaskStatus
  failReason : String
  (submitTime startTime finishTime : ℤ)
  (progress originModelName : String)
  privateData : TaskPrivateData
  data : List UInt8
deriving DecidableEq

instance : Keyed Task ℤ :=
  ⟨Task.id⟩

def taskRefundLegacyCutoff : ℤ :=
  1771718400

def progressSubmitted : String :=
  "10%"

def progressQueued : String :=
  "20%"

def progressInProgress : String :=
  "30%"

def progressComplete : String :=
  "100%"

namespace Task

def getUpstreamTaskId (task : Task) : String :=
  if task.privateData.upstreamTaskId ≠ "" then task.privateData.upstreamTaskId else task.taskId

def isLegacy (task : Task) : Bool :=
  0 < task.submitTime ∧ task.submitTime < taskRefundLegacyCutoff

/-- The condition of `GetAllUnFinishSyncTasks`. -/
def unfinished (task : Task) : Bool :=
  task.progress ≠ progressComplete ∧ task.status ≠ .failure ∧ task.status ≠ .success

/-- The condition of `GetTimedOutUnfinishedTasks`. -/
def timedOut (task : Task) (cutoff : ℤ) : Bool :=
  task.unfinished ∧ task.submitTime < cutoff

/-- The columns that the polling compares before it writes. -/
structure Snapshot where
  status : TaskStatus
  progress : String
  (startTime finishTime : ℤ)
  (failReason resultUrl : String)
  data : List UInt8
deriving DecidableEq

def snapshot (task : Task) : Snapshot where
  status := task.status
  progress := task.progress
  startTime := task.startTime
  finishTime := task.finishTime
  failReason := task.failReason
  resultUrl := task.privateData.resultUrl
  data := task.data

end Task

/-! ## Writing rows -/

def overwrite (task : Task) : RowUpdate Task where
  apply row := { task with id := row.id }
  key_apply _ := rfl

/-- What `UpdateWithStatus` answers. -/
inductive CasAnswer where
  | won
  | lost
  | failed
deriving DecidableEq

/-- How a database answers an update: it may fail, and it may report the rows that an update
changed rather than those that it matched. -/
structure Driver where
  fails : Bool := false
  countsChanged : Bool := false

def updateWithStatus (driver : Driver) (fromStatus : TaskStatus) (task : Task)
    (tasks : Table Task) : CasAnswer × Table Task :=
  if driver.fails then
    (.failed, tasks)
  else
    match tasks.find? task.id with
    | none => (.lost, tasks)
    | some row =>
      if row.status = fromStatus then
        (if driver.countsChanged ∧ row = task then .lost else .won,
          tasks.modify task.id (overwrite task))
      else
        (.lost, tasks)

def updateQuota (driver : Driver) (task : Task) (tasks : Table Task) : Table Task :=
  if driver.fails then tasks
  else tasks.modify task.id ⟨({ · with quota := task.quota }), fun _ => rfl⟩

/-- The columns that the polling loop writes with `TaskBulkUpdateByID`. -/
def failInBulk (failReason : Option String) : RowUpdate Task where
  apply row :=
    { row with
      status := .failure
      progress := progressComplete
      failReason := failReason.getD row.failReason }
  key_apply _ := rfl

def taskBulkUpdateById (driver : Driver) (ids : List ℤ) (failReason : Option String)
    (tasks : Table Task) : Table Task :=
  if driver.fails then tasks
  else ids.foldl (fun tasks id => tasks.modify id (failInBulk failReason)) tasks

/-! ## What the writes do to a row -/

section Rows

variable {tasks : Table Task} {task row : Task} {driver : Driver} {fromStatus : TaskStatus}

theorem updateWithStatus_cases (driver : Driver) (fromStatus : TaskStatus) (task : Task)
    (tasks : Table Task) :
    (∃ reply, reply ≠ .won ∧ updateWithStatus driver fromStatus task tasks = (reply, tasks)) ∨
    ∃ reply row, tasks.find? task.id = some row ∧ row.status = fromStatus ∧
      (reply ≠ .won → row = task) ∧ updateWithStatus driver fromStatus task tasks =
        (reply, tasks.modify task.id (overwrite task)) := by
  unfold updateWithStatus
  split
  next => exact .inl ⟨.failed, by simp, rfl⟩
  next =>
    split
    next => exact .inl ⟨.lost, by simp, rfl⟩
    next row found =>
      split
      next expected =>
        refine .inr ⟨_, row, found, expected, ?_, rfl⟩
        split
        next noChange => exact fun _ => noChange.2
        next => simp
      next => exact .inl ⟨.lost, by simp, rfl⟩

theorem find?_overwrite (found : tasks.find? task.id = some row) :
    (tasks.modify task.id (overwrite task)).find? task.id = some task := by
  have sameId : row.id = task.id := key_of_find? found
  rw [find?_modify_self, found]
  simp [overwrite, sameId]

theorem find?_updateQuota_ne {id : ℤ} (apart : id ≠ task.id) :
    (updateQuota driver task tasks).find? id = tasks.find? id := by
  unfold updateQuota
  split
  · rfl
  · exact find?_modify_ne tasks apart _

theorem find?_updateWithStatus_ne {id : ℤ} (apart : id ≠ task.id) :
    (updateWithStatus driver fromStatus task tasks).2.find? id = tasks.find? id := by
  rcases updateWithStatus_cases driver fromStatus task tasks with
    ⟨reply, _, kept⟩ | ⟨reply, row, _, _, _, written⟩
  · rw [kept]
  · rw [written]
    exact find?_modify_ne tasks apart _

theorem find?_taskBulkUpdateById_ne {ids : List ℤ} {failReason : Option String} {id : ℤ}
    (apart : id ∉ ids) :
    (taskBulkUpdateById driver ids failReason tasks).find? id = tasks.find? id := by
  unfold taskBulkUpdateById
  split
  · rfl
  · induction ids generalizing tasks with
    | nil => rfl
    | cons _ _ ih =>
      rw [List.mem_cons, not_or] at apart
      rw [List.foldl_cons, ih apart.2]
      exact find?_modify_ne tasks apart.1 _

theorem failInBulk_twice (failReason : Option String) (row : Task) :
    (failInBulk failReason).apply ((failInBulk failReason).apply row) =
      (failInBulk failReason).apply row := by
  cases failReason <;> rfl

theorem find?_taskBulkUpdateById {ids : List ℤ} {failReason : Option String} {id : ℤ}
    (works : driver.fails = false) (chosen : id ∈ ids) :
    (taskBulkUpdateById driver ids failReason tasks).find? id =
      (tasks.find? id).map (failInBulk failReason).apply := by
  have all : ∀ (ids : List ℤ) (tasks : Table Task), id ∈ ids →
      (ids.foldl (fun tasks id => tasks.modify id (failInBulk failReason)) tasks).find? id =
        (tasks.find? id).map (failInBulk failReason).apply := by
    intro ids
    induction ids with
    | nil => simp
    | cons head tail ih =>
      intro tasks chosen
      rw [List.foldl_cons]
      by_cases later : id ∈ tail
      · rw [ih _ later]
        by_cases now : id = head
        · subst now
          rw [find?_modify_self, Option.map_map]
          congr 1
          funext row
          exact failInBulk_twice failReason row
        · rw [find?_modify_ne tasks now]
      · have now : id = head := by simpa [later] using chosen
        subst now
        have untouched := @find?_taskBulkUpdateById_ne
          (tasks.modify id (failInBulk failReason)) {} tail failReason id later
        simp only [taskBulkUpdateById, Bool.false_eq_true, if_false] at untouched
        rw [untouched, find?_modify_self]
  simp only [taskBulkUpdateById, works, Bool.false_eq_true, if_false]
  exact all ids tasks chosen

end Rows

end NewApi.Model
