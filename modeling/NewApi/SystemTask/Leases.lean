import NewApi.SystemTask.Runners

/-!
# One live runner for each system task

Tasks and locks stay consistent: task ids are unique, each lock is for a task of its type,
and a running task has the lock of its runner. Each statement that is made under the careful
conditions keeps this, and stays within what the other threads rely on between their own
statements: a task that is over stays as it is, no other thread starts a task for a runner,
and no lock that was listed as stale comes to protect a running task.
-/

namespace NewApi.SystemTask

open Concurrent Relational Transition Table
open NewApi.Model (SystemTask SystemTaskLock SystemTaskStatus SystemTaskTables)

/-- The lock is the one of the task's type, and a runner's lock for the task. -/
def Locks (tables : SystemTaskTables) (lock : SystemTaskLock) (task : SystemTask)
    (runnerID : String) : Prop :=
  tables.locks.find? task.type = some lock ∧ lock.taskID = task.taskID ∧
    lock.lockedBy = runnerID

/-- Identifiers are unique, a lock belongs to a task, and a running task has its lock. -/
structure Consistent (tables : SystemTaskTables) : Prop where
  ids : ∀ first ∈ tables.tasks.rows, ∀ two ∈ tables.tasks.rows,
    first.taskID = two.taskID → first = two
  owned : ∀ lock ∈ tables.locks.rows, ∃ task ∈ tables.tasks.rows,
    task.taskID = lock.taskID ∧ task.type = lock.type
  locked : ∀ task ∈ tables.tasks.rows, task.status = .running →
    ∃ lock, Locks tables lock task task.lockedBy

/-- A change found the lock of its runner, and a mark found a lock that was over. -/
def TaskNote.Sound : TaskNote → Prop
  | .changed taskID lockedBy clock lock =>
    ∃ held, lock = some held ∧ held.taskID = taskID ∧ held.lockedBy = lockedBy ∧
      clock ≤ held.lockedUntil
  | .expired taskID clock lock =>
    ∃ held, lock = some held ∧ held.taskID = taskID ∧ held.lockedUntil < clock

/-- The tables are consistent, and the notes are about what was stored. -/
structure Sound (board : TaskBoard) : Prop where
  consistent : Consistent board.tables
  notes : ∀ note ∈ board.notes, note.Sound

/-- No running task is under the lock, if it still stands as it was listed. -/
def Unused (tables : SystemTaskTables) (listed : SystemTaskLock) (now : ℤ) : Prop :=
  ∀ lock, tables.locks.find? listed.type = some lock → lock.taskID = listed.taskID →
    lock.lockedBy = listed.lockedBy → lock.lockedUntil < now →
      ∀ task ∈ tables.tasks.rows, task.taskID = listed.taskID → task.status ≠ .running

/-- What the other threads leave a thread, which may claim for a runner. -/
structure Rely (claimer : Option String) (before after : TaskBoard) : Prop where
  sound : Sound before → Sound after
  clock : before.now ≤ after.now
  tasks : ∀ task ∈ before.tables.tasks.rows, ∃ later ∈ after.tables.tasks.rows,
    later.id = task.id ∧ later.taskID = task.taskID ∧ later.type = task.type ∧
      (task.status.isFinal = true → later = task) ∧
      (later.status = .running → claimer = some later.lockedBy →
        task.status = .running ∧ task.lockedBy = later.lockedBy)
  unused : ∀ listed now, now ≤ before.now → Unused before.tables listed now →
    Unused after.tables listed now

theorem Rely.refl (claimer : Option String) (board : TaskBoard) : Rely claimer board board where
  sound := id
  clock := le_rfl
  tasks task isRow := ⟨task, isRow, rfl, rfl, rfl, fun _ => rfl, fun runs _ => ⟨runs, rfl⟩⟩
  unused _ _ _ := id

theorem Rely.trans {claimer : Option String} {first two third : TaskBoard}
    (before : Rely claimer first two) (after : Rely claimer two third) :
    Rely claimer first third where
  sound := after.sound ∘ before.sound
  clock := le_trans before.clock after.clock
  tasks := by
    intro task isRow
    rcases before.tasks task isRow with ⟨middle, inMiddle, id, taskID, type, final, runs⟩
    rcases after.tasks middle inMiddle with ⟨later, inLater, id', taskID', type', final', runs'⟩
    refine ⟨later, inLater, id'.trans id, taskID'.trans taskID, type'.trans type, ?_, ?_⟩
    · intro isFinal
      have same := final isFinal
      subst same
      exact final' isFinal
    · intro isRunning claims
      rcases runs' isRunning claims with ⟨middleRuns, sameRunner⟩
      rw [← sameRunner] at claims
      rcases runs middleRuns claims with ⟨taskRuns, taskRunner⟩
      exact ⟨taskRuns, taskRunner.trans sameRunner⟩
  unused listed now past holds :=
    after.unused listed now (le_trans past before.clock) (before.unused listed now past holds)

namespace Consistent

variable {tables : SystemTaskTables}

theorem type_eq (valid : Consistent tables) {lock : SystemTaskLock} {task : SystemTask}
    (stored : lock ∈ tables.locks.rows) (isRow : task ∈ tables.tasks.rows)
    (sameTask : lock.taskID = task.taskID) : lock.type = task.type := by
  rcases valid.owned lock stored with ⟨owner, ownerInRows, ownerTask, ownerType⟩
  have same := valid.ids owner ownerInRows task isRow (ownerTask.trans sameTask)
  subst same
  exact ownerType.symm

end Consistent

/-! ### Statements on the tasks -/

/-- An update of tasks that are not over; only `starter` comes to run a task, under a lock of
its own that is not over. -/
structure TaskUpdate (board : TaskBoard) (starter : Option String) (guard : SystemTask → Bool)
    (change : RowUpdate SystemTask) : Prop where
  same : ∀ task, (change.apply task).taskID = task.taskID ∧ (change.apply task).type = task.type
  live : ∀ task, guard task = true → task.status.isFinal = false
  runs : ∀ task ∈ board.tables.tasks.rows, guard task = true →
    (change.apply task).status = .running →
      (task.status = .running ∧ (change.apply task).lockedBy = task.lockedBy) ∨
        (starter = some (change.apply task).lockedBy ∧
          ∃ lock, Locks board.tables lock task (change.apply task).lockedBy ∧
            board.now ≤ lock.lockedUntil)

section TaskUpdate

variable {board after : TaskBoard} {starter claimer : Option String}
  {guard : SystemTask → Bool} {change : RowUpdate SystemTask}

/-- An update of a task keeps the tables consistent. -/
theorem TaskUpdate.consistent (updates : TaskUpdate board starter guard change)
    (valid : Consistent board.tables) :
    Consistent
      { board.tables with tasks := (board.tables.tasks.updateAll guard change).table } where
  ids := by
    intro first inFirst two inSecond sameID
    rcases mem_updateAll.mp inFirst with ⟨oldFirst, out⟩ | ⟨old, oldFirst, inside, rfl⟩
    · rcases mem_updateAll.mp inSecond with
        ⟨oldSecond, _⟩ | ⟨other, oldSecond, chosen, rfl⟩
      · exact valid.ids first oldFirst two oldSecond sameID
      · rw [(updates.same other).1] at sameID
        have same := valid.ids first oldFirst other oldSecond sameID
        subst same
        rw [chosen] at out
        cases out
    · rw [(updates.same old).1] at sameID
      rcases mem_updateAll.mp inSecond with
        ⟨oldSecond, out⟩ | ⟨other, oldSecond, _, rfl⟩
      · have same := valid.ids old oldFirst two oldSecond sameID
        subst same
        rw [inside] at out
        cases out
      · rw [(updates.same other).1] at sameID
        have same := valid.ids old oldFirst other oldSecond sameID
        subst same
        rfl
  owned := by
    intro lock stored
    rcases valid.owned lock stored with ⟨task, isRow, taskID, type⟩
    cases chosen : guard task with
    | false => exact ⟨task, mem_updateAll.mpr (.inl ⟨isRow, chosen⟩), taskID, type⟩
    | true =>
      refine ⟨change.apply task, mem_updateAll.mpr (.inr ⟨task, isRow, chosen, rfl⟩), ?_, ?_⟩
      · exact (updates.same task).1.trans taskID
      · exact (updates.same task).2.trans type
  locked := by
    intro task isRow isRunning
    rcases mem_updateAll.mp isRow with ⟨old, _⟩ | ⟨old, oldRow, chosen, rfl⟩
    · exact valid.locked task old isRunning
    · simp only [Locks, (updates.same old).1, (updates.same old).2]
      rcases updates.runs old oldRow chosen isRunning with ⟨ran, sameRunner⟩ | ⟨_, lock, own, _⟩
      · rw [sameRunner]
        exact valid.locked old oldRow ran
      · exact ⟨lock, own⟩

theorem TaskUpdate.rely (updates : TaskUpdate board starter guard change)
    (valid : Consistent board.tables) (soundAfter : Sound after)
    (other : ∀ runnerID ∈ starter, claimer ≠ some runnerID)
    (tables : after.tables =
      { board.tables with tasks := (board.tables.tasks.updateAll guard change).table })
    (now : after.now = board.now) : Rely claimer board after where
  sound _ := soundAfter
  clock := now.ge
  tasks := by
    intro task isRow
    rw [tables]
    cases chosen : guard task with
    | false =>
      exact ⟨task, mem_updateAll.mpr (.inl ⟨isRow, chosen⟩), rfl, rfl, rfl,
        fun _ => rfl, fun runs _ => ⟨runs, rfl⟩⟩
    | true =>
      refine ⟨change.apply task, mem_updateAll.mpr (.inr ⟨task, isRow, chosen, rfl⟩),
        change.key_apply task, (updates.same task).1, (updates.same task).2, ?_, ?_⟩
      · intro isFinal
        rw [updates.live task chosen] at isFinal
        cases isFinal
      · intro isRunning claims
        rcases updates.runs task isRow chosen isRunning with ⟨ran, same⟩ | ⟨starts, _⟩
        · exact ⟨ran, same.symm⟩
        · exact absurd claims (other _ starts)
  unused := by
    rw [tables]
    intro listed _ _ unused lock found sameTask same lapsed task isRow isTask
    rcases mem_updateAll.mp isRow with ⟨old, _⟩ | ⟨old, oldRow, chosen, rfl⟩
    · exact unused lock found sameTask same lapsed task old isTask
    · rw [(updates.same old).1] at isTask
      intro isRunning
      rcases updates.runs old oldRow chosen isRunning with ⟨ran, _⟩ | ⟨_, _, locks, _⟩
      · exact unused lock found sameTask same lapsed old oldRow isTask ran
      · have type := valid.type_eq (mem_of_find? found) oldRow (sameTask.trans isTask.symm)
        have lockType : lock.type = listed.type := key_of_find? found
        rw [← lockType, type, locks.1, Option.some.injEq] at found
        subst found
        omega

end TaskUpdate

/-! ### Statements on the locks -/

/-- A change of locks that leaves a running task its lock, as it was or renewed. -/
structure LockUpdate (board : TaskBoard) (locks : Table SystemTaskLock) : Prop where
  owned : ∀ lock ∈ locks.rows, ∃ task ∈ board.tables.tasks.rows,
    task.taskID = lock.taskID ∧ task.type = lock.type
  kept : ∀ task ∈ board.tables.tasks.rows, task.status = .running →
    ∀ lock, Locks board.tables lock task task.lockedBy →
      ∃ later, Locks { board.tables with locks } later task task.lockedBy ∧
        (later = lock ∨ board.now ≤ later.lockedUntil)

section LockUpdate

variable {board : TaskBoard} {claimer : Option String} {locks : Table SystemTaskLock}

theorem LockUpdate.consistent (updates : LockUpdate board locks)
    (valid : Consistent board.tables) : Consistent { board.tables with locks } where
  ids := valid.ids
  owned := updates.owned
  locked := by
    intro task isRow isRunning
    rcases valid.locked task isRow isRunning with ⟨lock, locksTask⟩
    rcases updates.kept task isRow isRunning lock locksTask with ⟨later, laterLocks, _⟩
    exact ⟨later, laterLocks⟩

theorem LockUpdate.rely (updates : LockUpdate board locks) (valid : Consistent board.tables) :
    Rely claimer board { board with tables := { board.tables with locks } } where
  sound sound := ⟨updates.consistent valid, sound.notes⟩
  clock := le_rfl
  tasks task isRow := ⟨task, isRow, rfl, rfl, rfl, fun _ => rfl, fun runs _ => ⟨runs, rfl⟩⟩
  unused := by
    intro listed _ _ unused later found sameTask sameRunner lapsed task isRow isTask isRunning
    rcases valid.locked task isRow isRunning with ⟨lock, locksTask⟩
    rcases updates.kept task isRow isRunning lock locksTask with ⟨kept, keptLocks, isOld⟩
    have type := (updates.consistent valid).type_eq (mem_of_find? found) isRow
      (sameTask.trans isTask.symm)
    have laterType : later.type = listed.type := key_of_find? found
    have same : later = kept := by
      rw [← laterType, type, keptLocks.1, Option.some.injEq] at found
      exact found.symm
    subst same
    rcases isOld with rfl | _
    · have listedLock := locksTask.1
      rw [← type, laterType] at listedLock
      exact unused later listedLock sameTask sameRunner lapsed task isRow isTask isRunning
    · omega

end LockUpdate

/-! ### The statements -/

def HasTask (tables : SystemTaskTables) (taskID taskType : String) : Prop :=
  ∃ task ∈ tables.tasks.rows, task.taskID = taskID ∧ task.type = taskType

def SystemTaskCall.starter : SystemTaskCall → Option String
  | markRunning _ _ runnerID _ => some runnerID
  | _ => none

/-- What a thread that claims for a runner knows when it makes a statement. -/
def Needs (claimer : Option String) : SystemTaskCall → TaskBoard → Prop
  | .createLock lock, board => HasTask board.tables lock.taskID lock.type
  | .takeOverLock taskType taskID _ _ _, board => HasTask board.tables taskID taskType
  | .markLeaseExpired taskID (some listed), board =>
    listed.taskID = taskID ∧ listed.lockedUntil < board.now
  | .markRunning _ _ runnerID _, _ => claimer = some runnerID
  | .finish _ _ status _ _ _, _ => status.isFinal = true
  | .releaseLock taskID runnerID, board =>
    ∀ task ∈ board.tables.tasks.rows, task.taskID = taskID → task.status = .running →
      task.lockedBy ≠ runnerID
  | .deleteStaleLock listed now, board => Unused board.tables listed now
  | _, _ => True

section Statements

variable {board : TaskBoard} {task : SystemTask} {taskID runnerID : String}

theorem isRunning_iff : board.isRunning taskID = true ↔
    ∃ task ∈ board.tables.tasks.rows, task.taskID = taskID ∧ task.status = .running := by
  simp only [TaskBoard.isRunning, List.any_eq_true, Bool.and_eq_true, decide_eq_true_eq]

variable (valid : Consistent board.tables)

include valid

theorem lockOf_of_mem (isRow : task ∈ board.tables.tasks.rows) :
    board.lockOf task.taskID = board.tables.locks.find? task.type := by
  have found : board.tables.tasks.rows.find? (·.taskID = task.taskID) = some task := by
    cases isFound : board.tables.tasks.rows.find? (·.taskID = task.taskID) with
    | none =>
      rw [List.find?_eq_none] at isFound
      exact absurd (decide_eq_true rfl) (isFound task isRow)
    | some other =>
      have sameID := List.find?_some isFound
      rw [valid.ids other (List.mem_of_find?_eq_some isFound) task isRow (of_decide_eq_true sameID)]
  simp only [TaskBoard.lockOf, found, Option.bind_some]

theorem createLock_update {lock : SystemTaskLock}
    (known : HasTask board.tables lock.taskID lock.type) {locks : Table SystemTaskLock}
    (inserts : board.tables.locks.insertOwn lock = some locks) : LockUpdate board locks where
  owned := by
    intro stored inLocks
    rw [(insertOwn_some inserts).2] at inLocks
    rcases List.mem_append.mp inLocks with old | new
    · exact valid.owned stored old
    · rw [List.mem_singleton.mp new]
      exact known
  kept := by
    intro task _ _ held locksTask
    refine ⟨held, ⟨?_, locksTask.2⟩, .inl rfl⟩
    rw [find?_insertOwn inserts]
    have other : task.type ≠ Keyed.key lock := by
      intro same
      have free := (insertOwn_some inserts).1
      rw [← same, locksTask.1] at free
      cases free
    rw [if_neg other]
    exact locksTask.1

theorem takeOverLock_update {taskType : String}
    {now lockUntil : ℤ} (known : HasTask board.tables taskID taskType)
    (replaces : ∀ lock ∈ board.tables.locks.find? taskType, board.isRunning lock.taskID = false) :
    LockUpdate board
      (board.tables.takeOverLock taskType taskID runnerID now lockUntil).1.locks := by
  simp only [SystemTaskTables.takeOverLock, updateWhere_table]
  refine ⟨?_, ?_⟩
  · intro lock inLocks
    rcases mem_updateAll.mp inLocks with ⟨old, _⟩ | ⟨old, _, chosen, rfl⟩
    · exact valid.owned lock old
    · simp only [Bool.and_eq_true, decide_eq_true_eq] at chosen
      rcases known with ⟨task, isRow, isTask, isType⟩
      exact ⟨task, isRow, isTask, isType.trans chosen.1.symm⟩
  · intro task isRow isRunning held locksTask
    refine ⟨held, ⟨?_, locksTask.2⟩, .inl rfl⟩
    have other : held.type ≠ taskType := by
      intro same
      have heldType : held.type = task.type := key_of_find? locksTask.1
      have idle := replaces held (by rw [← same, heldType]; exact locksTask.1)
      rw [locksTask.2.1, isRunning_iff.mpr ⟨task, isRow, rfl, isRunning⟩] at idle
      cases idle
    rw [find?_updateAll, locksTask.1, Option.map_some]
    simp [other, Keyed.key]

theorem renewLock_update {now lockUntil : ℤ} (notOver : board.now ≤ lockUntil) : LockUpdate board
      (board.tables.renewSystemTaskLock taskID runnerID lockUntil now).1.locks := by
  simp only [SystemTaskTables.renewSystemTaskLock]
  refine ⟨?_, ?_⟩
  · intro lock inLocks
    rcases mem_updateAll.mp inLocks with ⟨old, _⟩ | ⟨old, oldRow, _, rfl⟩
    · exact valid.owned lock old
    · exact valid.owned old oldRow
  · intro task _ _ held locksTask
    simp only [Locks, find?_updateAll, locksTask.1, Option.map_some]
    split
    · exact ⟨_, ⟨rfl, locksTask.2⟩, .inr notOver⟩
    · exact ⟨_, ⟨rfl, locksTask.2⟩, .inl rfl⟩

theorem deleteAll_update {guard : SystemTaskLock → Bool}
    (spares : ∀ task ∈ board.tables.tasks.rows, task.status = .running →
      ∀ lock, Locks board.tables lock task task.lockedBy → guard lock = false) :
    LockUpdate board (board.tables.locks.deleteAll guard) where
  owned lock inLocks := valid.owned lock (List.mem_of_mem_filter inLocks)
  kept := by
    intro task isRow isRunning held locksTask
    refine ⟨held, ⟨?_, locksTask.2⟩, .inl rfl⟩
    rw [find?_deleteAll, locksTask.1]
    exact Option.filter_some_pos (by simp [spares task isRow isRunning held locksTask])

omit valid

theorem leaseExpired_update {now : ℤ} : TaskUpdate board none
    (fun task => task.taskID = taskID && task.status = .running)
    (SystemTask.leaseExpired now) where
  same _ := ⟨rfl, rfl⟩
  live task chosen := by
    simp only [Bool.and_eq_true, decide_eq_true_eq] at chosen
    rw [chosen.2]
    rfl
  runs _ _ _ isRunning := by cases isRunning

theorem markRunning_update {id now : ℤ} {taskType : String}
    (own : ∀ task ∈ board.tables.tasks.find? id, task.status = .pending →
      ∃ lock ∈ board.tables.locks.find? taskType,
        lock.taskID = task.taskID ∧ lock.lockedBy = runnerID ∧ board.now ≤ lock.lockedUntil) :
    TaskUpdate board (some runnerID)
      (fun task => Keyed.key task = id && (task.type = taskType && task.status = .pending))
      (SystemTask.markRunning runnerID now) where
  same _ := ⟨rfl, rfl⟩
  live task chosen := by
    simp only [Bool.and_eq_true, decide_eq_true_eq] at chosen
    rw [chosen.2.2]
    rfl
  runs task isRow chosen _ := by
    simp only [Bool.and_eq_true, decide_eq_true_eq] at chosen
    rcases chosen with ⟨isId, isType, isPending⟩
    have found := find?_of_mem isRow
    rw [isId] at found
    rcases own task found isPending with ⟨lock, foundLock, isTask, isRunner, notOver⟩
    refine .inr ⟨rfl, lock, ⟨?_, isTask, isRunner⟩, notOver⟩
    rw [isType]
    exact foundLock

theorem selects_update {lockedBy : String} {now : ℤ} {change : RowUpdate SystemTask}
    (same : ∀ task, (change.apply task).taskID = task.taskID ∧
      (change.apply task).type = task.type)
    (runs : ∀ task, (change.apply task).status = .running →
      (change.apply task).lockedBy = task.lockedBy) :
    TaskUpdate board none (board.tables.selects taskID lockedBy now) change where
  same := same
  live task chosen := by
    simp only [SystemTaskTables.selects, Bool.and_eq_true, decide_eq_true_eq] at chosen
    rw [chosen.1.1.2]
    rfl
  runs task isRow chosen isRunning := by
    simp only [SystemTaskTables.selects, Bool.and_eq_true, decide_eq_true_eq] at chosen
    exact .inl ⟨chosen.1.1.2, runs task isRunning⟩

theorem changed_sound (valid : Consistent board.tables) {lockedBy : String} {now : ℤ}
    (hits : 0 < board.tables.tasks.rows.countP (board.tables.selects taskID lockedBy now))
    (notOver : board.isRunning taskID = true →
      ∀ lock ∈ board.lockOf taskID, lock.lockedBy = lockedBy → board.now ≤ lock.lockedUntil) :
    (TaskNote.changed taskID lockedBy board.now (board.lockOf taskID)).Sound := by
  rcases List.countP_pos_iff.mp hits with ⟨task, isRow, chosen⟩
  simp only [SystemTaskTables.selects, Bool.and_eq_true, decide_eq_true_eq] at chosen
  rcases chosen with ⟨⟨⟨rfl, isRunning⟩, rfl⟩, _⟩
  rcases valid.locked task isRow isRunning with ⟨lock, found, isTask, isRunner⟩
  have lockFound := lockOf_of_mem valid isRow
  rw [found] at lockFound
  refine ⟨lock, lockFound, isTask, isRunner, ?_⟩
  exact notOver (isRunning_iff.mpr ⟨task, isRow, rfl, isRunning⟩) lock lockFound isRunner

theorem expired_sound (valid : Consistent board.tables) (isRunning : board.isRunning taskID = true)
    {listed : SystemTaskLock} (stands : board.tables.locks.find? listed.type = some listed)
    (isTask : listed.taskID = taskID) (lapsed : listed.lockedUntil < board.now) :
    (TaskNote.expired taskID board.now (board.lockOf taskID)).Sound := by
  rcases isRunning_iff.mp isRunning with ⟨_, isRow, rfl, _⟩
  have type := valid.type_eq (mem_of_find? stands) isRow isTask
  refine ⟨listed, ?_, isTask, lapsed⟩
  rw [lockOf_of_mem valid isRow, ← type]
  exact stands

/-- What a statement leaves behind for the threads that do not claim for its runner. -/
def Leaves (starter : Option String) (before after : TaskBoard) : Prop :=
  Sound after ∧ ∀ other, (∀ runner ∈ starter, other ≠ some runner) → Rely other before after

variable (sound : Sound board)

include sound

theorem Sound.locks {starter : Option String}
    {locks : Table SystemTaskLock} (updates : LockUpdate board locks) :
    Leaves starter board { board with tables := { board.tables with locks } } :=
  ⟨⟨updates.consistent sound.consistent, sound.notes⟩, fun _ _ => updates.rely sound.consistent⟩

theorem Sound.tasks {starter : Option String}
    {guard : SystemTask → Bool} {change : RowUpdate SystemTask} {notes : List TaskNote}
    (updates : TaskUpdate board starter guard change) (holds : ∀ note ∈ notes, note.Sound) :
    Leaves starter board
      { board with
        tables := { board.tables with tasks := (board.tables.tasks.updateAll guard change).table }
        notes } :=
  ⟨⟨updates.consistent sound.consistent, holds⟩, fun _ other => updates.rely sound.consistent
      ⟨updates.consistent sound.consistent, holds⟩ other rfl rfl⟩

theorem Sound.noted {note : TaskNote} (holds : note.Sound) :
    ∀ other ∈ board.notes ++ [note], other.Sound := by
  intro other inLog
  rcases List.mem_append.mp inLog with old | new
  · exact sound.notes other old
  · rw [List.mem_singleton.mp new]
    exact holds

/-- Every statement of a runner keeps the tables sound. -/
theorem Sound.perform {claimer : Option String} {t : ℕ} {call : SystemTaskCall} {done : Bool}
    (needs : Needs claimer call board) (care : TaskBoard.Careful t call done board) :
    Leaves call.starter board (TaskBoard.perform t call done board).2 := by
  have unchanged : ∀ starter, Leaves starter board board :=
    fun _ => ⟨sound, fun other _ => Rely.refl other board⟩
  cases call with
  | getTimestamp | findPending _ _ | findLock _ | findTask _ | findStaleLocks _ => exact unchanged _
  | createLock _ =>
    simp only [TaskBoard.perform]
    split
    next made =>
      rcases Option.map_eq_some_iff.mp made with ⟨_, inserts, rfl⟩
      exact sound.locks (createLock_update sound.consistent needs inserts)
    · exact unchanged _
  | takeOverLock _ _ _ _ _ =>
    cases done with
    | false => exact unchanged _
    | true => exact sound.locks (takeOverLock_update sound.consistent needs care)
  | markLeaseExpired _ _ =>
    cases done with
    | false => exact unchanged _
    | true =>
      refine sound.tasks leaseExpired_update ?_
      split
      next isRunning =>
        rcases care isRunning with ⟨lock, listed, stands⟩
        cases listed
        exact sound.noted (expired_sound sound.consistent isRunning stands needs.1 needs.2)
      · exact sound.notes
  | markRunning _ _ _ _ =>
    cases done with
    | false => exact unchanged _
    | true =>
      simp only [TaskBoard.perform, if_true, TaskBoard.withTables,
        SystemTaskTables.markRunning, updateWhere_table]
      exact sound.tasks (markRunning_update care) sound.notes
  | updateState _ _ _ _ =>
    cases done with
    | false => exact unchanged _
    | true =>
      refine sound.tasks (selects_update (fun _ => ⟨rfl, rfl⟩) fun _ _ => rfl) ?_
      split
      next hits => exact sound.noted (changed_sound sound.consistent hits care)
      · exact sound.notes
  | renewLock _ _ _ _ =>
    cases done with
    | false => exact unchanged _
    | true => exact sound.locks (renewLock_update sound.consistent care)
  | finish _ _ _ _ _ _ =>
    cases done with
    | false => exact unchanged _
    | true =>
      refine sound.tasks (selects_update (fun _ => ⟨rfl, rfl⟩) fun _ _ => rfl) ?_
      split
      next hits => exact sound.noted (changed_sound sound.consistent hits care)
      · exact sound.notes
  | releaseLock _ _ =>
    cases done with
    | false => exact unchanged _
    | true =>
      refine sound.locks (deleteAll_update sound.consistent ?_)
      intro task isRow isRunning _ locksTask
      by_contra chosen
      simp only [Bool.not_eq_false, Bool.and_eq_true, decide_eq_true_eq] at chosen
      exact needs task isRow (locksTask.2.1.symm.trans chosen.1) isRunning
        (locksTask.2.2.symm.trans chosen.2)
  | deleteStaleLock _ _ =>
    cases done with
    | false => exact unchanged _
    | true =>
      refine sound.locks (deleteAll_update sound.consistent ?_)
      intro task isRow isRunning lock locksTask
      by_contra chosen
      simp only [Bool.not_eq_false, Bool.and_eq_true, decide_eq_true_eq] at chosen
      rcases chosen with ⟨⟨⟨isType, isTask⟩, isRunner⟩, lapsed⟩
      have lockType : lock.type = task.type := key_of_find? locksTask.1
      have found := locksTask.1
      rw [← lockType, isType] at found
      exact needs lock found isTask isRunner lapsed task isRow
        (locksTask.2.1.symm.trans isTask) isRunning

theorem Sound.created {tasks : Table SystemTask} {row : SystemTask}
    (rows : ∀ task, task ∈ tasks.rows ↔ task ∈ board.tables.tasks.rows ∨ task = row)
    (idle : row.status ≠ .running)
    (fresh : ∀ task ∈ board.tables.tasks.rows, task.taskID ≠ row.taskID) :
    Leaves none board { board with tables := { board.tables with tasks } } := by
  have valid : Consistent { board.tables with tasks } := by
    refine ⟨?_, ?_, ?_⟩
    · intro first inFirst two inSecond sameID
      rcases (rows first).mp inFirst with oldFirst | rfl
      · rcases (rows two).mp inSecond with oldSecond | rfl
        · exact sound.consistent.ids first oldFirst two oldSecond sameID
        · exact absurd sameID (fresh first oldFirst)
      · rcases (rows two).mp inSecond with oldSecond | rfl
        · exact absurd sameID.symm (fresh two oldSecond)
        · rfl
    · intro lock inLocks
      rcases sound.consistent.owned lock inLocks with ⟨task, isRow, isTask, isType⟩
      exact ⟨task, (rows task).mpr (.inl isRow), isTask, isType⟩
    · intro task isRow isRunning
      rcases (rows task).mp isRow with oldRow | rfl
      · exact sound.consistent.locked task oldRow isRunning
      · exact absurd isRunning idle
  refine ⟨⟨valid, sound.notes⟩, fun other _ => ⟨fun _ => ⟨valid, sound.notes⟩, le_rfl, ?_, ?_⟩⟩
  · intro task isRow
    exact ⟨task, (rows task).mpr (.inl isRow), rfl, rfl, rfl, fun _ => rfl,
      fun runs _ => ⟨runs, rfl⟩⟩
  · intro listed expiry _ unused lock found sameTask same lapsed task isRow isTask
    rcases (rows task).mp isRow with oldRow | rfl
    · exact unused lock found sameTask same lapsed task oldRow isTask
    · exact idle

theorem Sound.occur (event : TaskEvent) : Leaves none board (board.occur event) := by
  cases event with
  | elapse _ =>
    refine ⟨⟨sound.consistent, sound.notes⟩,
      fun claimer _ => ⟨fun _ => ⟨sound.consistent, sound.notes⟩, ?_, ?_, fun _ _ _ => id⟩⟩
    · simp only [TaskBoard.occur]
      omega
    · exact (Rely.refl claimer board).tasks
  | createSystemTask _ _ _ _ =>
    simp only [TaskBoard.occur, SystemTaskTables.createSystemTask]
    split
    · exact ⟨⟨sound.consistent, sound.notes⟩, fun claimer _ => Rely.refl claimer board⟩
    next free =>
      refine sound.created (fun _ => mem_insert) (by simp [SystemTask.created]) ?_
      intro task isRow sameID
      apply free
      exact List.any_eq_true.mpr ⟨task, isRow, by simp [sameID, SystemTask.created]⟩

end Statements

end NewApi.SystemTask
