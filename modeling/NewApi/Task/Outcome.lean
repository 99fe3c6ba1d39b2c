import NewApi.Service.TaskPolling

/-!
# What a worker can do to a row

Each worker either leaves the store alone, or replaces the row that still has the status of its
copy. What is then due for the task follows from the status that was written.
-/

namespace NewApi.Task

open Relational NewApi.Model NewApi.Service

/-- The worker that is left after a row was written. With `refunds`, a failure is refunded. -/
structure Bills (refunds : Prop) (task : Model.Task) (worker : Option Worker) : Prop where
  copy : ∀ left ∈ worker, left.copy = task
  failed : refunds → task.status = .failure → task.quota ≠ 0 →
    ∃ base, worker = some ⟨base, task, .adjust 0⟩
  ended : task.status.terminal = true → ∀ left ∈ worker, left.todo = .idle ∨
    ∃ goal, left.todo = .adjust goal ∧ (task.status = .failure → goal = 0)
  live : task.status.terminal = false → ∀ left ∈ worker, left.todo = .idle

/-- What a write of a worker can do to the tasks and to the worker. -/
inductive Outcome (refunds : Prop) (Good : Model.Task → Prop) (copy : Model.Task)
    (tasks : Table Model.Task) : Table Model.Task × Option Worker → Prop where
  | kept (worker : Option Worker)
      (idle : ∀ left ∈ worker, left.todo = .idle ∧ left.origin ≠ .sweep ∧ left.copy.id = copy.id ∧
        Good left.copy) :
      Outcome refunds Good copy tasks (tasks, worker)
  | written (row task : Model.Task) (worker : Option Worker)
      (live : copy.status.terminal = false)
      (found : tasks.find? copy.id = some row) (current : row.status = copy.status)
      (sameId : task.id = copy.id) (good : Good task) (bills : Bills refunds task worker)
      (unswept : ∀ left ∈ worker, left.todo = .idle → left.origin ≠ .sweep) :
      Outcome refunds Good copy tasks (tasks.modify copy.id (overwrite task), worker)

section Workers

variable {refunds : Prop} {Good : Model.Task → Prop} {copy : Model.Task}
  {tasks : Table Model.Task} {cfg : TaskSettings} {driver : Driver}

/-- What the sweep can do to the row of a task. -/
theorem sweepTimedOutTask_outcome {now : ℤ} (live : copy.status.terminal = false)
    (good : Good (timeOut cfg now copy)) :
    Outcome refunds Good copy tasks (sweepTimedOutTask cfg now driver copy tasks) := by
  have diff : copy.status ≠ .failure := by
    intro failed
    simp [failed, TaskStatus.terminal] at live
  simp only [sweepTimedOutTask]
  rcases updateWithStatus_cases driver copy.status (timeOut cfg now copy) tasks with
    ⟨answer, notWon, unchanged⟩ | ⟨answer, row, found, current, noChange, written⟩
  · rw [unchanged]
    cases answer with
    | won => exact absurd rfl notWon
    | lost | failed => exact .kept none (by simp)
  · have won : answer = .won := by
      by_contra notWon
      have same := noChange notWon
      rw [same] at current
      exact diff current.symm
    subst won
    rw [written]
    refine .written row _ _ live found current rfl good ⟨?_, ?_, ?_, ?_⟩ ?_
    · intro _ isLeft
      split at isLeft
      next => simp at isLeft
      next => simp [← Option.mem_some.mp isLeft]
    · intro _ _ charged
      refine ⟨.sweep, if_neg ?_⟩
      rintro (legacy | free)
      · simp [timeOut, legacy] at charged
      · exact charged free
    · intro _ left isLeft
      split at isLeft
      next => simp at isLeft
      next =>
        rw [← Option.mem_some.mp isLeft]
        exact .inr ⟨0, rfl, fun _ => rfl⟩
    · simp [timeOut, TaskStatus.terminal]
    · intro _ isLeft idle
      split at isLeft
      next => simp at isLeft
      next =>
        rw [← Option.mem_some.mp isLeft] at idle
        simp at idle

theorem sunoStatus_failure_iff (item : SunoDataResponse) (task : Model.Task) :
    (sunoStatus item task).2 = true ↔ (sunoStatus item task).1 = .failure := by
  simp only [sunoStatus]
  generalize (if item.status ≠ .other "" then item.status else task.status) = status
  split
  next => simp
  next noFailure =>
    rw [not_or] at noFailure
    simp [noFailure.2]

theorem refundTaskQuota_todo (task : Model.Task) :
    refundTaskQuota task = .idle ∨ refundTaskQuota task = .adjust 0 := by
  unfold refundTaskQuota
  split <;> simp

theorem updateSunoTask_outcome {item : SunoDataResponse} (live : copy.status.terminal = false)
    (same : Good copy) (good : Good (applySuno item copy)) :
    Outcome refunds Good copy tasks (updateSunoTask item driver copy tasks) := by
  simp only [updateSunoTask]
  split
  next =>
    rcases updateWithStatus_cases driver copy.status (applySuno item copy) tasks with
      ⟨answer, notWon, unchanged⟩ | ⟨answer, row, found, current, noChange, written⟩
    · rw [unchanged]
      have kept : Outcome refunds Good copy tasks
          (tasks, some ⟨.poll, applySuno item copy, .idle⟩) :=
        .kept _ (by simpa [applySuno] using good)
      cases answer with
      | won => exact absurd rfl notWon
      | lost | failed => exact kept
    · rw [written]
      have unchanged : answer ≠ .won → (applySuno item copy).status.terminal = false := by
        intro notWon
        rw [← noChange notWon, current]
        exact live
      have quiet : answer ≠ .won → Outcome refunds Good copy tasks
          (tasks.modify copy.id (overwrite (applySuno item copy)),
            some ⟨.poll, applySuno item copy, .idle⟩) := by
        intro notWon
        refine .written row _ _ live found current rfl good ⟨by simp, ?_, by simp, by simp⟩
          (by simp)
        intro _ failed
        simp [failed, TaskStatus.terminal] at unchanged
        exact absurd unchanged notWon
      cases answer with
      | lost | failed => exact quiet (by simp)
      | won =>
        have running : copy.status ≠ .failure := by
          intro failed
          simp [failed, TaskStatus.terminal] at live
        refine .written row _ _ live found current rfl good ⟨by simp, ?_, ?_, ?_⟩ (by simp)
        · intro _ failed charged
          have failure : (sunoStatus item copy).2 = true :=
            (sunoStatus_failure_iff item copy).mpr failed
          refine ⟨.poll, ?_⟩
          rw [if_pos ⟨failure, running⟩, refundTaskQuota, if_neg charged]
        · intro _ left isLeft
          rw [← Option.mem_some.mp isLeft]
          simp only
          split
          next =>
            rcases refundTaskQuota_todo (applySuno item copy) with idle | due
            · exact .inl idle
            · exact .inr ⟨0, due, fun _ => rfl⟩
          next => exact .inl rfl
        · intro running _ isLeft
          rw [← Option.mem_some.mp isLeft]
          refine if_neg ?_
          rintro ⟨failure, _⟩
          have failed : (applySuno item copy).status = .failure :=
            (sunoStatus_failure_iff item copy).mp failure
          simp [failed, TaskStatus.terminal] at running
  next => exact .kept _ (by simpa using same)

theorem applyVideoStatus_status {now : ℤ} {info : TaskInfo} {task updated : Model.Task}
    (applied : applyVideoStatus cfg now info task = some updated) :
    updated.status = task.status ∧ updated.quota = task.quota ∧ updated.id = task.id ∧
      updated.privateData.tokenId = task.privateData.tokenId := by
  simp only [applyVideoStatus] at applied
  split at applied
  case h_6 => simp at applied
  all_goals
    rw [← Option.some.inj applied]
    simp

theorem applyVideo_spec (now : ℤ) (reply : VideoReply) (task : Model.Task) :
    (applyVideo cfg now reply task).task.id = task.id ∧
      (applyVideo cfg now reply task).task.quota = task.quota ∧
      (applyVideo cfg now reply task).task.privateData.tokenId = task.privateData.tokenId ∧
      ∀ info shouldRefund settles,
        (applyVideo cfg now reply task).billing = some (info, shouldRefund, settles) →
          (shouldRefund = true ↔ (applyVideo cfg now reply task).task.status = .failure ∧
            (applyVideo cfg now reply task).task.quota ≠ 0) ∧
          (settles = true ↔ (applyVideo cfg now reply task).task.status = .success) := by
  simp only [applyVideo]
  split
  next => simp
  next info _ =>
    split
    next => simp
    next applied =>
      rcases applyVideoStatus_status applied with ⟨status, quota, id, token⟩
      refine ⟨id, quota, token, ?_⟩
      intro _ _ _ billing
      simp only [Option.some.injEq, Prod.mk.injEq] at billing
      rcases billing with ⟨_, rfl, rfl⟩
      simp [status]

theorem videoBilling_todo (adjusted : ℤ) (info : TaskInfo) (shouldRefund shouldSettle : Bool)
    (task : Model.Task) :
    videoBilling cfg adjusted info shouldRefund shouldSettle task = .idle ∨
      ∃ goal, videoBilling cfg adjusted info shouldRefund shouldSettle task =
        .adjust goal ∧ (shouldSettle = false → goal = 0) := by
  simp only [videoBilling]
  split
  next settles =>
    split
    next actualQuota _ =>
      unfold recalculateTaskQuota
      split
      · exact .inl rfl
      · exact .inr ⟨actualQuota, rfl, by simp [settles]⟩
    next => exact .inl rfl
  next =>
    split
    next =>
      rcases refundTaskQuota_todo task with idle | due
      · exact .inl idle
      · exact .inr ⟨0, due, fun _ => rfl⟩
    next => exact .inl rfl

/-- What the polling of a video task can do to its row. -/
theorem updateVideoSingleTask_outcome {now adjusted : ℤ} {reply : VideoReply}
    (live : copy.status.terminal = false) (good : Good (applyVideo cfg now reply copy).task) :
    Outcome refunds Good copy tasks
      (updateVideoSingleTask cfg now reply adjusted driver copy tasks) := by
  rcases @applyVideo_spec cfg now reply copy with ⟨id, _, _, billing⟩
  simp only [updateVideoSingleTask]
  generalize applyVideo cfg now reply copy = update at good id billing ⊢
  have idle : Outcome refunds Good copy tasks (tasks, some ⟨.poll, update.task, .idle⟩) :=
    .kept _ (by simpa [id] using good)
  cases due : update.billing with
  | none => exact idle
  | some asked =>
    rcases asked with ⟨info, shouldRefund, shouldSettle⟩
    rcases billing info shouldRefund shouldSettle due with ⟨refundIff, settleIff⟩
    simp only
    have cas := updateWithStatus_cases driver copy.status update.task tasks
    rw [id] at cas
    split
    next ends =>
      rcases cas with ⟨answer, notWon, unchanged⟩ | ⟨answer, row, found, current, noChange, written⟩
      · rw [unchanged]
        cases answer with
        | won => exact absurd rfl notWon
        | lost | failed => exact idle
      · have won : answer = .won := by
          by_contra notWon
          rw [noChange notWon] at current
          exact ends.2 current.symm
        subst won
        rw [written]
        refine .written row _ _ live found current id good ⟨by simp, ?_, ?_, ?_⟩ (by simp)
        · intro _ failed charged
          have noSettle : shouldSettle = false := by simpa [failed] using settleIff
          have refund : shouldRefund = true := refundIff.mpr ⟨failed, charged⟩
          refine ⟨.poll, ?_⟩
          simp [videoBilling, noSettle, refund, refundTaskQuota, charged]
        · intro _ left isLeft
          rw [← Option.mem_some.mp isLeft]
          rcases @videoBilling_todo cfg adjusted info shouldRefund shouldSettle
            update.task with nothing | ⟨goal, asks, refunded⟩
          · exact .inl nothing
          · refine .inr ⟨goal, asks, fun failed => refunded ?_⟩
            simpa [failed] using settleIff
        · simp [ends.1]
    next notEnds =>
      have running : update.task.status.terminal = true → copy.status = update.task.status := by
        intro terminal
        by_contra diff
        exact notEnds ⟨terminal, diff⟩
      have liveTask : update.task.status.terminal = false := by
        by_contra terminal
        rw [Bool.not_eq_false] at terminal
        rw [running terminal, terminal] at live
        simp at live
      have nothing : videoBilling cfg adjusted info shouldRefund shouldSettle update.task =
          .idle := by
        have noSettle : shouldSettle = false := by
          by_contra settles
          simp [settleIff.mp (by simpa using settles), TaskStatus.terminal] at liveTask
        have noRefund : shouldRefund = false := by
          by_contra refunds
          simp [(refundIff.mp (by simpa using refunds)).1, TaskStatus.terminal] at liveTask
        simp [videoBilling, noSettle, noRefund]
      rw [nothing]
      split
      next =>
        rcases cas with ⟨answer, _, unchanged⟩ | ⟨answer, row, found, current, _, written⟩
        · rw [unchanged]
          exact idle
        · rw [written]
          refine .written row _ _ live found current id good ⟨by simp, ?_, ?_, by simp⟩ (by simp)
          · intro _ failed
            simp [failed, TaskStatus.terminal] at liveTask
          · simp [liveTask]
      next => exact idle

theorem tryRealtimeFetch_outcome {info : TaskInfo}
    (live : copy.snapshot ≠ (applyRealtime cfg info copy).snapshot → copy.status.terminal = false ∧
        (refunds → (applyRealtime cfg info copy).status ≠ .failure) ∧
        Good (applyRealtime cfg info copy)) :
    Outcome refunds Good copy tasks (tryRealtimeFetch cfg info driver copy tasks) := by
  simp only [tryRealtimeFetch]
  split
  next moved =>
    rcases live moved with ⟨running, notFailed, good⟩
    rcases updateWithStatus_cases driver copy.status (applyRealtime cfg info copy) tasks with
      ⟨answer, _, unchanged⟩ | ⟨answer, row, found, current, _, written⟩
    · rw [unchanged]
      exact .kept none (by simp)
    · rw [written]
      refine .written row _ none running found current rfl good ⟨by simp, ?_, by simp, by simp⟩
        (by simp)
      intro refund failed
      exact absurd failed (notFailed refund)
  next => exact .kept none (by simp)

end Workers

/-! ## Other rows -/

/-- A worker touches the row of its copy only, and keeps the copy's key. -/
structure Framed (copy : Model.Task) (tasks : Table Model.Task)
    (result : Table Model.Task × Option Worker) : Prop where
  rows : ∀ id, id ≠ copy.id → result.1.find? id = tasks.find? id
  key : ∀ left ∈ result.2, left.copy.id = copy.id

section Frames

variable {copy : Model.Task} {tasks : Table Model.Task} {cfg : TaskSettings} {driver : Driver}

theorem sweepTimedOutTask_framed (now : ℤ) :
    Framed copy tasks (sweepTimedOutTask cfg now driver copy tasks) := by
  have rows : ∀ id, id ≠ copy.id → (updateWithStatus driver copy.status
      (timeOut cfg now copy) tasks).2.find? id = tasks.find? id :=
    fun id apart => find?_updateWithStatus_ne apart
  simp only [sweepTimedOutTask]
  split
  next answered =>
    rw [answered] at rows
    refine ⟨rows, ?_⟩
    intro _ isLeft
    split at isLeft
    next => simp at isLeft
    next =>
      rw [← Option.mem_some.mp isLeft]
      rfl
  next answered =>
    rw [answered] at rows
    exact ⟨rows, by simp⟩

theorem updateSunoTask_framed (item : SunoDataResponse) :
    Framed copy tasks (updateSunoTask item driver copy tasks) := by
  have rows : ∀ id, id ≠ copy.id → (updateWithStatus driver copy.status
      (applySuno item copy) tasks).2.find? id = tasks.find? id :=
    fun id apart => find?_updateWithStatus_ne apart
  simp only [updateSunoTask]
  split
  next =>
    split
    next answered =>
      rw [answered] at rows
      exact ⟨rows, by simp [applySuno]⟩
    next answered =>
      rw [answered] at rows
      exact ⟨rows, by simp [applySuno]⟩
  next => exact ⟨fun _ _ => rfl, by simp⟩

theorem updateVideoSingleTask_framed (now : ℤ) (reply : VideoReply) (adjusted : ℤ) :
    Framed copy tasks (updateVideoSingleTask cfg now reply adjusted driver copy tasks) := by
  have key := (@applyVideo_spec cfg now reply copy).1
  have rows : ∀ id, id ≠ copy.id → (updateWithStatus driver copy.status
      (applyVideo cfg now reply copy).task tasks).2.find? id = tasks.find? id := by
    intro _ _
    exact find?_updateWithStatus_ne (by rwa [key])
  simp only [updateVideoSingleTask]
  split
  next => exact ⟨fun _ _ => rfl, by simp [key]⟩
  next =>
    split
    next =>
      split
      next answered =>
        rw [answered] at rows
        exact ⟨rows, by simp [key]⟩
      next answered =>
        rw [answered] at rows
        exact ⟨rows, by simp [key]⟩
    next =>
      split
      next => exact ⟨rows, by simp [key]⟩
      next => exact ⟨fun _ _ => rfl, by simp [key]⟩

theorem tryRealtimeFetch_framed (info : TaskInfo) :
    Framed copy tasks (tryRealtimeFetch cfg info driver copy tasks) := by
  simp only [tryRealtimeFetch]
  split
  next =>
    exact ⟨fun id apart => find?_updateWithStatus_ne apart, by simp⟩
  next => exact ⟨fun _ _ => rfl, by simp⟩

end Frames

/-! ## What a step does to a task -/

theorem update_cases {Index Held : Type} [DecidableEq Index] {f : Index → Held} {i other : Index}
    {new held : Held} (holds : Function.update f i new other = held) :
    other = i ∧ new = held ∨ other ≠ i ∧ f other = held := by
  by_cases same : other = i
  · subst same
    exact .inl ⟨rfl, by rwa [Function.update_self] at holds⟩
  · exact .inr ⟨same, by rwa [Function.update_of_ne same] at holds⟩

def chargesOf (id : ℤ) (s : TaskSystem) : List Charge :=
  s.charges.filter (·.task = id)

def bulkIds (s : TaskSystem) : TaskAction → List ℤ
  | .failNull workers _ => s.selectedIds workers (·.getUpstreamTaskId = "")
  | .failChannel workers platform channelId _ =>
    s.selectedIds workers fun copy => copy.getUpstreamTaskId ≠ "" ∧
      copy.platform = platform ∧ platform ≠ .midjourney ∧ copy.channelId = channelId
  | _ => []

/-- What a step can do to one task. -/
inductive Effect (refunds : Prop) (Good : Model.Task → Prop) (id : ℤ) (s : TaskSystem) :
    TaskAction → TaskSystem → Prop where
  | framed (action : TaskAction) (next : TaskSystem)
      (row : next.tasks.find? id = s.tasks.find? id)
      (charges : chargesOf id next = chargesOf id s)
      (workers : ∀ i worker, worker.copy.id = id →
        (next.workers i = some worker ↔ s.workers i = some worker)) :
      Effect refunds Good id s action next
  | took (action : TaskAction) (i : ℕ) (base : Origin) (row : Model.Task)
      (free : s.workers i = none) (found : s.tasks.find? id = some row)
      (live : base ≠ .fetch → row.status.terminal = false) :
      Effect refunds Good id s action
        { s with workers := Function.update s.workers i (some ⟨base, row, .idle⟩) }
  | worked (action : TaskAction) (i : ℕ) (base : Origin) (copy : Model.Task)
      (result : Table Model.Task × Option Worker)
      (held : s.workers i = some ⟨base, copy, .idle⟩) (isCopy : copy.id = id)
      (out : Outcome refunds Good copy s.tasks result) :
      Effect refunds Good id s action
        { s with
          tasks := result.1
          workers := Function.update s.workers i result.2 }
  | failed (action : TaskAction) (tasks : Table Model.Task) (failReason : Option String)
      (chosen : id ∈ bulkIds s action)
      (row : tasks.find? id = (s.tasks.find? id).map (failInBulk failReason).apply) :
      Effect refunds Good id s action { s with tasks := tasks }
  | adjusted (i : ℕ) (found : Bool) (base : Origin) (copy : Model.Task) (goal : ℤ)
      (due : s.workers i = some ⟨base, copy, .adjust goal⟩) (isCopy : copy.id = id) :
      Effect refunds Good id s (.adjustToken i found)
        { s with
          charges := s.adjustTokenQuota found copy (goal - copy.quota)
          workers := Function.update s.workers i
            (some ⟨base, { copy with quota := goal }, .record⟩) }
  | recorded (i : ℕ) (driver : Driver) (base : Origin) (copy : Model.Task)
      (due : s.workers i = some ⟨base, copy, .record⟩) (isCopy : copy.id = id) :
      Effect refunds Good id s (.recordQuota i driver)
        { s with
          tasks := updateQuota driver copy s.tasks
          workers := Function.update s.workers i
            (if base = .poll then some ⟨base, copy, .idle⟩ else none) }

/-- What has to hold of a copy of a task when its worker goes on with it. -/
def Works (refunds : Prop) (Good : Model.Task → Prop) (cfg : TaskSettings) (id : ℤ)
    (s : TaskSystem) : TaskAction → Prop
  | .sweep worker now _ => ∀ copy ∈ s.held .sweep worker, copy.id = id →
      copy.status.terminal = false ∧ Good (timeOut cfg now copy)
  | .suno worker item _ => ∀ copy ∈ s.held .poll worker, copy.id = id →
      copy.status.terminal = false ∧ Good copy ∧ Good (applySuno item copy)
  | .video worker now reply _ _ => ∀ copy ∈ s.held .poll worker, copy.id = id →
      copy.status.terminal = false ∧ Good (applyVideo cfg now reply copy).task
  | .fetch worker info _ => ∀ copy ∈ s.held .fetch worker, copy.id = id →
      copy.snapshot ≠ (applyRealtime cfg info copy).snapshot →
        copy.status.terminal = false ∧
          (refunds → (applyRealtime cfg info copy).status ≠ .failure) ∧
          Good (applyRealtime cfg info copy)
  | _ => True

section Steps

variable {refunds : Prop} {Good : Model.Task → Prop} {id : ℤ} {s : TaskSystem} {action : TaskAction}

theorem held_eq_some {base : Origin} {worker : ℕ} {copy : Model.Task} :
    s.held base worker = some copy ↔
      s.workers worker = some ⟨base, copy, .idle⟩ := by
  unfold TaskSystem.held
  split
  next found _ holds =>
    rw [holds]
    by_cases same : found = base
    · simp [same]
    · simp [same]
  next other =>
    simp only [reduceCtorEq, false_iff]
    intro holds
    exact other _ _ holds

theorem Effect.refl : Effect refunds Good id s action s :=
  .framed action s rfl rfl fun _ _ _ => Iff.rfl

theorem Effect.foreign {tasks : Table Model.Task} {charges : List Charge} {i : ℕ}
    {worker : Option Worker} (row : tasks.find? id = s.tasks.find? id)
    (sameCharges : charges.filter (·.task = id) = chargesOf id s)
    (past : ∀ old ∈ s.workers i, old.copy.id ≠ id) (after : ∀ new ∈ worker, new.copy.id ≠ id) :
    Effect refunds Good id s action ⟨tasks, charges, Function.update s.workers i worker⟩ := by
  refine .framed action _ row sameCharges ?_
  intro other rival isCopy
  by_cases same : other = i
  · subst same
    simp only [Function.update_self]
    constructor
    · intro holds
      exact absurd isCopy (after rival holds)
    · intro holds
      exact absurd isCopy (past rival holds)
  · simp only [Function.update_of_ne same]

theorem read_effect (i : ℕ) (base : Origin) (rowId : ℤ) (selects : Model.Task → Bool)
    (live : ∀ row, selects row = true → base ≠ .fetch → row.status.terminal = false) :
    Effect refunds Good id s action (s.read i base rowId selects) := by
  unfold TaskSystem.read
  split
  next row free found =>
    split
    next chosen =>
      by_cases same : rowId = id
      · subst same
        exact .took action i base row free found (live row chosen)
      · have key : row.id = rowId := Table.key_of_find? found
        refine Effect.foreign rfl rfl (by simp [free]) ?_
        intro _ isNew
        rw [← Option.mem_some.mp isNew]
        exact fun isCopy => same (key.symm.trans isCopy)
    next => exact .refl
  next => exact .refl

theorem proceed_effect {i : ℕ} {base : Origin} {takes : Model.Task → Bool}
    {work : Model.Task → Table Model.Task → Table Model.Task × Option Worker}
    (frame : ∀ copy, Framed copy s.tasks (work copy s.tasks))
    (out : ∀ copy ∈ s.held base i, copy.id = id →
      Outcome refunds Good copy s.tasks (work copy s.tasks)) :
    Effect refunds Good id s action (s.proceed base i takes work) := by
  unfold TaskSystem.proceed
  split
  next => exact .refl
  next copy held =>
    have isWorker := held_eq_some.mp held
    split
    next =>
      by_cases isCopy : copy.id = id
      · exact .worked action i base copy _ isWorker isCopy (out copy held isCopy)
      · refine Effect.foreign ((frame copy).rows id (Ne.symm isCopy)) rfl ?_ ?_
        · simp [isWorker, isCopy]
        · intro new isNew
          rw [(frame copy).key new isNew]
          exact isCopy
    next => exact .refl

theorem bulk_effect {driver : Driver} {failReason : Option String} {ids : List ℤ}
    (isBulk : ids = bulkIds s action) :
    Effect refunds Good id s action
      { s with tasks := taskBulkUpdateById driver ids failReason s.tasks } := by
  cases works : driver.fails with
  | true => exact .framed action _ (by simp [taskBulkUpdateById, works]) rfl fun _ _ _ => Iff.rfl
  | false =>
    by_cases chosen : id ∈ ids
    · exact .failed action _ failReason (by rwa [← isBulk]) (find?_taskBulkUpdateById works chosen)
    · exact .framed action _ (find?_taskBulkUpdateById_ne chosen) rfl fun _ _ _ => Iff.rfl

/-- What a step can do to one task. -/
theorem step_effect {cfg : TaskSettings} (works : Works refunds Good cfg id s action) :
    Effect refunds Good id s action (s.step cfg action) := by
  cases action with
  | readTimedOut worker rowId _ =>
    refine read_effect worker .sweep rowId _ ?_
    intro row chosen _
    simp only [Task.timedOut, Task.unfinished, decide_eq_true_eq] at chosen
    simp [TaskStatus.terminal, chosen.1.2.1, chosen.1.2.2]
  | readUnfinished worker rowId =>
    refine read_effect worker .poll rowId _ ?_
    intro row chosen _
    simp only [Task.unfinished, decide_eq_true_eq] at chosen
    simp [TaskStatus.terminal, chosen.2.1, chosen.2.2]
  | readForFetch worker rowId => exact read_effect worker .fetch rowId _ (by simp)
  | sweep _ now _ =>
    refine proceed_effect (fun _ => sweepTimedOutTask_framed now) ?_
    intro copy held isCopy
    rcases works copy held isCopy with ⟨live, good⟩
    exact sweepTimedOutTask_outcome live good
  | suno _ item _ =>
    refine proceed_effect (fun _ => updateSunoTask_framed item) ?_
    intro copy held isCopy
    rcases works copy held isCopy with ⟨live, same, good⟩
    exact updateSunoTask_outcome live same good
  | video _ now reply adjusted _ =>
    refine proceed_effect (fun _ => updateVideoSingleTask_framed now reply adjusted) ?_
    intro copy held isCopy
    rcases works copy held isCopy with ⟨live, good⟩
    exact updateVideoSingleTask_outcome live good
  | fetch _ info _ =>
    refine proceed_effect (fun _ => tryRealtimeFetch_framed info) ?_
    intro copy held isCopy
    exact tryRealtimeFetch_outcome (works copy held isCopy)
  | failNull _ _ | failChannel _ _ _ _ => exact bulk_effect rfl
  | adjustToken worker found =>
    simp only [TaskSystem.step]
    split
    next base copy goal due =>
      by_cases isCopy : copy.id = id
      · exact .adjusted worker found base copy goal due isCopy
      · refine Effect.foreign rfl ?_ ?_ ?_
        · unfold TaskSystem.adjustTokenQuota chargesOf
          split
          · rfl
          · simp [isCopy]
        · simp [due, isCopy]
        · simp [isCopy]
    next => exact .refl
  | recordQuota worker driver =>
    simp only [TaskSystem.step]
    split
    next base copy due =>
      by_cases isCopy : copy.id = id
      · exact .recorded worker driver base copy due isCopy
      · refine Effect.foreign (find?_updateQuota_ne (Ne.symm isCopy)) rfl ?_ ?_
        · simp [due, isCopy]
        · intro _ isNew
          split at isNew
          next =>
            rw [← Option.mem_some.mp isNew]
            exact isCopy
          next => simp at isNew
    next => exact .refl

end Steps

/-! ## Runs of one task -/

/-- A task that has just been stored, as `InitTask` builds it. -/
structure Inserted (task : Model.Task) (s : TaskSystem) : Prop where
  stored : s.tasks.find? task.id = some task
  notStarted : task.status = .notStart
  progress : task.progress = "0%"
  unread : ∀ i worker, s.workers i = some worker → worker.copy.id ≠ task.id

/-- No worker has billing left to do for the task. -/
def Quiet (id : ℤ) (s : TaskSystem) : Prop :=
  ∀ i worker, s.workers i = some worker → worker.copy.id = id → worker.todo = .idle

theorem quiet_of_two {s : TaskSystem} {id : ℤ} (first : (s.workers 0).all (·.todo = .idle) = true)
    (two : (s.workers 1).all (·.todo = .idle) = true)
    (free : ∀ i, s.workers (i + 2) = none) : Quiet id s := by
  intro i worker holds _
  match i with
  | 0 => simpa [holds] using first
  | 1 => simpa [holds] using two
  | i + 2 => simp [free] at holds

/-! ## A video task -/

def sampleTaskSettings : TaskSettings where
  taskTimeoutMinutes := 60
  serverAddress := "http://localhost"
  modelRatio _ := (1, true)
  groupRatio _ := 1
  groupGroupRatio _ _ := none
  userGroup _ := none

def sampleTask : Model.Task where
  id := 1
  taskId := "task_1"
  platform := .other "24"
  userId := 3
  group := "default"
  channelId := 5
  quota := 100
  status := .notStart
  failReason := ""
  submitTime := 1800000000
  startTime := 0
  finishTime := 0
  progress := "0%"
  originModelName := "veo"
  privateData := ⟨"operation", "", 7, none⟩
  data := []

def sampleSystem : TaskSystem where
  tasks := ⟨[sampleTask], by simp⟩
  charges := []
  workers _ := none

theorem sampleTask_inserted : Inserted sampleTask sampleSystem where
  stored := by decide
  notStarted := rfl
  progress := rfl
  unread := by simp [sampleSystem]

end NewApi.Task
