import NewApi.Library.Transition
import NewApi.Task.Outcome

/-!
# Ended tasks stay ended, live tasks stay selectable

A conditional write of a whole row needs a copy with the status of the row, so copies of live rows
cannot touch an ended one.
-/

namespace NewApi.Task

open Relational NewApi.Model NewApi.Service

/-- The steps that respect the status of a row: no copy of a pass is gone through again once it
has ended, a realtime fetch does not change an ended task, a bulk update fails live tasks only,
and no upstream calls a live task finished. -/
def Respects (cfg : TaskSettings) (id : ℤ) (s : TaskSystem) : TaskAction → Prop
  | .suno worker _ _ => ∀ copy ∈ s.held .poll worker, copy.id = id →
      copy.status.terminal = false
  | .video worker now reply _ _ => ∀ copy ∈ s.held .poll worker, copy.id = id →
      copy.status.terminal = false ∧
        ((applyVideo cfg now reply copy).billing ≠ none →
          (applyVideo cfg now reply copy).task.status.terminal = false →
          reply.info.progress ≠ progressComplete)
  | .fetch worker info _ => ∀ copy ∈ s.held .fetch worker, copy.id = id →
      copy.snapshot ≠ (applyRealtime cfg info copy).snapshot →
        copy.status.terminal = false ∧
          ((applyRealtime cfg info copy).status.terminal = false →
            info.progress ≠ progressComplete)
  | .failNull workers driver => id ∈ bulkIds s (.failNull workers driver) →
      ∀ row ∈ s.tasks.find? id, row.status.terminal = false
  | .failChannel workers platform channelId driver =>
    id ∈ bulkIds s (.failChannel workers platform channelId driver) →
      ∀ row ∈ s.tasks.find? id, row.status.terminal = false
  | _ => True

def Selectable (task : Model.Task) : Prop :=
  task.status.terminal = false → task.progress ≠ progressComplete

/-- A stored task that the polling can select, and the copies that its workers hold. -/
structure Watched (id : ℤ) (row : Model.Task) (s : TaskSystem) : Prop where
  stored : s.tasks.find? id = some row
  selectable : Selectable row
  copies : ∀ i worker, s.workers i = some worker → worker.copy.id = id →
    worker.todo = .idle → Selectable worker.copy ∧
      (worker.origin = .sweep → worker.copy.status.terminal = false)
  busy : ∀ i worker, s.workers i = some worker → worker.copy.id = id →
    worker.todo ≠ .idle → row.status.terminal = true ∧ worker.copy.status.terminal = true ∧
      ∀ other rival, s.workers other = some rival →
        rival.copy.id = id → rival.todo ≠ .idle → other = i

/-- What may become of a row: an ended one keeps everything but the quota, which only somebody
busy with it changes, and nobody starts to be busy with it. -/
structure Ends (id : ℤ) (row newRow : Model.Task) (s next : TaskSystem) : Prop where
  kept : row.status.terminal = true → newRow = { row with quota := newRow.quota }
  quiet : row.status.terminal = true → Quiet id s → newRow = row ∧ Quiet id next
  recorded : row.status.terminal = true → newRow = row ∨ Quiet id next

/-! ## What the upstream says -/

section Answers

variable {cfg : TaskSettings} {copy : Model.Task}

theorem applySuno_selectable {item : SunoDataResponse}
    (selectable : copy.progress ≠ progressComplete) :
    Selectable (applySuno item copy) := by
  intro running
  simp only [applySuno] at running ⊢
  rw [if_neg]
  · exact selectable
  · rintro (failed | succeeded)
    · rw [(sunoStatus_failure_iff item copy).mp failed] at running
      simp [TaskStatus.terminal] at running
    · have ended : (sunoStatus item copy).1.terminal = true := by
        by_cases reason : item.failReason = ""
        · simp [sunoStatus, succeeded, reason, TaskStatus.terminal]
        · simp [sunoStatus, succeeded, reason, TaskStatus.terminal]
      simp [ended] at running

theorem applyRealtime_selectable {info : TaskInfo} (selectable : copy.progress ≠ progressComplete)
    (honest : (applyRealtime cfg info copy).status.terminal = false →
      info.progress ≠ progressComplete) : Selectable (applyRealtime cfg info copy) := by
  intro running
  have unfinished := honest running
  simp only [applyRealtime]
  split
  · exact unfinished
  · exact selectable

theorem applyVideoStatus_progress {now : ℤ} {info : TaskInfo} {task updated : Model.Task}
    (applied : applyVideoStatus cfg now info task = some updated)
    (running : info.status.terminal = false) : updated.progress ≠ progressComplete := by
  simp only [applyVideoStatus] at applied
  split at applied
  case h_1 => simp [← Option.some.inj applied, progressSubmitted, progressComplete]
  case h_2 => simp [← Option.some.inj applied, progressQueued, progressComplete]
  case h_3 => simp [← Option.some.inj applied, progressInProgress, progressComplete]
  case h_4 succeeded => simp [succeeded, TaskStatus.terminal] at running
  case h_5 failed => simp [failed, TaskStatus.terminal] at running
  case h_6 => simp at applied

theorem videoResult_running {reply : VideoReply} {info : TaskInfo}
    (result : videoResult reply = some info) (running : info.status.terminal = false) :
    info = reply.info := by
  simp only [videoResult] at result
  split at result
  next =>
    split at result
    next => exact (Option.some.inj result).symm
    next => simp at result
    next => simp [← Option.some.inj result, failTaskInfo, TaskStatus.terminal] at running
    next => simp [← Option.some.inj result, failTaskInfo, TaskStatus.terminal] at running
  next => exact (Option.some.inj result).symm

theorem applyVideo_selectable {now : ℤ} {reply : VideoReply}
    (selectable : copy.progress ≠ progressComplete)
    (honest : (applyVideo cfg now reply copy).billing ≠ none →
      (applyVideo cfg now reply copy).task.status.terminal = false →
      reply.info.progress ≠ progressComplete) :
    Selectable (applyVideo cfg now reply copy).task := by
  revert honest
  simp only [applyVideo]
  split
  next => exact fun _ _ => selectable
  next info result =>
    split
    next => exact fun _ _ => selectable
    next applied =>
      intro honest running
      have status := (applyVideoStatus_status applied).1
      simp only at running status ⊢
      rw [status] at running
      have isReply := videoResult_running result running
      have notFailed : info.status ≠ .failure := by
        intro failed
        simp [failed, TaskStatus.terminal] at running
      rw [if_neg notFailed]
      have unfinished := honest (by simp) (by simpa [status] using running)
      rw [← isReply] at unfinished
      split
      · exact unfinished
      · exact applyVideoStatus_progress applied running

end Answers

/-! ## Steps -/

section Steps

variable {id : ℤ} {row : Model.Task} {s next : TaskSystem} {cfg : TaskSettings}
  {action : TaskAction}

theorem Watched.works (watched : Watched id row s) (allowed : Respects cfg id s action) :
    Works False Selectable cfg id s action := by
  have copied : ∀ {base i copy}, copy ∈ s.held base i → copy.id = id →
      Selectable copy ∧ (base = .sweep → copy.status.terminal = false) := by
    intro _ i _ held isCopy
    exact watched.copies i _ (held_eq_some.mp held) isCopy rfl
  cases action with
  | sweep _ _ _ =>
    intro _ held isCopy
    refine ⟨(copied held isCopy).2 rfl, ?_⟩
    simp [Selectable, timeOut, TaskStatus.terminal]
  | suno _ _ _ =>
    intro copy held isCopy
    have running := allowed copy held isCopy
    exact ⟨running, (copied held isCopy).1, applySuno_selectable ((copied held isCopy).1 running)⟩
  | video _ _ _ _ _ =>
    intro copy held isCopy
    rcases allowed copy held isCopy with ⟨running, honest⟩
    exact ⟨running, applyVideo_selectable ((copied held isCopy).1 running) honest⟩
  | fetch _ _ _ =>
    intro copy held isCopy moved
    rcases allowed copy held isCopy moved with ⟨running, honest⟩
    exact ⟨running, False.elim, applyRealtime_selectable ((copied held isCopy).1 running) honest⟩
  | _ => trivial

theorem Watched.quiet_of_live (watched : Watched id row s)
    (running : row.status.terminal = false) : Quiet id s := by
  intro i worker holds isCopy
  by_contra busy
  have ended := (watched.busy i worker holds isCopy busy).1
  simp [running] at ended

theorem Watched.replaced {i : ℕ} {worker : Option Worker} (watched : Watched id row s)
    (before : ∀ old ∈ s.workers i, old.todo = .idle)
    (after : ∀ new ∈ worker, new.todo = .idle ∧ Selectable new.copy ∧
      (new.origin = .sweep → new.copy.status.terminal = false)) :
    Watched id row { s with workers := Function.update s.workers i worker } ∧
      (Quiet id s →
        Quiet id { s with workers := Function.update s.workers i worker }) := by
  have old : ∀ other rival, rival.todo ≠ .idle →
      Function.update s.workers i worker other = some rival →
      s.workers other = some rival := by
    intro other rival busy holds
    by_cases same : other = i
    · subst same
      rw [Function.update_self] at holds
      exact absurd (after rival holds).1 busy
    · rwa [Function.update_of_ne same] at holds
  refine ⟨⟨watched.stored, watched.selectable, ?_, ?_⟩, ?_⟩
  · intro other rival holds isCopy idle
    rcases update_cases holds with ⟨rfl, here⟩ | ⟨same, holds⟩
    · exact (after rival here).2
    · exact watched.copies other rival holds isCopy idle
  · intro other rival holds isCopy busy
    rcases watched.busy other rival (old other rival busy holds) isCopy busy with
      ⟨ended, copyEnded, only⟩
    refine ⟨ended, copyEnded, ?_⟩
    intro third thirdWorker holdsThird isThird workingThird
    exact only third thirdWorker (old third thirdWorker workingThird holdsThird) isThird
      workingThird
  · intro quiet other rival holds isCopy
    by_contra busy
    exact busy (quiet other rival (old other rival busy holds) isCopy)

theorem Ends.refl (carries : Quiet id s → Quiet id next) : Ends id row row s next :=
  ⟨fun _ => rfl, fun _ quiet => ⟨rfl, carries quiet⟩, fun _ => .inl rfl⟩

theorem Ends.of_live {newRow : Model.Task} (running : row.status.terminal = false) :
    Ends id row newRow s next := by
  refine ⟨?_, ?_, ?_⟩ <;> simp [running]

variable {i : ℕ} {base : Origin} {copy : Model.Task} {reached : TaskSystem}

section

variable (watched : Watched id row s)

include watched

theorem Watched.worked {result : Table Model.Task × Option Worker}
    (held : s.workers i = some ⟨base, copy, .idle⟩) (isCopy : copy.id = id)
    (out : Outcome False Selectable copy s.tasks result) :
    ∃ newRow, Watched id newRow
        { s with
          tasks := result.1
          workers := Function.update s.workers i result.2 } ∧
      Ends id row newRow s
        { s with
          tasks := result.1
          workers := Function.update s.workers i result.2 } := by
  have wasIdle : ∀ old ∈ s.workers i, old.todo = .idle := by simp [held]
  cases out with
  | kept worker idle =>
    have replaced := @Watched.replaced id row s i worker watched wasIdle fun new isNew =>
      ⟨(idle new isNew).1, (idle new isNew).2.2.2,
        fun isSweep => absurd isSweep (idle new isNew).2.1⟩
    exact ⟨row, replaced.1, Ends.refl replaced.2⟩
  | written _ written worker _ found current sameId good bills unswept =>
    rw [isCopy, watched.stored] at found
    simp only [Option.some.injEq] at found
    subst found
    rw [isCopy] at sameId
    have running : row.status.terminal = false := by rwa [current]
    have quiet := watched.quiet_of_live running
    have stored : (s.tasks.modify copy.id (overwrite written)).find? id = some written := by
      rw [isCopy, ← sameId]
      exact find?_overwrite (by rw [sameId]; exact watched.stored)
    -- whoever is busy now is the worker that wrote the row
    have busyIndex : ∀ other rival, Function.update s.workers i worker other = some rival →
        rival.copy.id = id → rival.todo ≠ .idle → other = i := by
      intro other rival holds isOther working
      by_contra apart
      rw [Function.update_of_ne apart] at holds
      exact working (quiet other rival holds isOther)
    refine ⟨written, ⟨stored, good, ?_, ?_⟩, Ends.of_live running⟩
    · intro other rival holds isOther idle
      rcases update_cases holds with ⟨rfl, here⟩ | ⟨same, holds⟩
      · rw [bills.copy rival here]
        exact ⟨good, fun isSweep => absurd isSweep (unswept rival here idle)⟩
      · exact watched.copies other rival holds isOther idle
    · intro other rival holds isOther working
      have same := busyIndex other rival holds isOther working
      subst same
      simp only [Function.update_self] at holds
      have ended : written.status.terminal = true := by
        by_contra notEnded
        rw [Bool.not_eq_true] at notEnded
        exact working (bills.live notEnded rival holds)
      refine ⟨ended, by rwa [bills.copy rival holds], busyIndex⟩

theorem Watched.adjusted {goal : ℤ} {charges : List Charge}
    (busy : s.workers i = some ⟨base, copy, .adjust goal⟩) (isCopy : copy.id = id) :
    Watched id row
        { s with
          charges := charges
          workers := Function.update s.workers i
            (some ⟨base, { copy with quota := goal }, .record⟩) } ∧
      ¬Quiet id s := by
  rcases watched.busy i _ busy isCopy (by simp) with ⟨ended, copyEnded, only⟩
  refine ⟨⟨watched.stored, watched.selectable, ?_, ?_⟩, ?_⟩
  · intro other rival holds isOther idle
    by_cases same : other = i
    · subst same
      simp only [Function.update_self, Option.some.injEq] at holds
      rw [← holds] at idle
      simp at idle
    · simp only [Function.update_of_ne same] at holds
      exact watched.copies other rival holds isOther idle
  · have isIndex : ∀ other rival, Function.update s.workers i
        (some ⟨base, { copy with quota := goal }, .record⟩) other = some rival →
        rival.copy.id = id → rival.todo ≠ .idle → other = i := by
      intro other rival holds isOther working
      by_contra apart
      rw [Function.update_of_ne apart] at holds
      exact apart (only other rival holds isOther working)
    intro other rival holds isOther working
    have same := isIndex other rival holds isOther working
    subst same
    simp only [Function.update_self, Option.some.injEq] at holds
    subst holds
    exact ⟨ended, copyEnded, isIndex⟩
  · intro quiet
    have idle := quiet i _ busy isCopy
    simp at idle

theorem Watched.recorded {driver : Driver}
    (busy : s.workers i = some ⟨base, copy, .record⟩) (isCopy : copy.id = id) :
    ∃ newRow, Watched id newRow
        { s with
          tasks := updateQuota driver copy s.tasks
          workers := Function.update s.workers i
            (if base = .poll then some ⟨base, copy, .idle⟩ else none) } ∧
      Ends id row newRow s
        { s with
          tasks := updateQuota driver copy s.tasks
          workers := Function.update s.workers i
            (if base = .poll then some ⟨base, copy, .idle⟩ else none) } := by
  rcases watched.busy i _ busy isCopy (by simp) with ⟨_, copyEnded, only⟩
  simp only at copyEnded
  have left : ∀ new ∈ (if base = .poll then some (⟨base, copy, .idle⟩ : Worker) else none),
      new = ⟨.poll, copy, .idle⟩ := by
    intro _ isNew
    split at isNew
    next isPoll => rw [← Option.mem_some.mp isNew, isPoll]
    next => simp at isNew
  have quiet : Quiet id
      { s with
        tasks := updateQuota driver copy s.tasks
        workers := Function.update s.workers i
          (if base = .poll then some ⟨base, copy, .idle⟩ else none) } := by
    intro other rival holds isOther
    rcases update_cases holds with ⟨rfl, here⟩ | ⟨same, holds⟩
    · rw [left rival here]
    · by_contra working
      exact same (only other rival holds isOther working)
  obtain ⟨quota, stored⟩ : ∃ quota, (updateQuota driver copy s.tasks).find? id =
      some { row with quota := quota } := by
    unfold updateQuota
    split
    next => exact ⟨row.quota, watched.stored⟩
    next =>
      refine ⟨copy.quota, ?_⟩
      rw [isCopy, Table.find?_modify_self, watched.stored]
      rfl
  refine ⟨_, ⟨stored, watched.selectable, ?_, ?_⟩, ⟨fun _ => rfl, ?_, fun _ => .inr quiet⟩⟩
  · intro other rival holds isOther idle
    rcases update_cases holds with ⟨rfl, here⟩ | ⟨same, holds⟩
    · rw [left rival here]
      exact ⟨by simp [Selectable, copyEnded], by simp⟩
    · exact watched.copies other rival holds isOther idle
  · intro other rival holds isOther working
    exact absurd (quiet other rival holds isOther) working
  · intro _ wasQuiet
    have idle := wasQuiet i _ busy isCopy
    simp at idle

/-- A step keeps a watched task watched, or ends it. -/
theorem Watched.step (allowed : Respects cfg id s action) :
    ∃ newRow, Watched id newRow (s.step cfg action) ∧ Ends id row newRow s (s.step cfg action) := by
  have effect := step_effect (watched.works allowed)
  generalize s.step cfg action = next at effect
  cases effect with
  | framed _ _ sameRow _ workers =>
    refine ⟨row, ⟨sameRow.trans watched.stored, watched.selectable, ?_, ?_⟩, Ends.refl ?_⟩
    · intro i worker holds isCopy
      exact watched.copies i worker ((workers i worker isCopy).mp holds) isCopy
    · intro i worker holds isCopy busy
      rcases watched.busy i worker ((workers i worker isCopy).mp holds) isCopy busy with
        ⟨ended, copyEnded, only⟩
      refine ⟨ended, copyEnded, ?_⟩
      intro other rival holdsOther isOther
      exact only other rival ((workers other rival isOther).mp holdsOther) isOther
    · intro quiet i worker holds isCopy
      exact quiet i worker ((workers i worker isCopy).mp holds) isCopy
  | took _ i base _ free found live =>
    rw [watched.stored] at found
    simp only [Option.some.injEq] at found
    subst found
    have replaced := @Watched.replaced id row s i (some ⟨base, row, .idle⟩) watched
      (by simp [free]) (by
        intro _ isNew
        rw [← Option.mem_some.mp isNew]
        refine ⟨rfl, watched.selectable, ?_⟩
        intro isSweep
        simp only at isSweep
        exact live (by simp [isSweep]))
    exact ⟨row, replaced.1, Ends.refl replaced.2⟩
  | worked _ _ _ _ _ held isCopy out =>
    exact watched.worked held isCopy out
  | failed _ _ _ chosen newRow =>
    have running : row.status.terminal = false := by
      cases action with
      | failNull _ _ => exact allowed chosen row watched.stored
      | failChannel _ _ _ _ =>
        exact allowed chosen row watched.stored
      | _ => simp [bulkIds] at chosen
    have quiet := watched.quiet_of_live running
    rw [watched.stored] at newRow
    refine ⟨_, ⟨newRow, ?_, watched.copies, ?_⟩, Ends.of_live running⟩
    · simp [Selectable, failInBulk, TaskStatus.terminal]
    · intro i worker holds isCopy busy
      exact absurd (quiet i worker holds isCopy) busy
  | adjusted _ _ _ _ _ due isCopy =>
    rcases watched.adjusted due isCopy with ⟨adjusted, notQuiet⟩
    exact ⟨row, adjusted, Ends.refl fun quiet => absurd quiet notQuiet⟩
  | recorded _ _ _ _ due isCopy => exact watched.recorded due isCopy

end

/-! ## Runs -/

variable {task : Model.Task}

theorem Inserted.watched (inserted : Inserted task s) : Watched task.id task s := by
  refine ⟨inserted.stored, ?_, ?_, ?_⟩
  · intro _
    simp [inserted.progress, progressComplete]
  · intro i worker holds isCopy
    exact absurd isCopy (inserted.unread i worker holds)
  · intro i worker holds isCopy
    exact absurd isCopy (inserted.unread i worker holds)

theorem Watched.run (watched : Watched id row s)
    (run : Transition.Reachable (TaskSystem.step cfg) (Respects cfg id) s reached) :
    ∃ newRow, Watched id newRow reached :=
  run.invariant (fun state => ∃ row, Watched id row state)
    (fun _ _ allowed ⟨_, watched⟩ => ⟨_, (watched.step allowed).choose_spec.1⟩) ⟨row, watched⟩

theorem Watched.frozen (watched : Watched id row s)
    (ended : row.status.terminal = true) (quiet : Quiet id s)
    (run : Transition.Reachable (TaskSystem.step cfg) (Respects cfg id) s reached) :
    Watched id row reached ∧ Quiet id reached := by
  refine run.invariant (fun state => Watched id row state ∧ Quiet id state) ?_ ⟨watched, quiet⟩
  intro state action allowed ⟨watched, quiet⟩
  rcases watched.step allowed with ⟨_, watchedNext, ends⟩
  rcases ends.quiet ended quiet with ⟨rfl, quietNext⟩
  exact ⟨watchedNext, quietNext⟩

theorem Watched.ended (watched : Watched id row s) (ended : row.status.terminal = true)
    (run : Transition.Reachable (TaskSystem.step cfg) (Respects cfg id) s reached) :
    ∃ quota, Watched id { row with quota := quota } reached ∧
      (({ row with quota := quota } : Model.Task) = row ∨ Quiet id reached) := by
  refine run.invariant (fun state => ∃ quota, Watched id { row with quota := quota } state ∧
    (({ row with quota := quota } : Model.Task) = row ∨ Quiet id state)) ?_
    ⟨row.quota, watched, .inl rfl⟩
  rintro _ _ allowed ⟨quota, watched, unchanged | quiet⟩
  · rw [unchanged] at watched
    rcases watched.step allowed with ⟨newRow, watchedNext, ends⟩
    have kept := ends.kept ended
    rw [kept] at watchedNext
    refine ⟨newRow.quota, watchedNext, ?_⟩
    rw [← kept]
    exact ends.recorded ended
  · rcases watched.step allowed with ⟨_, watchedNext, ends⟩
    rcases ends.quiet ended quiet with ⟨rfl, quietNext⟩
    exact ⟨quota, watchedNext, .inr quietNext⟩

/-- A live task is selected by the queries of the pollers; an ended one keeps its status and its
result for good, and its quota from the one time on that it is recorded. -/
theorem ended_task_final {reached : TaskSystem} (inserted : Inserted task s)
    (run : Transition.Reachable (TaskSystem.step cfg) (Respects cfg task.id) s reached) :
    ∃ row, reached.tasks.find? task.id = some row ∧
      (row.status.terminal = false → row.unfinished = true) ∧
      (row.status.terminal = true → ∀ later,
        Transition.Reachable (TaskSystem.step cfg) (Respects cfg task.id) reached later →
        ∃ quota, later.tasks.find? task.id = some { row with quota := quota } ∧
          (quota ≠ row.quota → ∀ last,
            Transition.Reachable (TaskSystem.step cfg) (Respects cfg task.id) later last →
            last.tasks.find? task.id = some { row with quota := quota })) := by
  rcases inserted.watched.run run with ⟨row, watched⟩
  refine ⟨row, watched.stored, ?_, ?_⟩
  · intro running
    have notEnded : row.status ≠ .success ∧ row.status ≠ .failure := by
      simpa [TaskStatus.terminal] using running
    simp [Task.unfinished, watched.selectable running, notEnded]
  · intro ended later laterRun
    rcases watched.ended ended laterRun with ⟨quota, laterWatched, settled⟩
    refine ⟨quota, laterWatched.stored, ?_⟩
    intro changed _ lastRun
    have quiet : Quiet task.id later := by
      rcases settled with unchanged | quiet
      · exact absurd (congrArg Task.quota unchanged) changed
      · exact quiet
    exact (laterWatched.frozen ended quiet lastRun).1.stored

end Steps

instance Respects.decidable (cfg : TaskSettings) (id : ℤ) (s : TaskSystem) :
    (action : TaskAction) → Decidable (Respects cfg id s action)
  | .suno worker _ _ => inferInstanceAs (Decidable (∀ copy ∈ s.held .poll worker, _))
  | .video worker _ _ _ _ => inferInstanceAs (Decidable (∀ copy ∈ s.held .poll worker, _))
  | .fetch worker _ _ => inferInstanceAs (Decidable (∀ copy ∈ s.held .fetch worker, _))
  | .failNull _ _ | .failChannel _ _ _ _ =>
    inferInstanceAs (Decidable (_ → ∀ row ∈ s.tasks.find? id, _))
  | .sweep _ _ _ | .adjustToken _ _ | .recordQuota _ _ | .readTimedOut _ _ _ | .readUnfinished _ _
  | .readForFetch _ _ => inferInstanceAs (Decidable True)

def sampleSettlement : List TaskAction :=
  [.readUnfinished 0 1, .readTimedOut 1 1 1900000000,
    .video 0 1900000001 ⟨{ status := .success }, [], .undecodable⟩ 40 {}]

def sampleRecording : List TaskAction :=
  [.adjustToken 0 true, .sweep 1 1900000002 {}, .recordQuota 0 {}]

/-- The sweep comes too late, and the row is that of the pass with the corrected quota. -/
theorem ended_task_final_sample :
    let ended := sampleSettlement.foldl (TaskSystem.step sampleTaskSettings) sampleSystem
    let later := sampleRecording.foldl (TaskSystem.step sampleTaskSettings) ended
    ∃ row quota, ended.tasks.find? 1 = some row ∧ row.status = .success ∧
      later.tasks.find? 1 = some { row with quota := quota } := by
  intro ended later
  have allowed : Transition.RunAllowed (TaskSystem.step sampleTaskSettings)
      (Respects sampleTaskSettings sampleTask.id) sampleSystem sampleSettlement := by
    decide
  have allowedLater : Transition.RunAllowed (TaskSystem.step sampleTaskSettings)
      (Respects sampleTaskSettings sampleTask.id) ended sampleRecording := by
    decide
  have succeeded : (ended.tasks.find? 1).map (·.status) = some .success := by
    decide
  rcases ended_task_final sampleTask_inserted (Transition.Reachable.of_run _ _ allowed) with
    ⟨row, stored, _, final⟩
  have stored : ended.tasks.find? 1 = some row := stored
  have isSuccess : row.status = .success := by simpa [stored] using succeeded
  rcases final (by simp [isSuccess, TaskStatus.terminal]) later
    (Transition.Reachable.of_run _ _ allowedLater) with ⟨quota, storedLater, _⟩
  exact ⟨row, quota, stored, isSuccess, storedLater⟩

def sampleStaleRun : List TaskAction :=
  [.readUnfinished 0 1, .video 0 1900000001 ⟨{ status := .success }, [], .undecodable⟩ 40 {},
    .readForFetch 1 1, .adjustToken 0 true, .recordQuota 0 {},
    .fetch 1 { status := .inProgress, url := "https://cdn/result" } {}]

def sampleOrphanRun : List TaskAction :=
  [.readUnfinished 0 1,
    .video 0 1900000001 ⟨{ status := .inProgress, progress := "100%" }, [], .undecodable⟩ 0 {}]

/-- An ended task is live again with its old quota, and a live one is selected by no query. -/
theorem ended_task_reopened : Inserted sampleTask sampleSystem ∧
    ((((sampleStaleRun.take 5).foldl (TaskSystem.step sampleTaskSettings) sampleSystem).tasks.find?
        1).map fun row => (row.status, row.quota)) = some (.success, 40) ∧
    (((sampleStaleRun.foldl (TaskSystem.step sampleTaskSettings) sampleSystem).tasks.find?
        1).map fun row => (row.status, row.quota)) = some (.inProgress, 100) ∧
    (((sampleOrphanRun.foldl (TaskSystem.step sampleTaskSettings) sampleSystem).tasks.find?
        1).map fun row => (row.status, row.unfinished)) = some (.inProgress, false) := by
  refine ⟨sampleTask_inserted, ?_, ?_, ?_⟩ <;> decide

end NewApi.Task
