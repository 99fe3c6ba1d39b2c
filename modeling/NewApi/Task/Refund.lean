import NewApi.Library.Transition
import NewApi.Task.Outcome

/-!
# Refunds of failed tasks

A task that fails has its quota returned by the worker that wrote the failure. In every run in
which no writer goes around the billing, a failed task has been refunded once, and a successful
one has cost what its row records, as soon as nobody is busy with it.
-/

namespace NewApi.Task

open Relational NewApi.Model NewApi.Service

/-- A task that was stored and charged. -/
structure Submitted (task : Model.Task) (s : TaskSystem) : Prop extends
    Inserted task s where
  charged : 0 < task.quota
  token : 0 < task.privateData.tokenId
  uncharged : chargesOf task.id s = []

/-- The steps that keep the billing of a task: the sweep finds no legacy task, no copy of a pass
is gone through again once it has ended, a realtime fetch neither fails a task nor changes an
ended one, no bulk update fails it, and the statements of the billing succeed. -/
def Billed (cfg : TaskSettings) (id : ℤ) (s : TaskSystem) : TaskAction → Prop
  | .sweep worker _ _ => ∀ copy ∈ s.held .sweep worker, copy.id = id → copy.isLegacy = false
  | .suno worker _ _ => ∀ copy ∈ s.held .poll worker, copy.id = id →
      copy.status.terminal = false
  | .video worker _ _ _ _ => ∀ copy ∈ s.held .poll worker, copy.id = id →
      copy.status.terminal = false
  | .fetch worker info _ => ∀ copy ∈ s.held .fetch worker, copy.id = id →
      copy.snapshot ≠ (applyRealtime cfg info copy).snapshot →
        copy.status.terminal = false ∧ (applyRealtime cfg info copy).status ≠ .failure
  | .failNull workers driver => id ∉ bulkIds s (.failNull workers driver)
  | .failChannel workers platform channelId driver =>
    id ∉ bulkIds s (.failChannel workers platform channelId driver)
  | .adjustToken worker found => ∀ busy ∈ s.workers worker, busy.copy.id = id → found = true
  | .recordQuota worker driver => ∀ busy ∈ s.workers worker, busy.copy.id = id →
      driver.fails = false
  | _ => True

def netCharge (task : Model.Task) (s : TaskSystem) : ℤ :=
  task.quota + ((chargesOf task.id s).map (·.amount)).sum

def refundOf (task : Model.Task) : Charge :=
  ⟨task.id, task.privateData.tokenId, -task.quota⟩

/-! ## The invariant -/

/-- What was charged and refunded is right for the state of the row. -/
inductive Settled (task row : Model.Task) (s : TaskSystem) : Prop where
  | live (running : row.status.terminal = false) (quota : row.quota = task.quota)
      (uncharged : chargesOf task.id s = [])
  | failed (failed : row.status = .failure) (refunded : chargesOf task.id s = [refundOf task])
  | succeeded (succeeded : row.status = .success) (net : netCharge task s = row.quota)

/-- The billing that a worker has left to do is right for the state of the row. -/
inductive Due (task row : Model.Task) (s : TaskSystem) (copy : Model.Task) : Todo → Prop where
  | refund (failed : row.status = .failure) (quota : copy.quota = task.quota)
      (uncharged : chargesOf task.id s = []) : Due task row s copy (.adjust 0)
  | settle (goal : ℤ) (succeeded : row.status = .success) (quota : copy.quota = task.quota)
      (uncharged : chargesOf task.id s = []) : Due task row s copy (.adjust goal)
  | refunded (failed : row.status = .failure)
      (refunded : chargesOf task.id s = [refundOf task]) : Due task row s copy .record
  | charged (succeeded : row.status = .success) (net : netCharge task s = copy.quota) :
      Due task row s copy .record

/-- The billing of a task is settled, or one worker has it left to do. -/
inductive Billing (task row : Model.Task) (s : TaskSystem) : Prop where
  | settled (quiet : Quiet task.id s) (settled : Settled task row s)
  | due (i : ℕ) (worker : Worker) (busy : s.workers i = some worker)
      (isCopy : worker.copy.id = task.id) (ended : worker.copy.status.terminal = true)
      (due : Due task row s worker.copy worker.todo)
      (only : ∀ other rival, s.workers other = some rival →
        rival.copy.id = task.id → rival.todo ≠ .idle → other = i)

/-- A copy has the token of its task, and its quota until the task ends. -/
structure Copied (task : Model.Task) (worker : Worker) : Prop where
  token : worker.copy.privateData.tokenId = task.privateData.tokenId
  quota : worker.todo = .idle → worker.copy.status.terminal = false →
    worker.copy.quota = task.quota
  swept : worker.todo = .idle → worker.origin = .sweep → worker.copy.status.terminal = false

/-- The row and the copies are those of the task, and its billing is right. -/
structure Accounted (task row : Model.Task) (s : TaskSystem) : Prop where
  stored : s.tasks.find? task.id = some row
  token : row.privateData.tokenId = task.privateData.tokenId
  copies : ∀ i worker, s.workers i = some worker → worker.copy.id = task.id →
    Copied task worker
  billing : Billing task row s

section Invariant

variable {task row : Model.Task} {s next : TaskSystem}

variable {copy : Model.Task} {i : ℕ} {base : Origin}

theorem Due.terminal {todo : Todo} (due : Due task row s copy todo) :
    row.status.terminal = true ∧ todo ≠ .idle := by
  cases due with
  | refund failed => simp [failed, TaskStatus.terminal]
  | settle _ succeeded => simp [succeeded, TaskStatus.terminal]
  | refunded failed => simp [failed, TaskStatus.terminal]
  | charged succeeded => simp [succeeded, TaskStatus.terminal]

theorem Settled.congr (settled : Settled task row s)
    (charges : chargesOf task.id next = chargesOf task.id s) : Settled task row next := by
  cases settled with
  | live running quota free => exact .live running quota (charges.trans free)
  | failed failed refunded => exact .failed failed (charges.trans refunded)
  | succeeded succeeded net =>
    refine .succeeded succeeded ?_
    rw [netCharge, charges]
    exact net

theorem Due.congr {todo : Todo} (due : Due task row s copy todo)
    (charges : chargesOf task.id next = chargesOf task.id s) :
    Due task row next copy todo := by
  cases due with
  | refund failed quota free => exact .refund failed quota (charges.trans free)
  | settle goal succeeded quota free =>
    exact .settle goal succeeded quota (charges.trans free)
  | refunded failed refunded => exact .refunded failed (charges.trans refunded)
  | charged succeeded net =>
    refine .charged succeeded ?_
    rw [netCharge, charges]
    exact net

section

variable (accounted : Accounted task row s)

include accounted

theorem Accounted.of_live (running : row.status.terminal = false) :
    Quiet task.id s ∧ row.quota = task.quota ∧ chargesOf task.id s = [] := by
  cases accounted.billing with
  | due _ _ _ _ _ due => simp [due.terminal.1] at running
  | settled quiet settled =>
    cases settled with
    | live _ quota free => exact ⟨quiet, quota, free⟩
    | failed failed => simp [failed, TaskStatus.terminal] at running
    | succeeded succeeded => simp [succeeded, TaskStatus.terminal] at running

theorem Accounted.framed (sameRow : next.tasks.find? task.id = s.tasks.find? task.id)
    (charges : chargesOf task.id next = chargesOf task.id s)
    (workers : ∀ i worker, worker.copy.id = task.id →
      (next.workers i = some worker ↔ s.workers i = some worker)) :
    Accounted task row next := by
  refine ⟨sameRow.trans accounted.stored, accounted.token, ?_, ?_⟩
  · intro i worker holds isCopy
    exact accounted.copies i worker ((workers i worker isCopy).mp holds) isCopy
  · cases accounted.billing with
    | settled quiet settled =>
      refine .settled ?_ (settled.congr charges)
      intro i worker holds isCopy
      exact quiet i worker ((workers i worker isCopy).mp holds) isCopy
    | due i worker busy isCopy ended due only =>
      refine .due i worker ((workers i worker isCopy).mpr busy) isCopy ended (due.congr charges) ?_
      intro other rival holds isOther
      exact only other rival ((workers other rival isOther).mp holds) isOther

theorem Accounted.replaced {i : ℕ} {worker : Option Worker}
    (past : ∀ old ∈ s.workers i, old.todo = .idle)
    (after : ∀ new ∈ worker, new.todo = .idle ∧ Copied task new) :
    Accounted task row { s with workers := Function.update s.workers i worker } := by
  refine ⟨accounted.stored, accounted.token, ?_, ?_⟩
  · intro other rival holds isCopy
    rcases update_cases holds with ⟨rfl, here⟩ | ⟨same, holds⟩
    · exact (after rival here).2
    · exact accounted.copies other rival holds isCopy
  · cases accounted.billing with
    | settled quiet settled =>
      refine .settled ?_ (settled.congr rfl)
      intro other rival holds isCopy
      rcases update_cases holds with ⟨rfl, here⟩ | ⟨same, holds⟩
      · exact (after rival here).1
      · exact quiet other rival holds isCopy
    | due busyIndex busyWorker busy isCopy ended due only =>
      have apart : busyIndex ≠ i := by
        rintro rfl
        exact due.terminal.2 (past busyWorker busy)
      refine .due busyIndex busyWorker ?_ isCopy ended (due.congr rfl) ?_
      · simpa only [Function.update_of_ne apart] using busy
      · intro other rival holds isOther working
        rcases update_cases holds with ⟨rfl, here⟩ | ⟨same, holds⟩
        · exact absurd (after rival here).1 working
        · exact only other rival holds isOther working

theorem Accounted.busy {worker : Worker} (busy : s.workers i = some worker)
    (isCopy : worker.copy.id = task.id) (working : worker.todo ≠ .idle) :
    Due task row s worker.copy worker.todo ∧ worker.copy.status.terminal = true ∧
      ∀ other rival, s.workers other = some rival →
        rival.copy.id = task.id → rival.todo ≠ .idle → other = i := by
  cases accounted.billing with
  | settled quiet _ => exact absurd (quiet i worker busy isCopy) working
  | due _ _ isBusy _ ended due only =>
    have same := only i worker busy isCopy working
    subst same
    rw [busy] at isBusy
    simp only [Option.some.injEq] at isBusy
    subst isBusy
    exact ⟨due, ended, only⟩

end

def Carries (task copy : Model.Task) : Prop :=
  copy.quota = task.quota ∧ copy.privateData.tokenId = task.privateData.tokenId

theorem Accounted.took (accounted : Accounted task row s) (free : s.workers i = none)
    (live : base ≠ .fetch → row.status.terminal = false) :
    Accounted task row
      { s with workers := Function.update s.workers i (some ⟨base, row, .idle⟩) } := by
  refine accounted.replaced (by simp [free]) ?_
  intro _ isNew
  rw [← Option.mem_some.mp isNew]
  refine ⟨rfl, accounted.token, ?_, ?_⟩
  · intro _ running
    exact (accounted.of_live running).2.1
  · intro _ isSweep
    simp only at isSweep
    exact live (by simp [isSweep])

/-- The write of a worker leaves the task accounted for. -/
theorem Accounted.worked {result : Table Model.Task × Option Worker} (pos : 0 < task.quota)
    (accounted : Accounted task row s) (held : s.workers i = some ⟨base, copy, .idle⟩)
    (isCopy : copy.id = task.id) (out : Outcome True (Carries task) copy s.tasks result) :
    ∃ row, Accounted task row
      { s with
        tasks := result.1
        workers := Function.update s.workers i result.2 } := by
  have wasIdle : ∀ old ∈ s.workers i, old.todo = .idle := by simp [held]
  cases out with
  | kept _ idle =>
    refine ⟨row, accounted.replaced wasIdle ?_⟩
    intro new isNew
    rcases idle new isNew with ⟨nothing, notSweep, _, carries⟩
    exact ⟨nothing, carries.2, fun _ _ => carries.1, fun _ isSweep => absurd isSweep notSweep⟩
  | written _ written worker _ found current sameId carries bills unswept =>
    rw [isCopy, accounted.stored] at found
    simp only [Option.some.injEq] at found
    subst found
    rw [isCopy] at sameId
    rcases accounted.of_live (by rwa [current]) with ⟨quiet, _, free⟩
    have stored : (s.tasks.modify copy.id (overwrite written)).find? task.id = some written := by
      rw [isCopy, ← sameId]
      exact find?_overwrite (by rw [sameId]; exact accounted.stored)
    refine ⟨written, stored, carries.2, ?_, ?_⟩
    · intro other rival holds isOther
      rcases update_cases holds with ⟨rfl, here⟩ | ⟨same, holds⟩
      · have copyEq := bills.copy rival here
        refine ⟨by rw [copyEq]; exact carries.2, ?_, ?_⟩
        · intro _ _
          rw [copyEq]
          exact carries.1
        · intro idle isSweep
          exact absurd isSweep (unswept rival here idle)
      · exact accounted.copies other rival holds isOther
    · have others : ∀ other rival, other ≠ i →
          Function.update s.workers i worker other = some rival →
          rival.copy.id = task.id → rival.todo = .idle := by
        intro other rival apart holds isOther
        rw [Function.update_of_ne apart] at holds
        exact quiet other rival holds isOther
      have calm : (∀ new ∈ worker, new.todo = .idle) → Quiet task.id
          { s with
            tasks := s.tasks.modify copy.id (overwrite written)
            workers := Function.update s.workers i worker } := by
        intro idle other rival holds isOther
        by_cases same : other = i
        · subst same
          simp only [Function.update_self] at holds
          exact idle rival holds
        · exact others other rival same holds isOther
      have only : ∀ other rival, Function.update s.workers i worker other = some rival →
          rival.copy.id = task.id → rival.todo ≠ .idle → other = i := by
        intro other rival holds isOther busy
        by_contra apart
        exact busy (others other rival apart holds isOther)
      cases terminal : written.status.terminal with
      | false =>
        exact .settled (calm (bills.live terminal)) (.live terminal carries.1 free)
      | true =>
        by_cases failed : written.status = .failure
        · have charged : written.quota ≠ 0 := by
            rw [carries.1]
            omega
          rcases bills.failed trivial failed charged with ⟨newOrigin, rfl⟩
          exact .due i ⟨newOrigin, written, .adjust 0⟩ (by simp) sameId terminal
            (.refund failed carries.1 free) only
        · have succeeded : written.status = .success := by
            simpa [TaskStatus.terminal, failed] using terminal
          by_cases idle : ∀ new ∈ worker, new.todo = .idle
          · refine .settled (calm idle) (.succeeded succeeded ?_)
            rw [netCharge]
            have charges : chargesOf task.id { s with
                tasks := s.tasks.modify copy.id (overwrite written)
                workers := Function.update s.workers i worker } = [] := free
            rw [charges, carries.1]
            simp
          · simp only [not_forall] at idle
            rcases idle with ⟨new, isNew, busy⟩
            rcases bills.ended terminal new isNew with nothing | ⟨goal, asks, _⟩
            · exact absurd nothing busy
            · have copyEq := bills.copy new isNew
              refine .due i new (by simpa using isNew) (by rw [copyEq]; exact sameId)
                (by rw [copyEq]; exact terminal) ?_ only
              rw [asks, copyEq]
              exact .settle goal succeeded carries.1 free

theorem Accounted.adjusted {goal : ℤ} (pos : 0 < task.quota)
    (hasToken : 0 < task.privateData.tokenId) (accounted : Accounted task row s)
    (busy : s.workers i = some ⟨base, copy, .adjust goal⟩) (isCopy : copy.id = task.id) :
    Accounted task row
      { s with
        charges := s.adjustTokenQuota true copy (goal - copy.quota)
        workers := Function.update s.workers i
          (some ⟨base, { copy with quota := goal }, .record⟩) } := by
  rcases accounted.busy busy isCopy (by simp) with ⟨due, ended, only⟩
  have token := (accounted.copies i _ busy isCopy).token
  simp only at due ended token
  refine ⟨accounted.stored, accounted.token, ?_, ?_⟩
  · intro other rival holds isOther
    by_cases same : other = i
    · subst same
      simp only [Function.update_self, Option.some.injEq] at holds
      rw [← holds]
      exact ⟨token, by simp, by simp⟩
    · simp only [Function.update_of_ne same] at holds
      exact accounted.copies other rival holds isOther
  · have chargesEq : ∀ amount : ℤ, amount ≠ 0 → chargesOf task.id s = [] →
        (s.adjustTokenQuota true copy amount).filter (·.task = task.id) =
          [⟨task.id, task.privateData.tokenId, amount⟩] := by
      intro amount nonzero free
      rw [chargesOf] at free
      have notSkipped : ¬(copy.privateData.tokenId ≤ 0 ∨ amount = 0 ∨ true = false) := by
        simp only [nonzero, Bool.true_eq_false, or_self, or_false, not_le, token]
        exact hasToken
      rw [TaskSystem.adjustTokenQuota, if_neg notSkipped]
      simp [isCopy, free, token]
    refine .due i ⟨base, { copy with quota := goal }, .record⟩ (by simp) isCopy ended ?_ ?_
    · cases due with
      | refund failed quota free =>
        refine .refunded failed ?_
        have refunds := chargesEq (0 - copy.quota) (by omega) free
        simp only [chargesOf]
        rw [refunds, refundOf, quota, zero_sub]
      | settle _ succeeded _ free =>
        refine .charged succeeded ?_
        simp only [netCharge, chargesOf]
        by_cases noDelta : goal - copy.quota = 0
        · have unchanged : s.adjustTokenQuota true copy (goal - copy.quota) =
              s.charges := by
            rw [TaskSystem.adjustTokenQuota, if_pos (.inr (.inl noDelta))]
          rw [chargesOf] at free
          rw [unchanged, free]
          simp only [List.map_nil, List.sum_nil]
          omega
        · rw [chargesEq _ noDelta free]
          simp only [List.map_cons, List.map_nil, List.sum_cons, List.sum_nil]
          omega
    · intro other rival holds isOther working
      by_contra apart
      simp only [Function.update_of_ne apart] at holds
      exact apart (only other rival holds isOther working)

theorem Accounted.recorded {driver : Driver}
    (works : driver.fails = false) (accounted : Accounted task row s)
    (busy : s.workers i = some ⟨base, copy, .record⟩) (isCopy : copy.id = task.id) :
    Accounted task { row with quota := copy.quota }
      { s with
        tasks := updateQuota driver copy s.tasks
        workers := Function.update s.workers i
          (if base = .poll then some ⟨base, copy, .idle⟩ else none) } := by
  rcases accounted.busy busy isCopy (by simp) with ⟨due, ended, only⟩
  have token := (accounted.copies i _ busy isCopy).token
  simp only at due ended token
  have left : ∀ new ∈ (if base = .poll then some (⟨base, copy, .idle⟩ : Worker) else none),
      new = ⟨.poll, copy, .idle⟩ := by
    intro _ isNew
    split at isNew
    next isPoll =>
      rw [← Option.mem_some.mp isNew, isPoll]
    next => simp at isNew
  refine ⟨?_, accounted.token, ?_, .settled ?_ ?_⟩
  · have stored := accounted.stored
    rw [← isCopy] at stored ⊢
    simp only [updateQuota, works, Bool.false_eq_true, if_false]
    rw [Table.find?_modify_self, stored]
    rfl
  · intro other rival holds isOther
    rcases update_cases holds with ⟨rfl, here⟩ | ⟨same, holds⟩
    · rw [left rival here]
      exact ⟨token, by simp [ended], by simp⟩
    · exact accounted.copies other rival holds isOther
  · intro other rival holds isOther
    rcases update_cases holds with ⟨rfl, here⟩ | ⟨same, holds⟩
    · rw [left rival here]
    · by_contra working
      exact same (only other rival holds isOther working)
  · cases due with
    | refunded failed refunded => exact .failed failed refunded
    | charged succeeded net => exact .succeeded succeeded net

/-! ## Runs -/

variable {cfg : TaskSettings} {action : TaskAction}

theorem Accounted.works (accounted : Accounted task row s) (allowed : Billed cfg task.id s action) :
    Works True (Carries task) cfg task.id s action := by
  have copied : ∀ {base i copy}, copy ∈ s.held base i → copy.id = task.id →
      Copied task ⟨base, copy, .idle⟩ := by
    intro _ i _ held isCopy
    exact accounted.copies i _ (held_eq_some.mp held) isCopy
  cases action with
  | sweep _ _ _ =>
    intro copy held isCopy
    have running := (copied held isCopy).swept rfl rfl
    have notLegacy := allowed copy held isCopy
    refine ⟨running, ?_, (copied held isCopy).token⟩
    simp only [timeOut, notLegacy, Bool.false_eq_true, if_false]
    exact (copied held isCopy).quota rfl running
  | suno _ _ _ =>
    intro copy held isCopy
    have running := allowed copy held isCopy
    have carries : Carries task copy :=
      ⟨(copied held isCopy).quota rfl running, (copied held isCopy).token⟩
    exact ⟨running, carries, carries⟩
  | video _ now reply _ _ =>
    intro copy held isCopy
    have running := allowed copy held isCopy
    rcases @applyVideo_spec cfg now reply copy with ⟨_, quota, token, _⟩
    refine ⟨running, ?_, ?_⟩
    · rw [quota]
      exact (copied held isCopy).quota rfl running
    · rw [token]
      exact (copied held isCopy).token
  | fetch _ _ _ =>
    intro copy held isCopy moved
    rcases allowed copy held isCopy moved with ⟨running, notFailed⟩
    exact ⟨running, fun _ => notFailed, (copied held isCopy).quota rfl running,
      (copied held isCopy).token⟩
  | _ => trivial

theorem Accounted.step (pos : 0 < task.quota) (hasToken : 0 < task.privateData.tokenId)
    (allowed : Billed cfg task.id s action) (accounted : Accounted task row s) :
    ∃ row, Accounted task row (s.step cfg action) := by
  have effect := step_effect (accounted.works allowed)
  generalize s.step cfg action = next at effect
  cases effect with
  | framed _ _ sameRow charges workers => exact ⟨row, accounted.framed sameRow charges workers⟩
  | took _ _ _ _ free found live =>
    rw [accounted.stored] at found
    simp only [Option.some.injEq] at found
    subst found
    exact ⟨row, accounted.took free live⟩
  | worked _ _ _ _ _ held isCopy out =>
    exact accounted.worked pos held isCopy out
  | failed _ _ _ chosen =>
    cases action with
    | failNull _ _ | failChannel _ _ _ _ => exact absurd chosen allowed
    | _ => simp [bulkIds] at chosen
  | adjusted _ found _ _ _ due isCopy =>
    have isFound : found = true := allowed _ due isCopy
    subst isFound
    exact ⟨row, accounted.adjusted pos hasToken due isCopy⟩
  | recorded _ _ _ _ due isCopy =>
    exact ⟨_, accounted.recorded (allowed _ due isCopy) due isCopy⟩

theorem Submitted.accounted (submitted : Submitted task s) : Accounted task task s := by
  refine ⟨submitted.stored, rfl, ?_, .settled ?_ (.live ?_ rfl submitted.uncharged)⟩
  · intro i worker holds isCopy
    exact absurd isCopy (submitted.unread i worker holds)
  · intro i worker holds isCopy
    exact absurd isCopy (submitted.unread i worker holds)
  · simp [submitted.notStarted, TaskStatus.terminal]

/-- A task that failed was refunded once, and a task that succeeded cost what its row records. -/
theorem task_refunded_once {reached : TaskSystem} (submitted : Submitted task s)
    (run : Transition.Reachable (TaskSystem.step cfg) (Billed cfg task.id) s reached)
    (quiet : Quiet task.id reached) :
    ∃ row, reached.tasks.find? task.id = some row ∧
      (row.status = .failure → chargesOf task.id reached = [refundOf task]) ∧
      (row.status = .success → netCharge task reached = row.quota) := by
  have accounted := run.invariant (fun state => ∃ row, Accounted task row state)
    (fun state action allowed ⟨row, accounted⟩ =>
      accounted.step submitted.charged submitted.token allowed)
    ⟨task, submitted.accounted⟩
  rcases accounted with ⟨row, accounted⟩
  refine ⟨row, accounted.stored, ?_⟩
  cases accounted.billing with
  | due i worker busy isCopy _ due =>
    exact absurd (quiet i worker busy isCopy) due.terminal.2
  | settled _ settled =>
    cases settled with
    | live running =>
      refine ⟨?_, ?_⟩
      · intro failed
        simp [failed, TaskStatus.terminal] at running
      · intro succeeded
        simp [succeeded, TaskStatus.terminal] at running
    | failed failed refunded => simp [failed, refunded]
    | succeeded succeeded net => simp [succeeded, net]

end Invariant

/-! ## A video task -/

theorem sampleTask_submitted : Submitted sampleTask sampleSystem where
  toInserted := sampleTask_inserted
  charged := by decide
  token := by decide
  uncharged := rfl

def sampleRun : List TaskAction :=
  [.readUnfinished 0 1, .readTimedOut 1 1 1900000000, .sweep 1 1900000000 {},
    .video 0 1900000001 ⟨{ status := .success }, [], .undecodable⟩ 40 {},
    .adjustToken 1 true, .recordQuota 1 {}]

instance Billed.decidable (cfg : TaskSettings) (id : ℤ) (s : TaskSystem) :
    (action : TaskAction) → Decidable (Billed cfg id s action)
  | .sweep worker _ _ => inferInstanceAs (Decidable (∀ copy ∈ s.held .sweep worker, _))
  | .suno worker _ _ => inferInstanceAs (Decidable (∀ copy ∈ s.held .poll worker, _))
  | .video worker _ _ _ _ => inferInstanceAs (Decidable (∀ copy ∈ s.held .poll worker, _))
  | .fetch worker _ _ => inferInstanceAs (Decidable (∀ copy ∈ s.held .fetch worker, _))
  | .failNull _ _ | .failChannel _ _ _ _ => inferInstanceAs (Decidable (¬id ∈ _))
  | .adjustToken worker _ => inferInstanceAs (Decidable (∀ busy ∈ s.workers worker, _))
  | .recordQuota worker _ => inferInstanceAs (Decidable (∀ busy ∈ s.workers worker, _))
  | .readTimedOut _ _ _ | .readUnfinished _ _ | .readForFetch _ _ =>
    inferInstanceAs (Decidable True)

theorem task_refunded_once_sample :
    chargesOf 1 (sampleRun.foldl (TaskSystem.step sampleTaskSettings) sampleSystem) =
      [⟨1, 7, -100⟩] := by
  have allowed : Transition.RunAllowed (TaskSystem.step sampleTaskSettings)
      (Billed sampleTaskSettings sampleTask.id) sampleSystem sampleRun := by
    decide
  have quiet : Quiet sampleTask.id
      (sampleRun.foldl (TaskSystem.step sampleTaskSettings) sampleSystem) :=
    quiet_of_two (by decide) (by decide) (fun _ => rfl)
  have failed : ((sampleRun.foldl (TaskSystem.step sampleTaskSettings) sampleSystem).tasks.find?
      1).map (·.status) = some .failure := by
    decide
  rcases task_refunded_once sampleTask_submitted (Transition.Reachable.of_run _ _ allowed)
    quiet with
    ⟨row, stored, refunded, _⟩
  have stored : (sampleRun.foldl (TaskSystem.step sampleTaskSettings) sampleSystem).tasks.find? 1 =
      some row := stored
  rw [stored] at failed
  exact refunded (by simpa using failed)

def sampleLookupRun : List TaskAction :=
  [.readUnfinished 0 1, .failChannel [0] (.other "24") 5 {}]

def sampleFetchRun : List TaskAction :=
  [.readForFetch 0 1, .fetch 0 { status := .failure } {}]

/-- Both runs end in a failure, and return nothing. -/
theorem failed_task_not_refunded : Submitted sampleTask sampleSystem ∧
    (∃ reached, Transition.Reachable (TaskSystem.step sampleTaskSettings) Transition.Unrestricted
      sampleSystem reached ∧ Quiet sampleTask.id reached ∧
      (reached.tasks.find? 1).map (·.status) = some .failure ∧ chargesOf 1 reached = []) ∧
    ∃ reached, Transition.Reachable (TaskSystem.step sampleTaskSettings) Transition.Unrestricted
      sampleSystem reached ∧ Quiet sampleTask.id reached ∧
      (reached.tasks.find? 1).map (·.status) = some .failure ∧ chargesOf 1 reached = [] := by
  refine ⟨sampleTask_submitted, ⟨_, Transition.Reachable.foldl _ sampleLookupRun _, ?_, ?_, ?_⟩,
    ⟨_, Transition.Reachable.foldl _ sampleFetchRun _, ?_, ?_, ?_⟩⟩
  · exact quiet_of_two (by decide) (by decide) (fun _ => rfl)
  · decide
  · decide
  · exact quiet_of_two (by decide) (by decide) (fun _ => rfl)
  · decide
  · decide

end NewApi.Task
