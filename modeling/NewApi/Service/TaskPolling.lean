import NewApi.Model.Task
import NewApi.Types.PriceData

/-!
# Polling of asynchronous tasks

The sweep of timed-out tasks, the polling pass and the realtime fetch each read rows, compute on
their copies, and write.
-/

namespace NewApi.Service

open Relational NewApi.Model NewApi.Types

/-- The settings that the polling of tasks reads. -/
structure TaskSettings where
  taskTimeoutMinutes : ℤ
  serverAddress : String
  modelRatio : String → ℚ × Bool
  groupRatio : String → ℚ
  groupGroupRatio : String → String → Option ℚ
  userGroup : ℤ → Option String

/-! ## What the upstream answers -/

/-- `TaskInfo`: what an adaptor makes of a reply. -/
structure TaskInfo where
  status : TaskStatus
  reason : String := ""
  url : String := ""
  progress : String := ""
  totalTokens : ℤ := 0

def failTaskInfo (reason : String) : TaskInfo :=
  { status := .failure, reason := reason }

/-- One task in the reply of Suno. -/
structure SunoDataResponse where
  status : TaskStatus
  failReason : String
  (submitTime startTime finishTime : ℤ)
  data : List UInt8

/-- What an error in the reply for a video task is. -/
inductive ErrorReply where
  | undecodable
  | tooManyRequests
  | openAi
  | unrecognized

/-- The reply for a video task, as far as the polling reads it. -/
structure VideoReply where
  info : TaskInfo
  data : List UInt8
  error : ErrorReply

/-! ## Suno -/

def taskNeedsUpdate (oldTask : Task) (newTask : SunoDataResponse) : Bool :=
  oldTask.submitTime ≠ newTask.submitTime ∨ oldTask.startTime ≠ newTask.startTime ∨
    oldTask.finishTime ≠ newTask.finishTime ∨ oldTask.status ≠ newTask.status ∨
    oldTask.failReason ≠ newTask.failReason ∨
    ((oldTask.status = .failure ∨ oldTask.status = .success) ∧
      oldTask.progress ≠ progressComplete) ∨
    oldTask.data.insertionSort (· ≤ ·) ≠ newTask.data.insertionSort (· ≤ ·)

/-- The status that a response leads to, and whether it is a failure. -/
def sunoStatus (item : SunoDataResponse) (task : Task) : TaskStatus × Bool :=
  let status := if item.status ≠ .other "" then item.status else task.status
  if item.failReason ≠ "" ∨ status = .failure then (.failure, true) else (status, false)

/-- The copy after `updateSunoTasks` has gone through a response. -/
def applySuno (item : SunoDataResponse) (task : Task) : Task :=
  { task with
    status := (sunoStatus item task).1
    failReason := if item.failReason ≠ "" then item.failReason else task.failReason
    submitTime := if item.submitTime ≠ 0 then item.submitTime else task.submitTime
    startTime := if item.startTime ≠ 0 then item.startTime else task.startTime
    finishTime := if item.finishTime ≠ 0 then item.finishTime else task.finishTime
    progress :=
      if (sunoStatus item task).2 ∨ item.status = .success then progressComplete
      else task.progress
    data := item.data }

/-! ## Video -/

def buildProxyUrl (cfg : TaskSettings) (taskId : String) : String :=
  cfg.serverAddress ++ "/v1/videos/" ++ taskId ++ "/content"

def isDataUrl (url : String) : Bool :=
  "data:".toList.isPrefixOf url.toList

/-- The result of an answer; `none` for a rate limit. -/
def videoResult (reply : VideoReply) : Option TaskInfo :=
  if reply.info.status = .other "" then
    match reply.error with
    | .undecodable => some reply.info
    | .tooManyRequests => none
    | .openAi => some (failTaskInfo "upstream returned error")
    | .unrecognized => some (failTaskInfo "upstream returned unrecognized message")
  else
    some reply.info

/-- The copy of a task that a known status of the upstream leads to. -/
def applyVideoStatus (cfg : TaskSettings) (now : ℤ) (info : TaskInfo) (task : Task) :
    Option Task :=
  match info.status with
  | .submitted => some { task with progress := progressSubmitted }
  | .queued => some { task with progress := progressQueued }
  | .inProgress =>
    some { task with
      progress := progressInProgress
      startTime := if task.startTime = 0 then now else task.startTime }
  | .success =>
    some { task with
      progress := progressComplete
      finishTime := if task.finishTime = 0 then now else task.finishTime
      privateData := { task.privateData with
        resultUrl :=
          if isDataUrl info.url ∨ info.url = "" then buildProxyUrl cfg task.taskId
          else info.url } }
  | .failure =>
    some { task with
      progress := progressComplete
      finishTime := if task.finishTime = 0 then now else task.finishTime
      failReason := info.reason }
  | _ => none

/-- What `updateVideoSingleTask` makes of an answer: the copy, and, unless it returns early,
what there is to refund and to settle. -/
structure VideoUpdate where
  task : Task
  billing : Option (TaskInfo × Bool × Bool)

def applyVideo (cfg : TaskSettings) (now : ℤ) (reply : VideoReply) (task : Task) :
    VideoUpdate :=
  let task := { task with data := reply.data }
  match videoResult reply with
  | none => ⟨task, none⟩
  | some info =>
    let task := { task with status := info.status }
    match applyVideoStatus cfg now info task with
    | none => ⟨task, none⟩
    | some task =>
      let progress := if info.status = .failure then progressComplete else info.progress
      ⟨{ task with progress := if progress ≠ "" then progress else task.progress },
        some (info, info.status = .failure ∧ task.quota ≠ 0, info.status = .success)⟩

/-! ## The quota of a finished task -/

def taskModelName (task : Task) : String :=
  match task.privateData.billingContext with
  | some ctx =>
    if ctx.originModelName ≠ "" then ctx.originModelName else task.originModelName
  | none => task.originModelName

/-- The quota that `RecalculateTaskQuotaByTokens` settles for, unless it returns early. -/
def quotaByTokens (cfg : TaskSettings) (totalTokens : ℤ) (task : Task) : Option ℤ :=
  let (modelRatio, hasRatioSetting) := cfg.modelRatio (taskModelName task)
  let group := if task.group = "" then (cfg.userGroup task.userId).getD "" else task.group
  if totalTokens ≤ 0 ∨ hasRatioSetting = false ∨ modelRatio ≤ 0 ∨ group = "" then
    none
  else
    let finalGroupRatio := (cfg.groupGroupRatio group group).getD (cfg.groupRatio group)
    let otherMultiplier := (task.privateData.billingContext.map fun ctx =>
      ((ctx.otherRatios.filter fun entry => isValidOtherRatio entry.2).map
        PriceData.appliedRatio).prod).getD 1
    let channelRatio := (task.privateData.billingContext.map fun ctx =>
      if ctx.channelRatio < 0 ∨ (ctx.channelRatio = 0 ∧ ctx.channelRatioSet = false)
      then 1 else ctx.channelRatio).getD 1
    let val := totalTokens * modelRatio * finalGroupRatio * otherMultiplier * channelRatio
    some (saturateQuota (if 0 ≤ val then ⌊val⌋ else ⌈val⌉))

/-- The quota that `settleTaskBillingOnComplete` settles for; `adjusted` is the answer of
`AdjustBillingOnComplete`. -/
def completionQuota (cfg : TaskSettings) (adjusted : ℤ) (info : TaskInfo) (task : Task) :
    Option ℤ :=
  if task.privateData.billingContext.any (·.perCallBilling) then none
  else if adjusted > 0 then some adjusted
  else if info.totalTokens > 0 then quotaByTokens cfg info.totalTokens task
  else none

/-! ## Workers -/

/-- The reader of a task copy: the sweep of timeouts, the polling, or a fetch by its user. -/
inductive Origin where
  | sweep
  | poll
  | fetch
deriving DecidableEq

/-- What is left of a refund or of a recalculation: to adjust the token to the quota that the
task is to cost, and then to record that quota in the row. -/
inductive Todo where
  | idle
  | adjust (goal : ℤ)
  | record
deriving DecidableEq

/-- A reader with its copy of a task, and what is left to do after its write. -/
structure Worker where
  origin : Origin
  copy : Task
  todo : Todo := .idle

/-- A charge to a token for a task; a negative one gives quota back. -/
structure Charge where
  (task token amount : ℤ)

/-- The tasks, the adjustments of their tokens, and the workers. -/
structure TaskSystem where
  tasks : Table Task
  charges : List Charge
  workers : ℕ → Option Worker

def refundTaskQuota (task : Task) : Todo :=
  if task.quota = 0 then .idle else .adjust 0

def recalculateTaskQuota (actualQuota : ℤ) (task : Task) : Todo :=
  if actualQuota ≤ 0 ∨ actualQuota = task.quota then .idle else .adjust actualQuota

def timeOut (cfg : TaskSettings) (now : ℤ) (task : Task) : Task :=
  { task with
    status := .failure
    progress := progressComplete
    finishTime := now
    failReason :=
      if task.isLegacy then "任务超时（旧系统遗留任务，不进行退款，请联系管理员）"
      else "任务超时（" ++ toString cfg.taskTimeoutMinutes ++ "分钟）"
    quota := if task.isLegacy then 0 else task.quota }

def sweepTimedOutTask (cfg : TaskSettings) (now : ℤ) (driver : Driver) (copy : Task)
    (tasks : Table Task) : Table Task × Option Worker :=
  let task := timeOut cfg now copy
  match updateWithStatus driver copy.status task tasks with
  | (.won, tasks) =>
    (tasks, if copy.isLegacy ∨ task.quota = 0 then none else some ⟨.sweep, task, .adjust 0⟩)
  | (_, tasks) => (tasks, none)

def updateSunoTask (item : SunoDataResponse) (driver : Driver) (copy : Task)
    (tasks : Table Task) : Table Task × Option Worker :=
  if taskNeedsUpdate copy item then
    let task := applySuno item copy
    match updateWithStatus driver copy.status task tasks with
    | (.won, tasks) =>
      (tasks, some ⟨.poll, task,
        if (sunoStatus item copy).2 ∧ copy.status ≠ .failure then refundTaskQuota task
        else .idle⟩)
    | (_, tasks) => (tasks, some ⟨.poll, task, .idle⟩)
  else
    (tasks, some ⟨.poll, copy, .idle⟩)

/-- The billing that ends `updateVideoSingleTask`. -/
def videoBilling (cfg : TaskSettings) (adjusted : ℤ) (info : TaskInfo)
    (shouldRefund shouldSettle : Bool) (task : Task) : Todo :=
  if shouldSettle then
    match completionQuota cfg adjusted info task with
    | some actualQuota => recalculateTaskQuota actualQuota task
    | none => .idle
  else if shouldRefund then refundTaskQuota task
  else .idle

def updateVideoSingleTask (cfg : TaskSettings) (now : ℤ) (reply : VideoReply) (adjusted : ℤ)
    (driver : Driver) (copy : Task) (tasks : Table Task) : Table Task × Option Worker :=
  let update := applyVideo cfg now reply copy
  let task := update.task
  match update.billing with
  | none => (tasks, some ⟨.poll, task, .idle⟩)
  | some (info, shouldRefund, shouldSettle) =>
    let billing := videoBilling cfg adjusted info shouldRefund shouldSettle task
    if task.status.terminal ∧ copy.status ≠ task.status then
      match updateWithStatus driver copy.status task tasks with
      | (.won, tasks) => (tasks, some ⟨.poll, task, billing⟩)
      | (_, tasks) => (tasks, some ⟨.poll, task, .idle⟩)
    else if copy.snapshot ≠ task.snapshot then
      ((updateWithStatus driver copy.status task tasks).2, some ⟨.poll, task, billing⟩)
    else
      (tasks, some ⟨.poll, task, billing⟩)

/-- The copy after `tryRealtimeFetch` has gone through an answer. -/
def applyRealtime (cfg : TaskSettings) (info : TaskInfo) (task : Task) : Task :=
  let status := if info.status ≠ .other "" then info.status else task.status
  { task with
    status := status
    progress := if info.progress ≠ "" then info.progress else task.progress
    privateData := { task.privateData with
      resultUrl :=
        if isDataUrl info.url then task.privateData.resultUrl
        else if info.url ≠ "" then info.url
        else if status = .success then buildProxyUrl cfg task.taskId
        else task.privateData.resultUrl } }

def tryRealtimeFetch (cfg : TaskSettings) (info : TaskInfo) (driver : Driver)
    (copy : Task) (tasks : Table Task) : Table Task × Option Worker :=
  let task := applyRealtime cfg info copy
  if copy.snapshot ≠ task.snapshot then
    ((updateWithStatus driver copy.status task tasks).2, none)
  else
    (tasks, none)

/-! ## Steps -/

/-- The steps of the workers: reads, writes, and the billing that a write leaves to do. -/
inductive TaskAction where
  | readTimedOut (worker : ℕ) (id cutoff : ℤ)
  | readUnfinished (worker : ℕ) (id : ℤ)
  | readForFetch (worker : ℕ) (id : ℤ)
  | sweep (worker : ℕ) (now : ℤ) (driver : Driver)
  | suno (worker : ℕ) (item : SunoDataResponse) (driver : Driver)
  | video (worker : ℕ) (now : ℤ) (reply : VideoReply) (adjusted : ℤ) (driver : Driver)
  | fetch (worker : ℕ) (info : TaskInfo) (driver : Driver)
  | failNull (workers : List ℕ) (driver : Driver)
  | failChannel (workers : List ℕ) (platform : TaskPlatform) (channelId : ℤ) (driver : Driver)
  /-- `found`: the token is there and its quota could be changed. -/
  | adjustToken (worker : ℕ) (found : Bool)
  | recordQuota (worker : ℕ) (driver : Driver)

namespace TaskSystem

def read (s : TaskSystem) (worker : ℕ) (base : Origin) (id : ℤ) (selects : Task → Bool) :
    TaskSystem :=
  match s.workers worker, s.tasks.find? id with
  | none, some row =>
    if selects row then
      { s with workers := Function.update s.workers worker (some ⟨base, row, .idle⟩) }
    else s
  | _, _ => s

/-- The copy of a worker that has nothing left to do with an earlier answer. -/
def held (s : TaskSystem) (base : Origin) (worker : ℕ) : Option Task :=
  match s.workers worker with
  | some ⟨found, copy, .idle⟩ => if found = base then some copy else none
  | _ => none

def proceed (s : TaskSystem) (base : Origin) (worker : ℕ) (takes : Task → Bool)
    (work : Task → Table Task → Table Task × Option Worker) : TaskSystem :=
  match s.held base worker with
  | none => s
  | some copy =>
    if takes copy then
      { s with
        tasks := (work copy s.tasks).1
        workers := Function.update s.workers worker (work copy s.tasks).2 }
    else s

def selectedIds (s : TaskSystem) (workers : List ℕ) (selects : Task → Bool) : List ℤ :=
  ((workers.filterMap (s.held .poll)).filter selects).map (·.id)

/-- `taskAdjustTokenQuota`. -/
def adjustTokenQuota (s : TaskSystem) (found : Bool) (task : Task) (delta : ℤ) :
    List Charge :=
  if task.privateData.tokenId ≤ 0 ∨ delta = 0 ∨ found = false then s.charges
  else ⟨task.id, task.privateData.tokenId, delta⟩ :: s.charges

def lookupFailure (platform : TaskPlatform) (channelId : ℤ) : String :=
  if platform = .suno then "获取渠道信息失败，请联系管理员，渠道ID：" ++ toString channelId
  else "Failed to get channel info, channel ID: " ++ toString channelId

def step (cfg : TaskSettings) (s : TaskSystem) : TaskAction → TaskSystem
  | .readTimedOut worker id cutoff => s.read worker .sweep id (·.timedOut cutoff)
  | .readUnfinished worker id => s.read worker .poll id (·.unfinished)
  | .readForFetch worker id => s.read worker .fetch id fun _ => true
  | .sweep worker now driver =>
    s.proceed .sweep worker (fun _ => true) (sweepTimedOutTask cfg now driver)
  | .suno worker item driver =>
    s.proceed .poll worker (fun copy => copy.platform = .suno ∧ copy.getUpstreamTaskId ≠ "")
      (updateSunoTask item driver)
  | .video worker now reply adjusted driver =>
    s.proceed .poll worker (fun copy => copy.platform ≠ .suno ∧ copy.platform ≠ .midjourney ∧
        copy.getUpstreamTaskId ≠ "")
      (updateVideoSingleTask cfg now reply adjusted driver)
  | .fetch worker info driver =>
    s.proceed .fetch worker (fun _ => true) (tryRealtimeFetch cfg info driver)
  | .failNull workers driver =>
    { s with
      tasks := taskBulkUpdateById driver
        (s.selectedIds workers (·.getUpstreamTaskId = "")) none s.tasks }
  | .failChannel workers platform channelId driver =>
    { s with
      tasks := taskBulkUpdateById driver
        (s.selectedIds workers fun copy => copy.getUpstreamTaskId ≠ "" ∧
          copy.platform = platform ∧ platform ≠ .midjourney ∧ copy.channelId = channelId)
        (some (lookupFailure platform channelId)) s.tasks }
  | .adjustToken worker found =>
    match s.workers worker with
    | some ⟨base, copy, .adjust goal⟩ =>
      { s with
        charges := s.adjustTokenQuota found copy (goal - copy.quota)
        workers := Function.update s.workers worker
          (some ⟨base, { copy with quota := goal }, .record⟩) }
    | _ => s
  | .recordQuota worker driver =>
    match s.workers worker with
    | some ⟨base, copy, .record⟩ =>
      { s with
        tasks := updateQuota driver copy s.tasks
        workers := Function.update s.workers worker
          (if base = .poll then some ⟨base, copy, .idle⟩ else none) }
    | _ => s

end TaskSystem

end NewApi.Service
