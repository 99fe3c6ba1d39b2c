import NewApi.Channels.NextKey

/-!
# Concurrent writes to a channel

Calls of `GetNextEnabledKey`, `UpdateChannelStatus`, `UpdateChannelUsedQuota` and
`SettleBillingOperation` on one multi-key channel, in the steps between which other calls run.
-/

namespace NewApi.Channels

open RoundRobin (Turn)

/-- The settings that decide where a channel is written, and the parser of key lists. -/
structure WriteSettings where
  (memoryCacheEnabled batchUpdateEnabled : Bool)
  parseArray : String → Option (List String)

/-- The two copies of a channel. -/
inductive Place where
  | cache
  | store
deriving DecidableEq

/-- What the calls have done to the copies, in order. -/
inductive WriteEvent where
  | keyStatus (place : Place) (i : ℕ) (status : ℤ)
  /-- A call of `GetNextEnabledKey` has read the channel. -/
  | read (call : ℕ)
  | returned (call : ℕ) (statusList : ℕ → Option ℤ) (i : ℕ)
  | increment (quota : ℤ)

/-- How far a call has come. -/
inductive Stage where
  | idle
  /-- The caller of `GetNextEnabledKey` has the stored channel. -/
  | chosen (chan : Channel)
  | polled (chan : Channel) (i : ℕ)
  /-- `UpdateChannelStatus` is about to read the row. -/
  | entered (update : StatusUpdate)
  | read (update : StatusUpdate) (chan : Channel)
  | handled (update : StatusUpdate) (chan : Channel)

/-- The two copies of a channel, its locks, the calls on it, the used quota in batches, and the
log. -/
structure ChannelWrites where
  (row cached : Channel)
  (channelStatusLock pollingLock : Option ℕ)
  stages : ℕ → Stage
  (batched flushing : ℤ)
  log : List WriteEvent

/-- The steps of the calls that write a channel. -/
inductive WriteAction where
  | chooseChannel (call : ℕ)
  | getNextEnabledKey (call : ℕ) (draw : ℕ) (reads : Bool)
  | saveChannelInfo (call : ℕ) (saves : Bool)
  | updateChannelStatus (call : ℕ) (update : StatusUpdate)
  | getChannelById (call : ℕ)
  | handlerMultiKeyUpdate (call : ℕ)
  | saveWithoutKey (call : ℕ)
  | updateChannelUsedQuota (quota : ℤ) (saves : Bool)
  | batchUpdate
  | writeBatch (saves : Bool)
  | settleBillingOperation (quota : ℤ) (commits : Bool)

def StatusUpdate.changedKey (parse : String → Option (List String)) (update : StatusUpdate)
    (chan : Channel) : Option ℕ :=
  if chan.channelInfo.isMultiKey then (chan.getKeys parse).idxOf? update.usingKey
  else none

/-- The cached channel after its part of `UpdateChannelStatus`; `none` when the call ends there. -/
def StatusUpdate.updateCached (parse : String → Option (List String))
    (update : StatusUpdate) (cached : Channel) : Option Channel :=
  if cached.channelInfo.isMultiKey then
    some (Channels.handlerMultiKeyUpdate parse cached update.usingKey update.status
      update.reason update.now)
  else if cached.status = update.status then none
  else some { cached with status := update.status }

def StatusUpdate.events (parse : String → Option (List String)) (place : Place)
    (update : StatusUpdate) (chan : Channel) : List WriteEvent :=
  ((update.changedKey parse chan).map fun i =>
    WriteEvent.keyStatus place i update.status).toList

namespace ChannelWrites

variable (s : ChannelWrites)

def setStage (call : ℕ) (stage : Stage) : ChannelWrites :=
  { s with stages := Function.update s.stages call stage }

def note (events : List WriteEvent) : ChannelWrites :=
  { s with log := s.log ++ events }

/-- The end of `UpdateChannelStatus`. -/
def leave (call : ℕ) : ChannelWrites :=
  { s.setStage call .idle with
    channelStatusLock :=
      if s.channelStatusLock = some call then none else s.channelStatusLock }

def addUsedQuota (quota : ℤ) : ChannelWrites :=
  { s with row := { s.row with usedQuota := s.row.usedQuota + quota } }

section Steps

variable (cfg : WriteSettings)

def pollCached (call draw : ℕ) : ChannelWrites :=
  let out := s.cached.getNextEnabledKey cfg.parseArray
    (some s.cached.channelInfo.multiKeyPollingIndex) draw
  match out.1 with
  | .key i =>
    { s with cached := out.2 }.note
      [.read call, .returned call s.cached.channelInfo.multiKeyStatusList i]
  | _ => s

/-- The call works on the copy of its caller; a polling channel saves it before the lock is
released. -/
def pollCopy (call draw : ℕ) (reads : Bool) (chan : Channel) : ChannelWrites :=
  let out := chan.getNextEnabledKey cfg.parseArray
    (if reads then some s.row.channelInfo.multiKeyPollingIndex else none) draw
  match out.1 with
  | .key i =>
    if chan.channelInfo.multiKeyMode = .polling then
      { s.setStage call (.polled out.2 i) with pollingLock := some call }
    else
      (s.setStage call .idle).note [.returned call chan.channelInfo.multiKeyStatusList i]
  | _ => s.setStage call .idle

def next : WriteAction → ChannelWrites
  | .chooseChannel call =>
    match s.stages call with
    | .idle =>
      if cfg.memoryCacheEnabled then s
      else (s.setStage call (.chosen s.row)).note [.read call]
    | _ => s
  | .getNextEnabledKey call draw reads =>
    if s.pollingLock.isSome then s
    else if cfg.memoryCacheEnabled then s.pollCached cfg call draw
    else
      match s.stages call with
      | .chosen chan => s.pollCopy cfg call draw reads chan
      | _ => s
  | .saveChannelInfo call saves =>
    match s.stages call with
    | .polled chan i =>
      { s.setStage call .idle with
        row :=
          if saves then { s.row with channelInfo := chan.channelInfo }
          else s.row
        pollingLock := none }.note [.returned call chan.channelInfo.multiKeyStatusList i]
    | _ => s
  | .updateChannelStatus call update =>
    match s.stages call with
    | .idle =>
      if cfg.memoryCacheEnabled then
        if s.channelStatusLock.isSome then s
        else
          match update.updateCached cfg.parseArray s.cached with
          | none => s
          | some cached =>
            { s.setStage call (.entered update) with
              cached
              channelStatusLock := some call }.note (update.events cfg.parseArray .cache s.cached)
      else s.setStage call (.entered update)
    | _ => s
  | .getChannelById call =>
    match s.stages call with
    | .entered update =>
      if update.reads = true ∧ s.row.status ≠ update.status then
        s.setStage call (.read update s.row)
      else s.leave call
    | _ => s
  | .handlerMultiKeyUpdate call =>
    match s.stages call with
    | .read update chan =>
      if chan.channelInfo.isMultiKey = true ∧ s.pollingLock.isSome then s
      else s.setStage call (.handled update chan)
    | _ => s
  | .saveWithoutKey call =>
    match s.stages call with
    | .handled update chan =>
      if update.saves then
        { s.leave call with
          row := (update.updateRow cfg.parseArray chan).saveWithoutKey.apply
            s.row }.note (update.events cfg.parseArray .store chan)
      else s.leave call
    | _ => s
  | .updateChannelUsedQuota quota saves =>
    if cfg.batchUpdateEnabled then
      { s with batched := s.batched + quota }.note [.increment quota]
    else if saves then (s.addUsedQuota quota).note [.increment quota]
    else s.note [.increment quota]
  | .batchUpdate =>
    { s with
      batched := 0
      flushing := s.flushing + s.batched }
  | .writeBatch saves =>
    if saves then { s.addUsedQuota s.flushing with flushing := 0 }
    else { s with flushing := 0 }
  | .settleBillingOperation quota commits =>
    if commits then (s.addUsedQuota quota).note [.increment quota] else s

end Steps

end ChannelWrites

/-! ### The log -/

def setStatus (statusList : ℕ → Option ℤ) (i : ℕ) (status : ℤ) : ℕ → Option ℤ :=
  Function.update statusList i (if status = channelStatusEnabled then none else some status)

/-- The statuses that a log leaves, and what each call has read last. -/
structure Replay where
  statusList : ℕ → Option ℤ
  reads : ℕ → Option (ℕ → Option ℤ)

def Replay.next (place : Place) (replay : Replay) : WriteEvent → Replay
  | .keyStatus changed i status =>
    if changed = place then
      { replay with statusList := setStatus replay.statusList i status }
    else replay
  | .read call =>
    { replay with reads := Function.update replay.reads call (some replay.statusList) }
  | .returned _ _ _ => replay
  | .increment _ => replay

def replay (place : Place) (init : ℕ → Option ℤ) (log : List WriteEvent) : Replay :=
  log.foldl (Replay.next place) { statusList := init, reads := fun _ => none }

def WriteEvent.turn : WriteEvent → Option Turn
  | .returned _ statusList i => some { allowed := KeyEnabled statusList, index := i }
  | _ => none

def turns (log : List WriteEvent) : List Turn :=
  log.filterMap WriteEvent.turn

def WriteEvent.quota : WriteEvent → ℤ
  | .increment quota => quota
  | _ => 0

def increments (log : List WriteEvent) : ℤ :=
  (log.map WriteEvent.quota).sum

end NewApi.Channels
