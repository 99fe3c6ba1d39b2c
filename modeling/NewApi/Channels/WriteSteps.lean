import NewApi.Channels.WriteLog

/-!
# Steps of concurrent writes

The invariant of the calls on a channel: what each stage of a call knows of the row and the locks,
and what the log says about the copies. Every step that meets its condition keeps it.
-/

namespace NewApi.Channels

open RoundRobin

/-! ### The invariant -/

section Invariant

def WriteSettings.place (cfg : WriteSettings) : Place :=
  if cfg.memoryCacheEnabled then .cache else .store

def WriteSettings.Uses (cfg : WriteSettings) (place : Place) : Prop :=
  cfg.memoryCacheEnabled = true ∨ place = .store

def ChannelWrites.copy (s : ChannelWrites) : Place → Channel
  | .cache => s.cached
  | .store => s.row

def ChannelWrites.replay (start s : ChannelWrites) (place : Place) : Replay :=
  Channels.replay place (start.copy place).channelInfo.multiKeyStatusList s.log

def ChannelWrites.keys (cfg : WriteSettings) (start : ChannelWrites) (place : Place) :
    List String :=
  (start.copy place).getKeys cfg.parseArray

/-- The conditions under which no write is lost:

* the key of a status update occurs once;
* the row that `SaveWithoutKey` overwrites has the used quota of the copy, and without the memory
  cache its key statuses and polling index;
* the row whose `channel_info` a polling call overwrites has the key statuses of the copy;
* the database executes the write of a polling call and those of the used quota. -/
def WriteAction.Careful (cfg : WriteSettings) (s : ChannelWrites) : WriteAction → Prop
  | .updateChannelStatus _ update =>
    ∀ place, cfg.Uses place →
      ((s.copy place).getKeys cfg.parseArray).count update.usingKey ≤ 1
  | .saveChannelInfo call saves =>
    ∀ chan i, s.stages call = .polled chan i →
      saves = true ∧ s.row.channelInfo.multiKeyStatusList = chan.channelInfo.multiKeyStatusList
  | .saveWithoutKey call =>
    ∀ update chan, s.stages call = .handled update chan → update.saves = true →
      s.row.usedQuota = chan.usedQuota ∧
        (cfg.memoryCacheEnabled = false →
          s.row.channelInfo.multiKeyStatusList = chan.channelInfo.multiKeyStatusList ∧
            s.row.channelInfo.multiKeyPollingIndex = chan.channelInfo.multiKeyPollingIndex)
  | .updateChannelUsedQuota _ saves => cfg.batchUpdateEnabled = false → saves = true
  | .writeBatch saves => saves = true
  | _ => True

/-- A system in which no call has begun, with the channel in both places. -/
structure ChannelWrites.Opening (cfg : WriteSettings) (start : ChannelWrites) : Prop where
  stages : ∀ call, start.stages call = .idle
  batched : start.batched = 0
  flushing : start.flushing = 0
  log : start.log = []
  copies : ∀ place, cfg.Uses place →
    IsCopy cfg.parseArray (start.copy place) (start.copy place)

variable (cfg : WriteSettings) (start s : ChannelWrites)

def ChannelWrites.ReadsAs (call : ℕ) (chan : Channel) : Prop :=
  (start.replay s .store).reads call = some chan.channelInfo.multiKeyStatusList

/-- The lock and the row are as `UpdateChannelStatus` relies on with the memory cache. -/
def ChannelWrites.Updates (call : ℕ) (update : StatusUpdate) (chan : Channel) : Prop :=
  (cfg.memoryCacheEnabled = true →
      s.channelStatusLock = some call ∧
        s.row.channelInfo.multiKeyStatusList = chan.channelInfo.multiKeyStatusList) ∧
    (start.keys cfg .store).count update.usingKey ≤ 1 ∧
    IsCopy cfg.parseArray start.row chan

def ChannelWrites.StageGood (call : ℕ) : Stage → Prop
  | .idle => True
  | .chosen chan =>
    cfg.memoryCacheEnabled = false ∧ IsCopy cfg.parseArray start.row chan ∧
      start.ReadsAs s call chan
  | .polled chan i =>
    cfg.memoryCacheEnabled = false ∧ IsCopy cfg.parseArray start.row chan ∧
      start.ReadsAs s call chan ∧ s.pollingLock = some call ∧
      FirstFrom (start.keys cfg .store).length (KeyEnabled chan.channelInfo.multiKeyStatusList)
        (startIndex (start.keys cfg .store).length s.row.channelInfo.multiKeyPollingIndex) i ∧
      chan.channelInfo.multiKeyPollingIndex = ((i + 1) % (start.keys cfg .store).length : ℕ)
  | .entered update =>
    (cfg.memoryCacheEnabled = true → s.channelStatusLock = some call) ∧
      (start.keys cfg .store).count update.usingKey ≤ 1
  | .read update chan => start.Updates cfg s call update chan
  | .handled update chan => start.Updates cfg s call update chan

/-- A call returns a key that its last reading shows enabled, at each of its occurrences. -/
def ChannelWrites.Returns (log : List WriteEvent) : Prop :=
  ∀ past call statusList i after, log = past ++ .returned call statusList i :: after →
      (Channels.replay cfg.place
          (start.copy cfg.place).channelInfo.multiKeyStatusList past).reads call =
        some statusList ∧
      ∀ other key, (start.keys cfg cfg.place)[i]? = some key →
        (start.keys cfg cfg.place)[other]? = some key → KeyEnabled statusList other

def ChannelWrites.startCursor : ℕ :=
  startIndex (start.keys cfg cfg.place).length
    (start.copy cfg.place).channelInfo.multiKeyPollingIndex

/-- What holds of the copies, the calls and the log in every run. -/
structure ChannelWrites.Good : Prop where
  copies : ∀ place, cfg.Uses place →
    IsCopy cfg.parseArray (start.copy place) (s.copy place)
  statuses : ∀ place, (s.copy place).channelInfo.multiKeyStatusList =
    (start.replay s place).statusList
  stages : ∀ call, start.StageGood cfg s call (s.stages call)
  returns : start.Returns cfg s.log
  cyclic : Cyclic (start.keys cfg cfg.place).length (start.startCursor cfg) (turns s.log)
  cursor : startIndex (start.keys cfg cfg.place).length
      (s.copy cfg.place).channelInfo.multiKeyPollingIndex =
    cursorAfter (start.keys cfg cfg.place).length (start.startCursor cfg) (turns s.log)
  quota : s.row.usedQuota + s.batched + s.flushing = start.row.usedQuota + increments s.log
  unbatched : cfg.batchUpdateEnabled = false → s.batched = 0 ∧ s.flushing = 0

end Invariant

/-! ### Steps -/

section Frames

variable {cfg : WriteSettings} {start s changed : ChannelWrites} {call : ℕ}
  {stage : Stage} {log : List WriteEvent} {event : WriteEvent}

theorem uses_store (cfg : WriteSettings) : cfg.Uses .store :=
  .inr rfl

theorem place_of_cached (cached : cfg.memoryCacheEnabled = true) : cfg.place = .cache :=
  if_pos cached

theorem place_of_uncached (fresh : cfg.memoryCacheEnabled = false) :
    cfg.place = .store :=
  if_neg (by rw [fresh]; decide)

theorem ChannelWrites.StageGood.frame (good : start.StageGood cfg s call stage)
    (polling : cfg.memoryCacheEnabled = false → s.pollingLock = some call →
      changed.pollingLock = some call ∧ changed.row.channelInfo.multiKeyPollingIndex =
        s.row.channelInfo.multiKeyPollingIndex)
    (status : cfg.memoryCacheEnabled = true → s.channelStatusLock = some call →
      changed.channelStatusLock = some call ∧
        changed.row.channelInfo.multiKeyStatusList = s.row.channelInfo.multiKeyStatusList)
    (reads : cfg.memoryCacheEnabled = false →
      (start.replay changed .store).reads call = (start.replay s .store).reads call) :
    start.StageGood cfg changed call stage := by
  have updates : ∀ update chan, start.Updates cfg s call update chan →
      start.Updates cfg changed call update chan := by
    rintro update chan ⟨held, once, copy⟩
    refine ⟨?_, once, copy⟩
    intro cached
    rcases held cached with ⟨holds, same⟩
    rcases status cached holds with ⟨stillHolds, sameList⟩
    exact ⟨stillHolds, sameList.trans same⟩
  cases stage with
  | idle => trivial
  | chosen _ =>
    rcases good with ⟨fresh, copy, readsAs⟩
    exact ⟨fresh, copy, (reads fresh).trans readsAs⟩
  | polled _ _ =>
    rcases good with ⟨fresh, copy, readsAs, holds, first, isIndex⟩
    rcases polling fresh holds with ⟨stillHolds, sameIndex⟩
    refine ⟨fresh, copy, (reads fresh).trans readsAs, stillHolds, ?_, isIndex⟩
    rw [sameIndex]
    exact first
  | entered _ => exact ⟨fun cached => (status cached (good.1 cached)).1, good.2⟩
  | read update chan => exact updates update chan good
  | handled update chan => exact updates update chan good

theorem ChannelWrites.Returns.snoc (returns : start.Returns cfg log)
    (last : ∀ call statusList i, event = .returned call statusList i →
      (Channels.replay cfg.place
          (start.copy cfg.place).channelInfo.multiKeyStatusList log).reads call =
        some statusList ∧ ∀ other key, (start.keys cfg cfg.place)[i]? = some key →
        (start.keys cfg cfg.place)[other]? = some key → KeyEnabled statusList other) :
    start.Returns cfg (log ++ [event]) := by
  intro past call statusList i after isLog
  rcases List.eq_nil_or_concat after with rfl | ⟨rest, _, rfl⟩
  · rcases List.append_inj' isLog rfl with ⟨rfl, same⟩
    exact last call statusList i (List.head_eq_of_cons_eq same)
  · rw [List.concat_eq_append, ← List.cons_append, ← List.append_assoc] at isLog
    rcases List.append_inj' isLog rfl with ⟨sameLog, _⟩
    exact returns past call statusList i rest sameLog

theorem ChannelWrites.Returns.quiet (returns : start.Returns cfg log)
    (owed : event.turn = none) : start.Returns cfg (log ++ [event]) := by
  refine returns.snoc ?_
  rintro _ _ _ rfl
  cases owed

theorem replay_events_other {place moved : Place} (apart : moved ≠ place)
    (parse : String → Option (List String)) (init : ℕ → Option ℤ)
    (log : List WriteEvent) (update : StatusUpdate) (chan : Channel) :
    Channels.replay place init (log ++ update.events parse moved chan) =
      Channels.replay place init log := by
  rw [replay_append, StatusUpdate.events]
  cases update.changedKey parse chan with
  | none => rfl
  | some _ => exact if_neg apart

theorem replay_events {place : Place} {parse : String → Option (List String)} {init : ℕ → Option ℤ}
    {log : List WriteEvent} {chan : Channel} (update : StatusUpdate)
    (isList : chan.channelInfo.multiKeyStatusList = (Channels.replay place init log).statusList) :
    (Channels.replay place init (log ++ update.events parse place chan)).statusList =
      (update.updateRow parse chan).channelInfo.multiKeyStatusList := by
  rw [replay_append, StatusUpdate.events, updateRow_list, isList]
  cases update.changedKey parse chan with
  | none => rfl
  | some _ => exact congrArg Replay.statusList (if_pos rfl)

theorem replay_events_reads (place moved : Place) (parse : String → Option (List String))
    (init : ℕ → Option ℤ) (log : List WriteEvent) (update : StatusUpdate) (chan : Channel) :
    (Channels.replay place init (log ++ update.events parse moved chan)).reads =
      (Channels.replay place init log).reads := by
  rw [replay_append, StatusUpdate.events]
  cases update.changedKey parse chan with
  | none => rfl
  | some _ =>
    simp only [Option.map_some, Option.toList_some, List.foldl_cons, List.foldl_nil, Replay.next]
    split <;> rfl

theorem turns_events (place : Place) (parse : String → Option (List String))
    (log : List WriteEvent) (update : StatusUpdate) (chan : Channel) :
    turns (log ++ update.events parse place chan) = turns log := by
  rw [StatusUpdate.events]
  cases update.changedKey parse chan with
  | none => exact congrArg turns (List.append_nil log)
  | some _ => exact turns_quiet rfl

theorem increments_events (place : Place) (parse : String → Option (List String))
    (log : List WriteEvent) (update : StatusUpdate) (chan : Channel) :
    increments (log ++ update.events parse place chan) = increments log := by
  rw [StatusUpdate.events]
  cases update.changedKey parse chan with
  | none => exact congrArg increments (List.append_nil log)
  | some _ => exact (increments_snoc _).trans (add_zero _)

theorem ChannelWrites.Returns.events (returns : start.Returns cfg log) (place : Place)
    (parse : String → Option (List String)) (update : StatusUpdate) (chan : Channel) :
    start.Returns cfg (log ++ update.events parse place chan) := by
  rw [StatusUpdate.events]
  cases update.changedKey parse chan with
  | none =>
    rw [Option.map_none, Option.toList_none, List.append_nil]
    exact returns
  | some _ => exact returns.quiet rfl

theorem ChannelWrites.Good.frame (good : start.Good cfg s) (sameRow : changed.row = s.row)
    (sameCached : changed.cached = s.cached) (sameBatched : changed.batched = s.batched)
    (sameFlushing : changed.flushing = s.flushing) (sameLog : changed.log = s.log)
    (stages : ∀ call, start.StageGood cfg changed call (changed.stages call)) :
    start.Good cfg changed := by
  have sameCopy : ∀ place, changed.copy place = s.copy place := by
    intro place
    cases place with
    | cache => exact sameCached
    | store => exact sameRow
  refine ⟨?_, ?_, stages, ?_, ?_, ?_, ?_, ?_⟩
  · intro place uses
    rw [sameCopy]
    exact good.copies place uses
  · intro place
    rw [sameCopy, ChannelWrites.replay, sameLog]
    exact good.statuses place
  · rw [sameLog]
    exact good.returns
  · rw [sameLog]
    exact good.cyclic
  · rw [sameCopy, sameLog]
    exact good.cursor
  · rw [sameRow, sameBatched, sameFlushing, sameLog]
    exact good.quota
  · rw [sameBatched, sameFlushing]
    exact good.unbatched

end Frames

section Actions

variable {cfg : WriteSettings} {start s : ChannelWrites} {call draw : ℕ}
  {update : StatusUpdate} {chan : Channel}

section

variable (good : start.Good cfg s)

include good

theorem ChannelWrites.Good.stagesOf {changed : ChannelWrites}
    (stage : Stage) (isStages : changed.stages = Function.update s.stages call stage)
    (own : start.StageGood cfg changed call stage)
    (polling : ∀ other, other ≠ call → cfg.memoryCacheEnabled = false →
      s.pollingLock = some other → changed.pollingLock = some other ∧
        changed.row.channelInfo.multiKeyPollingIndex = s.row.channelInfo.multiKeyPollingIndex)
    (status : ∀ other, other ≠ call → cfg.memoryCacheEnabled = true →
      s.channelStatusLock = some other → changed.channelStatusLock = some other ∧
        changed.row.channelInfo.multiKeyStatusList = s.row.channelInfo.multiKeyStatusList)
    (reads : ∀ other, other ≠ call → cfg.memoryCacheEnabled = false →
      (start.replay changed .store).reads other = (start.replay s .store).reads other) :
    ∀ other, start.StageGood cfg changed other (changed.stages other) := by
  intro other
  rw [isStages]
  by_cases same : other = call
  · subst same
    rw [Function.update_self]
    exact own
  · rw [Function.update_of_ne same]
    exact (good.stages other).frame (polling other same) (status other same) (reads other same)

theorem ChannelWrites.Good.setStage {stage : Stage} (own : start.StageGood cfg s call stage) :
    start.Good cfg (s.setStage call stage) := by
  refine good.frame rfl rfl rfl rfl rfl (good.stagesOf stage rfl own ?_ ?_ ?_)
  · exact fun _ _ _ holds => ⟨holds, rfl⟩
  · exact fun _ _ _ holds => ⟨holds, rfl⟩
  · exact fun _ _ _ => rfl

theorem ChannelWrites.Good.leave : start.Good cfg (s.leave call) := by
  refine good.frame rfl rfl rfl rfl rfl (good.stagesOf .idle rfl trivial ?_ ?_ ?_)
  · exact fun _ _ _ holds => ⟨holds, rfl⟩
  · intro other apart _ holds
    refine ⟨?_, rfl⟩
    have notOwn : ¬s.channelStatusLock = some call := by
      rw [holds, Option.some.injEq]
      exact apart
    exact (if_neg notOwn).trans holds
  · exact fun _ _ _ => rfl

theorem ChannelWrites.Good.chooseChannel : start.Good cfg (s.next cfg (.chooseChannel call)) := by
  simp only [ChannelWrites.next]
  split
  · split
    · exact good
    next cacheOff =>
      have fresh : cfg.memoryCacheEnabled = false := by simpa using cacheOff
      have replays : ∀ place, (start.replay ((s.setStage call
          (.chosen s.row)).note [.read call]) place) =
            { start.replay s place with
              reads := Function.update (start.replay s place).reads call
                (some (start.replay s place).statusList) } := by
        intro _
        exact replay_append
      have sameTurns : turns (s.log ++ [.read call]) = turns s.log :=
        turns_quiet rfl
      have sameIncrements : increments (s.log ++ [.read call]) = increments s.log :=
        (increments_snoc _).trans (add_zero _)
      refine ⟨?_, ?_, ?_, good.returns.quiet rfl, ?_, ?_, ?_, good.unbatched⟩
      · intro place uses
        cases place <;> exact good.copies _ uses
      · intro place
        rw [replays]
        cases place with
        | cache => exact good.statuses .cache
        | store => exact good.statuses .store
      · refine good.stagesOf (.chosen s.row) rfl ?_ ?_ ?_ ?_
        · refine ⟨fresh, good.copies .store (uses_store cfg), ?_⟩
          rw [ChannelWrites.ReadsAs, replays]
          exact (Function.update_self _ _ _).trans (congrArg some (good.statuses .store).symm)
        · exact fun _ _ _ holds => ⟨holds, rfl⟩
        · exact fun _ _ _ holds => ⟨holds, rfl⟩
        · intro other apart _
          rw [replays]
          exact Function.update_of_ne apart _ _
      · exact sameTurns.symm ▸ good.cyclic
      · have cursor := good.cursor
        rw [← sameTurns] at cursor
        cases isPlace : cfg.place <;> rw [isPlace] at cursor <;> exact cursor
      · have quota := good.quota
        rw [← sameIncrements] at quota
        exact quota
  · exact good

theorem ChannelWrites.Good.turn {count i : ℕ} {statusList : ℕ → Option ℤ}
    (isCount : (start.keys cfg cfg.place).length = count)
    (first : FirstFrom count (KeyEnabled statusList)
      (startIndex count (s.copy cfg.place).channelInfo.multiKeyPollingIndex) i) :
    Cyclic count (start.startCursor cfg)
        (turns s.log ++ [{ allowed := KeyEnabled statusList, index := i }]) ∧
      startIndex count (((i + 1) % count : ℕ) : ℤ) = cursorAfter count (start.startCursor cfg)
          (turns s.log ++ [{ allowed := KeyEnabled statusList, index := i }]) := by
  subst isCount
  constructor
  · refine good.cyclic.snoc ?_
    rw [← good.cursor]
    exact first
  · rw [cursorAfter_snoc]
    exact startIndex_of_lt (Nat.mod_lt _ (Nat.zero_lt_of_lt first.index_lt))

/-- A poll of the cached copy. -/
theorem ChannelWrites.Good.pollCached (cached : cfg.memoryCacheEnabled = true) :
    start.Good cfg (s.pollCached cfg call draw) := by
  simp only [ChannelWrites.pollCached]
  rcases isOutcome : s.cached.getNextEnabledKey cfg.parseArray
    (some s.cached.channelInfo.multiKeyPollingIndex) draw with ⟨result, changed⟩
  cases result with
  | key i =>
    have isPlace := place_of_cached cached
    have copy : IsCopy cfg.parseArray start.cached s.cached :=
      good.copies .cache (.inl cached)
    rcases getNextEnabledKey_polling copy.isMultiKey copy.isPolling isOutcome with
      ⟨pollingIndex, isIndex, first, rfl⟩
    cases isIndex
    rw [copy.getKeys] at first ⊢
    have isCount : (start.keys cfg cfg.place).length =
        (start.cached.getKeys cfg.parseArray).length := by
      rw [isPlace]
      rfl
    have isIndexOf : (s.copy cfg.place).channelInfo.multiKeyPollingIndex =
        s.cached.channelInfo.multiKeyPollingIndex := by
      rw [isPlace]
      rfl
    rw [← isIndexOf] at first
    rcases good.turn isCount first with ⟨cyclic, cursor⟩
    rcases first with ⟨_, _, _, enabled, _⟩
    dsimp only
    have replays : ∀ place, (Channels.replay place (start.copy place).channelInfo.multiKeyStatusList
        (s.log ++ [.read call, .returned call
          s.cached.channelInfo.multiKeyStatusList i])).statusList =
        (start.replay s place).statusList := by
      intro _
      rw [replay_append]
      rfl
    have isTurns : turns (s.log ++ [.read call, .returned call
        s.cached.channelInfo.multiKeyStatusList i]) = turns s.log ++
          [{ allowed := KeyEnabled s.cached.channelInfo.multiKeyStatusList, index := i }] :=
      turns_append
    refine ⟨?_, ?_, ?_, ?_, ?_, ?_, ?_, good.unbatched⟩
    · intro place uses
      cases place with
      | cache => exact copy.setPollingIndex _
      | store => exact good.copies .store uses
    · intro place
      cases place with
      | cache => exact (good.statuses .cache).trans (replays .cache).symm
      | store => exact (good.statuses .store).trans (replays .store).symm
    · intro other
      refine (good.stages other).frame (fun _ holds => ⟨holds, rfl⟩)
        (fun _ holds => ⟨holds, rfl⟩) ?_
      intro fresh
      rw [cached] at fresh
      cases fresh
    · have isLog : s.log ++ [.read call, .returned call s.cached.channelInfo.multiKeyStatusList i] =
            (s.log ++ [.read call]) ++ [.returned call
              s.cached.channelInfo.multiKeyStatusList i] := by
        rw [List.append_assoc]
        rfl
      have returns : start.Returns cfg (s.log ++ [.read call]) :=
        good.returns.quiet rfl
      dsimp only [ChannelWrites.note]
      rw [isLog]
      refine returns.snoc ?_
      rintro _ _ _ same
      cases same
      rw [isPlace, replay_append]
      refine ⟨?_, ?_⟩
      · exact (Function.update_self _ _ _).trans (congrArg some (good.statuses .cache).symm)
      · intro other key isKey isOther
        exact (copy.consistent i other key isKey isOther).mp enabled
    · dsimp only [ChannelWrites.note]
      rw [isCount, isTurns]
      exact cyclic
    · dsimp only [ChannelWrites.note]
      rw [isCount, isTurns, isPlace]
      exact cursor
    · have isIncrements : increments (s.log ++ [.read call, .returned call
          s.cached.channelInfo.multiKeyStatusList i]) = increments s.log := by
        rw [increments_append]
        exact add_zero _
      dsimp only [ChannelWrites.note]
      rw [isIncrements]
      exact good.quota
  | originalKey | noKeysAvailable | noEnabledKeys | readFailed => exact good

theorem ChannelWrites.Good.pollCopy {reads : Bool} (fresh : cfg.memoryCacheEnabled = false)
    (isFree : s.pollingLock = none) (isStage : s.stages call = .chosen chan) :
    start.Good cfg (s.pollCopy cfg call draw reads chan) := by
  have known := good.stages call
  rw [isStage] at known
  rcases known with ⟨_, copy, readsAs⟩
  simp only [ChannelWrites.pollCopy]
  rcases isOutcome : chan.getNextEnabledKey cfg.parseArray
    (if reads then some s.row.channelInfo.multiKeyPollingIndex else none) draw with
      ⟨result, changed⟩
  cases result with
  | key _ =>
    rcases getNextEnabledKey_polling copy.isMultiKey copy.isPolling isOutcome with
      ⟨index, gives, first, rfl⟩
    have isIndex : index = s.row.channelInfo.multiKeyPollingIndex := by
      split at gives
      · exact (Option.some.inj gives).symm
      · cases gives
    rw [copy.getKeys] at first ⊢
    rw [isIndex] at first
    dsimp only
    rw [if_pos copy.isPolling]
    refine good.frame rfl rfl rfl rfl rfl (good.stagesOf _ rfl ?_ ?_ ?_ ?_)
    · exact ⟨fresh, copy.setPollingIndex _, readsAs, rfl, first, rfl⟩
    · intro other _ _ holds
      rw [isFree] at holds
      cases holds
    · exact fun _ _ _ holds => ⟨holds, rfl⟩
    · exact fun _ _ _ => rfl
  | originalKey | noKeysAvailable | noEnabledKeys | readFailed => exact good.setStage trivial

/-- The save of the polling index. -/
theorem ChannelWrites.Good.saveChannelInfo {saves : Bool}
    (care : WriteAction.Careful cfg s (.saveChannelInfo call saves)) :
    start.Good cfg (s.next cfg (.saveChannelInfo call saves)) := by
  simp only [ChannelWrites.next]
  split
  next chan i isStage =>
    have known := good.stages call
    rw [isStage] at known
    rcases known with ⟨fresh, copy, readsAs, holds, first, isIndex⟩
    rcases care chan i isStage with ⟨rfl, sameList⟩
    have isPlace := place_of_uncached fresh
    have rowCopy : IsCopy cfg.parseArray start.row s.row :=
      good.copies .store (uses_store cfg)
    have isCount : (start.keys cfg cfg.place).length = (start.keys cfg .store).length := by
      rw [isPlace]
    have isIndexOf : (s.copy cfg.place).channelInfo.multiKeyPollingIndex =
        s.row.channelInfo.multiKeyPollingIndex := by
      rw [isPlace]
      rfl
    rw [← isIndexOf] at first
    rcases good.turn isCount first with ⟨cyclic, cursor⟩
    rcases first with ⟨_, _, _, enabled, _⟩
    have replays : ∀ place, Channels.replay place (start.copy place).channelInfo.multiKeyStatusList
        (s.log ++ [.returned call chan.channelInfo.multiKeyStatusList i]) = start.replay s place :=
      fun _ => replay_append
    rw [if_pos rfl]
    refine ⟨?_, ?_, ?_, ?_, ?_, ?_, ?_, good.unbatched⟩
    · intro place uses
      cases place with
      | cache => exact good.copies .cache uses
      | store =>
        exact ⟨copy.isMultiKey, copy.isPolling, rowCopy.key, rowCopy.keys, copy.consistent⟩
    · intro place
      rw [ChannelWrites.replay]
      cases place with
      | cache => exact (good.statuses .cache).trans (congrArg _ (replays .cache).symm)
      | store =>
        refine (sameList.symm.trans (good.statuses .store)).trans ?_
        exact congrArg _ (replays .store).symm
    · refine good.stagesOf .idle rfl trivial ?_ ?_ ?_
      · intro other apart _ otherHolds
        rw [holds, Option.some.injEq] at otherHolds
        exact absurd otherHolds.symm apart
      · intro other _ cached
        rw [fresh] at cached
        cases cached
      · exact fun other _ _ => congrFun (congrArg _ (replays .store)) other
    · refine good.returns.snoc ?_
      rintro _ _ _ same
      cases same
      rw [isPlace]
      refine ⟨readsAs, ?_⟩
      intro other key isKey isOther
      exact (copy.consistent i other key isKey isOther).mp enabled
    · dsimp only [ChannelWrites.note]
      rw [isCount, turns_returned]
      exact cyclic
    · dsimp only [ChannelWrites.note]
      rw [isCount, turns_returned, isPlace]
      exact (congrArg _ isIndex).trans cursor
    · dsimp only [ChannelWrites.note]
      rw [increments_snoc]
      exact good.quota.trans (congrArg _ (add_zero _).symm)
  · exact good

theorem ChannelWrites.Good.updateChannelStatus
    (care : WriteAction.Careful cfg s (.updateChannelStatus call update)) :
    start.Good cfg (s.next cfg (.updateChannelStatus call update)) := by
  have once : (start.keys cfg .store).count update.usingKey ≤ 1 := by
    rw [ChannelWrites.keys, ← (good.copies .store (uses_store cfg)).getKeys]
    exact care .store (uses_store cfg)
  simp only [ChannelWrites.next]
  split
  · split
    next cached =>
      have copy : IsCopy cfg.parseArray start.cached s.cached :=
        good.copies .cache (.inl cached)
      have onceCached : (start.cached.getKeys cfg.parseArray).count update.usingKey ≤ 1 := by
        rw [← copy.getKeys]
        exact care .cache (.inl cached)
      have updates : update.updateCached cfg.parseArray s.cached =
          some (update.updateRow cfg.parseArray s.cached) := by
        rw [StatusUpdate.updateCached, StatusUpdate.updateRow, if_pos copy.isMultiKey,
          if_pos copy.isMultiKey]
      split
      · exact good
      next free =>
        rw [updates]
        have isFree : s.channelStatusLock = none := by simpa using free
        have kept := updateRow_kept cfg.parseArray update s.cached
        refine ⟨?_, ?_, ?_, ?_, ?_, ?_, ?_, good.unbatched⟩
        · intro place uses
          cases place with
          | cache => exact copy.updateRow onceCached
          | store => exact good.copies .store uses
        · intro place
          cases place with
          | cache => exact (replay_events update (good.statuses .cache)).symm
          | store =>
            refine (good.statuses .store).trans (congrArg Replay.statusList ?_)
            exact (replay_events_other (by decide) _ _ _ _ _).symm
        · refine good.stagesOf (.entered update) rfl ⟨fun _ => rfl, once⟩ ?_ ?_ ?_
          · exact fun _ _ _ holds => ⟨holds, rfl⟩
          · intro other _ _ holds
            rw [isFree] at holds
            cases holds
          · intro other _ fresh
            rw [cached] at fresh
            cases fresh
        · exact good.returns.events _ _ _ _
        · dsimp only [ChannelWrites.note]
          rw [turns_events]
          exact good.cyclic
        · dsimp only [ChannelWrites.note, ChannelWrites.setStage]
          rw [turns_events, ← good.cursor, place_of_cached cached]
          exact congrArg _ kept.2.2.2.2.2
        · dsimp only [ChannelWrites.note]
          rw [increments_events]
          exact good.quota
    next cacheOff =>
      exact good.setStage ⟨fun cached => absurd cached cacheOff, once⟩
  · exact good

theorem ChannelWrites.Good.getChannelById : start.Good cfg (s.next cfg (.getChannelById call)) := by
  simp only [ChannelWrites.next]
  split
  next isStage =>
    have known := good.stages call
    rw [isStage] at known
    split
    · refine good.setStage ⟨?_, known.2, good.copies .store (uses_store cfg)⟩
      exact fun cached => ⟨known.1 cached, rfl⟩
    · exact good.leave
  · exact good

theorem ChannelWrites.Good.handlerMultiKeyUpdate :
    start.Good cfg (s.next cfg (.handlerMultiKeyUpdate call)) := by
  simp only [ChannelWrites.next]
  split
  next isStage =>
    have known := good.stages call
    rw [isStage] at known
    split
    · exact good
    · exact good.setStage known
  · exact good

theorem ChannelWrites.Good.saveWithoutKey
    (care : WriteAction.Careful cfg s (.saveWithoutKey call)) :
    start.Good cfg (s.next cfg (.saveWithoutKey call)) := by
  simp only [ChannelWrites.next]
  split
  next update chan isStage =>
    split
    next saves =>
      have known := good.stages call
      rw [isStage] at known
      rcases known with ⟨held, once, copy⟩
      rcases care update chan isStage saves with ⟨sameQuota, fresh⟩
      have kept := updateRow_kept cfg.parseArray update chan
      have updated := copy.updateRow once
      have rowCopy : IsCopy cfg.parseArray start.row s.row :=
        good.copies .store (uses_store cfg)
      have sameList : s.row.channelInfo.multiKeyStatusList =
          chan.channelInfo.multiKeyStatusList := by
        cases isCached : cfg.memoryCacheEnabled with
        | true => exact (held isCached).2
        | false => exact (fresh isCached).1
      refine ⟨?_, ?_, ?_, ?_, ?_, ?_, ?_, good.unbatched⟩
      · intro place uses
        cases place with
        | cache => exact good.copies .cache uses
        | store =>
          exact ⟨updated.isMultiKey, updated.isPolling, rowCopy.key, updated.keys,
            updated.consistent⟩
      · intro place
        cases place with
        | cache =>
          refine (good.statuses .cache).trans (congrArg Replay.statusList ?_)
          exact (replay_events_other (by decide) _ _ _ _ _).symm
        | store =>
          exact (replay_events update (sameList.symm.trans (good.statuses .store))).symm
      · refine good.stagesOf .idle rfl trivial ?_ ?_ ?_
        · intro other _ uncached holds
          exact ⟨holds, kept.2.2.2.2.2.trans (fresh uncached).2.symm⟩
        · intro _ apart cached holds
          rw [(held cached).1, Option.some.injEq] at holds
          exact absurd holds.symm apart
        · intro other _ _
          exact congrFun (replay_events_reads _ _ _ _ _ _ _) other
      · exact good.returns.events _ _ _ _
      · dsimp only [ChannelWrites.note, ChannelWrites.leave, ChannelWrites.setStage]
        rw [turns_events]
        exact good.cyclic
      · dsimp only [ChannelWrites.note, ChannelWrites.leave, ChannelWrites.setStage]
        rw [turns_events, ← good.cursor]
        cases isCached : cfg.memoryCacheEnabled with
        | true =>
          rw [place_of_cached isCached]
          rfl
        | false =>
          rw [place_of_uncached isCached]
          exact congrArg _ (kept.2.2.2.2.2.trans (fresh isCached).2.symm)
      · dsimp only [ChannelWrites.note, ChannelWrites.leave, ChannelWrites.setStage]
        rw [increments_events, ← good.quota, sameQuota, ← kept.2.2.1]
        rfl
    · exact good.leave
  · exact good

/-- A step that moves quota between the row and the batches. -/
theorem ChannelWrites.Good.counters (usedQuota batched flushing : ℤ) (events : List WriteEvent)
    (quiet : events = [] ∨ ∃ quota, events = [.increment quota])
    (sum : usedQuota + batched + flushing =
      s.row.usedQuota + s.batched + s.flushing + increments events)
    (unbatched : cfg.batchUpdateEnabled = false → batched = 0 ∧ flushing = 0) :
    start.Good cfg
      { s with
        row := { s.row with usedQuota }
        batched
        flushing
        log := s.log ++ events } := by
  have replays : ∀ place, Channels.replay place
      (start.copy place).channelInfo.multiKeyStatusList (s.log ++ events) =
        start.replay s place := by
    intro _
    rw [replay_append]
    rcases quiet with rfl | ⟨quota, rfl⟩ <;> rfl
  have sameTurns : turns (s.log ++ events) = turns s.log := by
    rcases quiet with rfl | ⟨quota, rfl⟩
    · rw [List.append_nil]
    · exact turns_quiet rfl
  refine ⟨?_, ?_, ?_, ?_, ?_, ?_, ?_, unbatched⟩
  · intro place uses
    cases place with
    | cache => exact good.copies .cache uses
    | store =>
      have rowCopy : IsCopy cfg.parseArray start.row s.row := good.copies .store uses
      exact ⟨rowCopy.isMultiKey, rowCopy.isPolling, rowCopy.key, rowCopy.keys, rowCopy.consistent⟩
  · intro place
    cases place with
    | cache => exact (good.statuses .cache).trans (congrArg _ (replays .cache).symm)
    | store => exact (good.statuses .store).trans (congrArg _ (replays .store).symm)
  · intro other
    refine (good.stages other).frame (fun _ holds => ⟨holds, rfl⟩) (fun _ holds => ⟨holds, rfl⟩) ?_
    exact fun _ => congrFun (congrArg _ (replays .store)) other
  · rcases quiet with rfl | ⟨_, rfl⟩
    · rw [List.append_nil]
      exact good.returns
    · exact good.returns.quiet rfl
  · dsimp only
    rw [sameTurns]
    exact good.cyclic
  · dsimp only
    rw [sameTurns, ← good.cursor]
    cases cfg.place <;> rfl
  · dsimp only
    rw [sum, increments_append, good.quota, add_assoc]

/-- Every careful step keeps the copies, the log and the counters good. -/
theorem ChannelWrites.Good.next (action : WriteAction) (care : action.Careful cfg s) :
    start.Good cfg (s.next cfg action) := by
  cases action with
  | chooseChannel _ => exact good.chooseChannel
  | getNextEnabledKey _ _ _ =>
    simp only [ChannelWrites.next]
    split
    · exact good
    next free =>
      split
      next cached => exact good.pollCached cached
      next cacheOff =>
        split
        next isStage =>
          exact good.pollCopy (by simpa using cacheOff) (by simpa using free) isStage
        · exact good
  | saveChannelInfo _ _ => exact good.saveChannelInfo care
  | updateChannelStatus _ _ => exact good.updateChannelStatus care
  | getChannelById _ => exact good.getChannelById
  | handlerMultiKeyUpdate _ => exact good.handlerMultiKeyUpdate
  | saveWithoutKey _ => exact good.saveWithoutKey care
  | updateChannelUsedQuota quota saves =>
    have isSum : increments [.increment quota] = quota := List.sum_singleton
    simp only [ChannelWrites.next]
    split
    next batches =>
      refine good.counters s.row.usedQuota (s.batched + quota) s.flushing
        [.increment quota] (.inr ⟨quota, rfl⟩) ?_ ?_
      · rw [isSum]
        ring
      · intro unbatched
        rw [batches] at unbatched
        cases unbatched
    next notBatches =>
      have executes : saves = true := care (by simpa using notBatches)
      rw [if_pos executes]
      refine good.counters (s.row.usedQuota + quota) s.batched s.flushing
        [.increment quota] (.inr ⟨quota, rfl⟩) ?_ good.unbatched
      rw [isSum]
      ring
  | batchUpdate =>
    have moved := good.counters s.row.usedQuota 0 (s.flushing + s.batched) []
      (.inl rfl) (by simp only [increments, List.map_nil, List.sum_nil]; ring) (by
        intro unbatched
        rcases good.unbatched unbatched with ⟨noneBatched, noneFlushing⟩
        rw [noneBatched, noneFlushing]
        exact ⟨rfl, rfl⟩)
    rw [List.append_nil] at moved
    exact moved
  | writeBatch saves =>
    have executes : saves = true := care
    simp only [ChannelWrites.next]
    rw [if_pos executes]
    have moved := good.counters (s.row.usedQuota + s.flushing) s.batched 0 []
      (.inl rfl) (by simp only [increments, List.map_nil, List.sum_nil]; ring)
      (fun unbatched => ⟨(good.unbatched unbatched).1, rfl⟩)
    rw [List.append_nil] at moved
    exact moved
  | settleBillingOperation quota _ =>
    have isSum : increments [.increment quota] = quota := List.sum_singleton
    simp only [ChannelWrites.next]
    split
    · refine good.counters (s.row.usedQuota + quota) s.batched s.flushing
        [.increment quota] (.inr ⟨quota, rfl⟩) ?_ good.unbatched
      rw [isSum]
      ring
    · exact good

end

theorem ChannelWrites.Opening.good (opening : start.Opening cfg) : start.Good cfg start := by
  refine ⟨opening.copies, ?_, ?_, ?_, ?_, ?_, ?_, ?_⟩
  · intro _
    rw [ChannelWrites.replay, opening.log]
    rfl
  · intro _
    rw [opening.stages]
    trivial
  · intro _ _ _ _ _ isLog
    rw [opening.log] at isLog
    exact absurd isLog.symm (by simp)
  · rw [opening.log]
    trivial
  · rw [opening.log]
    rfl
  · rw [opening.log, opening.batched, opening.flushing]
    simp [increments]
  · exact fun _ => ⟨opening.batched, opening.flushing⟩

end Actions

end NewApi.Channels
