import NewApi.Channels.WriteSteps

/-!
# What concurrent writes to a channel keep

`UpdateChannelStatus` saves the whole row and a polling call the whole `channel_info`, both from a
copy.
-/

namespace NewApi.Channels

open RoundRobin Transition

/-! ### The result -/

/-- What the calls on a channel keep:

* a key that is disabled, from the start or by a status update, stays so until one enables it;
* the occurrences of a key are enabled or disabled together;
* a call of `GetNextEnabledKey` returns no key that was disabled when it read the channel;
* the calls go around the enabled keys, and none that stays enabled starves;
* the used quota and what is still batched are the initial used quota and all increments. -/
structure ChannelWrites.Kept (cfg : WriteSettings) (start s : ChannelWrites) :
    Prop where
  stays_disabled : ∀ place i, ¬KeyEnabled (start.copy place).channelInfo.multiKeyStatusList i →
      WriteEvent.keyStatus place i channelStatusEnabled ∉ s.log →
        ¬KeyEnabled (s.copy place).channelInfo.multiKeyStatusList i
  disabled_stays : ∀ place past i status after, s.log = past ++ .keyStatus place i status :: after →
      status ≠ channelStatusEnabled →
        WriteEvent.keyStatus place i channelStatusEnabled ∉ after →
          ¬KeyEnabled (s.copy place).channelInfo.multiKeyStatusList i
  occurrences : ∀ place, cfg.Uses place →
    Consistent ((s.copy place).getKeys cfg.parseArray) (s.copy place).channelInfo.multiKeyStatusList
  returns : start.Returns cfg s.log
  cyclic : Cyclic (start.keys cfg cfg.place).length (start.startCursor cfg) (turns s.log)
  round : ∀ past window after, turns s.log = past ++ window ++ after →
    (start.keys cfg cfg.place).length ≤ window.length →
      ∀ i < (start.keys cfg cfg.place).length,
        (∀ turn ∈ window, turn.allowed i) → ∃ turn ∈ window, turn.index = i
  usedQuota : s.row.usedQuota + s.batched + s.flushing = start.row.usedQuota + increments s.log
  unbatched : cfg.batchUpdateEnabled = false → s.batched = 0 ∧ s.flushing = 0

section Result

variable {cfg : WriteSettings} {start goal : ChannelWrites}

theorem ChannelWrites.Good.kept (good : start.Good cfg goal) : start.Kept cfg goal := by
  refine ⟨?_, ?_, ?_, good.returns, good.cyclic, ?_, good.quota, good.unbatched⟩
  · intro _ _ isDisabled notEnabled
    rw [good.statuses]
    exact disabled_foldl isDisabled notEnabled
  · intro _ _ _ _ _ isLog isDisabled notEnabled
    rw [good.statuses, ChannelWrites.replay, isLog, replay_append, List.foldl_cons]
    refine disabled_foldl ?_ notEnabled
    simp only [Replay.next, if_true]
    rw [keyEnabled_setStatus, if_pos rfl]
    exact isDisabled
  · intro place uses
    have copy := good.copies place uses
    rw [copy.getKeys]
    exact copy.consistent
  · intro _ _ _ isTurns enough _ inRange stays
    have cyclic := good.cyclic
    rw [isTurns, List.append_assoc, cyclic_append, cyclic_append] at cyclic
    exact cyclic.2.1.round inRange enough stays

/-- In every run whose steps meet their conditions, no write to the channel is lost. -/
theorem channel_writes_kept (opening : start.Opening cfg)
    (reached : Reachable (ChannelWrites.next · cfg)
      (fun s action => action.Careful cfg s) start goal) :
    start.Kept cfg goal := by
  refine ChannelWrites.Good.kept ?_
  refine reached.invariant (fun s => start.Good cfg s) ?_ opening.good
  intro _ action careful good
  exact good.next action careful

end Result

/-! ### Examples -/

def pollingChannel : Channel where
  id := 1
  type := 1
  key := "a\nb"
  status := channelStatusEnabled
  weight := none
  models := "gpt-4o"
  group := "default"
  priority := none
  channelInfo := { isMultiKey := true, multiKeyMode := .polling }

def writeSettings : WriteSettings where
  memoryCacheEnabled := true
  batchUpdateEnabled := false
  parseArray := fun _ => none

def openingWrites : ChannelWrites where
  row := pollingChannel
  cached := pollingChannel
  channelStatusLock := none
  pollingLock := none
  stages := fun _ => .idle
  batched := 0
  flushing := 0
  log := []

theorem openingWrites_opening : openingWrites.Opening writeSettings := by
  have copy : IsCopy writeSettings.parseArray pollingChannel pollingChannel :=
    ⟨rfl, rfl, rfl, rfl, fun _ _ _ _ _ => Iff.rfl⟩
  refine ⟨fun _ => rfl, rfl, rfl, rfl, ?_⟩
  intro place _
  cases place <;> exact copy

def disableFirst : StatusUpdate where
  channelId := 1
  usingKey := "a"
  status := channelStatusAutoDisabled
  reason := "invalid key"
  now := 100
  reads := true
  saves := true

def disablingWrites : ChannelWrites :=
  ((openingWrites.next writeSettings (.updateChannelStatus 0 disableFirst)).next writeSettings
    (.getChannelById 0)).next writeSettings (.handlerMultiKeyUpdate 0)

theorem channel_writes_kept_sample :
    openingWrites.Kept writeSettings
      ((disablingWrites.next writeSettings (.saveWithoutKey 0)).next writeSettings
        (.getNextEnabledKey 1 0 true)) := by
  have once : WriteAction.Careful writeSettings openingWrites
      (.updateChannelStatus 0 disableFirst) := by
    intro place _
    cases place <;> decide
  have fresh : WriteAction.Careful writeSettings disablingWrites (.saveWithoutKey 0) := by
    intro _ _ isStage _
    have handled : disablingWrites.stages 0 = .handled disableFirst pollingChannel := rfl
    rw [handled] at isStage
    cases isStage
    exact ⟨rfl, fun uncached => by cases uncached⟩
  exact channel_writes_kept openingWrites_opening ((((((Reachable.refl openingWrites).step
    (WriteAction.updateChannelStatus 0 disableFirst) once).step (WriteAction.getChannelById 0)
    trivial).step (WriteAction.handlerMultiKeyUpdate 0) trivial).step (WriteAction.saveWithoutKey 0)
    fresh).step (WriteAction.getNextEnabledKey 1 0 true) trivial)

/-- A quota that is added between the reading and the saving of the row is lost. -/
theorem used_quota_lost :
    ¬∀ (cfg : WriteSettings) (start goal : ChannelWrites), start.Opening cfg →
      Reachable (ChannelWrites.next · cfg) Unrestricted start goal → start.Kept cfg goal := by
  intro always
  have kept := always writeSettings openingWrites _ openingWrites_opening
    ((((((Reachable.refl openingWrites).step
      (WriteAction.updateChannelStatus 0 disableFirst) trivial).step
        (WriteAction.getChannelById 0) trivial).step
          (WriteAction.handlerMultiKeyUpdate 0) trivial).step
            (WriteAction.settleBillingOperation 7 true) trivial).step
              (WriteAction.saveWithoutKey 0) trivial)
  have lost := kept.usedQuota
  revert lost
  decide

end NewApi.Channels
