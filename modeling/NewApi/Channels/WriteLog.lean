import Mathlib.Data.List.Count
import Mathlib.Data.List.NodupEquivFin
import NewApi.Channels.Writes

/-!
# Logs and copies of a channel

What a log leaves step by step, and what a status update keeps of a copy of the channel.
-/

namespace NewApi.Channels

open RoundRobin

/-! ### The log -/

section Log

variable {place : Place} {init statusList : ℕ → Option ℤ} {log events : List WriteEvent}
  {i other : ℕ} {status : ℤ}

theorem replay_append : replay place init (log ++ events) =
    events.foldl (Replay.next place) (replay place init log) :=
  List.foldl_append

theorem turns_append : turns (log ++ events) = turns log ++ turns events :=
  List.filterMap_append

theorem increments_append : increments (log ++ events) = increments log + increments events := by
  simp only [increments, List.map_append, List.sum_append]

theorem turns_quiet {event : WriteEvent} (quiet : event.turn = none) :
    turns (log ++ [event]) = turns log := by
  rw [turns_append, turns, turns, List.filterMap_cons_none quiet, List.filterMap_nil,
    List.append_nil]

theorem turns_returned (call : ℕ) (statusList : ℕ → Option ℤ) (i : ℕ) :
    turns (log ++ [.returned call statusList i]) =
      turns log ++ [{ allowed := KeyEnabled statusList, index := i }] :=
  turns_append

theorem increments_snoc (event : WriteEvent) :
    increments (log ++ [event]) = increments log + event.quota := by
  rw [increments_append]
  exact congrArg _ (List.sum_singleton)

theorem keyEnabled_setStatus : KeyEnabled (setStatus statusList i status) other ↔
    if other = i then status = channelStatusEnabled else KeyEnabled statusList other := by
  simp only [KeyEnabled, keyStatus, setStatus]
  by_cases same : other = i
  · subst same
    rw [if_pos rfl, Function.update_self]
    split
    next enabled => simp [enabled]
    · rfl
  · rw [if_neg same, Function.update_of_ne same]

theorem disabled_foldl {replay : Replay} (disabled : ¬KeyEnabled replay.statusList i)
    (notEnabled : WriteEvent.keyStatus place i channelStatusEnabled ∉ events) :
    ¬KeyEnabled (events.foldl (Replay.next place) replay).statusList i := by
  induction events generalizing replay with
  | nil => exact disabled
  | cons event _ ih =>
    rw [List.mem_cons, not_or] at notEnabled
    refine ih ?_ notEnabled.2
    cases event with
    | keyStatus _ _ _ =>
      simp only [Replay.next]
      split
      next samePlace =>
        rw [keyEnabled_setStatus]
        split
        next sameIndex =>
          rintro rfl
          exact notEnabled.1 (by rw [samePlace, sameIndex])
        · exact disabled
      · exact disabled
    | read _ | returned _ _ _ | increment _ => exact disabled

end Log

/-! ### Copies of the channel -/

section Copies

variable {parse : String → Option (List String)} {original chan : Channel}
  {update : StatusUpdate} {keys : List String} {statusList : ℕ → Option ℤ} {i : ℕ}
  {status : ℤ}

def Consistent (keys : List String) (statusList : ℕ → Option ℤ) : Prop :=
  ∀ (first two : ℕ) (key : String), keys[first]? = some key → keys[two]? = some key →
    (KeyEnabled statusList first ↔ KeyEnabled statusList two)

/-- A copy of a polling channel: its keys are the original ones, and its key statuses fit them. -/
structure IsCopy (parse : String → Option (List String)) (original chan : Channel) :
    Prop where
  isMultiKey : chan.channelInfo.isMultiKey = true
  isPolling : chan.channelInfo.multiKeyMode = .polling
  key : chan.key = original.key
  keys : chan.keys = original.keys
  consistent : Consistent (original.getKeys parse) chan.channelInfo.multiKeyStatusList

theorem IsCopy.getKeys (copy : IsCopy parse original chan) :
    chan.getKeys parse = original.getKeys parse := by
  simp only [Channel.getKeys, copy.key, copy.keys]

theorem index_eq_of_count {first two : ℕ} {key : String} (once : keys.count key ≤ 1)
    (isFirst : keys[first]? = some key) (second : keys[two]? = some key) :
    first = two := by
  rcases List.getElem?_eq_some_iff.mp isFirst with ⟨firstLt, atFirst⟩
  rcases List.getElem?_eq_some_iff.mp second with ⟨secondLt, atSecond⟩
  by_contra apart
  have twice : 2 ≤ keys.count key := by
    rw [← List.duplicate_iff_two_le_count, List.duplicate_iff_exists_distinct_get]
    rcases Nat.lt_or_gt_of_ne apart with past | after
    · exact ⟨⟨first, firstLt⟩, ⟨two, secondLt⟩, past, atFirst.symm, atSecond.symm⟩
    · exact ⟨⟨two, secondLt⟩, ⟨first, firstLt⟩, after, atSecond.symm, atFirst.symm⟩
  omega

theorem Consistent.setStatus {key : String} (valid : Consistent keys statusList)
    (once : keys.count key ≤ 1) (isKey : keys[i]? = some key) :
    Consistent keys (setStatus statusList i status) := by
  intro first two shared isFirst second
  rw [keyEnabled_setStatus, keyEnabled_setStatus]
  have together : first = i ↔ two = i := by
    constructor
    · rintro rfl
      have same : shared = key := Option.some.inj (isFirst.symm.trans isKey)
      rw [same] at second
      exact index_eq_of_count once second isKey
    · rintro rfl
      have same : shared = key := Option.some.inj (second.symm.trans isKey)
      rw [same] at isFirst
      exact index_eq_of_count once isFirst isKey
  by_cases isIndex : first = i
  · rw [if_pos isIndex, if_pos (together.mp isIndex)]
  · rw [if_neg isIndex, if_neg (fun same => isIndex (together.mpr same))]
    exact valid first two shared isFirst second

theorem setKeyStatus_list (info : ChannelInfo) (reason : String) (now : ℤ) :
    (info.setKeyStatus i status reason now).multiKeyStatusList =
      setStatus info.multiKeyStatusList i status := by
  simp only [ChannelInfo.setKeyStatus, setStatus]
  split <;> rfl

theorem setKeyStatus_kept (info : ChannelInfo) (reason : String) (now : ℤ) :
    (info.setKeyStatus i status reason now).isMultiKey = info.isMultiKey ∧
      (info.setKeyStatus i status reason now).multiKeyMode = info.multiKeyMode ∧
      (info.setKeyStatus i status reason now).multiKeyPollingIndex =
        info.multiKeyPollingIndex := by
  simp only [ChannelInfo.setKeyStatus]
  split <;> exact ⟨rfl, rfl, rfl⟩

theorem updateRow_kept (parse : String → Option (List String)) (update : StatusUpdate)
    (chan : Channel) :
    (update.updateRow parse chan).key = chan.key ∧
      (update.updateRow parse chan).keys = chan.keys ∧
      (update.updateRow parse chan).usedQuota = chan.usedQuota ∧
      (update.updateRow parse chan).channelInfo.isMultiKey = chan.channelInfo.isMultiKey ∧
      (update.updateRow parse chan).channelInfo.multiKeyMode = chan.channelInfo.multiKeyMode ∧
      (update.updateRow parse chan).channelInfo.multiKeyPollingIndex =
        chan.channelInfo.multiKeyPollingIndex := by
  simp only [StatusUpdate.updateRow, handlerMultiKeyUpdate]
  split
  · split
    · exact ⟨rfl, rfl, rfl, rfl, rfl, rfl⟩
    · split
      · split <;> exact ⟨rfl, rfl, rfl, rfl, rfl, rfl⟩
      · split
        · exact ⟨rfl, rfl, rfl, setKeyStatus_kept _ _ _⟩
        · split <;> exact ⟨rfl, rfl, rfl, setKeyStatus_kept _ _ _⟩
  · exact ⟨rfl, rfl, rfl, rfl, rfl, rfl⟩

theorem updateRow_list (update : StatusUpdate) (chan : Channel) :
    (update.updateRow parse chan).channelInfo.multiKeyStatusList =
      match update.changedKey parse chan with
      | some i => setStatus chan.channelInfo.multiKeyStatusList i update.status
      | none => chan.channelInfo.multiKeyStatusList := by
  simp only [StatusUpdate.updateRow, StatusUpdate.changedKey, handlerMultiKeyUpdate]
  split
  · split
    next noKeys =>
      rw [noKeys]
      rfl
    · split
      next notFound =>
        rw [notFound]
        split <;> rfl
      next found =>
        rw [found]
        simp only
        split
        · exact setKeyStatus_list _ _ _
        · split <;> exact setKeyStatus_list _ _ _
  · rfl

theorem getElem?_of_changedKey (isChanged : update.changedKey parse chan = some i) :
    (chan.getKeys parse)[i]? = some update.usingKey := by
  simp only [StatusUpdate.changedKey] at isChanged
  split at isChanged
  · rcases List.idxOf?_eq_some_iff.mp isChanged with ⟨inRange, isKey, _⟩
    rw [List.getElem?_eq_getElem inRange]
    simpa using isKey
  · cases isChanged

theorem updateRow_consistent (valid : Consistent (chan.getKeys parse)
      chan.channelInfo.multiKeyStatusList)
    (once : (chan.getKeys parse).count update.usingKey ≤ 1) :
    Consistent (chan.getKeys parse)
      (update.updateRow parse chan).channelInfo.multiKeyStatusList := by
  rw [updateRow_list]
  split
  next isChanged => exact valid.setStatus once (getElem?_of_changedKey isChanged)
  · exact valid

theorem IsCopy.updateRow (copy : IsCopy parse original chan)
    (once : (original.getKeys parse).count update.usingKey ≤ 1) :
    IsCopy parse original (update.updateRow parse chan) := by
  rcases updateRow_kept parse update chan with
    ⟨sameKey, sameKeys, _, sameMulti, sameMode, _⟩
  refine ⟨sameMulti.trans copy.isMultiKey, sameMode.trans copy.isPolling,
    sameKey.trans copy.key, sameKeys.trans copy.keys, ?_⟩
  rw [← copy.getKeys] at once ⊢
  refine updateRow_consistent ?_ once
  rw [copy.getKeys]
  exact copy.consistent

theorem IsCopy.setPollingIndex (copy : IsCopy parse original chan) (index : ℤ) :
    IsCopy parse original (chan.setPollingIndex index) :=
  ⟨copy.isMultiKey, copy.isPolling, copy.key, copy.keys, copy.consistent⟩

end Copies

end NewApi.Channels
