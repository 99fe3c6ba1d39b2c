import NewApi.Channels.Status
import NewApi.Library.RoundRobin

/-!
# The next enabled key

`GetNextEnabledKey` of a channel. A polling channel starts from the index of the cache or of the
stored row and leaves its own index behind the key it takes.
-/

namespace NewApi.Channels

open RoundRobin (FirstFrom)

def keyStatus (statusList : ℕ → Option ℤ) (i : ℕ) : ℤ :=
  (statusList i).getD channelStatusEnabled

def KeyEnabled (statusList : ℕ → Option ℤ) (i : ℕ) : Prop :=
  keyStatus statusList i = channelStatusEnabled
deriving Decidable

/-- The answers of `GetNextEnabledKey`. -/
inductive NextKey where
  | originalKey
  | noKeysAvailable
  | noEnabledKeys
  | readFailed
  | key (i : ℕ)

def enabledIndexes (statusList : ℕ → Option ℤ) (count : ℕ) : List ℕ :=
  (List.range count).filter fun i => KeyEnabled statusList i

def startIndex (count : ℕ) (pollingIndex : ℤ) : ℕ :=
  if pollingIndex < 0 ∨ count ≤ pollingIndex then 0 else pollingIndex.toNat

def nextPolled (statusList : ℕ → Option ℤ) (count start : ℕ) : Option ℕ :=
  ((List.range count).map fun step => (start + step) % count).find? fun i =>
    KeyEnabled statusList i

def Channel.setPollingIndex (chan : Channel) (i : ℤ) : Channel :=
  { chan with channelInfo := { chan.channelInfo with multiKeyPollingIndex := i } }

/-- `pollingIndex` is what `CacheGetChannelInfo` answers, if it answers; `draw` is the random
number. -/
def Channel.getNextEnabledKey (parse : String → Option (List String)) (chan : Channel)
    (pollingIndex : Option ℤ) (draw : ℕ) : NextKey × Channel :=
  if !chan.channelInfo.isMultiKey then (.originalKey, chan)
  else
    let count := (chan.getKeys parse).length
    let statusList := chan.channelInfo.multiKeyStatusList
    if count = 0 then (.noKeysAvailable, chan)
    else
      match enabledIndexes statusList count with
      | [] => (.noEnabledKeys, chan)
      | first :: rest =>
        match chan.channelInfo.multiKeyMode with
        | .random =>
          (.key ((first :: rest).getD (draw % (rest.length + 1)) first), chan)
        | .polling =>
          match pollingIndex with
          | none => (.readFailed, chan)
          | some pollingIndex =>
            match nextPolled statusList count (startIndex count pollingIndex) with
            | some i =>
              (.key i, chan.setPollingIndex ((i + 1) % count : ℕ))
            | none => (.key first, chan)
        | .unknown => (.key first, chan)

section Polling

variable {parse : String → Option (List String)} {chan changed : Channel}
  {statusList : ℕ → Option ℤ} {count start i draw : ℕ}

theorem startIndex_of_lt (inRange : i < count) : startIndex count (i : ℤ) = i := by
  rw [startIndex, if_neg (by omega), Int.toNat_natCast]

theorem startIndex_lt (index : ℤ) (pos : 0 < count) : startIndex count index < count := by
  rw [startIndex]
  split
  · exact pos
  · omega

theorem firstFrom_of_nextPolled (isNext : nextPolled statusList count start = some i) :
    FirstFrom count (KeyEnabled statusList) start i := by
  rw [nextPolled, List.find?_eq_some_iff_getElem] at isNext
  rcases isNext with ⟨enabled, step, inRound, isIndex, skipped⟩
  rw [List.length_map, List.length_range] at inRound
  rw [List.getElem_map, List.getElem_range] at isIndex
  refine ⟨step, inRound, isIndex.symm, of_decide_eq_true enabled, ?_⟩
  intro past before isEnabled
  have passed := skipped past before
  rw [List.getElem_map, List.getElem_range] at passed
  simp only [isEnabled, decide_true] at passed
  cases passed

theorem nextPolled_isSome (inRange : start < count)
    (someEnabled : enabledIndexes statusList count ≠ []) :
    ∃ i, nextPolled statusList count start = some i := by
  rcases List.exists_mem_of_ne_nil _ someEnabled with ⟨place, isPlace⟩
  rcases List.mem_filter.mp isPlace with ⟨inCount, enabled⟩
  rw [List.mem_range] at inCount
  rw [← Option.isSome_iff_exists, nextPolled, List.find?_isSome]
  refine ⟨place, ?_, enabled⟩
  rw [List.mem_map]
  by_cases behind : start ≤ place
  · refine ⟨place - start, List.mem_range.mpr (by omega), ?_⟩
    rw [Nat.add_sub_cancel' behind, Nat.mod_eq_of_lt inCount]
  · refine ⟨place + count - start, List.mem_range.mpr (by omega), ?_⟩
    rw [Nat.add_sub_cancel' (by omega), Nat.add_mod_right, Nat.mod_eq_of_lt inCount]

theorem getNextEnabledKey_polling (isMultiKey : chan.channelInfo.isMultiKey = true)
    (isPolling : chan.channelInfo.multiKeyMode = .polling) {reply : Option ℤ}
    (takes : chan.getNextEnabledKey parse reply draw = (.key i, changed)) :
    ∃ index, reply = some index ∧ FirstFrom (chan.getKeys parse).length
        (KeyEnabled chan.channelInfo.multiKeyStatusList)
        (startIndex (chan.getKeys parse).length index) i ∧ changed =
        chan.setPollingIndex ((i + 1) % (chan.getKeys parse).length : ℕ) := by
  simp only [Channel.getNextEnabledKey, isMultiKey, isPolling] at takes
  rw [if_neg (by decide)] at takes
  split at takes
  · cases takes
  next someKeys =>
    split at takes
    · cases takes
    next enabled =>
      cases reply with
      | none => cases takes
      | some index =>
        refine ⟨index, rfl, ?_⟩
        have pos := Nat.pos_of_ne_zero someKeys
        have someEnabled : enabledIndexes chan.channelInfo.multiKeyStatusList
            (chan.getKeys parse).length ≠ [] := by
          rw [enabled]
          exact List.cons_ne_nil _ _
        rcases nextPolled_isSome (startIndex_lt index pos) someEnabled with ⟨found, isFound⟩
        simp only [isFound] at takes
        cases takes
        exact ⟨firstFrom_of_nextPolled isFound, rfl⟩

end Polling

end NewApi.Channels
