import NewApi.Channels.Agreement
import NewApi.Library.Transition

/-!
# Channel status in the cache and in the tables

`UpdateChannelStatus` changes the cached channel first and then the stored row, each from its own
copy.
-/

namespace NewApi.Channels

open Relational Transition Table
open NewApi.Channels renaming channelStatusEnabled → statusEnabled

def hasEnabledMultiKey (keys : List String) (statusList : ℕ → Option ℤ) : Bool :=
  (List.range keys.length).any fun i =>
    match statusList i with
    | none => true
    | some status => status = statusEnabled

def ChannelInfo.setKeyStatus (info : ChannelInfo) (keyIndex : ℕ) (status : ℤ) (reason : String)
    (now : ℤ) : ChannelInfo :=
  if status = statusEnabled then
    { info with
      multiKeyStatusList := Function.update info.multiKeyStatusList keyIndex none }
  else
    { info with
      multiKeyStatusList := Function.update info.multiKeyStatusList keyIndex (some status)
      multiKeyDisabledReason := Function.update info.multiKeyDisabledReason keyIndex (some reason)
      multiKeyDisabledTime := Function.update info.multiKeyDisabledTime keyIndex (some now) }

def noteStatus (reason : String) (now : ℤ) : OtherInfo :=
  { statusReason := some reason, statusTime := some now }

section Functions

variable (parse : String → Option (List String))

def handlerMultiKeyUpdate (chan : Channel) (usingKey : String) (status : ℤ) (reason : String)
    (now : ℤ) : Channel :=
  let keys := chan.getKeys parse
  if keys = [] then { chan with status }
  else
    match keys.idxOf? usingKey with
    | none =>
      if usingKey ≠ "" then chan
      else { chan with status, otherInfo := noteStatus reason now }
    | some keyIndex =>
      let channelInfo := chan.channelInfo.setKeyStatus keyIndex status reason now
      if !hasEnabledMultiKey keys channelInfo.multiKeyStatusList then
        { chan with
          channelInfo
          status := channelStatusAutoDisabled
          otherInfo := noteStatus "All keys are disabled" now }
      else if status = statusEnabled then
        { chan with channelInfo, status := statusEnabled }
      else { chan with channelInfo }

namespace ChannelCache

variable (cache : ChannelCache)

def delist (id : ℤ) : ChannelCache :=
  { cache with
    group2model2channels :=
      { cache.group2model2channels with
        lists := fun group model => (cache.group2model2channels.lists group model).erase id } }

def setChannel (id : ℤ) (chan : Channel) : ChannelCache :=
  { cache with channelsIDM := Function.update cache.channelsIDM id (some chan) }

def cacheUpdateChannelStatus (id status : ℤ) : ChannelCache :=
  let updated :=
    match cache.channelsIDM id with
    | some chan => cache.setChannel id { chan with status }
    | none => cache
  if status ≠ statusEnabled then updated.delist id else updated

def cacheUpdateChannel (chan : Channel) : ChannelCache :=
  { cache.setChannel chan.id chan with
    channel2advancedCustomConfig :=
      Function.update cache.channel2advancedCustomConfig chan.id chan.advancedCustomConfig }

end ChannelCache

/-- The arguments of `UpdateChannelStatus`, the clock, and whether the database answers. -/
structure StatusUpdate where
  channelId : ℤ
  usingKey : String
  status : ℤ
  reason : String
  now : ℤ
  (reads saves : Bool)

/-- The tables of channels and abilities, and the cache. -/
structure ChannelSystem where
  store : ChannelStore
  cache : ChannelCache

/-- The cache after its part of `UpdateChannelStatus`; `none` when the call ends there. -/
def StatusUpdate.updateCache (update : StatusUpdate) (cache : ChannelCache) :
    Option ChannelCache :=
  match cache.channelsIDM update.channelId with
  | none => none
  | some channelCache =>
    if channelCache.channelInfo.isMultiKey then
      let updated := handlerMultiKeyUpdate parse channelCache update.usingKey update.status
        update.reason update.now
      let cached := cache.setChannel update.channelId updated
      if channelCache.status ≠ updated.status then
        some (cached.cacheUpdateChannelStatus update.channelId updated.status)
      else some cached
    else if channelCache.status = update.status then none
    else some (cache.cacheUpdateChannelStatus update.channelId update.status)

/-- The row that `UpdateChannelStatus` saves. -/
def StatusUpdate.updateRow (update : StatusUpdate) (chan : Channel) : Channel :=
  if chan.channelInfo.isMultiKey then
    handlerMultiKeyUpdate parse chan update.usingKey update.status update.reason update.now
  else
    { chan with
      status := update.status
      otherInfo := noteStatus update.reason update.now }

def updateAbilityStatus (channelId : ℤ) (enabled : Bool) (abilities : List Ability) :
    List Ability :=
  abilities.map fun ability =>
    if ability.channelId = channelId then { ability with enabled } else ability

def Channel.saveWithoutKey (chan : Channel) : RowUpdate Channel where
  apply row := { chan with id := row.id, key := row.key }
  key_apply _ := rfl

/-- The tables after their part of `UpdateChannelStatus`, and whether it succeeded. The abilities
follow a changed status even when the row is not saved. -/
def StatusUpdate.updateStore (update : StatusUpdate) (store : ChannelStore) :
    Bool × ChannelStore :=
  match if update.reads then store.channels.find? update.channelId else none with
  | none => (false, store)
  | some chan =>
    if chan.status = update.status then (false, store)
    else
      let updated := update.updateRow parse chan
      let abilities :=
        if chan.channelInfo.isMultiKey = true ∧ chan.status = updated.status then
          store.abilities
        else
          updateAbilityStatus update.channelId (update.status = statusEnabled) store.abilities
      if update.saves then
        (true, { channels := store.channels.modify update.channelId updated.saveWithoutKey
                 abilities })
      else (false, { store with abilities })

namespace ChannelSystem

variable (s : ChannelSystem)

def updateChannelStatus (update : StatusUpdate) : Bool × ChannelSystem :=
  match update.updateCache parse s.cache with
  | none => (false, s)
  | some cache =>
    let out := update.updateStore parse s.store
    (out.1, { store := out.2, cache })

end ChannelSystem

/-- The operations that change the cache. -/
inductive CacheAction where
  | initChannelCache
  | updateChannelStatus (update : StatusUpdate)
  | cacheUpdateChannelStatus (id status : ℤ)
  | cacheUpdateChannel (chan : Channel)

/-- A panic of `InitChannelCache` comes before the cache is replaced. -/
def ChannelSystem.next (s : ChannelSystem) : CacheAction → ChannelSystem
  | .initChannelCache =>
    match s.store.initChannelCache parse s.cache.channelsIDM with
    | some cache => { s with cache }
    | none => s
  | .updateChannelStatus update => (s.updateChannelStatus parse update).2
  | .cacheUpdateChannelStatus id status =>
    { s with cache := s.cache.cacheUpdateChannelStatus id status }
  | .cacheUpdateChannel chan =>
    { s with cache := s.cache.cacheUpdateChannel chan }

end Functions

/-! ### What the cache reflects -/

/-- The lists hold the enabled channels, each once under each of its groups and models, and in
the order of their priorities. -/
structure ChannelCache.Reflects (cache : ChannelCache) : Prop where
  enabled : ∀ group model, ∀ id ∈ cache.group2model2channels.lists group model,
    ∃ chan, cache.channelsIDM id = some chan ∧ chan.status = statusEnabled
  listed : ∀ id chan, cache.channelsIDM id = some chan →
    chan.status = statusEnabled → ∀ group ∈ chan.getGroups,
      ∀ model ∈ chan.getModels, (cache.group2model2channels.lists group model).count id = 1
  nodup : ∀ group model, (cache.group2model2channels.lists group model).Nodup
  sorted : ∀ group model, (cache.group2model2channels.lists group model).Pairwise fun left right =>
    ∀ first two, cache.channelsIDM left = some first → cache.channelsIDM right = some two →
      two.getPriority ≤ first.getPriority

/-- Each group and each model stands once in its column, without spaces. -/
def Channel.Tidy (chan : Channel) : Prop :=
  ((Text.splitComma chan.group).Nodup ∧
      ∀ group ∈ chan.getGroups, group ∈ Text.splitComma chan.group) ∧
    (Text.splitComma chan.models).Nodup ∧
      ∀ model ∈ chan.getModels, model ∈ Text.splitComma chan.models
deriving Decidable

def Channel.SameRoute (left right : Channel) : Prop :=
  left.status = right.status ∧ left.getGroups = right.getGroups ∧
    left.getModels = right.getModels ∧ left.getPriority = right.getPriority

def Channel.Routable (chan : Channel) : Prop :=
  chan.getGroups ≠ [] ∧ chan.getModels ≠ []

def Channel.Routed (chan : Channel) : Prop :=
  chan.status = statusEnabled ∧ chan.Routable

/-- The two copies of a channel, as far as a status update depends on them. -/
def Channel.SameKeys (parse : String → Option (List String)) (cached stored : Channel) :
    Prop :=
  cached.channelInfo.isMultiKey = stored.channelInfo.isMultiKey ∧
    cached.channelInfo.multiKeyStatusList = stored.channelInfo.multiKeyStatusList ∧
    (cached.channelInfo.isMultiKey = true → cached.status = stored.status ∧
      cached.getKeys parse = stored.getKeys parse)

/-- A multi-key update that finds neither its key nor a reason to change the channel. -/
def StatusUpdate.Misses (parse : String → Option (List String)) (update : StatusUpdate)
    (chan : Channel) : Prop :=
  chan.channelInfo.isMultiKey = true ∧ chan.getKeys parse ≠ [] ∧
    update.usingKey ≠ "" ∧ update.usingKey ∉ chan.getKeys parse

/-- The conditions under which the operations keep the lists:

* the cache is filled from tidy channels, unless the filling is a panic;
* a channel that belongs into a list is enabled only if its cached status is enabled already;
* a cached channel is replaced by one of the same status, groups, models and priority, or by one
  that belongs into no list while the cached one is not enabled. -/
def CacheAction.Careful (parse : String → Option (List String)) (s : ChannelSystem) :
    CacheAction → Prop
  | .initChannelCache =>
    s.store.GroupsKnown →
      ∀ chan ∈ s.store.channels.rows, chan.status = statusEnabled →
        chan.Tidy
  | .updateChannelStatus update =>
    update.status = statusEnabled →
      ∀ cached ∈ s.cache.channelsIDM update.channelId,
        cached.status = statusEnabled ∨ update.Misses parse cached ∨
          ¬cached.Routable
  | .cacheUpdateChannelStatus id status =>
    status = statusEnabled →
      ∀ cached ∈ s.cache.channelsIDM id, cached.status = statusEnabled ∨
          ¬cached.Routable
  | .cacheUpdateChannel chan =>
    (∃ cached ∈ s.cache.channelsIDM chan.id, chan.SameRoute cached) ∨
      (¬chan.Routed ∧
        ∀ cached ∈ s.cache.channelsIDM chan.id, cached.status ≠ statusEnabled)

/-! ### The operations keep the lists -/

section Lists

variable {cache changed : ChannelCache} {id : ℤ} {chan cached : Channel}

theorem ChannelCache.setChannel_self :
    (cache.setChannel id chan).channelsIDM id = some chan :=
  Function.update_self _ _ _

theorem ChannelCache.setChannel_setChannel :
    (cache.setChannel id cached).setChannel id chan = cache.setChannel id chan := by
  simp only [ChannelCache.setChannel, Function.update_idem]

variable (reflects : cache.Reflects)

include reflects

theorem ChannelCache.Reflects.delisted (id : ℤ)
    (others : ∀ other, other ≠ id → changed.channelsIDM other = cache.channelsIDM other)
    (lists : ∀ group model, changed.group2model2channels.lists group model =
      (cache.group2model2channels.lists group model).erase id)
    (unrouted : ∀ chan ∈ changed.channelsIDM id, ¬chan.Routed) : changed.Reflects := by
  have remaining : ∀ group model, ∀ other ∈ changed.group2model2channels.lists group model,
      other ≠ id ∧ other ∈ cache.group2model2channels.lists group model := by
    intro group model _ listed
    rw [lists, (reflects.nodup group model).mem_erase_iff] at listed
    exact listed
  refine ⟨?_, ?_, ?_, ?_⟩
  · intro group model other listed
    rcases remaining group model other listed with ⟨apart, wasListed⟩
    rw [others other apart]
    exact reflects.enabled group model other wasListed
  · intro other chan isRow enabled group isGroup model isModel
    have apart : other ≠ id := by
      rintro rfl
      exact unrouted chan isRow ⟨enabled, List.ne_nil_of_mem isGroup, List.ne_nil_of_mem isModel⟩
    rw [lists, List.count_erase_of_ne apart]
    rw [others other apart] at isRow
    exact reflects.listed other chan isRow enabled group isGroup model isModel
  · intro group model
    rw [lists]
    exact (reflects.nodup group model).erase id
  · intro group model
    have sorted := (reflects.sorted group model).sublist (List.erase_sublist (a := id))
    rw [← lists] at sorted
    refine sorted.imp_of_mem ?_
    intro left right leftListed rightListed ordered first two isFirst second
    rw [others left (remaining group model left leftListed).1] at isFirst
    rw [others right (remaining group model right rightListed).1] at second
    exact ordered first two isFirst second

theorem ChannelCache.Reflects.not_listed
    (disabled : ∀ cached ∈ cache.channelsIDM id, cached.status ≠ statusEnabled)
    (group model : String) : id ∉ cache.group2model2channels.lists group model := by
  intro listed
  rcases reflects.enabled group model id listed with ⟨cached, isCached, enabled⟩
  exact disabled cached isCached enabled

theorem ChannelCache.Reflects.setUnrouted
    (disabled : ∀ cached ∈ cache.channelsIDM id, cached.status ≠ statusEnabled)
    (unrouted : ¬chan.Routed) : (cache.setChannel id chan).Reflects := by
  refine reflects.delisted id ?_ ?_ ?_
  · intro _ apart
    exact Function.update_of_ne apart _ _
  · intro group model
    exact (List.erase_of_not_mem (reflects.not_listed disabled group model)).symm
  · intro new isNew
    have same : chan = new := by
      simpa only [ChannelCache.setChannel, Function.update_self, Option.mem_some_iff] using isNew
    rw [← same]
    exact unrouted

theorem ChannelCache.Reflects.setSameRoute
    (isCached : cache.channelsIDM id = some cached) (same : chan.SameRoute cached) :
    (cache.setChannel id chan).Reflects := by
  rcases same with ⟨sameStatus, sameGroups, sameModels, sameRank⟩
  have looked : ∀ other new, (cache.setChannel id chan).channelsIDM other = some new →
      ∃ old, cache.channelsIDM other = some old ∧ new.SameRoute old := by
    intro other new isNew
    by_cases isId : other = id
    · subst isId
      simp only [ChannelCache.setChannel, Function.update_self, Option.some.injEq] at isNew
      subst isNew
      exact ⟨cached, isCached, sameStatus, sameGroups, sameModels, sameRank⟩
    · simp only [ChannelCache.setChannel, Function.update_of_ne isId] at isNew
      exact ⟨new, isNew, rfl, rfl, rfl, rfl⟩
  refine ⟨?_, ?_, reflects.nodup, ?_⟩
  · intro group model other listed
    rcases reflects.enabled group model other listed with ⟨old, isOld, enabled⟩
    by_cases isId : other = id
    · subst isId
      rw [isCached, Option.some.injEq] at isOld
      subst isOld
      exact ⟨chan, Function.update_self _ _ _, sameStatus.trans enabled⟩
    · exact ⟨old, (Function.update_of_ne isId _ _).trans isOld, enabled⟩
  · intro other new isNew enabled group isGroup model isModel
    rcases looked other new isNew with ⟨old, isOld, oldStatus, oldGroups, oldModels, _⟩
    rw [oldGroups] at isGroup
    rw [oldModels] at isModel
    exact reflects.listed other old isOld (oldStatus ▸ enabled) group isGroup model isModel
  · intro group model
    refine (reflects.sorted group model).imp ?_
    intro left right ordered first two isFirst second
    rcases looked left first isFirst with ⟨oldFirst, isOldFirst, _, _, _, firstPriority⟩
    rcases looked right two second with ⟨oldSecond, isOldSecond, _, _, _, secondPriority⟩
    rw [firstPriority, secondPriority]
    exact ordered oldFirst oldSecond isOldFirst isOldSecond

theorem ChannelCache.Reflects.disabled (isDisabled : chan.status ≠ statusEnabled) :
    ((cache.setChannel id chan).delist id).Reflects := by
  refine reflects.delisted id ?_ (fun _ _ => rfl) ?_
  · intro _ apart
    exact Function.update_of_ne apart _ _
  · intro new isNew isRouted
    have same : chan = new := by
      simpa only [ChannelCache.delist, ChannelCache.setChannel, Function.update_self,
        Option.mem_some_iff] using isNew
    rw [← same] at isRouted
    exact isDisabled isRouted.1

theorem ChannelCache.Reflects.cacheUpdateChannelStatus {status : ℤ}
    (care : status = statusEnabled → ∀ cached ∈ cache.channelsIDM id,
      cached.status = statusEnabled ∨ ¬cached.Routable) :
    (cache.cacheUpdateChannelStatus id status).Reflects := by
  simp only [ChannelCache.cacheUpdateChannelStatus]
  by_cases enabled : status = statusEnabled
  · subst enabled
    rw [if_neg (not_not.mpr rfl)]
    split
    next cached isCached =>
      by_cases wasEnabled : cached.status = statusEnabled
      · exact reflects.setSameRoute isCached ⟨wasEnabled.symm, rfl, rfl, rfl⟩
      · have unrouted := (care rfl cached isCached).resolve_left wasEnabled
        refine reflects.setUnrouted ?_ fun isRouted => unrouted isRouted.2
        intro _ isOther
        rw [isCached, Option.mem_some_iff] at isOther
        rw [← isOther]
        exact wasEnabled
    · exact reflects
  · rw [if_pos enabled]
    split
    · exact reflects.disabled enabled
    next notCached =>
      refine reflects.delisted id (fun _ _ => rfl) (fun _ _ => rfl) ?_
      intro _ isOther
      simp only [ChannelCache.delist, notCached] at isOther
      cases isOther

theorem ChannelCache.Reflects.cacheUpdateChannel
    (care : (∃ cached ∈ cache.channelsIDM chan.id, chan.SameRoute cached) ∨
      (¬chan.Routed ∧
        ∀ cached ∈ cache.channelsIDM chan.id, cached.status ≠ statusEnabled)) :
    (cache.cacheUpdateChannel chan).Reflects := by
  have set : (cache.setChannel chan.id chan).Reflects := by
    rcases care with ⟨_, isCached, same⟩ | ⟨unrouted, isDisabled⟩
    · exact reflects.setSameRoute isCached same
    · exact reflects.setUnrouted isDisabled unrouted
  exact ⟨set.enabled, set.listed, set.nodup, set.sorted⟩

end Lists

/-! ### Keys of a channel -/

section Keys

variable {parse : String → Option (List String)} {chan cached stored : Channel}
  {usingKey reason : String} {status now : ℤ}

theorem handlerMultiKeyUpdate_route (parse : String → Option (List String))
    (chan : Channel) (usingKey : String) (status : ℤ) (reason : String) (now : ℤ) :
    (handlerMultiKeyUpdate parse chan usingKey status reason now).getGroups = chan.getGroups ∧
      (handlerMultiKeyUpdate parse chan usingKey status reason now).getModels = chan.getModels ∧
      (handlerMultiKeyUpdate parse chan usingKey status reason now).getPriority =
        chan.getPriority := by
  simp only [handlerMultiKeyUpdate]
  split
  · exact ⟨rfl, rfl, rfl⟩
  · split
    · split <;> exact ⟨rfl, rfl, rfl⟩
    · split
      · exact ⟨rfl, rfl, rfl⟩
      · split <;> exact ⟨rfl, rfl, rfl⟩

theorem handlerMultiKeyUpdate_enabled (parse : String → Option (List String))
    (chan : Channel) (usingKey : String) (status : ℤ) (reason : String) (now : ℤ)
    (enabled : (handlerMultiKeyUpdate parse chan usingKey status reason now).status =
      statusEnabled) :
    chan.status = statusEnabled ∨
      status = statusEnabled ∧ (chan.getKeys parse = [] ∨ usingKey = "" ∨
        usingKey ∈ chan.getKeys parse) := by
  simp only [handlerMultiKeyUpdate] at enabled
  split at enabled
  next noKeys => exact .inr ⟨enabled, .inl noKeys⟩
  · split at enabled
    · split at enabled
      · exact .inl enabled
      next isEmpty => exact .inr ⟨enabled, .inr (.inl (not_not.mp isEmpty))⟩
    next found =>
      have isKey : usingKey ∈ chan.getKeys parse := by
        rw [← List.isSome_idxOf?, found]
        rfl
      split at enabled
      · have never : channelStatusAutoDisabled = statusEnabled := enabled
        cases never
      · split at enabled
        next asked => exact .inr ⟨asked, .inr (.inr isKey)⟩
        · exact .inl enabled

theorem handlerMultiKeyUpdate_congr (sameKeys : cached.getKeys parse = stored.getKeys parse)
    (sameStatus : cached.status = stored.status)
    (sameList : cached.channelInfo.multiKeyStatusList = stored.channelInfo.multiKeyStatusList) :
    (handlerMultiKeyUpdate parse cached usingKey status reason now).status =
        (handlerMultiKeyUpdate parse stored usingKey status reason now).status ∧
      (handlerMultiKeyUpdate parse cached usingKey status reason
          now).channelInfo.multiKeyStatusList =
        (handlerMultiKeyUpdate parse stored usingKey status reason
          now).channelInfo.multiKeyStatusList := by
  have sameEntries : ∀ i, (cached.channelInfo.setKeyStatus i status reason now).multiKeyStatusList =
        (stored.channelInfo.setKeyStatus i status reason now).multiKeyStatusList := by
    intro _
    simp only [ChannelInfo.setKeyStatus, sameList]
    split <;> rfl
  simp only [handlerMultiKeyUpdate, sameKeys, sameEntries]
  split
  · exact ⟨rfl, sameList⟩
  · split
    · split
      · exact ⟨sameStatus, sameList⟩
      · exact ⟨rfl, sameList⟩
    · split
      · exact ⟨rfl, sameEntries _⟩
      · split
        · exact ⟨rfl, sameEntries _⟩
        · exact ⟨sameStatus, sameEntries _⟩

end Keys

/-! ### The run -/

section Run

variable {parse : String → Option (List String)} {start goal s : ChannelSystem}
  {cache filled : ChannelCache} {store : ChannelStore} {update : StatusUpdate}
  {old : ℤ → Option Channel} {row : Channel}

/-- An update of a status keeps the lists unless it enables a channel. -/
theorem ChannelCache.Reflects.updateCache (reflects : cache.Reflects)
    (care : update.status = statusEnabled → ∀ cached ∈ cache.channelsIDM update.channelId,
        cached.status = statusEnabled ∨ update.Misses parse cached ∨ ¬cached.Routable)
    (updates : update.updateCache parse cache = some filled) : filled.Reflects := by
  simp only [StatusUpdate.updateCache] at updates
  split at updates
  · cases updates
  next cached isCached =>
    split at updates
    next =>
      have route := handlerMultiKeyUpdate_route parse cached update.usingKey
        update.status update.reason update.now
      have enabled := handlerMultiKeyUpdate_enabled parse cached update.usingKey
        update.status update.reason update.now
      generalize handlerMultiKeyUpdate parse cached update.usingKey update.status
        update.reason update.now = updated at updates route enabled
      split at updates
      next isChanged =>
        cases updates
        by_cases isEnabled : updated.status = statusEnabled
        · have wasDisabled : cached.status ≠ statusEnabled :=
            fun wasEnabled => isChanged (wasEnabled.trans isEnabled.symm)
          have disabled : ∀ cached' ∈ cache.channelsIDM update.channelId,
              cached'.status ≠ statusEnabled := by
            intro _ isCached'
            rw [isCached, Option.mem_some_iff] at isCached'
            rw [← isCached']
            exact wasDisabled
          rcases (enabled isEnabled).resolve_left wasDisabled with ⟨asked, finds⟩
          have unrouted : ¬updated.Routed := by
            rcases care asked cached isCached with was | misses | unrouted
            · exact absurd was wasDisabled
            · rcases finds with noKeys | isEmpty | isKey
              · exact absurd noKeys misses.2.1
              · exact absurd isEmpty misses.2.2.1
              · exact absurd isKey misses.2.2.2
            · rintro ⟨_, someGroup, someModel⟩
              rw [route.1] at someGroup
              rw [route.2.1] at someModel
              exact unrouted ⟨someGroup, someModel⟩
          refine (reflects.setUnrouted disabled unrouted).cacheUpdateChannelStatus ?_
          intro _ other isOther
          simp only [ChannelCache.setChannel, Function.update_self, Option.mem_some_iff] at isOther
          rw [← isOther]
          exact .inl isEnabled
        · simp only [ChannelCache.cacheUpdateChannelStatus, ChannelCache.setChannel_self,
            ChannelCache.setChannel_setChannel]
          rw [if_pos isEnabled]
          exact reflects.disabled isEnabled
      next isUnchanged =>
        cases updates
        exact reflects.setSameRoute isCached ⟨(not_not.mp isUnchanged).symm, route⟩
    next isMultiKey =>
      split at updates
      · cases updates
      · cases updates
        refine reflects.cacheUpdateChannelStatus ?_
        intro isEnabled cached' isCached'
        rcases care isEnabled cached' isCached' with was | misses | unrouted
        · exact .inl was
        · rw [isCached, Option.mem_some_iff] at isCached'
          rw [← isCached'] at misses
          exact absurd misses.1 isMultiKey
        · exact .inr unrouted

theorem cachedChannel_sameRoute (parse : String → Option (List String)) (old : Option Channel)
    (row : Channel) :
    (cachedChannel parse old row).SameRoute row := by
  simp only [cachedChannel, keepPollingIndex]
  split
  · split
    · split <;> exact ⟨rfl, rfl, rfl, rfl⟩
    · exact ⟨rfl, rfl, rfl, rfl⟩
  · exact ⟨rfl, rfl, rfl, rfl⟩

variable (isCache : store.initChannelCache parse old = some cache)

include isCache in
theorem channelsIDM_some {id : ℤ} {chan : Channel} (isRow : cache.channelsIDM id = some chan) :
    ∃ row ∈ store.channels.rows, row.id = id ∧ chan = cachedChannel parse (old id) row := by
  rcases Option.map_eq_some_iff.mp isCache with ⟨_, _, rfl⟩
  rcases Option.map_eq_some_iff.mp isRow with ⟨row, found, rfl⟩
  exact ⟨row, mem_of_find? found, key_of_find? found, rfl⟩

theorem count_flatMap_replicate {rows : List Channel} (n : Channel → ℕ)
    (nodup : (rows.map Channel.id).Nodup) (inRows : row ∈ rows) :
    (rows.flatMap fun chan => List.replicate (n chan) chan.id).count row.id = n row := by
  induction rows with
  | nil => cases inRows
  | cons first rows ih =>
    rw [List.map_cons, List.nodup_cons] at nodup
    rw [List.flatMap_cons, List.count_append]
    rcases List.mem_cons.mp inRows with rfl | isIn
    · have others : row.id ∉ rows.flatMap fun chan =>
          List.replicate (n chan) chan.id := by
        intro listed
        rcases List.mem_flatMap.mp listed with ⟨_, inOthers, isOther⟩
        rw [(List.mem_replicate.mp isOther).2] at nodup
        exact nodup.1 (List.mem_map_of_mem inOthers)
      rw [List.count_replicate_self, List.count_eq_zero_of_not_mem others, Nat.add_zero]
    · have apart : first.id ≠ row.id := by
        intro same
        rw [same] at nodup
        exact nodup.1 (List.mem_map_of_mem isIn)
      rw [List.count_replicate, if_neg (by simpa using apart), Nat.zero_add]
      exact ih nodup.2 isIn

include isCache in
theorem count_lists (inRows : row ∈ store.channels.rows) (group model : String) :
    (cache.group2model2channels.lists group model).count row.id = row.listings group model := by
  rw [(initChannelCache_lists isCache group model).count_eq]
  exact count_flatMap_replicate _ store.channels.keys_nodup inRows

theorem Channel.Tidy.listings_le {chan : Channel} (tidy : chan.Tidy)
    (group model : String) : chan.listings group model ≤ 1 := by
  simp only [Channel.listings]
  split
  · exact Nat.mul_le_mul (List.nodup_iff_count_le_one.mp tidy.1.1 group)
      (List.nodup_iff_count_le_one.mp tidy.2.1 model)
  · exact Nat.zero_le 1

theorem Channel.Tidy.listings_eq {chan : Channel} (tidy : chan.Tidy)
    (enabled : chan.status = statusEnabled) {group model : String}
    (isGroup : group ∈ chan.getGroups) (isModel : model ∈ chan.getModels) :
    chan.listings group model = 1 := by
  rw [Channel.listings, if_pos enabled, List.count_eq_one_of_mem tidy.1.1 (tidy.1.2 group
    isGroup), List.count_eq_one_of_mem tidy.2.1 (tidy.2.2 model isModel)]

theorem pairwise_sortByPriority (store : ChannelStore) (ids : List ℤ) :
    (store.sortByPriority ids).Pairwise fun left right =>
      store.priorityOf right ≤ store.priorityOf left := by
  have total : Std.Total fun left right : ℤ => store.priorityOf left ≥ store.priorityOf right :=
    ⟨fun left right => le_total (store.priorityOf right) (store.priorityOf left)⟩
  have transitive : IsTrans ℤ fun left right =>
      store.priorityOf left ≥ store.priorityOf right :=
    ⟨fun _ _ _ first two => le_trans two first⟩
  exact List.pairwise_insertionSort _ ids

/-- The cache that is filled from tidy channels reflects them. -/
theorem reflects_initChannelCache
    (tidy : ∀ chan ∈ store.channels.rows, chan.status = statusEnabled → chan.Tidy)
    (isCache : store.initChannelCache parse old = some cache) : cache.Reflects := by
  have enabled : ∀ group model, ∀ id ∈ cache.group2model2channels.lists group model,
      ∃ row ∈ store.channels.rows, row.status = statusEnabled ∧ row.id = id := by
    intro _ _ _ isListed
    rcases (mem_lists isCache).mp isListed with ⟨row, inRows, listed, isId⟩
    simp only [Channel.listed, Bool.and_eq_true, decide_eq_true_eq] at listed
    exact ⟨row, inRows, listed.1.1, isId⟩
  refine ⟨?_, ?_, ?_, ?_⟩
  · intro group model id isListed
    rcases enabled group model id isListed with ⟨row, inRows, isEnabled, rfl⟩
    exact ⟨_, (channelsIDM_of_mem isCache inRows).1,
      (cachedChannel_sameRoute _ _ row).1.trans isEnabled⟩
  · intro _ _ isRow isEnabled _ isGroup _ isModel
    rcases channelsIDM_some isCache isRow with ⟨row, inRows, rfl, rfl⟩
    have route := cachedChannel_sameRoute parse (old row.id) row
    rw [route.1] at isEnabled
    rw [route.2.1] at isGroup
    rw [route.2.2.1] at isModel
    rw [count_lists isCache inRows]
    exact (tidy row inRows isEnabled).listings_eq isEnabled isGroup isModel
  · intro group model
    rw [List.nodup_iff_count_le_one]
    intro id
    by_cases isListed : id ∈ cache.group2model2channels.lists group model
    · rcases enabled group model id isListed with ⟨row, inRows, isEnabled, rfl⟩
      rw [count_lists isCache inRows]
      exact (tidy row inRows isEnabled).listings_le group model
    · rw [List.count_eq_zero_of_not_mem isListed]
      exact Nat.zero_le 1
  · intro group model
    have priority : ∀ id chan, cache.channelsIDM id = some chan →
        chan.getPriority = store.priorityOf id := by
      intro _ _ isRow
      rcases channelsIDM_some isCache isRow with ⟨row, inRows, rfl, rfl⟩
      have found : store.channels.find? row.id = some row := find?_of_mem inRows
      rw [(cachedChannel_sameRoute _ _ row).2.2.2, ChannelStore.priorityOf, found]
      rfl
    have sorted : (cache.group2model2channels.lists group model).Pairwise fun left right =>
        store.priorityOf right ≤ store.priorityOf left := by
      rcases Option.map_eq_some_iff.mp isCache with ⟨_, _, rfl⟩
      exact pairwise_sortByPriority store _
    refine sorted.imp ?_
    intro left right ordered first two isFirst second
    rw [priority left first isFirst, priority right two second]
    exact ordered

theorem reflects_next (action : CacheAction) (care : action.Careful parse s)
    (reflects : s.cache.Reflects) : (s.next parse action).cache.Reflects := by
  cases action with
  | initChannelCache =>
    simp only [ChannelSystem.next]
    split
    next filled isCache =>
      have known : s.store.GroupsKnown :=
        initChannelCache_isSome.mp (Option.isSome_iff_exists.mpr ⟨filled, isCache⟩)
      exact reflects_initChannelCache (care known) isCache
    · exact reflects
  | updateChannelStatus _ =>
    simp only [ChannelSystem.next, ChannelSystem.updateChannelStatus]
    split
    · exact reflects
    next updates => exact reflects.updateCache care updates
  | cacheUpdateChannelStatus _ _ => exact reflects.cacheUpdateChannelStatus care
  | cacheUpdateChannel _ => exact reflects.cacheUpdateChannel care

/-- The keys of the two copies and their mode, which a status update does not touch. -/
def Channel.KeepsKeys (after past : Channel) : Prop :=
  after.key = past.key ∧ after.keys = past.keys ∧
    after.channelInfo.isMultiKey = past.channelInfo.isMultiKey

theorem Channel.KeepsKeys.getKeys {after past : Channel} (keeps : after.KeepsKeys past) :
    after.getKeys parse = past.getKeys parse := by
  simp only [Channel.getKeys, keeps.1, keeps.2.1]

theorem updateRow_keepsKeys (update : StatusUpdate) (chan : Channel) :
    (update.updateRow parse chan).KeepsKeys chan := by
  have marked : ∀ (info : ChannelInfo) (index : ℕ) (status : ℤ) (reason : String) (now : ℤ),
      (info.setKeyStatus index status reason now).isMultiKey = info.isMultiKey := by
    intro _ _ _ _ _
    simp only [ChannelInfo.setKeyStatus]
    split <;> rfl
  simp only [StatusUpdate.updateRow, handlerMultiKeyUpdate]
  split
  next =>
    split
    · exact ⟨rfl, rfl, rfl⟩
    · split
      · split <;> exact ⟨rfl, rfl, rfl⟩
      · split
        · exact ⟨rfl, rfl, marked _ _ _ _ _⟩
        · split <;> exact ⟨rfl, rfl, marked _ _ _ _ _⟩
  · exact ⟨rfl, rfl, rfl⟩

theorem updateCache_entry (updates : update.updateCache parse cache = some filled) :
    ∃ cached entry, cache.channelsIDM update.channelId = some cached ∧
      filled.channelsIDM update.channelId = some entry ∧
      entry.status = (update.updateRow parse cached).status ∧
      entry.channelInfo.multiKeyStatusList =
        (update.updateRow parse cached).channelInfo.multiKeyStatusList ∧
      entry.KeepsKeys cached := by
  have keeps : ∀ chan, (update.updateRow parse chan).KeepsKeys chan := updateRow_keepsKeys update
  simp only [StatusUpdate.updateCache] at updates
  split at updates
  · cases updates
  next cached isCached =>
    split at updates
    next isMultiKey =>
      have isRow : update.updateRow parse cached =
          handlerMultiKeyUpdate parse cached update.usingKey update.status update.reason
            update.now := if_pos isMultiKey
      rw [← isRow] at updates
      split at updates
      · cases updates
        refine ⟨cached, { update.updateRow parse cached with
          status := (update.updateRow parse cached).status }, isCached, ?_, rfl, rfl,
          keeps cached⟩
        simp only [ChannelCache.cacheUpdateChannelStatus, ChannelCache.setChannel_self]
        split <;> exact ChannelCache.setChannel_self
      · cases updates
        exact ⟨cached, update.updateRow parse cached, isCached,
          ChannelCache.setChannel_self, rfl, rfl, keeps cached⟩
    next isSingle =>
      have isRow : update.updateRow parse cached =
          { cached with
            status := update.status
            otherInfo := noteStatus update.reason update.now } := if_neg isSingle
      split at updates
      · cases updates
      · cases updates
        refine ⟨cached, { cached with status := update.status }, isCached, ?_, ?_, ?_,
          rfl, rfl, rfl⟩
        · simp only [ChannelCache.cacheUpdateChannelStatus, isCached]
          split <;> exact ChannelCache.setChannel_self
        · rw [isRow]
        · rw [isRow]

theorem updateStore_row (done : (update.updateStore parse store).1 = true) :
    ∃ stored row, store.channels.find? update.channelId = some stored ∧
      (update.updateStore parse store).2.channels.find? update.channelId = some row ∧
      row.status = (update.updateRow parse stored).status ∧
      row.channelInfo = (update.updateRow parse stored).channelInfo ∧
      row.KeepsKeys stored := by
  simp only [StatusUpdate.updateStore] at done ⊢
  split at done
  · cases done
  next stored found =>
    split at found
    next =>
      split at done
      · cases done
      next apart =>
        rw [if_neg apart]
        split at done
        next saves =>
          rw [if_pos saves]
          refine ⟨stored, (update.updateRow parse stored).saveWithoutKey.apply stored,
            found, ?_, rfl, rfl, rfl, (updateRow_keepsKeys update stored).2⟩
          rw [find?_modify_self, found]
          rfl
        · cases done
    · cases found

theorem updateRow_congr (update : StatusUpdate) {cached stored : Channel}
    (same : cached.SameKeys parse stored) :
    (update.updateRow parse cached).status = (update.updateRow parse stored).status ∧
      (update.updateRow parse cached).channelInfo.multiKeyStatusList =
        (update.updateRow parse stored).channelInfo.multiKeyStatusList := by
  rcases same with ⟨sameMode, sameList, sameMulti⟩
  simp only [StatusUpdate.updateRow]
  rw [← sameMode]
  split
  next isMultiKey =>
    rcases sameMulti isMultiKey with ⟨sameStatus, sameKeys⟩
    exact handlerMultiKeyUpdate_congr sameKeys sameStatus sameList
  · exact ⟨rfl, sameList⟩

/-- The cached and the stored copy have the same status and the same statuses of the keys. -/
def ChannelSystem.Agrees (s : ChannelSystem) (id : ℤ) : Prop :=
  ∃ cached stored, s.cache.channelsIDM id = some cached ∧
    s.store.channels.find? id = some stored ∧ cached.status = stored.status ∧
    cached.channelInfo.multiKeyStatusList = stored.channelInfo.multiKeyStatusList

/-- The copies from which an update starts are equal as far as it depends on them. -/
def ChannelSystem.SameCopies (parse : String → Option (List String))
    (s : ChannelSystem) (id : ℤ) : Prop :=
  ∀ cached ∈ s.cache.channelsIDM id, ∀ stored ∈ s.store.channels.find? id,
    cached.SameKeys parse stored

theorem agrees_of_success (same : s.SameCopies parse update.channelId)
    (done : (s.updateChannelStatus parse update).1 = true) :
    (s.updateChannelStatus parse update).2.Agrees update.channelId := by
  simp only [ChannelSystem.updateChannelStatus] at done ⊢
  split at done
  · cases done
  next updates =>
    rcases updateCache_entry updates with
      ⟨cached, entry, isCached, isEntry, entryStatus, entryList, -⟩
    rcases updateStore_row done with ⟨stored, row, isStored, isRow, rowStatus, rowInfo, -⟩
    rcases updateRow_congr update (same cached isCached stored isStored) with
      ⟨sameStatus, sameList⟩
    refine ⟨entry, row, isEntry, isRow, ?_, ?_⟩
    · rw [entryStatus, sameStatus, rowStatus]
    · rw [entryList, sameList, rowInfo]

theorem getKeys_cachedChannel (old : Option Channel) (row : Channel) :
    (cachedChannel parse old row).getKeys parse = row.getKeys parse := by
  have withKeys : Channel.getKeys { row with keys := row.getKeys parse } parse =
      row.getKeys parse := by
    by_cases noKeys : row.getKeys parse = []
    · rw [noKeys]
      simp only [Channel.getKeys] at noKeys ⊢
      split at noKeys
      next noKey => rw [if_pos noKey]
      next someKey =>
        rw [if_neg someKey, if_neg (by simp)]
        split at noKeys
        next someKeys => exact absurd noKeys someKeys
        · exact noKeys
    · have someKey : row.key ≠ "" := by
        intro noKey
        exact noKeys (by rw [Channel.getKeys, if_pos noKey])
      rw [Channel.getKeys, if_neg someKey, if_pos noKeys]
  simp only [cachedChannel, keepPollingIndex]
  split
  · split
    · split <;> exact withKeys
    · exact withKeys
  · rfl

include isCache in
theorem sameCopies_of_init (id : ℤ) : (ChannelSystem.mk store cache).SameCopies parse id := by
  intro _ isCached _ isStored
  rcases channelsIDM_some isCache isCached with ⟨row, inRows, rfl, rfl⟩
  have found : store.channels.find? row.id = some row := find?_of_mem inRows
  rw [found, Option.mem_some_iff] at isStored
  subst isStored
  have route := cachedChannel_sameRoute parse (old row.id) row
  have info : (cachedChannel parse (old row.id) row).channelInfo.isMultiKey =
        row.channelInfo.isMultiKey ∧
      (cachedChannel parse (old row.id) row).channelInfo.multiKeyStatusList =
        row.channelInfo.multiKeyStatusList := by
    simp only [cachedChannel, keepPollingIndex]
    split
    · split
      · split <;> exact ⟨rfl, rfl⟩
      · exact ⟨rfl, rfl⟩
    · exact ⟨rfl, rfl⟩
  exact ⟨info.1, info.2, fun _ => ⟨route.1, getKeys_cachedChannel _ row⟩⟩

/-! ### Steps that keep the copies equal -/

/-- The steps after which the copies of a channel are equal if they were: its updates succeed,
its status is not set in the cache alone, and a copy put into the cache is like the row. -/
def CacheAction.KeepsCopies (parse : String → Option (List String)) (s : ChannelSystem)
    (id : ℤ) : CacheAction → Prop
  | .initChannelCache => True
  | .updateChannelStatus update =>
    update.channelId = id → (s.updateChannelStatus parse update).1 = true
  | .cacheUpdateChannelStatus other _ => other ≠ id
  | .cacheUpdateChannel chan =>
    chan.id = id → ∀ stored ∈ s.store.channels.find? id, chan.SameKeys parse stored

theorem cacheUpdateChannelStatus_other {id other : ℤ} (apart : id ≠ other)
    (cache : ChannelCache) (status : ℤ) :
    (cache.cacheUpdateChannelStatus other status).channelsIDM id = cache.channelsIDM id := by
  simp only [ChannelCache.cacheUpdateChannelStatus]
  split <;> split <;> first | rfl | exact Function.update_of_ne apart _ _

theorem updateCache_other {id : ℤ} (apart : id ≠ update.channelId)
    (updates : update.updateCache parse cache = some filled) :
    filled.channelsIDM id = cache.channelsIDM id := by
  simp only [StatusUpdate.updateCache] at updates
  split at updates
  · cases updates
  · split at updates
    · split at updates <;> cases updates
      · exact (cacheUpdateChannelStatus_other apart _ _).trans
          (Function.update_of_ne apart _ _)
      · exact Function.update_of_ne apart _ _
    · split at updates <;> cases updates
      exact cacheUpdateChannelStatus_other apart _ _

theorem updateStore_other {id : ℤ} (apart : id ≠ update.channelId) :
    (update.updateStore parse store).2.channels.find? id = store.channels.find? id := by
  simp only [StatusUpdate.updateStore]
  split
  · rfl
  · split
    · rfl
    · split
      · exact find?_modify_ne _ apart _
      · rfl

theorem sameCopies_of_success (same : s.SameCopies parse update.channelId)
    (done : (s.updateChannelStatus parse update).1 = true) :
    (s.updateChannelStatus parse update).2.SameCopies parse update.channelId := by
  simp only [ChannelSystem.updateChannelStatus] at done ⊢
  split at done
  · cases done
  next updates =>
    rcases updateCache_entry updates with
      ⟨cached, entry, isCached, isEntry, entryStatus, entryList, entryKeys⟩
    rcases updateStore_row done with
      ⟨stored, row, isStored, isRow, rowStatus, rowInfo, rowKeys⟩
    have past := same cached isCached stored isStored
    rcases updateRow_congr update past with ⟨sameStatus, sameList⟩
    intro copy isCopy found isFound
    rw [isEntry, Option.mem_some_iff] at isCopy
    rw [isRow, Option.mem_some_iff] at isFound
    subst isCopy isFound
    refine ⟨?_, ?_, ?_⟩
    · rw [entryKeys.2.2, rowKeys.2.2, past.1]
    · rw [entryList, sameList, rowInfo]
    · intro isMultiKey
      rw [entryKeys.2.2] at isMultiKey
      exact ⟨by rw [entryStatus, sameStatus, rowStatus],
        by rw [entryKeys.getKeys, rowKeys.getKeys, (past.2.2 isMultiKey).2]⟩

/-- The copies of a channel stay equal through the steps that keep them. -/
theorem sameCopies_next {id : ℤ} (action : CacheAction) (keeps : action.KeepsCopies parse s id)
    (same : s.SameCopies parse id) : (s.next parse action).SameCopies parse id := by
  cases action with
  | initChannelCache =>
    simp only [ChannelSystem.next]
    split
    next isCache => exact sameCopies_of_init isCache id
    · exact same
  | updateChannelStatus update =>
    by_cases own : update.channelId = id
    · subst own
      exact sameCopies_of_success same (keeps rfl)
    · simp only [ChannelSystem.next, ChannelSystem.updateChannelStatus]
      split
      · exact same
      next updates =>
        intro cached isCached stored isStored
        rw [updateCache_other (Ne.symm own) updates] at isCached
        rw [updateStore_other (Ne.symm own)] at isStored
        exact same cached isCached stored isStored
  | cacheUpdateChannelStatus other status =>
    intro cached isCached
    rw [ChannelSystem.next, cacheUpdateChannelStatus_other (Ne.symm keeps)] at isCached
    exact same cached isCached
  | cacheUpdateChannel chan =>
    intro cached isCached stored isStored
    by_cases own : chan.id = id
    · subst own
      have isEntry : (s.cache.setChannel chan.id chan).channelsIDM chan.id = some chan :=
        ChannelCache.setChannel_self
      have isChan : chan = cached := Option.some.inj (isEntry.symm.trans isCached)
      exact isChan ▸ keeps rfl stored isStored
    · simp only [ChannelSystem.next, ChannelCache.cacheUpdateChannel, ChannelCache.setChannel]
        at isCached
      rw [Function.update_of_ne (Ne.symm own)] at isCached
      exact same cached isCached stored isStored

/-- In every run whose steps meet their conditions the cache reflects the statuses of its
channels, and an update of equal copies that succeeds leaves copies that agree. -/
theorem cache_reflects_status (reflects : start.cache.Reflects)
    (reached : Reachable (ChannelSystem.next parse)
      (fun s action => action.Careful parse s) start goal) :
    goal.cache.Reflects ∧ ∀ update : StatusUpdate, goal.SameCopies parse update.channelId →
        (goal.updateChannelStatus parse update).1 = true →
          (goal.updateChannelStatus parse update).2.Agrees update.channelId := by
  refine ⟨?_, fun _ same done => agrees_of_success same done⟩
  refine reached.invariant (fun s => s.cache.Reflects) ?_ reflects
  intro _ action careful holds
  exact reflects_next action careful holds

end Run

/-! ### Examples -/

def unfilledCache : ChannelCache where
  group2model2channels := { groups := [], lists := fun _ _ => [] }
  channelsIDM := fun _ => none
  channel2advancedCustomConfig := fun _ => none

theorem unfilledCache_reflects : unfilledCache.Reflects := by
  refine ⟨?_, ?_, fun _ _ => List.nodup_nil, fun _ _ => List.Pairwise.nil⟩
  · intro _ _ _ inNone
    cases inNone
  · intro _ _ inNone
    cases inNone

def unfilledSystem : ChannelSystem where
  store := emptyStore.insertChannel (sampleRouted "default,vip")
  cache := unfilledCache

def filledSystem : ChannelSystem :=
  unfilledSystem.next (fun _ => none) .initChannelCache

def statusUpdate (status : ℤ) : StatusUpdate where
  channelId := 1
  usingKey := ""
  status := status
  reason := "quota"
  now := 100
  reads := true
  saves := true

theorem cache_reflects_status_sample :
    filledSystem.cache.Reflects ∧ (filledSystem.updateChannelStatus (fun _ => none)
        (statusUpdate channelStatusAutoDisabled)).2.Agrees 1 := by
  have isCache : unfilledSystem.store.initChannelCache (fun _ => none)
      unfilledCache.channelsIDM = some filledSystem.cache := by
    rfl
  have tidy : ∀ chan ∈ unfilledSystem.store.channels.rows,
      chan.status = statusEnabled → chan.Tidy := by
    intro chan inRows _
    have rows : unfilledSystem.store.channels.rows = [sampleRouted "default,vip"] := rfl
    rw [rows, List.mem_singleton] at inRows
    rw [inRows]
    decide
  have careful : CacheAction.Careful (fun _ => none) unfilledSystem .initChannelCache :=
    fun _ => tidy
  have reached : Reachable (ChannelSystem.next fun _ => none)
      (fun s action => CacheAction.Careful (fun _ => none) s action) unfilledSystem
      filledSystem :=
    (Reachable.refl unfilledSystem).step CacheAction.initChannelCache careful
  have facts := cache_reflects_status unfilledCache_reflects reached
  exact ⟨facts.1, facts.2 (statusUpdate channelStatusAutoDisabled) (sameCopies_of_init isCache 1)
    (by decide)⟩

/-- A channel that is disabled and enabled again is in no list. -/
theorem enabled_channel_unlisted :
    ¬∀ start goal : ChannelSystem, start.cache.Reflects →
      Reachable (ChannelSystem.next fun _ => none) Unrestricted start goal →
        goal.cache.Reflects := by
  intro always
  have reflects := always unfilledSystem _ unfilledCache_reflects
    ((((Reachable.refl unfilledSystem).step .initChannelCache trivial).step
      (.updateChannelStatus (statusUpdate channelStatusAutoDisabled)) trivial).step
        (.updateChannelStatus (statusUpdate statusEnabled)) trivial)
  generalize isTarget : ChannelSystem.next _ (ChannelSystem.next _ _ _) _ = goal at reflects
  have enabled : (goal.cache.channelsIDM 1).any (fun chan =>
      decide (chan.status = statusEnabled) && decide ("vip" ∈ chan.getGroups) &&
        decide ("gpt-4o" ∈ chan.getModels)) = true := by
    subst isTarget
    decide
  have unlisted : (goal.cache.group2model2channels.lists "vip" "gpt-4o").count 1 = 0 := by
    subst isTarget
    decide
  rcases (Option.any_eq_true _ _).mp enabled with ⟨chan, isChannel, facts⟩
  simp only [Bool.and_eq_true, decide_eq_true_eq] at facts
  have listed := reflects.listed 1 chan isChannel facts.1.1 "vip" facts.1.2 "gpt-4o" facts.2
  omega

end NewApi.Channels
