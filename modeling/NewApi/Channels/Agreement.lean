import NewApi.Channels.Draw

/-!
# Agreement of cached and stored selection

The cache lists what stands in the columns of a channel, the tables hold its abilities, and the
two filter and rank in a different order.
-/

namespace NewApi.Channels

open Relational Levels Table

namespace Channel

variable (chan : Channel)

def listed (group name : String) : Bool :=
  chan.status = channelStatusEnabled && group ∈ Text.splitComma chan.group &&
    name ∈ Text.splitComma chan.models

def able (group model : String) : Bool :=
  chan.status = channelStatusEnabled && (group, model) ∈ chan.abilityPairs

def passes (regex : String → String → Bool) (route model : String) : Bool :=
  route = "" || passesPath regex chan.advancedCustom chan.type route model

end Channel

namespace ChannelStore

variable (store : ChannelStore) (regex : String → String → Bool)

def offered (group name route model : String) : List Channel :=
  store.channels.rows.filter fun chan =>
    chan.listed group name && chan.passes regex route model

def able (group model : String) : List Channel :=
  store.channels.rows.filter fun chan => chan.able group model

def drawn (group model route : String) : List Channel :=
  if store.offered regex group model route model = [] then
    store.offered regex group (formatMatchingModelName model) route model
  else store.offered regex group model route model

end ChannelStore

section Cached

variable {store : ChannelStore} {regex : String → String → Bool}
  {parse : String → Option (List String)} {old : ℤ → Option Channel}
  {cache : ChannelCache} {row : Channel} {group name model route : String} {id : ℤ}

theorem cachedChannel_same (old : Option Channel) (row : Channel) :
    (cachedChannel parse old row).id = row.id ∧
      (cachedChannel parse old row).type = row.type ∧
      (cachedChannel parse old row).getPriority = row.getPriority ∧
      (cachedChannel parse old row).storedWeight = row.storedWeight := by
  simp only [cachedChannel, keepPollingIndex]
  split
  · split
    · split
      · exact ⟨rfl, rfl, rfl, rfl⟩
      · exact ⟨rfl, rfl, rfl, rfl⟩
    · exact ⟨rfl, rfl, rfl, rfl⟩
  · exact ⟨rfl, rfl, rfl, rfl⟩

theorem listings_pos : 0 < row.listings group name ↔ row.listed group name = true := by
  simp only [Channel.listings, Channel.listed, Bool.and_eq_true, decide_eq_true_eq]
  split
  next enabled => simp [enabled, Nat.pos_iff_ne_zero, List.count_eq_zero]
  next disabled => simp [disabled]

variable (isCache : store.initChannelCache parse old = some cache)

include isCache in
theorem mem_lists :
    id ∈ cache.group2model2channels.lists group name ↔
      ∃ row ∈ store.channels.rows, row.listed group name = true ∧ row.id = id := by
  rw [(initChannelCache_lists isCache group name).mem_iff, List.mem_flatMap]
  constructor
  · rintro ⟨row, inRows, isId⟩
    rcases List.mem_replicate.mp isId with ⟨some, rfl⟩
    exact ⟨row, inRows, listings_pos.mp (Nat.pos_of_ne_zero some), rfl⟩
  · rintro ⟨row, inRows, listed, rfl⟩
    exact ⟨row, inRows, List.mem_replicate.mpr ⟨Nat.ne_of_gt (listings_pos.mpr listed), rfl⟩⟩

include isCache in
theorem channelsIDM_of_mem (inRows : row ∈ store.channels.rows) :
    cache.channelsIDM row.id = some (cachedChannel parse (old row.id) row) ∧
      cache.channel2advancedCustomConfig row.id = row.advancedCustomConfig := by
  rcases Option.map_eq_some_iff.mp isCache with ⟨_, _, rfl⟩
  have found : store.channels.find? row.id = some row := find?_of_mem inRows
  exact ⟨by simp only [found, Option.map_some], by simp only [found, Option.bind_some]⟩

theorem passesPath_cached (old : Option Channel) :
    passesPath regex row.advancedCustomConfig (cachedChannel parse old row).type
        route model = passesPath regex row.advancedCustom row.type route model := by
  rw [(cachedChannel_same old row).2.1]
  simp only [passesPath, Channel.advancedCustomConfig]
  by_cases isCustom : row.type = channelTypeAdvancedCustom
  · rw [if_pos isCustom]
  · simp [isCustom]

include isCache in
theorem mem_filterChannels :
    id ∈ cache.filterChannelsByRequestPathAndModel regex
        (cache.group2model2channels.lists group name) route model ↔
      ∃ row ∈ store.offered regex group name route model, row.id = id := by
  have offered : (∃ row ∈ store.offered regex group name route model, row.id = id) ↔
      ∃ row ∈ store.channels.rows, row.listed group name = true ∧
        row.passes regex route model = true ∧ row.id = id := by
    simp only [ChannelStore.offered, List.mem_filter, Bool.and_eq_true, and_assoc]
  rw [offered]
  simp only [ChannelCache.filterChannelsByRequestPathAndModel]
  split
  next unfiltered =>
    rw [mem_lists isCache]
    constructor
    · rintro ⟨row, inRows, listed, rfl⟩
      rcases unfiltered with noPath | isNil
      · exact ⟨row, inRows, listed, by simp [Channel.passes, noPath], rfl⟩
      · have inList : row.id ∈ cache.group2model2channels.lists group name :=
          (mem_lists isCache).mpr ⟨row, inRows, listed, rfl⟩
        rw [isNil] at inList
        cases inList
    · rintro ⟨row, inRows, listed, _, isId⟩
      exact ⟨row, inRows, listed, isId⟩
  next filtered =>
    have path : route ≠ "" := fun noPath => filtered (.inl noPath)
    rw [List.mem_filter, mem_lists isCache]
    constructor
    · rintro ⟨⟨row, inRows, listed, rfl⟩, passes⟩
      rw [(channelsIDM_of_mem isCache inRows).1, (channelsIDM_of_mem isCache inRows).2] at passes
      simp only [passesPath_cached] at passes
      exact ⟨row, inRows, listed, by simp [Channel.passes, passes], rfl⟩
    · rintro ⟨row, inRows, listed, passes, rfl⟩
      refine ⟨⟨row, inRows, listed, rfl⟩, ?_⟩
      rw [(channelsIDM_of_mem isCache inRows).1, (channelsIDM_of_mem isCache inRows).2]
      simp only [passesPath_cached]
      simpa [Channel.passes, path] using passes

include isCache in
theorem mem_candidates :
    id ∈ cache.candidates regex group model route ↔
      ∃ row ∈ store.drawn regex group model route, row.id = id := by
  have same : cache.filterChannelsByRequestPathAndModel regex
        (cache.group2model2channels.lists group model) route model = [] ↔
      store.offered regex group model route model = [] := by
    simp only [List.eq_nil_iff_forall_not_mem, mem_filterChannels isCache]
    constructor
    · intro none row offered
      exact none row.id ⟨row, offered, rfl⟩
    · rintro none _ ⟨row, offered, _⟩
      exact none row offered
  simp only [ChannelCache.candidates, ChannelStore.drawn, same]
  split
  · exact mem_filterChannels isCache
  · exact mem_filterChannels isCache

/-- The weights have sums that an `int` holds, in the lists of the cache and in the queries of
the tables. A channel is listed as often as its columns name the group and the model. -/
structure LightWeights (store : ChannelStore) : Prop where
  listed : ∀ group name, (store.channels.rows.map fun row =>
    row.listings group name * (row.storedWeight + 1000)).sum < 2 ^ 63
  stored : ∀ group model, LightAbilities (store.enabledAbilities group model)

theorem mapM_lookUp_weights {ids : List ℤ} {chans : List Channel}
    (looked : ids.mapM cache.lookUp = .ok chans) :
    chans.map (fun chan => chan.storedWeight + 1000) =
      ids.map fun id =>
        ((cache.channelsIDM id).map fun chan => chan.storedWeight + 1000).getD 0 := by
  induction ids generalizing chans with
  | nil =>
    cases looked
    rfl
  | cons id _ ih =>
    rw [List.mapM_cons] at looked
    cases found : cache.channelsIDM id with
    | none =>
      simp only [ChannelCache.lookUp, found] at looked
      cases looked
    | some first =>
      simp only [ChannelCache.lookUp, found, bind, Except.bind, pure, Except.pure] at looked
      split at looked
      · cases looked
      next others lookedRest =>
        cases looked
        rw [List.map_cons, List.map_cons, ih lookedRest, found]
        rfl

theorem sum_flatMap_replicate {Item : Type} (items : List Item) (count weight : Item → ℕ) :
    (items.flatMap fun item => List.replicate (count item) (weight item)).sum =
      (items.map fun item => count item * weight item).sum := by
  induction items with
  | nil => rfl
  | cons _ _ ih =>
    rw [List.flatMap_cons, List.sum_append, ih, List.sum_replicate]
    rfl

include isCache in
/-- The weights in a list of the cache. -/
theorem sum_lists :
    ((cache.group2model2channels.lists group name).map fun id =>
        ((cache.channelsIDM id).map fun chan => chan.storedWeight + 1000).getD 0).sum =
      (store.channels.rows.map fun row =>
        row.listings group name * (row.storedWeight + 1000)).sum := by
  rw [((initChannelCache_lists isCache group name).map _).sum_eq, List.map_flatMap]
  simp only [List.map_replicate]
  rw [sum_flatMap_replicate]
  congr 1
  apply List.map_congr_left
  intro row inRows
  rw [(channelsIDM_of_mem isCache inRows).1, Option.map_some, Option.getD_some,
    (cachedChannel_same _ row).2.2.2]

theorem candidates_sublist : ∃ name, (cache.candidates regex group model route).Sublist
    (cache.group2model2channels.lists group name) := by
  have filtered : ∀ ids, (cache.filterChannelsByRequestPathAndModel regex ids route model).Sublist
      ids := by
    intro ids
    simp only [ChannelCache.filterChannelsByRequestPathAndModel]
    split
    · exact List.Sublist.refl _
    · exact List.filter_sublist
  simp only [ChannelCache.candidates]
  split
  · exact ⟨_, filtered _⟩
  · exact ⟨_, filtered _⟩

include isCache in
theorem light_candidates {chans : List Channel} (light : LightWeights store)
    (looked : (cache.candidates regex group model route).mapM cache.lookUp = .ok chans) :
    LightChannels chans := by
  rcases @candidates_sublist regex cache group model route with ⟨name, sublist⟩
  rw [LightChannels, mapM_lookUp_weights looked]
  refine lt_of_le_of_lt ((sublist.map _).sum_le_sum fun _ _ => Nat.zero_le _) ?_
  rw [sum_lists isCache]
  exact light.listed group name

theorem mapM_lookUp {ids : List ℤ} (known : ∀ id ∈ ids, ∃ chan, cache.channelsIDM id = some chan) :
    ∃ chans, ids.mapM cache.lookUp = .ok chans ∧ chans.length = ids.length ∧
      ∀ chan, chan ∈ chans ↔ ∃ id ∈ ids, cache.channelsIDM id = some chan := by
  induction ids with
  | nil => exact ⟨[], rfl, rfl, by simp⟩
  | cons id _ ih =>
    rcases known id List.mem_cons_self with ⟨first, found⟩
    rcases ih fun other isIn => known other (List.mem_cons_of_mem _ isIn) with
      ⟨chans, looked, sameLength, members⟩
    have lookedUp : cache.lookUp id = .ok first := by simp only [ChannelCache.lookUp, found]
    refine ⟨first :: chans, ?_, by simp [sameLength], ?_⟩
    · rw [List.mapM_cons, lookedUp, looked]
      rfl
    · intro _
      simp only [List.mem_cons, members, exists_eq_or_imp, found, Option.some.injEq]
      rw [eq_comm]

/-- The cached selection can return exactly the channels of its level that weigh. -/
theorem getRandomSatisfiedChannel_iff {chans : List Channel} {chan : Channel} {retry : ℕ}
    (looked : (cache.candidates regex group model route).mapM cache.lookUp = .ok chans)
    (light : LightChannels chans) :
    (∃ seed, cache.getRandomSatisfiedChannel regex group model retry route seed = .ok (some chan)) ↔
      chan ∈ chans ∧
        levelAt (chans.map Channel.getPriority) retry = some chan.getPriority ∧
        ¬Outweighed chans chan := by
  simp only [ChannelCache.getRandomSatisfiedChannel]
  split
  next isNil =>
    rw [isNil] at looked
    cases looked
    simp
  next id isSingle =>
    rw [isSingle, List.mapM_cons, List.mapM_nil] at looked
    cases found : cache.lookUp id with
    | error _ =>
      rw [found] at looked
      cases looked
    | ok only =>
      rw [found] at looked
      cases looked
      have single : ∃ val ∈ [only.getPriority], levelAt [only.getPriority] retry = some val :=
        levelAt_of_ne_nil (by simp) retry
      rcases single with ⟨_, isValue, level⟩
      rw [List.mem_singleton.mp isValue] at level
      simp only [Except.map, Except.ok.injEq, Option.some.injEq, exists_const,
        List.mem_singleton, List.map_cons, List.map_nil]
      constructor
      · rintro rfl
        refine ⟨rfl, level, ?_⟩
        rintro ⟨isZero, _, isOther, _, pos⟩
        rw [List.mem_singleton.mp isOther, isZero] at pos
        exact lt_irrefl 0 pos
      · rintro ⟨same, _⟩
        exact same.symm
  · rw [looked, ← drawAtRetry_iff light]
    have drawn : ∀ seed, (do
        let chans ← (Except.ok chans : Except SelectError (List Channel))
        let chosen ← drawAtRetry chans retry seed
        return some chosen) = .ok (some chan) ↔ drawAtRetry chans retry seed = .ok chan := by
      intro seed
      cases isDraw : drawAtRetry chans retry seed with
      | error _ => simp [isDraw, bind, Except.bind]
      | ok _ => simp [isDraw, bind, Except.bind, pure, Except.pure]
    exact exists_congr drawn

theorem mem_rows_of_drawn (drawn : row ∈ store.drawn regex group model route) :
    row ∈ store.channels.rows := by
  simp only [ChannelStore.drawn] at drawn
  split at drawn
  · exact List.mem_of_mem_filter drawn
  · exact List.mem_of_mem_filter drawn

include isCache in
theorem cached_returns_iff {retry : ℕ} (light : LightWeights store) :
    (∃ seed chan, cache.getRandomSatisfiedChannel regex group model retry route
        seed = .ok (some chan) ∧ chan.id = id) ↔
      ∃ row ∈ store.drawn regex group model route, row.id = id ∧
        levelAt ((store.drawn regex group model route).map Channel.getPriority)
          retry = some row.getPriority ∧
        ¬Outweighed (store.drawn regex group model route) row := by
  generalize drawn : store.drawn regex group model route = rows
  have inStore : ∀ row ∈ rows, row ∈ store.channels.rows := by
    intro _ inRows
    rw [← drawn] at inRows
    exact mem_rows_of_drawn inRows
  have candidates : ∀ id, id ∈ cache.candidates regex group model route ↔
      ∃ row ∈ rows, row.id = id := by
    intro _
    rw [mem_candidates isCache, drawn]
  have known : ∀ id ∈ cache.candidates regex group model route,
      ∃ chan, cache.channelsIDM id = some chan := by
    intro id able
    rcases (candidates id).mp able with ⟨row, inRows, rfl⟩
    exact ⟨_, (channelsIDM_of_mem isCache (inStore row inRows)).1⟩
  rcases mapM_lookUp known with ⟨chans, looked, _, members⟩
  have lightChans := light_candidates isCache light looked
  -- The looked up channels are the rows as the cache holds them.
  have isView : ∀ chan, chan ∈ chans ↔
      ∃ row ∈ rows, chan = cachedChannel parse (old row.id) row := by
    intro _
    rw [members]
    constructor
    · rintro ⟨id, able, found⟩
      rcases (candidates id).mp able with ⟨row, inRows, rfl⟩
      rw [(channelsIDM_of_mem isCache (inStore row inRows)).1, Option.some.injEq] at found
      exact ⟨row, inRows, found.symm⟩
    · rintro ⟨row, inRows, rfl⟩
      exact ⟨row.id, (candidates row.id).mpr ⟨row, inRows, rfl⟩,
        (channelsIDM_of_mem isCache (inStore row inRows)).1⟩
  have levels : levelAt (chans.map Channel.getPriority) retry =
      levelAt (rows.map Channel.getPriority) retry := by
    apply levelAt_congr
    intro _
    simp only [List.mem_map, isView]
    constructor
    · rintro ⟨chan, ⟨row, inRows, rfl⟩, rfl⟩
      exact ⟨row, inRows, (cachedChannel_same _ row).2.2.1.symm⟩
    · rintro ⟨row, inRows, rfl⟩
      exact ⟨_, ⟨row, inRows, rfl⟩, (cachedChannel_same _ row).2.2.1⟩
  have outweighed : ∀ row, Outweighed chans (cachedChannel parse (old row.id) row) ↔
      Outweighed rows row := by
    intro row
    simp only [Outweighed, (cachedChannel_same _ row).2.2.1, (cachedChannel_same _ row).2.2.2,
      isView]
    constructor
    · rintro ⟨isZero, chan, ⟨other, inRows, rfl⟩, sameRank, pos⟩
      rw [(cachedChannel_same _ other).2.2.1] at sameRank
      rw [(cachedChannel_same _ other).2.2.2] at pos
      exact ⟨isZero, other, inRows, sameRank, pos⟩
    · rintro ⟨isZero, other, inRows, sameRank, pos⟩
      refine ⟨isZero, _, ⟨other, inRows, rfl⟩, ?_, ?_⟩
      · rw [(cachedChannel_same _ other).2.2.1]
        exact sameRank
      · rw [(cachedChannel_same _ other).2.2.2]
        exact pos
  rw [exists_comm]
  constructor
  · rintro ⟨chan, seed, returned, rfl⟩
    rcases (getRandomSatisfiedChannel_iff looked lightChans).mp ⟨seed, returned⟩ with
      ⟨isRow, level, weighs⟩
    rcases (isView chan).mp isRow with ⟨row, inRows, rfl⟩
    rw [levels, (cachedChannel_same _ row).2.2.1] at level
    rw [outweighed] at weighs
    exact ⟨row, inRows, (cachedChannel_same _ row).1.symm, level, weighs⟩
  · rintro ⟨row, inRows, rfl, level, weighs⟩
    refine ⟨cachedChannel parse (old row.id) row, ?_⟩
    have returned := (getRandomSatisfiedChannel_iff looked lightChans).mpr
      ⟨(isView _).mpr ⟨row, inRows, rfl⟩,
        by rw [levels, (cachedChannel_same _ row).2.2.1]; exact level,
        by rw [outweighed]; exact weighs⟩
    rcases returned with ⟨seed, returns⟩
    exact ⟨seed, returns, (cachedChannel_same _ row).1⟩

end Cached

section Stored

variable {store : ChannelStore} {regex : String → String → Bool} {row : Channel}
  {group model route : String} {id : ℤ} {ability : Ability} {retry : ℕ}

theorem mem_enabledAbilities (built : store.Built) :
    ability ∈ store.enabledAbilities group model ↔
      ∃ row ∈ store.able group model, ability ∈ row.buildAbilities ∧ ability.group = group ∧
        ability.model = model := by
  simp only [ChannelStore.enabledAbilities, ChannelStore.able, List.mem_filter, built ability,
    Channel.able, Bool.and_eq_true, decide_eq_true_eq]
  constructor
  · rintro ⟨⟨row, inRows, isBuilt⟩, ⟨rfl, rfl⟩, enabled⟩
    have facts := mem_buildAbilities.mp isBuilt
    rw [enabled] at facts
    exact ⟨row, ⟨inRows, by simpa using facts.2.2.1, facts.1⟩, isBuilt, rfl, rfl⟩
  · rintro ⟨row, ⟨inRows, enabled, _⟩, isBuilt, rfl, rfl⟩
    have facts := mem_buildAbilities.mp isBuilt
    exact ⟨⟨row, inRows, isBuilt⟩, ⟨rfl, rfl⟩, by rw [facts.2.2.1]; exact decide_eq_true enabled⟩

theorem levelAt_enabledAbilities (built : store.Built) (retry : ℕ) :
    levelAt ((store.enabledAbilities group model).map Ability.priority) retry =
      levelAt ((store.able group model).map Channel.getPriority) retry := by
  apply levelAt_congr
  intro _
  simp only [List.mem_map, mem_enabledAbilities built]
  constructor
  · rintro ⟨_, ⟨row, inRows, isBuilt, _⟩, rfl⟩
    exact ⟨row, inRows, (mem_buildAbilities.mp isBuilt).2.2.2.1.symm⟩
  · rintro ⟨row, inRows, rfl⟩
    have isAble := (List.mem_filter.mp inRows).2
    simp only [Channel.able, Bool.and_eq_true, decide_eq_true_eq] at isAble
    refine ⟨⟨group, model, row.id, row.status = channelStatusEnabled, row.getPriority,
      row.storedWeight⟩, ⟨row, inRows, ?_, rfl, rfl⟩, rfl⟩
    exact mem_buildAbilities.mpr ⟨isAble.2, rfl, rfl, rfl, rfl⟩

theorem getChannelQuery_cases (store : ChannelStore) (group model : String) (retry : ℕ) :
    (∃ abilities, store.getChannelQuery group model retry = .ok abilities ∧
        ∀ ability, ability ∈ abilities ↔ ability ∈ store.enabledAbilities group model ∧
          levelAt ((store.enabledAbilities group model).map Ability.priority) retry =
            some ability.priority) ∨ (store.getChannelQuery group model retry = .error .noPriority ∧
        levelAt ((store.enabledAbilities group model).map Ability.priority) retry = none) := by
  simp only [ChannelStore.getChannelQuery]
  by_cases isFirst : retry = 0
  · subst isFirst
    refine .inl ⟨_, rfl, ?_⟩
    intro _
    simp only [List.mem_filter, decide_eq_true_eq, levelAt_zero]
    exact and_congr_right fun _ => eq_comm
  · rw [if_neg isFirst]
    cases isLevel : levelAt ((store.enabledAbilities group model).map Ability.priority) retry with
    | none =>
      refine .inr ⟨?_, rfl⟩
      simp only [ChannelStore.getPriority, isLevel]
      rfl
    | some priority =>
      refine .inl ⟨(store.enabledAbilities group model).filter fun ability =>
        ability.priority = priority, ?_, ?_⟩
      · simp only [ChannelStore.getPriority, isLevel]
        rfl
      · intro _
        simp only [List.mem_filter, decide_eq_true_eq, Option.some.injEq]
        exact and_congr_right fun _ => eq_comm

theorem mem_filterAbilities {abilities : List Ability}
    (stored : ∀ ability ∈ abilities, ∃ row ∈ store.channels.rows, row.id = ability.channelId) :
    ability ∈ store.filterAbilitiesByRequestPathAndModel regex abilities route model ↔
      ability ∈ abilities ∧ ∃ row ∈ store.channels.rows, row.id = ability.channelId ∧
        row.passes regex route model = true := by
  simp only [ChannelStore.filterAbilitiesByRequestPathAndModel]
  split
  next unfiltered =>
    constructor
    · intro isAbility
      rcases stored ability isAbility with ⟨row, inRows, isRow⟩
      rcases unfiltered with noPath | isNil
      · exact ⟨isAbility, row, inRows, isRow, by simp [Channel.passes, noPath]⟩
      · rw [isNil] at isAbility
        cases isAbility
    · exact fun facts => facts.1
  next filtered =>
    have path : route ≠ "" := fun noPath => filtered (.inl noPath)
    rw [List.mem_filter]
    refine and_congr_right fun isAbility => ?_
    rcases stored ability isAbility with ⟨row, inRows, isRow⟩
    have found : store.channels.find? ability.channelId = some row := by
      rw [← isRow]
      exact find?_of_mem inRows
    simp only [found]
    constructor
    · intro passes
      exact ⟨row, inRows, isRow, by simp [Channel.passes, passes]⟩
    · rintro ⟨other, inOther, isOther, passes⟩
      have sameRow : store.channels.find? ability.channelId = some other := by
        rw [← isOther]
        exact find?_of_mem inOther
      rw [found, Option.some.injEq] at sameRow
      subst sameRow
      simpa [Channel.passes, path] using passes

def passingAbilities (store : ChannelStore) (regex : String → String → Bool)
    (abilities : List Ability) (route model : String) : List Ability :=
  store.filterAbilitiesByRequestPathAndModel regex
    (abilities.insertionSort fun left right => left.weight ≥ right.weight) route model

theorem getChannel_iff {abilities : List Ability} {chan : Channel}
    (queried : store.getChannelQuery group model retry = .ok abilities)
    (light : LightAbilities (passingAbilities store regex abilities route model)) :
    (∃ seed, store.getChannel regex group model retry route seed = .ok (some chan)) ↔
      ∃ ability ∈ passingAbilities store regex abilities route model,
        store.channels.find? ability.channelId = some chan := by
  simp only [ChannelStore.getChannel, queried]
  constructor
  · rintro ⟨_, returned⟩
    simp only [bind, Except.bind] at returned
    split at returned
    · cases returned
    · split at returned
      · cases returned
      · split at returned
        · cases returned
        next ability picked =>
          split at returned
          next found =>
            cases returned
            exact ⟨ability, pickAbility_some picked, found⟩
          · cases returned
  · rintro ⟨_, isPassing, found⟩
    rcases exists_pickPlainAbility isPassing with ⟨random, inRange, _, picked⟩
    have total := light.weightSum
    have small := light
    rw [LightAbilities] at small
    rw [← pickAbility_eq light (by omega) (by omega)] at picked
    refine ⟨random, ?_⟩
    simp only [bind, Except.bind]
    simp only [passingAbilities] at isPassing inRange picked total
    split
    next isNil =>
      rw [isNil] at isPassing
      cases isPassing
    · simp only [total, Int.toNat_natCast, Nat.mod_eq_of_lt inRange, picked, found]
      rw [if_neg (by omega)]
      rfl

theorem getChannelQuery_sublist {abilities : List Ability}
    (queried : store.getChannelQuery group model retry = .ok abilities) :
    abilities.Sublist (store.enabledAbilities group model) := by
  simp only [ChannelStore.getChannelQuery] at queried
  split at queried
  · cases queried
    exact List.filter_sublist
  · cases isPriority : store.getPriority group model retry with
    | error _ =>
      rw [isPriority] at queried
      cases queried
    | ok _ =>
      rw [isPriority] at queried
      cases queried
      exact List.filter_sublist

theorem light_passing {abilities : List Ability} (light : LightWeights store)
    (queried : store.getChannelQuery group model retry = .ok abilities) :
    LightAbilities (passingAbilities store regex abilities route model) := by
  have ordered : LightAbilities (abilities.insertionSort
      fun left right => left.weight ≥ right.weight) :=
    ((light.stored group model).sublist (getChannelQuery_sublist queried)).perm
      (List.perm_insertionSort _ _)
  apply ordered.sublist
  simp only [passingAbilities, ChannelStore.filterAbilitiesByRequestPathAndModel]
  split
  · exact List.Sublist.refl _
  · exact List.filter_sublist

theorem stored_returns_iff (built : store.Built) (light : LightWeights store) :
    (∃ seed chan, store.getChannel regex group model retry route seed =
        .ok (some chan) ∧ chan.id = id) ↔
      ∃ row ∈ store.able group model, row.id = id ∧
        levelAt ((store.able group model).map Channel.getPriority) retry = some row.getPriority ∧
        row.passes regex route model = true := by
  rw [← levelAt_enabledAbilities built retry]
  rcases getChannelQuery_cases store group model retry with
    ⟨abilities, queried, members⟩ | ⟨failed, noLevel⟩
  · have ownerOf : ∀ ability ∈ abilities, ∃ row ∈ store.able group model,
        row.id = ability.channelId ∧ ability.priority = row.getPriority := by
      intro ability isAbility
      rcases (mem_enabledAbilities built).mp ((members ability).mp isAbility).1 with
        ⟨row, inRows, isBuilt, _⟩
      have facts := mem_buildAbilities.mp isBuilt
      exact ⟨row, inRows, facts.2.1.symm, facts.2.2.2.1⟩
    have passing : ∀ ability, ability ∈ store.filterAbilitiesByRequestPathAndModel regex
            (abilities.insertionSort fun left right => left.weight ≥ right.weight) route
            model ↔
          ability ∈ abilities ∧ ∃ row ∈ store.channels.rows, row.id = ability.channelId ∧
            row.passes regex route model = true := by
      intro _
      rw [mem_filterAbilities, List.mem_insertionSort]
      intro other isOther
      rcases ownerOf other ((List.mem_insertionSort _).mp isOther) with ⟨row, inRows, isRow, _⟩
      exact ⟨row, List.mem_of_mem_filter inRows, isRow⟩
    rw [exists_comm]
    constructor
    · rintro ⟨chan, seed, returned, rfl⟩
      rcases (getChannel_iff queried (light_passing light queried)).mp ⟨seed, returned⟩ with
        ⟨ability, isPassing, found⟩
      rcases (passing ability).mp isPassing with ⟨isAbility, row, inRows, isRow, passes⟩
      rcases ownerOf ability isAbility with ⟨owner, inAble, isOwner, isPriority⟩
      have foundRow : store.channels.find? row.id = some row := find?_of_mem inRows
      have foundOwner : store.channels.find? owner.id = some owner :=
        find?_of_mem (List.mem_of_mem_filter inAble)
      rw [isRow, found, Option.some.injEq] at foundRow
      rw [isOwner, found, Option.some.injEq] at foundOwner
      subst foundRow
      subst foundOwner
      exact ⟨chan, inAble, rfl, isPriority ▸ ((members ability).mp isAbility).2, passes⟩
    · rintro ⟨row, inAble, rfl, level, passes⟩
      have inRows := List.mem_of_mem_filter inAble
      have isAble := (List.mem_filter.mp inAble).2
      simp only [Channel.able, Bool.and_eq_true, decide_eq_true_eq] at isAble
      have isBuilt : (⟨group, model, row.id, row.status = channelStatusEnabled, row.getPriority,
          row.storedWeight⟩ : Ability) ∈ row.buildAbilities :=
        mem_buildAbilities.mpr ⟨isAble.2, rfl, rfl, rfl, rfl⟩
      have isAbility := (members _).mpr
        ⟨(mem_enabledAbilities built).mpr ⟨row, inAble, isBuilt, rfl, rfl⟩, level⟩
      have isPassing := (passing _).mpr ⟨isAbility, row, inRows, rfl, passes⟩
      rcases (getChannel_iff queried (light_passing light queried)).mpr
        ⟨_, isPassing, find?_of_mem inRows⟩ with
        ⟨seed, returned⟩
      exact ⟨row, seed, returned, rfl⟩
  · constructor
    · rintro ⟨_, _, returned, _⟩
      simp only [ChannelStore.getChannel, failed] at returned
      cases returned
    · rintro ⟨_, _, _, level, _⟩
      rw [noLevel] at level
      cases level

end Stored

/-! ### Agreement -/

/-- The cache is filled without a panic, and returns for every attempt what the tables return. -/
def Agrees (regex : String → String → Bool) (parse : String → Option (List String))
    (old : ℤ → Option Channel) (store : ChannelStore) : Prop :=
  ∃ cache, store.initChannelCache parse old = some cache ∧
    ∀ group model retry route id,
      (∃ seed chan, cache.getRandomSatisfiedChannel regex group model retry route
          seed = .ok (some chan) ∧ chan.id = id) ↔
        ∃ seed chan, store.getChannel regex group model retry route seed =
          .ok (some chan) ∧ chan.id = id

/-- The rows for which it makes no difference where a channel is selected from:

* each group in the column of an enabled channel has abilities;
* the models in these columns are neither empty nor surrounded by spaces;
* on every path, the listed channels without a weight beside one of their priority that has are
  those whose pair has lost its ability to an equal key text, and only those;
* a path that a listed channel serves is served at every priority of the list;
* where no channel that lists a model serves the path, none that lists its normalized name does. -/
structure SameSelection (regex : String → String → Bool) (store : ChannelStore) :
    Prop where
  groups : store.GroupsKnown
  models : ∀ chan ∈ store.channels.rows, chan.status = channelStatusEnabled →
    ∀ model ∈ Text.splitComma chan.models, model ≠ "" ∧ Text.trimSpace model = model
  weights : ∀ group model route, ∀ chan ∈ store.offered regex group model route model,
      Outweighed (store.offered regex group model route model) chan ↔
        (group, model) ∉ chan.abilityPairs
  routes : ∀ group model route, store.offered regex group model route model ≠ [] →
      ∀ chan ∈ store.offered regex group model "" model,
        ∃ other ∈ store.offered regex group model route model, other.getPriority = chan.getPriority
  names : ∀ group model route, store.offered regex group model route model = [] →
      store.offered regex group (formatMatchingModelName model) route model = []

section Agreement

variable {store : ChannelStore} {regex : String → String → Bool}
  {parse : String → Option (List String)} {old : ℤ → Option Channel} {row : Channel}
  {group model route : String}

theorem mem_offered : row ∈ store.offered regex group model route model ↔
    row ∈ store.channels.rows ∧ row.listed group model = true ∧
      row.passes regex route model = true := by
  simp only [ChannelStore.offered, List.mem_filter, Bool.and_eq_true]

theorem passes_noPath : row.passes regex "" model = true := by
  simp [Channel.passes]

theorem trimmed_group (built : store.Built)
    (known : group ∈ store.abilities.map Ability.group) : Text.trimSpace group = group := by
  rcases List.mem_map.mp known with ⟨ability, isAbility, rfl⟩
  rcases (built ability).mp isAbility with ⟨_, _, isBuilt⟩
  exact (mem_splitChannelValues (Channel.mem_abilityPairs (mem_buildAbilities.mp isBuilt).1).1).2.1

theorem listed_of_able (built : store.Built) (groups : store.GroupsKnown)
    (models : ∀ chan ∈ store.channels.rows, chan.status = channelStatusEnabled →
      ∀ model ∈ Text.splitComma chan.models, model ≠ "" ∧ Text.trimSpace model = model)
    (isAble : row ∈ store.able group model) :
    row ∈ store.channels.rows ∧ row.listed group model = true := by
  have inRows := List.mem_of_mem_filter isAble
  have able := (List.mem_filter.mp isAble).2
  simp only [Channel.able, Bool.and_eq_true, decide_eq_true_eq] at able
  rcases able with ⟨enabled, isPair⟩
  rcases Channel.mem_abilityPairs isPair with ⟨isGroup, isModel⟩
  rcases (mem_splitChannelValues isGroup).2.2 with ⟨rawGroup, inGroups, sameGroup⟩
  rcases (mem_splitChannelValues isModel).2.2 with ⟨rawModel, inModels, sameModel⟩
  rw [trimmed_group built (groups row inRows enabled rawGroup inGroups)] at sameGroup
  rw [(models row inRows enabled rawModel inModels).2] at sameModel
  subst sameGroup
  subst sameModel
  refine ⟨inRows, ?_⟩
  simp only [Channel.listed, Bool.and_eq_true, decide_eq_true_eq]
  exact ⟨⟨enabled, inGroups⟩, inModels⟩

namespace SameSelection

variable (same : SameSelection regex store) (built : store.Built) (light : LightWeights store)

include same

theorem able_of_offered (offered : row ∈ store.offered regex group model route model) :
    ∃ other ∈ store.able group model, other ∈ store.offered regex group model route
      model ∧ other.getPriority = row.getPriority := by
  have asAble : ∀ other ∈ store.offered regex group model route model,
      ¬Outweighed (store.offered regex group model route model) other →
        other ∈ store.able group model := by
    intro other isOther weighs
    rw [same.weights group model route other isOther, not_not] at weighs
    rcases mem_offered.mp isOther with ⟨inRows, listed, _⟩
    simp only [Channel.listed, Bool.and_eq_true, decide_eq_true_eq] at listed
    exact List.mem_filter.mpr ⟨inRows, by simp [Channel.able, listed.1.1, weighs]⟩
  by_cases weighs : Outweighed (store.offered regex group model route model) row
  · rcases weighs with ⟨_, other, isOther, sameRank, _⟩
    refine ⟨other, asAble other isOther ?_, isOther, sameRank⟩
    rintro ⟨_, _⟩
    omega
  · exact ⟨row, asAble row offered weighs, offered, rfl⟩

include built

theorem mem_able : row ∈ store.able group model ∧ row.passes regex route model = true ↔
    row ∈ store.offered regex group model route model ∧
      ¬Outweighed (store.offered regex group model route model) row := by
  constructor
  · rintro ⟨isAble, passes⟩
    rcases listed_of_able built same.groups same.models isAble with ⟨inRows, listed⟩
    have offered : row ∈ store.offered regex group model route model :=
      mem_offered.mpr ⟨inRows, listed, passes⟩
    refine ⟨offered, ?_⟩
    rw [same.weights group model route row offered, not_not]
    have able := (List.mem_filter.mp isAble).2
    simp only [Channel.able, Bool.and_eq_true, decide_eq_true_eq] at able
    exact able.2
  · rintro ⟨offered, weighs⟩
    rw [same.weights group model route row offered, not_not] at weighs
    rcases mem_offered.mp offered with ⟨inRows, listed, passes⟩
    simp only [Channel.listed, Bool.and_eq_true, decide_eq_true_eq] at listed
    exact ⟨List.mem_filter.mpr ⟨inRows, by simp [Channel.able, listed.1.1, weighs]⟩, passes⟩

theorem levelAt_offered (some : store.offered regex group model route model ≠ []) (retry : ℕ) :
    levelAt ((store.offered regex group model route model).map Channel.getPriority)
        retry = levelAt ((store.able group model).map Channel.getPriority) retry := by
  apply levelAt_congr
  intro _
  simp only [List.mem_map]
  constructor
  · rintro ⟨row, offered, rfl⟩
    rcases same.able_of_offered offered with ⟨other, isAble, _, sameRank⟩
    exact ⟨other, isAble, sameRank⟩
  · rintro ⟨row, isAble, rfl⟩
    have listed := ((same.mem_able built).mp ⟨isAble, passes_noPath⟩).1
    rcases same.routes group model route some row listed with
      ⟨other, offered, sameRank⟩
    exact ⟨other, offered, sameRank⟩

include light in
theorem agrees : Agrees regex parse old store := by
  rcases Option.isSome_iff_exists.mp (initChannelCache_isSome.mpr same.groups) with
    ⟨cache, isCache⟩
  refine ⟨cache, isCache, ?_⟩
  intro group model _ route _
  rw [cached_returns_iff isCache light, stored_returns_iff built light]
  by_cases none : store.offered regex group model route model = []
  · have isEmpty : store.drawn regex group model route = [] := by
      rw [ChannelStore.drawn, if_pos none, same.names group model route none]
    rw [isEmpty]
    constructor
    · rintro ⟨row, inNone, _⟩
      cases inNone
    · rintro ⟨row, isAble, _, _, passes⟩
      have offered := ((same.mem_able built).mp ⟨isAble, passes⟩).1
      rw [none] at offered
      cases offered
  · have offered : store.drawn regex group model route =
        store.offered regex group model route model := by
      rw [ChannelStore.drawn, if_neg none]
    rw [offered, same.levelAt_offered built none]
    constructor
    · rintro ⟨row, inRows, isId, level, weighs⟩
      rcases (same.mem_able built).mpr ⟨inRows, weighs⟩ with ⟨isAble, passes⟩
      exact ⟨row, isAble, isId, level, passes⟩
    · rintro ⟨row, isAble, isId, level, passes⟩
      rcases (same.mem_able built).mp ⟨isAble, passes⟩ with ⟨inRows, weighs⟩
      exact ⟨row, inRows, isId, level, weighs⟩

end SameSelection

theorem exists_drawn {rows : List Channel} (someRow : rows ≠ []) (retry : ℕ) :
    ∃ row ∈ rows, levelAt (rows.map Channel.getPriority) retry = some row.getPriority ∧
      ¬Outweighed rows row := by
  have filled : rows.map Channel.getPriority ≠ [] := by
    rw [Ne, List.map_eq_nil_iff]
    exact someRow
  rcases levelAt_of_ne_nil filled retry with ⟨_, isValue, level⟩
  rcases List.mem_map.mp isValue with ⟨row, inRows, rfl⟩
  by_cases weighs : Outweighed rows row
  · rcases weighs with ⟨_, other, isOther, sameRank, _⟩
    refine ⟨other, isOther, by rw [sameRank]; exact level, ?_⟩
    rintro ⟨_, _⟩
    omega
  · exact ⟨row, inRows, level, weighs⟩

section Converse

variable (built : store.Built) (light : LightWeights store)
  (agrees : Agrees regex parse old store)

include built light agrees

theorem returned_iff (inRows : row ∈ store.channels.rows) (retry : ℕ) :
    (row ∈ store.drawn regex group model route ∧
        levelAt ((store.drawn regex group model route).map Channel.getPriority) retry =
          some row.getPriority ∧ ¬Outweighed (store.drawn regex group model route) row) ↔
      row ∈ store.able group model ∧
        levelAt ((store.able group model).map Channel.getPriority) retry = some row.getPriority ∧
        row.passes regex route model = true := by
  rcases agrees with ⟨_, isCache, same⟩
  have sets := same group model retry route row.id
  rw [cached_returns_iff isCache light, stored_returns_iff built light] at sets
  have isRow : ∀ other ∈ store.channels.rows, other.id = row.id → other = row := by
    intro other isOther sameId
    have found : store.channels.find? row.id = some row := find?_of_mem inRows
    have foundOther : store.channels.find? other.id = some other := find?_of_mem isOther
    rw [sameId, found, Option.some.injEq] at foundOther
    exact foundOther.symm
  constructor
  · rintro ⟨drawn, level, weighs⟩
    rcases sets.mp ⟨row, drawn, rfl, level, weighs⟩ with ⟨other, isAble, sameId, facts⟩
    have same := isRow other (List.mem_of_mem_filter isAble) sameId
    subst same
    exact ⟨isAble, facts⟩
  · rintro ⟨isAble, level, passes⟩
    rcases sets.mpr ⟨row, isAble, rfl, level, passes⟩ with ⟨other, drawn, sameId, facts⟩
    have same := isRow other (mem_rows_of_drawn drawn) sameId
    subst same
    exact ⟨drawn, facts⟩

theorem exists_returned (someRow : store.drawn regex group model route ≠ []) (retry : ℕ) :
    ∃ row ∈ store.able group model, row.passes regex route model = true ∧
      levelAt ((store.drawn regex group model route).map Channel.getPriority) retry =
        some row.getPriority ∧
      levelAt ((store.able group model).map Channel.getPriority) retry = some row.getPriority := by
  rcases exists_drawn someRow retry with ⟨row, drawn, level, weighs⟩
  rcases (returned_iff built light agrees (mem_rows_of_drawn drawn) retry).mp
    ⟨drawn, level, weighs⟩ with ⟨isAble, ableLevel, passes⟩
  exact ⟨row, isAble, passes, level, ableLevel⟩

/-- Light stores whose groups agree select alike. -/
theorem sameSelection_of_agrees : SameSelection regex store := by
  have groups : store.GroupsKnown := by
    rcases agrees with ⟨cache, isCache, _⟩
    exact initChannelCache_isSome.mp (Option.isSome_iff_exists.mpr ⟨cache, isCache⟩)
  have models : ∀ chan ∈ store.channels.rows, chan.status = channelStatusEnabled →
      ∀ model ∈ Text.splitComma chan.models, model ≠ "" ∧ Text.trimSpace model = model := by
    intro chan inRows enabled model isModel
    rcases List.exists_mem_of_ne_nil _ (splitComma_ne_nil chan.group) with ⟨group, isGroup⟩
    have isOffered : chan ∈ store.offered regex group model "" model :=
      mem_offered.mpr ⟨inRows, by simp [Channel.listed, enabled, isGroup, isModel], passes_noPath⟩
    have some := List.ne_nil_of_mem isOffered
    have drawn : store.drawn regex group model "" ≠ [] := by
      rw [ChannelStore.drawn, if_neg some]
      exact some
    rcases exists_returned built light agrees drawn 0 with ⟨row, isAble, _⟩
    have able := (List.mem_filter.mp isAble).2
    simp only [Channel.able, Bool.and_eq_true, decide_eq_true_eq] at able
    have facts := mem_splitChannelValues (Channel.mem_abilityPairs able.2).2
    exact ⟨facts.1, facts.2.1⟩
  have offered : ∀ group model route, store.offered regex group model route model ≠ [] →
        store.drawn regex group model route = store.offered regex group model route model :=
    fun _ _ _ some => if_neg some
  have priorities : ∀ group model route val, store.offered regex group model route model ≠ [] →
        (val ∈ (store.offered regex group model route model).map Channel.getPriority ↔
          val ∈ (store.able group model).map Channel.getPriority) := by
    intro group model route _ some
    apply mem_iff_of_levelAt
    intro retry
    have drawn := offered group model route some
    rcases exists_returned built light agrees (drawn ▸ some) retry with
      ⟨row, _, _, level, ableLevel⟩
    rw [← drawn, level, ableLevel]
  refine ⟨groups, models, ?_, ?_, ?_⟩
  · intro group model route chan isOffered
    have drawn := offered group model route (List.ne_nil_of_mem isOffered)
    rcases mem_offered.mp isOffered with ⟨inRows, listed, passes⟩
    simp only [Channel.listed, Bool.and_eq_true, decide_eq_true_eq] at listed
    have isAble : (group, model) ∈ chan.abilityPairs ↔ chan ∈ store.able group model := by
      simp [ChannelStore.able, Channel.able, inRows, listed.1.1]
    rw [isAble]
    constructor
    · intro weighs isAble
      rcases exists_levelAt (List.mem_map_of_mem (f := Channel.getPriority) isAble) with
        ⟨retry, level⟩
      have returned := (returned_iff built light agrees inRows retry).mpr ⟨isAble, level, passes⟩
      rw [drawn] at returned
      exact returned.2.2 weighs
    · intro notAble
      by_contra weighs
      rcases exists_levelAt (List.mem_map_of_mem (f := Channel.getPriority) isOffered) with
        ⟨retry, level⟩
      rw [← drawn] at isOffered level weighs
      exact notAble ((returned_iff built light agrees inRows retry).mp ⟨isOffered, level, weighs⟩).1
  · intro group model route some _ listed
    have isPriority := List.mem_map_of_mem (f := Channel.getPriority) listed
    rw [priorities group model "" _ (List.ne_nil_of_mem listed),
      ← priorities group model route _ some] at isPriority
    rcases List.mem_map.mp isPriority with ⟨other, isOffered, sameRank⟩
    exact ⟨other, isOffered, sameRank⟩
  · intro group model route none
    by_contra some
    have drawn : store.drawn regex group model route ≠ [] := by
      rw [ChannelStore.drawn, if_pos none]
      exact some
    rcases exists_returned built light agrees drawn 0 with ⟨_, isAble, passes, _⟩
    rcases listed_of_able built groups models isAble with ⟨inRows, listed⟩
    have isOffered := mem_offered.mpr ⟨inRows, listed, passes⟩
    rw [none] at isOffered
    cases isOffered

end Converse

/-- Cached and stored selection agree exactly under the condition on the rows, as long as the
sums of the weights are `int`s. -/
theorem selection_agrees_iff (built : store.Built) (light : LightWeights store) :
    Agrees regex parse old store ↔ SameSelection regex store :=
  ⟨sameSelection_of_agrees built light, fun same => same.agrees built light⟩

end Agreement

def emptyStore : ChannelStore where
  channels := empty
  abilities := []

theorem emptyStore_built : emptyStore.Built := by
  intro _
  constructor
  · intro inNone
    cases inNone
  · rintro ⟨_, inNone, _⟩
    cases inNone

def sampleRouted (group : String) : Channel where
  id := 1
  type := 1
  key := "k"
  status := channelStatusEnabled
  weight := some 5
  models := "gpt-4o"
  group := group
  priority := some 0

theorem sampleStore_light :
    LightWeights (emptyStore.insertChannel (sampleRouted "default,vip")) where
  listed := by
    intro group name
    have rows : (emptyStore.insertChannel (sampleRouted "default,vip")).channels.rows =
        [sampleRouted "default,vip"] := by rfl
    have groups := List.count_le_length (a := group) (l := Text.splitComma "default,vip")
    have names := List.count_le_length (a := name) (l := Text.splitComma "gpt-4o")
    have lengths : (Text.splitComma "default,vip").length = 2 ∧
        (Text.splitComma "gpt-4o").length = 1 := by decide
    have listings := Nat.mul_le_mul groups names
    rw [lengths.1, lengths.2] at listings
    have once : (sampleRouted "default,vip").listings group name =
        (Text.splitComma "default,vip").count group * (Text.splitComma "gpt-4o").count name := rfl
    have weight : (sampleRouted "default,vip").storedWeight = 5 := rfl
    rw [rows, List.map_singleton, List.sum_singleton, once, weight]
    omega
  stored := by
    intro _ _
    have all : LightAbilities
        (emptyStore.insertChannel (sampleRouted "default,vip")).abilities := by
      unfold LightAbilities
      decide
    exact all.sublist List.filter_sublist

theorem selection_agrees_iff_sample :
    Agrees (fun _ _ => false) (fun _ => none) (fun _ => none)
        (emptyStore.insertChannel (sampleRouted "default,vip")) ↔
      SameSelection (fun _ _ => false) (emptyStore.insertChannel (sampleRouted "default,vip")) :=
  selection_agrees_iff emptyStore_built.insertChannel sampleStore_light

/-- A space after the comma between the groups is a panic. -/
theorem selection_panics :
    ¬∀ store : ChannelStore, store.Built →
      Agrees (fun _ _ => false) (fun _ => none) (fun _ => none) store := by
  intro agrees
  rcases agrees (emptyStore.insertChannel (sampleRouted "default, vip"))
    emptyStore_built.insertChannel with ⟨cache, isCache, _⟩
  have panics : ((emptyStore.insertChannel (sampleRouted "default, vip")).initChannelCache
      (fun _ => none) (fun _ => none)).isSome = false := by
    decide
  rw [isCache] at panics
  cases panics

end NewApi.Channels
