import Mathlib.Data.List.Sort
import NewApi.Channels.Channel

/-!
# The channel cache

`InitChannelCache` reads the tables and lists the enabled channels under the groups and models
that stand in their columns. Ties in a list keep the order of the table.
-/

namespace NewApi.Channels

open NewApi.Dto (AdvancedCustomConfig)
open Relational

/-- `group2model2channels`: the groups that have a map, and the lists in the maps. -/
structure Routing where
  groups : List String
  lists : String → String → List ℤ

/-- The maps that `InitChannelCache` fills. -/
structure ChannelCache where
  group2model2channels : Routing
  channelsIDM : ℤ → Option Channel
  channel2advancedCustomConfig : ℤ → Option AdvancedCustomConfig

namespace Routing

variable (routing : Routing)

def append (group model : String) (id : ℤ) : Option Routing :=
  if group ∈ routing.groups then
    some
      { routing with
        lists := Function.update routing.lists group
          (Function.update (routing.lists group) model (routing.lists group model ++ [id])) }
  else none

def listModels (id : ℤ) (group : String) (models : List String) : Option Routing :=
  models.foldlM (fun routing model => routing.append group model id) routing

def listGroups (id : ℤ) (models groups : List String) : Option Routing :=
  groups.foldlM (fun routing group => routing.listModels id group models) routing

def listChannel (chan : Channel) : Option Routing :=
  if chan.status ≠ channelStatusEnabled then some routing
  else
    routing.listGroups chan.id (Text.splitComma chan.models) (Text.splitComma chan.group)

end Routing

def Channel.advancedCustomConfig (chan : Channel) : Option AdvancedCustomConfig :=
  if chan.type = channelTypeAdvancedCustom then chan.advancedCustom else none

def keepPollingIndex (old : Option Channel) (chan : Channel) : Channel :=
  match old with
  | some oldChannel =>
    if chan.channelInfo.multiKeyMode = .polling ∧ oldChannel.channelInfo.isMultiKey ∧
        oldChannel.channelInfo.multiKeyMode = .polling then
      { chan with
        channelInfo :=
          { chan.channelInfo with
            multiKeyPollingIndex := oldChannel.channelInfo.multiKeyPollingIndex } }
    else chan
  | none => chan

def cachedChannel (parse : String → Option (List String)) (old : Option Channel)
    (chan : Channel) : Channel :=
  if chan.channelInfo.isMultiKey then
    keepPollingIndex old { chan with keys := chan.getKeys parse }
  else chan

namespace ChannelStore

variable (store : ChannelStore)

def listChannels : Option Routing :=
  store.channels.rows.foldlM Routing.listChannel
    { groups := store.abilities.map Ability.group, lists := fun _ _ => [] }

def priorityOf (id : ℤ) : ℤ :=
  ((store.channels.find? id).map Channel.getPriority).getD 0

def sortByPriority (ids : List ℤ) : List ℤ :=
  ids.insertionSort fun left right => store.priorityOf left ≥ store.priorityOf right

def initChannelCache (parse : String → Option (List String)) (old : ℤ → Option Channel) :
    Option ChannelCache :=
  store.listChannels.map fun routing =>
    { group2model2channels :=
        { routing with
          lists := fun group model => store.sortByPriority (routing.lists group model) }
      channelsIDM := fun id => (store.channels.find? id).map (cachedChannel parse (old id))
      channel2advancedCustomConfig := fun id =>
        (store.channels.find? id).bind Channel.advancedCustomConfig }

end ChannelStore

/-! ### What is listed -/

section Lists

variable {routing listed : Routing} {id : ℤ} {group model : String}

theorem splitComma_ne_nil (text : String) : Text.splitComma text ≠ [] := by
  intro isNil
  exact Text.splitOn_ne_nil ',' text.toList (List.map_eq_nil_iff.mp isNil)

theorem Routing.append_some (group' model' : String)
    (appends : routing.append group model id = some listed) :
    group ∈ routing.groups ∧ listed.groups = routing.groups ∧
      listed.lists group' model' =
        routing.lists group' model' ++ if group' = group ∧ model' = model then [id] else [] := by
  simp only [Routing.append] at appends
  split at appends
  next known =>
    cases appends
    refine ⟨known, rfl, ?_⟩
    by_cases same : group' = group
    · subst same
      by_cases sameModel : model' = model
      · subst sameModel
        simp
      · simp [sameModel]
    · simp [same]
  · cases appends

theorem Routing.append_of_mem (id : ℤ) (model : String) (known : group ∈ routing.groups) :
    ∃ listed, routing.append group model id = some listed ∧ listed.groups = routing.groups := by
  refine ⟨_, if_pos known, rfl⟩

theorem Routing.listModels_some {models : List String} (group' model' : String)
    (lists : routing.listModels id group models = some listed) :
    (models ≠ [] → group ∈ routing.groups) ∧ listed.groups = routing.groups ∧
      listed.lists group' model' = routing.lists group' model' ++
        if group' = group then List.replicate (models.count model') id else [] := by
  induction models generalizing routing with
  | nil =>
    cases lists
    exact ⟨fun none => absurd rfl none, rfl, by simp⟩
  | cons model _ ih =>
    simp only [Routing.listModels, List.foldlM_cons, Option.bind_eq_bind,
      Option.bind_eq_some_iff] at lists
    rcases lists with ⟨_, appends, rest⟩
    have first := Routing.append_some group' model' appends
    have others := ih rest
    refine ⟨fun _ => first.1, others.2.1.trans first.2.1, ?_⟩
    rw [others.2.2, first.2.2, List.append_assoc]
    congr 1
    by_cases same : group' = group
    · by_cases sameModel : model' = model
      · subst sameModel
        simp only [same, and_self, if_true, List.count_cons_self]
        rfl
      · simp [same, sameModel, Ne.symm sameModel]
    · simp [same]

theorem Routing.listModels_of_mem (id : ℤ) (models : List String) (known : group ∈ routing.groups) :
    ∃ listed, routing.listModels id group models = some listed ∧
      listed.groups = routing.groups := by
  induction models generalizing routing with
  | nil => exact ⟨routing, rfl, rfl⟩
  | cons model _ ih =>
    rcases Routing.append_of_mem id model known with ⟨_, appends, same⟩
    rw [← same] at known
    rcases ih known with ⟨listed, lists, sameListed⟩
    refine ⟨listed, ?_, sameListed.trans same⟩
    simp only [Routing.listModels, List.foldlM_cons, appends]
    exact lists

theorem Routing.listGroups_some {models groups : List String} (group' model' : String)
    (lists : routing.listGroups id models groups = some listed) :
    (models ≠ [] → ∀ group ∈ groups, group ∈ routing.groups) ∧ listed.groups = routing.groups ∧
      listed.lists group' model' = routing.lists group' model' ++
        List.replicate (groups.count group' * models.count model') id := by
  induction groups generalizing routing with
  | nil =>
    cases lists
    exact ⟨fun _ _ inNone => absurd inNone List.not_mem_nil, rfl, by simp⟩
  | cons group _ ih =>
    simp only [Routing.listGroups, List.foldlM_cons, Option.bind_eq_bind,
      Option.bind_eq_some_iff] at lists
    rcases lists with ⟨_, listsModels, rest⟩
    have first := Routing.listModels_some group' model' listsModels
    have others := ih rest
    refine ⟨?_, others.2.1.trans first.2.1, ?_⟩
    · intro filled other inGroups
      rcases List.mem_cons.mp inGroups with rfl | isIn
      · exact first.1 filled
      · rw [← first.2.1]
        exact others.1 filled other isIn
    · rw [others.2.2, first.2.2, List.append_assoc]
      congr 1
      by_cases same : group' = group
      · subst same
        rw [if_pos rfl, List.count_cons_self, ← List.replicate_add]
        rw [Nat.add_mul, Nat.one_mul, Nat.add_comm]
      · rw [if_neg same, List.count_cons_of_ne (Ne.symm same), List.nil_append]

theorem Routing.listGroups_of_mem {groups : List String} (models : List String)
    (known : ∀ group ∈ groups, group ∈ routing.groups) :
    ∃ listed, routing.listGroups id models groups = some listed ∧
      listed.groups = routing.groups := by
  induction groups generalizing routing with
  | nil => exact ⟨routing, rfl, rfl⟩
  | cons group groups ih =>
    rcases Routing.listModels_of_mem id models (known group List.mem_cons_self) with
      ⟨middle, listsModels, same⟩
    have restKnown : ∀ other ∈ groups, other ∈ middle.groups := by
      intro other isIn
      rw [same]
      exact known other (List.mem_cons_of_mem _ isIn)
    rcases ih restKnown with ⟨listed, lists, sameListed⟩
    refine ⟨listed, ?_, sameListed.trans same⟩
    simp only [Routing.listGroups, List.foldlM_cons, listsModels]
    exact lists

def Channel.listings (chan : Channel) (group model : String) : ℕ :=
  if chan.status = channelStatusEnabled then
    (Text.splitComma chan.group).count group * (Text.splitComma chan.models).count model
  else 0

def Channel.GroupsKnown (chan : Channel) (groups : List String) : Prop :=
  chan.status = channelStatusEnabled → ∀ group ∈ Text.splitComma chan.group, group ∈ groups

theorem Routing.listChannel_some {chan : Channel} (group' model' : String)
    (lists : routing.listChannel chan = some listed) :
    chan.GroupsKnown routing.groups ∧ listed.groups = routing.groups ∧
      listed.lists group' model' = routing.lists group' model' ++
        List.replicate (chan.listings group' model') chan.id := by
  simp only [Routing.listChannel] at lists
  split at lists
  next disabled =>
    cases lists
    refine ⟨fun enabled => absurd enabled disabled, rfl, ?_⟩
    simp [Channel.listings, disabled]
  next enabled =>
    have facts := Routing.listGroups_some group' model' lists
    refine ⟨fun _ => facts.1 (splitComma_ne_nil chan.models), facts.2.1, ?_⟩
    rw [facts.2.2, Channel.listings, if_pos (not_not.mp enabled)]

theorem Routing.listChannel_of_known {chan : Channel} (known : chan.GroupsKnown routing.groups) :
    ∃ listed, routing.listChannel chan = some listed ∧ listed.groups = routing.groups := by
  simp only [Routing.listChannel]
  split
  · exact ⟨routing, rfl, rfl⟩
  next enabled => exact Routing.listGroups_of_mem _ (known (not_not.mp enabled))

theorem Routing.listAll_some {chans : List Channel} (group' model' : String)
    (lists : chans.foldlM Routing.listChannel routing = some listed) :
    (∀ chan ∈ chans, chan.GroupsKnown routing.groups) ∧ listed.groups = routing.groups ∧
      listed.lists group' model' = routing.lists group' model' ++ chans.flatMap fun chan =>
          List.replicate (chan.listings group' model') chan.id := by
  induction chans generalizing routing with
  | nil =>
    cases lists
    exact ⟨fun _ inNone => absurd inNone List.not_mem_nil, rfl, by simp⟩
  | cons _ _ ih =>
    simp only [List.foldlM_cons, Option.bind_eq_bind, Option.bind_eq_some_iff] at lists
    rcases lists with ⟨_, listsFirst, rest⟩
    have first := Routing.listChannel_some group' model' listsFirst
    have others := ih rest
    refine ⟨?_, others.2.1.trans first.2.1, ?_⟩
    · intro other inChannels
      rcases List.mem_cons.mp inChannels with rfl | isIn
      · exact first.1
      · rw [← first.2.1]
        exact others.1 other isIn
    · rw [others.2.2, first.2.2, List.append_assoc, List.flatMap_cons]

theorem Routing.listAll_of_known {chans : List Channel}
    (known : ∀ chan ∈ chans, chan.GroupsKnown routing.groups) :
    ∃ listed, chans.foldlM Routing.listChannel routing = some listed := by
  induction chans generalizing routing with
  | nil => exact ⟨routing, rfl⟩
  | cons chan chans ih =>
    rcases Routing.listChannel_of_known (known chan List.mem_cons_self) with
      ⟨middle, listsFirst, same⟩
    have restKnown : ∀ other ∈ chans, other.GroupsKnown middle.groups := by
      intro other isIn
      rw [same]
      exact known other (List.mem_cons_of_mem _ isIn)
    rcases ih restKnown with ⟨listed, lists⟩
    refine ⟨listed, ?_⟩
    simp only [List.foldlM_cons, listsFirst]
    exact lists

end Lists

section Store

variable {store : ChannelStore} {parse : String → Option (List String)}
  {old : ℤ → Option Channel} {cache : ChannelCache}

def ChannelStore.GroupsKnown (store : ChannelStore) : Prop :=
  ∀ chan ∈ store.channels.rows, chan.GroupsKnown (store.abilities.map Ability.group)

theorem initChannelCache_isSome :
    (store.initChannelCache parse old).isSome = true ↔ store.GroupsKnown := by
  rw [ChannelStore.initChannelCache, Option.isSome_map, Option.isSome_iff_exists]
  constructor
  · rintro ⟨_, lists⟩
    exact (Routing.listAll_some "" "" lists).1
  · intro known
    exact Routing.listAll_of_known known

theorem initChannelCache_lists (isCache : store.initChannelCache parse old = some cache)
    (group model : String) :
    (cache.group2model2channels.lists group model).Perm (store.channels.rows.flatMap fun chan =>
        List.replicate (chan.listings group model) chan.id) := by
  rcases Option.map_eq_some_iff.mp isCache with ⟨_, lists, rfl⟩
  have facts := (Routing.listAll_some group model lists).2.2
  simp only [List.nil_append] at facts
  rw [← facts]
  exact List.perm_insertionSort _ _

end Store

end NewApi.Channels
