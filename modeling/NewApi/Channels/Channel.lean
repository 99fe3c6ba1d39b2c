import NewApi.Dto.AdvancedCustom
import NewApi.Library.Table

/-!
# Channels and their abilities

A channel row as far as routing and key selection read it, and the ability rows that
`AddAbilities` and `UpdateAbilities` build from it: one for each pair of a group and a model
of the channel.
-/

namespace NewApi.Channels

open NewApi.Dto (AdvancedCustomConfig)
open Relational

def channelTypeAdvancedCustom : ℤ := 58

def channelStatusEnabled : ℤ := 1

def channelStatusAutoDisabled : ℤ := 3

/-- How the keys of a multi-key channel take turns. -/
inductive MultiKeyMode where
  | random
  | polling
  | unknown
deriving DecidableEq

/-- The maps are those of the column: a key without an entry is enabled. -/
structure ChannelInfo where
  isMultiKey : Bool := false
  multiKeyStatusList : ℕ → Option ℤ := fun _ => none
  multiKeyDisabledReason : ℕ → Option String := fun _ => none
  multiKeyDisabledTime : ℕ → Option ℤ := fun _ => none
  multiKeyPollingIndex : ℤ := 0
  multiKeyMode : MultiKeyMode := .unknown

/-- The reason and the time of the last change of status. -/
structure OtherInfo where
  statusReason : Option String := none
  statusTime : Option ℤ := none

/-- A row of `channels`; `keys` is the parsed key list of a cached copy. -/
structure Channel where
  (id type : ℤ)
  key : String
  status : ℤ
  weight : Option ℕ
  (models group : String)
  usedQuota : ℤ := 0
  priority : Option ℤ
  otherInfo : OtherInfo := {}
  channelInfo : ChannelInfo := {}
  advancedCustom : Option AdvancedCustomConfig := none
  keys : List String := []

instance : Keyed Channel ℤ :=
  ⟨Channel.id⟩

/-- A row of `abilities`: a model of a group on a channel. -/
structure Ability where
  (group model : String)
  channelId : ℤ
  enabled : Bool
  priority : ℤ
  weight : ℕ
deriving DecidableEq

def Ability.sameKey (left right : Ability) : Bool :=
  left.group = right.group && left.model = right.model && left.channelId = right.channelId

/-- A machine integer read as an `int`. -/
def toInt (val : ℤ) : ℤ :=
  val.bmod (2 ^ 64)

theorem toInt_of_small {val : ℤ} (low : -2 ^ 63 ≤ val) (high : val < 2 ^ 63) :
    toInt val = val := by
  rw [toInt, Int.bmod_eq_of_le] <;> omega

def splitChannelValues (val : String) : List String :=
  if val = "" then []
  else ((Text.splitCommaTrimmed val).map Text.trimSpace).filter (· ≠ "")

def keepNewPairs : List String → List (String × String) → List (String × String)
  | _, [] => []
  | seen, (group, model) :: pairs =>
    let key := group ++ "|" ++ model
    if key ∈ seen then keepNewPairs seen pairs
    else (group, model) :: keepNewPairs (key :: seen) pairs

namespace Channel

variable (chan : Channel)

def getPriority : ℤ :=
  chan.priority.getD 0

/-- The column, a `uint`. -/
def storedWeight : ℕ :=
  chan.weight.getD 0

def getWeight : ℤ :=
  toInt chan.storedWeight

def getModels : List String :=
  splitChannelValues chan.models

def getGroups : List String :=
  splitChannelValues chan.group

def getKeys (parse : String → Option (List String)) : List String :=
  if chan.key = "" then []
  else if chan.keys ≠ [] then chan.keys
  else
    let trimmed := Text.trimSpace chan.key
    match if Text.hasPrefix trimmed "[" then parse trimmed else none with
    | some keys => keys
    | none =>
      ((Text.trimChars '\n' chan.key.toList).splitOn '\n').map String.ofList

def abilityPairs : List (String × String) :=
  keepNewPairs []
    (chan.getModels.flatMap fun model => chan.getGroups.map fun group => (group, model))

/-- The weight of an ability is `getWeight` as a `uint`, which is the stored weight again. -/
def buildAbilities : List Ability :=
  chan.abilityPairs.map fun pair =>
    { group := pair.1
      model := pair.2
      channelId := chan.id
      enabled := chan.status = channelStatusEnabled
      priority := chan.getPriority
      weight := chan.storedWeight }

end Channel

/-- The tables `channels` and `abilities`. -/
structure ChannelStore where
  channels : Table Channel
  abilities : List Ability

/-- An insertion that does nothing for an ability that is stored already. -/
def insertAbility (abilities : List Ability) (ability : Ability) : List Ability :=
  if abilities.any ability.sameKey then abilities else abilities ++ [ability]

def Channel.addAbilities (chan : Channel) (abilities : List Ability) : List Ability :=
  chan.buildAbilities.foldl insertAbility abilities

def Channel.updateAbilities (chan : Channel) (abilities : List Ability) : List Ability :=
  chan.addAbilities (abilities.filter (·.channelId ≠ chan.id))

namespace ChannelStore

variable (store : ChannelStore)

/-- `Insert`: a row with an id of its own, and its abilities. -/
def insertChannel (chan : Channel) : ChannelStore :=
  match store.channels.insertOwn chan with
  | some chans => { channels := chans, abilities := chan.addAbilities store.abilities }
  | none => store

/-- `Update`: the row is replaced, and its abilities are built again. -/
def updateChannel (chan : Channel) : ChannelStore :=
  if (store.channels.find? chan.id).isSome then
    { channels := store.channels.modify chan.id
        { apply := fun row => if row.id = chan.id then chan else row
          key_apply := by
            intro row
            split
            next same => exact same.symm
            · rfl }
      abilities := chan.updateAbilities store.abilities }
  else store

end ChannelStore

/-- The abilities are those of the channels. -/
def ChannelStore.Built (store : ChannelStore) : Prop :=
  ∀ ability, ability ∈ store.abilities ↔
    ∃ chan ∈ store.channels.rows, ability ∈ chan.buildAbilities

section Splitting

variable {val part : String}

theorem mem_splitChannelValues (isValue : part ∈ splitChannelValues val) :
    part ≠ "" ∧ Text.trimSpace part = part ∧
      ∃ raw ∈ Text.splitComma val, Text.trimSpace raw = part := by
  simp only [splitChannelValues] at isValue
  split at isValue
  · cases isValue
  · rcases List.mem_filter.mp isValue with ⟨inParts, filled⟩
    rcases List.mem_map.mp inParts with ⟨raw, isRaw, rfl⟩
    exact ⟨by simpa using filled, Text.trimSpace_trimSpace raw, raw,
      Text.mem_splitComma_of_trimmed isRaw, rfl⟩

theorem mem_keepNewPairs {seen : List String} {pairs : List (String × String)}
    {pair : String × String} (isKept : pair ∈ keepNewPairs seen pairs) : pair ∈ pairs := by
  induction pairs generalizing seen with
  | nil => exact isKept
  | cons _ _ ih =>
    simp only [keepNewPairs] at isKept
    split at isKept
    · exact List.mem_cons_of_mem _ (ih isKept)
    · rcases List.mem_cons.mp isKept with rfl | isIn
      · exact List.mem_cons_self
      · exact List.mem_cons_of_mem _ (ih isIn)

theorem Channel.mem_abilityPairs {chan : Channel} {group model : String}
    (isPair : (group, model) ∈ chan.abilityPairs) :
    group ∈ chan.getGroups ∧ model ∈ chan.getModels := by
  rcases List.mem_flatMap.mp (mem_keepNewPairs isPair) with ⟨_, isModel, inGroups⟩
  rcases List.mem_map.mp inGroups with ⟨_, isGroup, same⟩
  cases same
  exact ⟨isGroup, isModel⟩

end Splitting

section Abilities

variable {chan : Channel} {abilities : List Ability} {ability : Ability}

theorem mem_buildAbilities : ability ∈ chan.buildAbilities ↔
    (ability.group, ability.model) ∈ chan.abilityPairs ∧ ability.channelId = chan.id ∧
      ability.enabled = decide (chan.status = channelStatusEnabled) ∧
      ability.priority = chan.getPriority ∧ ability.weight = chan.storedWeight := by
  simp only [Channel.buildAbilities, List.mem_map]
  constructor
  · rintro ⟨_, isPair, rfl⟩
    exact ⟨isPair, rfl, rfl, rfl, rfl⟩
  · rintro ⟨isPair, isRow, enabled, isPriority, isWeight⟩
    refine ⟨_, isPair, ?_⟩
    cases ability
    simp only at isRow enabled isPriority isWeight
    simp only [isRow, enabled, isPriority, isWeight]

theorem keepNewPairs_nodup (seen : List String) (pairs : List (String × String)) :
    (keepNewPairs seen pairs).Nodup ∧
      ∀ pair ∈ keepNewPairs seen pairs, pair.1 ++ "|" ++ pair.2 ∉ seen := by
  induction pairs generalizing seen with
  | nil => exact ⟨List.nodup_nil, fun _ inNone => absurd inNone List.not_mem_nil⟩
  | cons first _ ih =>
    simp only [keepNewPairs]
    split
    · exact ih seen
    next isNew =>
      rcases ih ((first.1 ++ "|" ++ first.2) :: seen) with ⟨nodup, others⟩
      refine ⟨List.nodup_cons.mpr ⟨?_, nodup⟩, ?_⟩
      · intro again
        exact others first again List.mem_cons_self
      · intro pair isKept
        rcases List.mem_cons.mp isKept with rfl | isIn
        · exact isNew
        · intro isSeen
          exact others pair isIn (List.mem_cons_of_mem _ isSeen)

theorem mem_foldl_insertAbility {new : List Ability}
    (apart : new.Pairwise fun left right => right.sameKey left = false)
    (fresh : ∀ stored ∈ abilities, ∀ added ∈ new, added.sameKey stored = false) :
    ability ∈ new.foldl insertAbility abilities ↔ ability ∈ abilities ∨ ability ∈ new := by
  induction new generalizing abilities with
  | nil => simp
  | cons first _ ih =>
    rcases List.pairwise_cons.mp apart with ⟨firstDifferent, restDifferent⟩
    have inserted : insertAbility abilities first = abilities ++ [first] := by
      rw [insertAbility, if_neg]
      intro taken
      rcases List.any_eq_true.mp taken with ⟨stored, isStored, same⟩
      rw [fresh stored isStored first List.mem_cons_self] at same
      cases same
    rw [List.foldl_cons, inserted, ih restDifferent]
    · simp [or_assoc]
    · intro stored isStored added isAdded
      rcases List.mem_append.mp isStored with old | isFirst
      · exact fresh stored old added (List.mem_cons_of_mem _ isAdded)
      · rw [List.mem_singleton.mp isFirst]
        exact firstDifferent added isAdded

theorem mem_addAbilities (fresh : ∀ stored ∈ abilities, stored.channelId ≠ chan.id) :
    ability ∈ chan.addAbilities abilities ↔
      ability ∈ abilities ∨ ability ∈ chan.buildAbilities := by
  refine mem_foldl_insertAbility ?_ ?_
  · refine List.Pairwise.map _ ?_ (keepNewPairs_nodup [] _).1
    rintro ⟨group, model⟩ ⟨otherGroup, otherModel⟩ apart
    simp only [Ability.sameKey, Bool.and_eq_false_iff, decide_eq_false_iff_not]
    by_cases same : otherGroup = group
    · by_cases sameModel : otherModel = model
      · exact absurd (by rw [same, sameModel]) apart
      · exact .inl (.inr sameModel)
    · exact .inl (.inl same)
  · intro stored isStored _ isAdded
    simp only [Ability.sameKey, Bool.and_eq_false_iff, decide_eq_false_iff_not]
    rw [(mem_buildAbilities.mp isAdded).2.1]
    exact .inr (Ne.symm (fresh stored isStored))

end Abilities

namespace ChannelStore

variable {store : ChannelStore} {chan : Channel}

theorem Built.insertChannel (built : store.Built) : (store.insertChannel chan).Built := by
  simp only [ChannelStore.insertChannel]
  split
  next inserts =>
    rcases Table.insertOwn_some inserts with ⟨free, rows⟩
    have fresh : ∀ stored ∈ store.abilities, stored.channelId ≠ chan.id := by
      intro stored isStored same
      rcases (built stored).mp isStored with ⟨owner, isRow, isBuilt⟩
      have found := Table.find?_of_mem isRow
      have ofOwner := (mem_buildAbilities.mp isBuilt).2.1
      have ownerId : Keyed.key owner = chan.id := ofOwner.symm.trans same
      rw [ownerId] at found
      rw [show Keyed.key chan = chan.id from rfl, found] at free
      cases free
    intro ability
    rw [mem_addAbilities fresh, built ability, rows]
    constructor
    · rintro (⟨owner, isRow, isBuilt⟩ | isBuilt)
      · exact ⟨owner, List.mem_append_left _ isRow, isBuilt⟩
      · exact ⟨chan, List.mem_append_right _ List.mem_cons_self, isBuilt⟩
    · rintro ⟨owner, isRow, isBuilt⟩
      rcases List.mem_append.mp isRow with old | new
      · exact .inl ⟨owner, old, isBuilt⟩
      · rw [List.mem_singleton.mp new] at isBuilt
        exact .inr isBuilt
  · exact built

theorem Built.updateChannel (built : store.Built) : (store.updateChannel chan).Built := by
  simp only [ChannelStore.updateChannel]
  split
  next stored =>
    have fresh : ∀ stored ∈ store.abilities.filter (·.channelId ≠ chan.id),
        stored.channelId ≠ chan.id := by
      intro stored isStored
      simpa using (List.mem_filter.mp isStored).2
    obtain ⟨row, found⟩ := Option.isSome_iff_exists.mp stored
    have isRow := Table.mem_of_find? found
    have rowId : row.id = chan.id := Table.key_of_find? found
    intro ability
    simp only [Channel.updateAbilities]
    rw [mem_addAbilities fresh, List.mem_filter, built ability]
    simp only [Table.mem_modify, ne_eq, decide_not, Bool.not_eq_true', decide_eq_false_iff_not]
    constructor
    · rintro (⟨⟨owner, inRows, isBuilt⟩, apart⟩ | isBuilt)
      · have ownerId := (mem_buildAbilities.mp isBuilt).2.1
        refine ⟨owner, .inr ⟨inRows, ?_⟩, isBuilt⟩
        intro same
        exact apart (ownerId.trans same)
      · exact ⟨chan, .inl ⟨row, isRow, rowId, (if_pos rowId).symm⟩, isBuilt⟩
    · rintro ⟨owner, ⟨old, _, oldId, rfl⟩ | ⟨inRows, apart⟩, isBuilt⟩
      · have sameId : old.id = chan.id := oldId
        rw [if_pos sameId] at isBuilt
        exact .inr isBuilt
      · have ownerId := (mem_buildAbilities.mp isBuilt).2.1
        exact .inl ⟨⟨owner, inRows, isBuilt⟩, fun same => apart (ownerId.symm.trans same)⟩
  · exact built

end ChannelStore

end NewApi.Channels
