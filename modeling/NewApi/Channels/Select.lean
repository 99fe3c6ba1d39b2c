import NewApi.Channels.Cache
import NewApi.Library.Levels

/-!
# Selection of a channel

`GetRandomSatisfiedChannel` from the cache and `GetChannel` from the tables. A random number is
the rest of a seed, so that the seeds give every number below the limit.
-/

namespace NewApi.Channels

open NewApi.Dto (AdvancedCustomConfig)
open Relational Levels

def handleThinkingBudgetModel (name start wildcard : String) : String :=
  if Text.hasPrefix name start && Text.contains name "-thinking-" then wildcard else name

def formatMatchingModelName (name : String) : String :=
  let named :=
    if Text.hasPrefix name "gemini-2.5-flash-lite" then
      handleThinkingBudgetModel name "gemini-2.5-flash-lite" "gemini-2.5-flash-lite-thinking-*"
    else if Text.hasPrefix name "gemini-2.5-flash" then
      handleThinkingBudgetModel name "gemini-2.5-flash" "gemini-2.5-flash-thinking-*"
    else if Text.hasPrefix name "gemini-2.5-pro" then
      handleThinkingBudgetModel name "gemini-2.5-pro" "gemini-2.5-pro-thinking-*"
    else name
  let matched := if Text.hasPrefix named "gpt-4-gizmo" then "gpt-4-gizmo-*" else named
  if Text.hasPrefix matched "gpt-4o-gizmo" then "gpt-4o-gizmo-*" else matched

/-- The ways in which a selection fails. -/
inductive SelectError where
  | inconsistent (id : ℤ)
  | noPriority
  | noChannel
  | channelNotFound
  | panics

/-! ### From the cache -/

def pickWeighted (weightOf : Channel → ℤ) : List Channel → ℤ → Option Channel
  | [], _ => none
  | chan :: chans, randomWeight =>
    let rest := toInt (randomWeight - weightOf chan)
    if rest < 0 then some chan else pickWeighted weightOf chans rest

/-- The smoothing factor and the smoothing adjustment. -/
def smoothing (sumWeight : ℤ) (count : ℕ) : ℤ × ℤ :=
  if sumWeight = 0 then (1, 100)
  else if sumWeight.tdiv count < 10 then (100, 0)
  else (1, 0)

/-- The sum of the weights; it wraps at the end as it would at each step. -/
def sumWeight (chans : List Channel) : ℤ :=
  toInt (chans.map Channel.getWeight).sum

def smoothedWeight (chans : List Channel) (chan : Channel) : ℤ :=
  let smooth := smoothing (sumWeight chans) chans.length
  toInt (chan.getWeight * smooth.1 + smooth.2)

def totalWeight (chans : List Channel) : ℤ :=
  let smooth := smoothing (sumWeight chans) chans.length
  toInt ((if sumWeight chans = 0 then (chans.length : ℤ) * 100 else sumWeight chans) * smooth.1)

/-- The draw; `rand.Intn` panics for a total that is not positive. -/
def drawWeighted (chans : List Channel) (seed : ℕ) : Except SelectError Channel :=
  if totalWeight chans ≤ 0 then .error .panics
  else
    match pickWeighted (smoothedWeight chans) chans (seed % (totalWeight chans).toNat : ℕ) with
    | some chan => .ok chan
    | none => .error .channelNotFound

def drawAtRetry (candidates : List Channel) (retry seed : ℕ) : Except SelectError Channel :=
  match levelAt (candidates.map Channel.getPriority) retry with
  | none => .error .noPriority
  | some targetPriority =>
    match candidates.filter (·.getPriority = targetPriority) with
    | [] => .error .noChannel
    | targetChannels => drawWeighted targetChannels seed

section Selection

variable (regex : String → String → Bool)

/-- Whether the routes of an Advanced Custom channel match; other channels always pass. -/
def passesPath (config : Option AdvancedCustomConfig) (type : ℤ) (path model : String) :
    Bool :=
  type ≠ channelTypeAdvancedCustom ||
    match config with
    | some config => config.supportsPathForModel regex path model
    | none => false

namespace ChannelCache

variable (cache : ChannelCache)

def filterChannelsByRequestPathAndModel (chans : List ℤ) (path model : String) :
    List ℤ :=
  if path = "" ∨ chans = [] then chans
  else
    chans.filter fun id =>
      match cache.channelsIDM id with
      | none => true
      | some chan =>
        passesPath regex (cache.channel2advancedCustomConfig id) chan.type path model

def lookUp (id : ℤ) : Except SelectError Channel :=
  match cache.channelsIDM id with
  | some chan => .ok chan
  | none => .error (.inconsistent id)

def candidates (group model path : String) : List ℤ :=
  let lists := cache.group2model2channels.lists group
  let chans := cache.filterChannelsByRequestPathAndModel regex (lists model) path model
  if chans = [] then
    cache.filterChannelsByRequestPathAndModel regex
      (lists (formatMatchingModelName model)) path model
  else chans

def getRandomSatisfiedChannel (group model : String) (retry : ℕ) (path : String)
    (seed : ℕ) : Except SelectError (Option Channel) :=
  match cache.candidates regex group model path with
  | [] => .ok none
  | [id] => (cache.lookUp id).map some
  | ids => do
      let chans ← ids.mapM cache.lookUp
      return some (← drawAtRetry chans retry seed)

end ChannelCache

/-! ### From the tables -/

def pickAbility : List Ability → ℤ → Option Ability
  | [], _ => none
  | ability :: abilities, weight =>
    let rest := toInt (weight - (ability.weight + 10))
    if rest ≤ 0 then some ability else pickAbility abilities rest

/-- The sum of the `uint`s, read as an `int`. -/
def weightSum (abilities : List Ability) : ℤ :=
  toInt (abilities.map fun ability => (ability.weight : ℤ) + 10).sum

namespace ChannelStore

variable (store : ChannelStore)

def enabledAbilities (group model : String) : List Ability :=
  store.abilities.filter fun ability =>
    ability.group = group && ability.model = model && ability.enabled

def getPriority (group model : String) (retry : ℕ) : Except SelectError ℤ :=
  match levelAt ((store.enabledAbilities group model).map Ability.priority) retry with
  | some priority => .ok priority
  | none => .error .noPriority

def getChannelQuery (group model : String) (retry : ℕ) : Except SelectError (List Ability) := do
  let abilities := store.enabledAbilities group model
  if retry = 0 then
    let maxPriority := (abilities.map Ability.priority).max?
    return abilities.filter fun ability => some ability.priority = maxPriority
  else
    let priority ← store.getPriority group model retry
    return abilities.filter fun ability => ability.priority = priority

def filterAbilitiesByRequestPathAndModel (abilities : List Ability) (path model : String) :
    List Ability :=
  if path = "" ∨ abilities = [] then abilities
  else
    abilities.filter fun ability =>
      match store.channels.find? ability.channelId with
      | none => true
      | some chan =>
        passesPath regex chan.advancedCustom chan.type path model

def getChannel (group model : String) (retry : ℕ) (path : String) (seed : ℕ) :
    Except SelectError (Option Channel) := do
  let abilities ← store.getChannelQuery group model retry
  let ordered := abilities.insertionSort fun left right => left.weight ≥ right.weight
  match store.filterAbilitiesByRequestPathAndModel regex ordered path model with
  | [] => return none
  | filtered =>
    if weightSum filtered ≤ 0 then .error .panics
    else
      match pickAbility filtered (seed % (weightSum filtered).toNat : ℕ) with
      | none => .error .noChannel
      | some ability =>
        match store.channels.find? ability.channelId with
        | some chan => return some chan
        | none => .error .noChannel

end ChannelStore

end Selection

end NewApi.Channels
