import NewApi.Billing.ServingCharge

/-!
# The model that is called and the model that is priced

`ModelMappedHelper` follows the mapping of a channel from the requested model with a set of
visited models and fails on a cycle; `resolveUpstreamModelForBilling` follows it for at most as
many steps as there are entries. They end at the same model. The price is that of the first
selected channel's model.
-/

namespace NewApi.Relay

open NewApi.Types NewApi.Service NewApi.Model Relation

/-! ## The two loops -/

section Resolution

variable {mapping : List (String × String)} {base : String}

/-- The loop of `ModelMappedHelper` for a number of turns; `none` if it has not returned. -/
def mapModelTurns (base : String) (mapping : List (String × String)) :
    ℕ → List String → String → Bool → Option (Option (String × Bool))
  | 0, _, _, _ => none
  | turns + 1, visited, current, mapped =>
    match mapping.lookup current with
    | none => some (some (current, mapped))
    | some next =>
      if next = "" then
        some (some (current, mapped))
      else if next ∈ visited then
        some (if next = current then some (current, current ≠ base) else none)
      else
        mapModelTurns base mapping turns (next :: visited) next true

/-- A mapping redirects a model. -/
def Maps (mapping : List (String × String)) (model next : String) : Prop :=
  mapping.lookup model = some next ∧ next ≠ ""

/-- Following the mapping enters a cycle of two models or more. -/
def EntersCycle (mapping : List (String × String)) (base : String) : Prop :=
  ∃ model next, ReflTransGen (Maps mapping) base model ∧ Maps mapping model next ∧
    next ≠ model ∧ ReflTransGen (Maps mapping) next model

theorem Maps.unique {model next other : String} (maps : Maps mapping model next)
    (mapsOther : Maps mapping model other) : next = other :=
  Option.some.inj (maps.1.symm.trans mapsOther.1)

theorem back_of_cycle {model next run : String} (maps : Maps mapping model next)
    (back : ReflTransGen (Maps mapping) next model)
    (reaches : ReflTransGen (Maps mapping) model run) :
    ReflTransGen (Maps mapping) run model := by
  induction reaches with
  | refl => exact .refl
  | tail _ step ih =>
    rcases ih.cases_head with rfl | ⟨_, first, _⟩
    · rwa [← maps.unique step]
    · rwa [← first.unique step]

/-- A path that ends, or stays at a model, enters no cycle. -/
theorem not_entersCycle {last : String} (reaches : ReflTransGen (Maps mapping) base last)
    (stays : ∀ next, Maps mapping last next → next = last) : ¬EntersCycle mapping base := by
  rintro ⟨model, _, toModel, maps, moves, back⟩
  have total := ReflTransGen.total_of_right_unique
    (fun _ _ _ left right => left.unique right) reaches toModel
  have onward : ReflTransGen (Maps mapping) last model := by
    rcases total with onward | behind
    · exact onward
    · exact back_of_cycle maps back behind
  have same : model = last := by
    clear toModel maps moves back total
    induction onward with
    | refl => rfl
    | tail _ step ih =>
      rw [ih] at step
      exact stays _ step
  rw [same] at maps moves
  exact moves (stays _ maps)

theorem mapModel_eq_turns (turns : ℕ) (seen : List String) (current : String) (mapped : Bool) :
    mapModel base mapping turns seen current mapped =
      (mapModelTurns base mapping turns seen current mapped).join := by
  induction turns generalizing seen current mapped with
  | zero => rfl
  | succ _ _ =>
    rw [mapModel, mapModelTurns]
    grind

/-- What the loop knows of the models it has visited. -/
structure Visited (mapping : List (String × String)) (base : String) (visited : List String)
    (current : String) : Prop where
  fresh : visited.Nodup
  keys : visited.tail ⊆ mapping.map Prod.fst
  reached : ∀ model ∈ visited, ReflTransGen (Maps mapping) base model ∧
    ReflTransGen (Maps mapping) model current
  head : visited.head? = some current

theorem Visited.current {seen : List String} {current : String}
    (visits : Visited mapping base seen current) :
    ReflTransGen (Maps mapping) base current :=
  (visits.reached current (List.mem_of_head? visits.head)).1

theorem mem_keys_of_lookup {model next : String} (found : mapping.lookup model = some next) :
    model ∈ mapping.map Prod.fst := by
  induction mapping with
  | nil => simp at found
  | cons _ _ ih =>
    rw [List.lookup_cons] at found
    split at found
    next same => simp [eq_of_beq same]
    next => exact List.mem_cons_of_mem _ (ih found)

theorem Visited.step {seen : List String} {current next : String}
    (visits : Visited mapping base seen current) (maps : Maps mapping current next)
    (new : next ∉ seen) : Visited mapping base (next :: seen) next where
  fresh := visits.fresh.cons new
  keys := by
    intro _ member
    simp only [List.tail_cons] at member
    rcases List.head?_eq_some_iff.mp visits.head with ⟨_, rfl⟩
    rcases List.mem_cons.mp member with rfl | past
    · exact mem_keys_of_lookup maps.1
    · exact visits.keys past
  reached := by
    intro model member
    rcases List.mem_cons.mp member with rfl | past
    · exact ⟨visits.current.tail maps, .refl⟩
    · exact ⟨(visits.reached model past).1, (visits.reached model past).2.tail maps⟩
  head := rfl

theorem Visited.length_le {seen : List String} {current : String}
    (visits : Visited mapping base seen current) : seen.length ≤ mapping.length + 1 := by
  have tail := (visits.fresh.tail.subperm visits.keys).length_le
  simp only [List.length_tail, List.length_map] at tail
  omega

/-- The loop returns, and fails exactly if it is on a cycle. -/
theorem mapModelTurns_returns {turns : ℕ} {visited : List String} {current : String}
    {mapped : Bool} (visits : Visited mapping base visited current)
    (enough : mapping.length + 1 < turns + visited.length) :
    ∃ result, mapModelTurns base mapping turns visited current mapped = some result ∧
      (result = none ↔ EntersCycle mapping base) := by
  induction turns generalizing visited current mapped with
  | zero =>
    have bound := visits.length_le
    omega
  | succ _ ih =>
    simp only [mapModelTurns]
    split
    next notFound =>
      refine ⟨_, rfl, by simp, fun cycle => ?_⟩
      refine absurd cycle (not_entersCycle visits.current fun next maps => ?_)
      simp [maps.1] at notFound
    next next found =>
      split
      next empty =>
        refine ⟨_, rfl, by simp, fun cycle => ?_⟩
        refine absurd cycle (not_entersCycle visits.current fun other maps => ?_)
        have same := Option.some.inj (found.symm.trans maps.1)
        exact absurd (same.symm.trans empty) maps.2
      next filled =>
        have maps : Maps mapping current next := ⟨found, filled⟩
        split
        next seen =>
          refine ⟨_, rfl, ?_⟩
          by_cases self : next = current
          · rw [if_pos self]
            refine ⟨by simp, fun cycle => ?_⟩
            refine absurd cycle (not_entersCycle visits.current fun other mapsOther => ?_)
            rw [← maps.unique mapsOther, self]
          · rw [if_neg self]
            simp only [true_iff]
            exact ⟨current, next, visits.current, maps, self, (visits.reached next seen).2⟩
        next new =>
          apply ih (visits.step maps new)
          simp only [List.length_cons]
          omega

/-- Where one loop ends after one more turn than the other takes steps, both end. -/
theorem followMapping_of_mapModel {steps : ℕ} {seen : List String} {current model : String}
    {mapped flag : Bool}
    (returns : mapModel base mapping (steps + 1) seen current mapped = some (model, flag)) :
    followMapping mapping steps seen current = model := by
  induction steps generalizing seen current mapped with
  | zero =>
    simp only [mapModel, followMapping] at returns ⊢
    grind
  | succ _ _ =>
    rw [mapModel] at returns
    rw [followMapping]
    grind

/-- A model that is not marked as mapped is the requested one. -/
theorem origin_of_unmapped {turns : ℕ} {seen : List String} {current model : String}
    {mapped : Bool} (marked : mapped = false → current = base)
    (returns : mapModel base mapping turns seen current mapped = some (model, false)) :
    model = base := by
  induction turns generalizing seen current mapped with
  | zero => simp [mapModel] at returns
  | succ _ _ =>
    rw [mapModel] at returns
    grind

theorem Visited.start : Visited mapping base [base] base where
  fresh := List.nodup_singleton base
  keys := by simp
  reached := by simp [ReflTransGen.refl]
  head := rfl

end Resolution

/-! ## The model of an attempt -/

/-- The helper and the resolution of one channel's mapping: the helper returns after a number of
turns that does not depend on the cycle, fails exactly on a cycle of two models or more, and
otherwise sends the model that is resolved. -/
structure SameModel (mapping : List (String × String)) (s : RelayState) : Prop where
  returns : ∃ turns, (mapModelTurns s.info.originModelName mapping turns
    [s.info.originModelName] s.info.originModelName false).isSome
  fails : modelMappedHelper s (initChannelMeta s) = none ↔
    EntersCycle mapping s.info.originModelName
  sends : ∀ chanMeta, modelMappedHelper s (initChannelMeta s) = some chanMeta →
    chanMeta.upstreamModelName = resolveUpstreamModelForBilling s.info.originModelName
      (some mapping)

theorem mapModel_eq_none_iff {mapping : List (String × String)} {base : String} {mapped : Bool} :
    mapModel base mapping (mapping.length + 1) [base] base mapped = none ↔
      EntersCycle mapping base := by
  rcases @mapModelTurns_returns mapping base (mapping.length + 1) _ _ mapped Visited.start
    (by simp) with ⟨result, runs, fails⟩
  rw [mapModel_eq_turns, runs, ← fails]
  rfl

theorem sends_resolved {s : RelayState} {chanMeta : ChannelMeta}
    {mapping : List (String × String)} (isMapping : s.context.channel.modelMapping = some mapping)
    (maps : modelMappedHelper s (initChannelMeta s) = some chanMeta) :
    chanMeta.upstreamModelName =
      resolveUpstreamModelForBilling s.info.originModelName (some mapping) := by
  simp only [modelMappedHelper, isMapping, Option.map_eq_some_iff] at maps
  rcases maps with ⟨⟨_, _⟩, returns, rfl⟩
  have done := followMapping_of_mapModel returns
  simp only [resolveUpstreamModelForBilling, done]
  split
  · rfl
  next unmapped =>
    simp only [Bool.not_eq_true] at unmapped
    rw [unmapped] at returns
    exact (origin_of_unmapped (fun _ => rfl) returns).symm

theorem sameModel {s : RelayState} {mapping : List (String × String)}
    (isMapping : s.context.channel.modelMapping = some mapping) : SameModel mapping s where
  returns := by
    rcases @mapModelTurns_returns mapping s.info.originModelName (mapping.length + 1) _ _ false
      Visited.start (by simp) with ⟨result, runs, _⟩
    exact ⟨_, Option.isSome_of_eq_some runs⟩
  fails := by
    simp only [modelMappedHelper, isMapping, Option.map_eq_none_iff]
    exact mapModel_eq_none_iff
  sends := fun _ maps => sends_resolved isMapping maps

/-! ## The price of the called model -/

def withOtherRatios (info : RelayInfo) (others : List (String × ℚ)) : RelayInfo :=
  { info with priceData := { info.priceData with otherRatios := others } }

/-- The price of a request is that of a model: apart from estimates and from the ratios that
conversions add, what `ModelPriceHelper` makes of it. -/
def BilledAs (prices : PriceSettings) (cfg : Settings) (req : Request) (info : RelayInfo)
    (modelName : String) : Prop :=
  ∃ tokenCount group channelRatio past priced others,
    Priced prices cfg req tokenCount modelName group channelRatio past priced ∧
      erased info = erased (regrouped (withOtherRatios priced others) info.priceData.groupRatioInfo)

/-- A run of `Relay` that is served: how it opens, what serves it and what it settles from. -/
structure Routed (prices : PriceSettings) (cfg : Settings) (req : Request)
    (out rollback : Option ModelError) (ctx : Context) (info : RelayInfo)
    (attempts : List Attempt) (opened served : RelayState) (reply : Answer)
    (settling : RelayState) : Prop where
  opens : openRequest prices cfg req out rollback ctx info = some opened
  serves : ∃ before, attemptChannels prices req attempts opened = some (before, reply) ∧
    served = before.converting prices req reply.conversion
  settles : priceToSettle prices cfg req served = some settling

section Runs

variable {prices : PriceSettings} {cfg : Settings} {req : Request}
  {out rollback : Option ModelError} {ctx : Context} {info priced found : RelayInfo}
  {attempts : List Attempt} {s served : RelayState} {chanMeta : ChannelMeta}

theorem Priced.originModelName {tokenCount : TokenCountMeta} {modelName : String}
    {group : GroupRatioInfo} {channelRatio : ℚ}
    (pricing : Priced prices cfg req tokenCount modelName group channelRatio info priced) :
    priced.originModelName = info.originModelName := by
  cases pricing with
  | byExpr _ _ _ _ _ _ _ _ _ pricedEq => rw [pricedEq]
  | fixed _ _ _ pricedEq => rw [pricedEq]

theorem Priced.relayMode {tokenCount : TokenCountMeta} {modelName : String}
    {group : GroupRatioInfo} {channelRatio : ℚ}
    (pricing : Priced prices cfg req tokenCount modelName group channelRatio info priced) :
    priced.relayMode = info.relayMode := by
  cases pricing with
  | byExpr _ _ _ _ _ _ _ _ _ pricedEq => rw [pricedEq]
  | fixed _ _ _ pricedEq => rw [pricedEq]

theorem Tracks.originModelName (tracks : Tracks prices req info found s) :
    s.info.originModelName = found.originModelName := by
  have fields := congrArg RelayInfo.originModelName (tracks.price ⟨0, 0, false⟩)
  exact fields

theorem Tracks.relayMode (tracks : Tracks prices req info found s) :
    s.info.relayMode = found.relayMode := by
  have fields := congrArg RelayInfo.relayMode (tracks.price ⟨0, 0, false⟩)
  exact fields

end Runs

/-! ## A retry on another channel -/

theorem BilledAs.modelRatio {prices : PriceSettings} {cfg : Settings} {req : Request}
    {info : RelayInfo} {modelName : String} (billed : BilledAs prices cfg req info modelName)
    (notExpr : prices.billedByExpr modelName = false)
    (perToken : (prices.modelFixedPrice modelName).2 = false) :
    info.priceData.modelRatio = (prices.modelRatio modelName).1 := by
  rcases billed with ⟨_, _, _, _, priced, _, pricing, same⟩
  have ratios : info.priceData.modelRatio = priced.priceData.modelRatio := by
    have fields := congrArg (·.priceData.modelRatio) same
    exact fields
  rw [ratios]
  cases pricing with
  | byExpr _ _ _ expr => simp [notExpr] at expr
  | fixed _ price =>
    have fields := congrArg PriceData.modelRatio price
    simp only [fixedPrice, perToken] at fields
    exact fields

end NewApi.Relay
