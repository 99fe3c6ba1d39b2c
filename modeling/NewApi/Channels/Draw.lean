import Mathlib.Algebra.Order.BigOperators.Group.List
import Mathlib.Tactic.Ring
import NewApi.Channels.Select

/-!
# What a draw can return

The channels that some seed selects. From the cache: a candidate of the priority of the attempt,
unless it has no weight beside one that has.
-/

namespace NewApi.Channels

open Relational Levels

/-! ### Without a limit -/

/-- The loop over the cached channels with unbounded numbers. -/
def pickPlain (weightOf : Channel → ℕ) : List Channel → ℤ → Option Channel
  | [], _ => none
  | chan :: chans, randomWeight =>
    let rest := randomWeight - weightOf chan
    if rest < 0 then some chan else pickPlain weightOf chans rest

def plainSmoothing (sumWeight count : ℕ) : ℕ × ℕ :=
  if sumWeight = 0 then (1, 100)
  else if sumWeight / count < 10 then (100, 0)
  else (1, 0)

/-- The weight of a channel in the draw: its weight, a hundred times its weight, or 100. -/
def effectiveWeight (chans : List Channel) (chan : Channel) : ℕ :=
  let smooth := plainSmoothing (chans.map Channel.storedWeight).sum chans.length
  chan.storedWeight * smooth.1 + smooth.2

def drawPlain (chans : List Channel) (seed : ℕ) : Except SelectError Channel :=
  let sumWeight := (chans.map Channel.storedWeight).sum
  let smooth := plainSmoothing sumWeight chans.length
  let totalWeight :=
    (if sumWeight = 0 then chans.length * 100 else sumWeight) * smooth.1
  match pickPlain (effectiveWeight chans) chans (seed % totalWeight : ℕ) with
  | some chan => .ok chan
  | none => .error .channelNotFound

/-- The loop over the abilities with unbounded numbers. -/
def pickPlainAbility : List Ability → ℤ → Option Ability
  | [], _ => none
  | ability :: abilities, weight =>
    let rest := weight - (ability.weight + 10)
    if rest ≤ 0 then some ability else pickPlainAbility abilities rest

/-- The channel has no weight, beside a channel of its priority that has. -/
def Outweighed (chans : List Channel) (chan : Channel) : Prop :=
  chan.storedWeight = 0 ∧
    ∃ other ∈ chans, other.getPriority = chan.getPriority ∧ 0 < other.storedWeight

section Weighted

variable {weightOf : Channel → ℕ} {chans : List Channel} {chan : Channel}

theorem pickPlain_some {randomWeight : ℤ} (nonneg : 0 ≤ randomWeight)
    (picked : pickPlain weightOf chans randomWeight = some chan) :
    chan ∈ chans ∧ 0 < weightOf chan := by
  induction chans generalizing randomWeight with
  | nil => cases picked
  | cons _ _ ih =>
    simp only [pickPlain] at picked
    split at picked
    next =>
      cases picked
      exact ⟨List.mem_cons_self, by omega⟩
    next notBelow =>
      rcases ih (not_lt.mp notBelow) picked with ⟨isIn, pos⟩
      exact ⟨List.mem_cons_of_mem _ isIn, pos⟩

theorem exists_pickPlain (isRow : chan ∈ chans) (pos : 0 < weightOf chan) :
    ∃ random < (chans.map weightOf).sum, pickPlain weightOf chans (random : ℕ) = some chan := by
  induction chans with
  | nil => cases isRow
  | cons first _ ih =>
    by_cases isFirst : chan = first
    · subst isFirst
      refine ⟨0, ?_, ?_⟩
      · simp only [List.map_cons, List.sum_cons]
        omega
      · simp only [pickPlain]
        rw [if_pos (by omega)]
    · have isIn := (List.mem_cons.mp isRow).resolve_left isFirst
      rcases ih isIn with ⟨random, inRange, picked⟩
      refine ⟨weightOf first + random, by simp [inRange], ?_⟩
      simp only [pickPlain]
      rw [if_neg (by omega)]
      have rest : ((weightOf first + random : ℕ) : ℤ) - weightOf first = random := by omega
      rw [rest]
      exact picked

theorem sum_effectiveWeight (chans : List Channel) :
    (chans.map (effectiveWeight chans)).sum =
      (if (chans.map Channel.storedWeight).sum = 0 then chans.length * 100
        else (chans.map Channel.storedWeight).sum) *
        (plainSmoothing (chans.map Channel.storedWeight).sum chans.length).1 := by
  have linear : ∀ (factor adjustment : ℕ) (others : List Channel),
      (others.map fun chan => chan.storedWeight * factor + adjustment).sum =
        (others.map Channel.storedWeight).sum * factor + others.length * adjustment := by
    intro _ _ others
    induction others with
    | nil => simp
    | cons _ _ ih =>
      simp only [List.map_cons, List.sum_cons, ih, List.length_cons]
      ring
  have weights : chans.map (effectiveWeight chans) = chans.map fun chan =>
      chan.storedWeight * (plainSmoothing (chans.map Channel.storedWeight).sum chans.length).1 +
        (plainSmoothing (chans.map Channel.storedWeight).sum chans.length).2 :=
    rfl
  rw [weights, linear]
  simp only [plainSmoothing]
  split
  next isZero => simp [isZero]
  · split
    · simp
    · simp

theorem effectiveWeight_pos :
    0 < effectiveWeight chans chan ↔
      ¬(chan.storedWeight = 0 ∧ ∃ other ∈ chans, 0 < other.storedWeight) := by
  have isSum : (chans.map Channel.storedWeight).sum = 0 ↔
      ∀ other ∈ chans, other.storedWeight = 0 := by
    rw [List.sum_eq_zero_iff_forall_eq_nat]
    simp
  simp only [effectiveWeight, plainSmoothing]
  split
  next isZero =>
    have none := isSum.mp isZero
    simp only [Nat.add_pos_iff_pos_or_pos]
    constructor
    · rintro _ ⟨_, other, isOther, pos⟩
      rw [none other isOther] at pos
      exact lt_irrefl 0 pos
    · intro _
      exact .inr (by omega)
  next notZero =>
    have some : ∃ other ∈ chans, 0 < other.storedWeight := by
      by_contra none
      apply notZero
      rw [isSum]
      intro other isOther
      by_contra pos
      exact none ⟨other, isOther, Nat.pos_of_ne_zero pos⟩
    split
    · simp only [Nat.add_zero]
      constructor
      · rintro pos ⟨isZero, _⟩
        rw [isZero, Nat.zero_mul] at pos
        exact lt_irrefl 0 pos
      · intro weighs
        exact Nat.mul_pos (Nat.pos_of_ne_zero fun isZero => weighs ⟨isZero, some⟩) (by omega)
    · simp only [Nat.add_zero, Nat.mul_one]
      constructor
      · rintro pos ⟨isZero, _⟩
        rw [isZero] at pos
        exact lt_irrefl 0 pos
      · intro weighs
        exact Nat.pos_of_ne_zero fun isZero => weighs ⟨isZero, some⟩

theorem drawPlain_iff : (∃ seed, drawPlain chans seed = .ok chan) ↔
    chan ∈ chans ∧ ¬(chan.storedWeight = 0 ∧ ∃ other ∈ chans, 0 < other.storedWeight) := by
  have total := sum_effectiveWeight chans
  constructor
  · rintro ⟨_, drawn⟩
    simp only [drawPlain, ← total] at drawn
    split at drawn
    next picked =>
      cases drawn
      rcases pickPlain_some (Int.natCast_nonneg _) picked with ⟨isRow, pos⟩
      exact ⟨isRow, effectiveWeight_pos.mp pos⟩
    · cases drawn
  · rintro ⟨isRow, weighs⟩
    rcases exists_pickPlain isRow (effectiveWeight_pos.mpr weighs) with
      ⟨random, inRange, picked⟩
    refine ⟨random, ?_⟩
    simp only [drawPlain, ← total, Nat.mod_eq_of_lt inRange, picked]

/-! ### Sums in the range of an `int` -/

/-- The weights, with a thousand on top of each, have a sum that an `int` holds. -/
def LightChannels (chans : List Channel) : Prop :=
  (chans.map fun chan => chan.storedWeight + 1000).sum < 2 ^ 63

theorem sum_add_thousand (chans : List Channel) :
    (chans.map fun chan => chan.storedWeight + 1000).sum =
      (chans.map Channel.storedWeight).sum + chans.length * 1000 := by
  induction chans with
  | nil => rfl
  | cons _ _ ih =>
    simp only [List.map_cons, List.sum_cons, List.length_cons, ih]
    ring

theorem sum_map_cast {Item : Type} {count : Item → ℕ} {weight : Item → ℤ} {items : List Item}
    (same : ∀ item ∈ items, weight item = count item) :
    (items.map weight).sum = ((items.map count).sum : ℕ) := by
  induction items with
  | nil => rfl
  | cons first _ ih =>
    simp only [List.map_cons, List.sum_cons, Nat.cast_add]
    rw [same first List.mem_cons_self, ih fun item isIn => same item (List.mem_cons_of_mem _ isIn)]

theorem LightChannels.filter (light : LightChannels chans) (keep : Channel → Bool) :
    LightChannels (chans.filter keep) :=
  lt_of_le_of_lt ((List.filter_sublist.map _).sum_le_sum fun _ _ => Nat.zero_le _) light

theorem LightChannels.getWeight (light : LightChannels chans) (isIn : chan ∈ chans) :
    chan.getWeight = chan.storedWeight := by
  have one : chan.storedWeight + 1000 ≤ (chans.map fun chan => chan.storedWeight + 1000).sum :=
    List.single_le_sum (fun _ _ => Nat.zero_le _) _ (List.mem_map_of_mem isIn)
  rw [LightChannels] at light
  exact toInt_of_small (by omega) (by omega)

theorem LightChannels.sumWeight (light : LightChannels chans) :
    sumWeight chans = (chans.map Channel.storedWeight).sum := by
  have cast : (chans.map Channel.getWeight).sum = ((chans.map Channel.storedWeight).sum : ℕ) :=
    sum_map_cast fun _ isIn => light.getWeight isIn
  rw [LightChannels, sum_add_thousand] at light
  rw [Channels.sumWeight, cast, toInt_of_small (by omega) (by omega)]

/-- What smoothing makes of a light sum is light. -/
theorem LightChannels.effectiveWeight_lt (light : LightChannels chans) :
    (chans.map (effectiveWeight chans)).sum < 2 ^ 63 := by
  have empty : chans.length = 0 → (chans.map Channel.storedWeight).sum = 0 := by
    intro none
    rw [List.eq_nil_of_length_eq_zero none]
    rfl
  rw [LightChannels, sum_add_thousand] at light
  rw [sum_effectiveWeight]
  generalize (chans.map Channel.storedWeight).sum = sum at empty light ⊢
  simp only [plainSmoothing]
  split
  · omega
  · split
    next below =>
      have bound : sum < 10 * chans.length := by
        rcases Nat.eq_zero_or_pos chans.length with none | some
        · have := empty none
          omega
        · exact (Nat.div_lt_iff_lt_mul some).mp below
      omega
    · omega

theorem LightChannels.smoothing (light : LightChannels chans) :
    smoothing (Channels.sumWeight chans) chans.length =
      (((plainSmoothing (chans.map Channel.storedWeight).sum chans.length).1 : ℤ),
        ((plainSmoothing (chans.map Channel.storedWeight).sum chans.length).2 : ℤ)) := by
  rw [light.sumWeight]
  generalize (chans.map Channel.storedWeight).sum = sum
  have quotient : ((sum : ℤ).tdiv chans.length < 10) = (sum / chans.length < 10) := by
    rw [Int.natCast_tdiv_eq_ediv]
    exact propext (by omega)
  simp only [Channels.smoothing, plainSmoothing, quotient, Nat.cast_eq_zero]
  split
  · rfl
  · split <;> rfl

theorem LightChannels.smoothedWeight (light : LightChannels chans) (isIn : chan ∈ chans) :
    smoothedWeight chans chan = effectiveWeight chans chan := by
  have one : effectiveWeight chans chan ≤ (chans.map (effectiveWeight chans)).sum :=
    List.single_le_sum (fun _ _ => Nat.zero_le _) _ (List.mem_map_of_mem isIn)
  have below := light.effectiveWeight_lt
  have cast : chan.getWeight * (Channels.smoothing (Channels.sumWeight chans) chans.length).1 +
      (Channels.smoothing (Channels.sumWeight chans) chans.length).2 =
        effectiveWeight chans chan := by
    rw [light.smoothing, light.getWeight isIn, effectiveWeight]
    push_cast
    rfl
  simp only [Channels.smoothedWeight]
  rw [cast, toInt_of_small (by omega) (by omega)]

theorem LightChannels.totalWeight (light : LightChannels chans) :
    totalWeight chans = ((chans.map (effectiveWeight chans)).sum : ℕ) := by
  have below := light.effectiveWeight_lt
  have cast : (if Channels.sumWeight chans = 0 then (chans.length : ℤ) * 100
      else Channels.sumWeight chans) *
        (Channels.smoothing (Channels.sumWeight chans) chans.length).1 =
          ((chans.map (effectiveWeight chans)).sum : ℕ) := by
    rw [sum_effectiveWeight, light.smoothing, light.sumWeight]
    simp only [Nat.cast_eq_zero]
    split <;> push_cast <;> rfl
  simp only [Channels.totalWeight]
  rw [cast, toInt_of_small (by omega) (by omega)]

theorem pickWeighted_eq {plain : Channel → ℕ} {weights : Channel → ℤ} {random : ℤ}
    (same : ∀ chan ∈ chans, weights chan = plain chan) (light : ∀ chan ∈ chans, plain chan < 2 ^ 63)
    (nonneg : 0 ≤ random) (below : random < 2 ^ 63) :
    pickWeighted weights chans random = pickPlain plain chans random := by
  induction chans generalizing random with
  | nil => rfl
  | cons first _ ih =>
    have weight := light first List.mem_cons_self
    simp only [pickWeighted, pickPlain, same first List.mem_cons_self]
    rw [toInt_of_small (by omega) (by omega)]
    split
    · rfl
    · exact ih (fun chan isIn => same chan (List.mem_cons_of_mem _ isIn))
        (fun chan isIn => light chan (List.mem_cons_of_mem _ isIn)) (by omega) (by omega)

/-- The draw of light channels does not wrap. -/
theorem drawWeighted_eq (light : LightChannels chans) (some : chans ≠ []) (seed : ℕ) :
    0 < totalWeight chans ∧ drawWeighted chans seed = drawPlain chans seed := by
  have below := light.effectiveWeight_lt
  have pos : 0 < (chans.map (effectiveWeight chans)).sum := by
    have length := List.length_pos_of_ne_nil some
    rw [sum_effectiveWeight]
    apply Nat.mul_pos
    · split
      · omega
      · omega
    · simp only [plainSmoothing]
      split
      · omega
      · split <;> omega
  have rest : seed % (chans.map (effectiveWeight chans)).sum <
      (chans.map (effectiveWeight chans)).sum := Nat.mod_lt _ pos
  rw [light.totalWeight]
  refine ⟨by exact_mod_cast pos, ?_⟩
  have one : ∀ chan ∈ chans, effectiveWeight chans chan < 2 ^ 63 := by
    intro chan isIn
    exact lt_of_le_of_lt (List.single_le_sum (fun _ _ => Nat.zero_le _) _
      (List.mem_map_of_mem isIn)) below
  have picked := @pickWeighted_eq chans (effectiveWeight chans) (smoothedWeight chans)
    (seed % (chans.map (effectiveWeight chans)).sum : ℕ)
    (fun chan isIn => light.smoothedWeight isIn) one (by omega) (by omega)
  simp only [drawWeighted, light.totalWeight, drawPlain, ← sum_effectiveWeight, Int.toNat_natCast]
  rw [if_neg (by omega)]
  exact congrArg (fun found : Option Channel =>
    match found with
    | Option.some chan => Except.ok chan
    | none => Except.error SelectError.channelNotFound) picked

theorem drawAtRetry_iff {retry : ℕ} (light : LightChannels chans) :
    (∃ seed, drawAtRetry chans retry seed = .ok chan) ↔
    chan ∈ chans ∧
      levelAt (chans.map Channel.getPriority) retry = some chan.getPriority ∧
      ¬Outweighed chans chan := by
  simp only [drawAtRetry]
  cases isLevel : levelAt (chans.map Channel.getPriority) retry with
  | none => simp
  | some targetPriority =>
    simp only [Option.some.injEq]
    apply Iff.trans (b := ∃ seed,
      drawPlain (chans.filter (·.getPriority = targetPriority)) seed = .ok chan)
    · have lightTier := light.filter (·.getPriority = targetPriority)
      cases isFilter : chans.filter (·.getPriority = targetPriority) with
      | nil => simp [drawPlain, pickPlain]
      | cons first rest =>
        rw [isFilter] at lightTier
        have same := fun seed => (drawWeighted_eq lightTier (List.cons_ne_nil first rest) seed).2
        simp only [same]
    rw [drawPlain_iff]
    simp only [List.mem_filter, decide_eq_true_eq]
    constructor
    · rintro ⟨⟨isRow, target⟩, weighs⟩
      refine ⟨isRow, target.symm, ?_⟩
      rintro ⟨isZero, other, isOther, sameRank, pos⟩
      exact weighs ⟨isZero, other, ⟨isOther, sameRank.trans target⟩, pos⟩
    · rintro ⟨isRow, target, weighs⟩
      refine ⟨⟨isRow, target.symm⟩, ?_⟩
      rintro ⟨isZero, other, ⟨isOther, otherTarget⟩, pos⟩
      exact weighs ⟨isZero, other, isOther, otherTarget.trans target, pos⟩

end Weighted

section Abilities

variable {abilities : List Ability} {ability : Ability}

theorem pickPlainAbility_some {weight : ℤ}
    (picked : pickPlainAbility abilities weight = some ability) :
    ability ∈ abilities := by
  induction abilities generalizing weight with
  | nil => cases picked
  | cons _ _ ih =>
    simp only [pickPlainAbility] at picked
    split at picked
    · cases picked
      exact List.mem_cons_self
    · exact List.mem_cons_of_mem _ (ih picked)

theorem exists_pickPlainAbility (isAbility : ability ∈ abilities) :
    ∃ random < (abilities.map fun ability => ability.weight + 10).sum,
      0 < random ∧ pickPlainAbility abilities (random : ℕ) = some ability := by
  induction abilities with
  | nil => cases isAbility
  | cons first _ ih =>
    by_cases isFirst : ability = first
    · subst isFirst
      refine ⟨1, by simp only [List.map_cons, List.sum_cons]; omega, by omega, ?_⟩
      simp only [pickPlainAbility]
      rw [if_pos (by omega)]
    · have isIn := (List.mem_cons.mp isAbility).resolve_left isFirst
      rcases ih isIn with ⟨random, _, _, picked⟩
      refine ⟨first.weight + 10 + random, ?_, by omega, ?_⟩
      · simp only [List.map_cons, List.sum_cons]
        omega
      · simp only [pickPlainAbility]
        rw [if_neg (by omega)]
        have rest : ((first.weight + 10 + random : ℕ) : ℤ) - (first.weight + 10) = random := by
          omega
        rw [rest]
        exact picked

theorem pickAbility_some {weight : ℤ} (picked : pickAbility abilities weight = some ability) :
    ability ∈ abilities := by
  induction abilities generalizing weight with
  | nil => cases picked
  | cons _ _ ih =>
    simp only [pickAbility] at picked
    split at picked
    · cases picked
      exact List.mem_cons_self
    · exact List.mem_cons_of_mem _ (ih picked)

/-- The weights of the abilities in the draw have a sum that an `int` holds. -/
def LightAbilities (abilities : List Ability) : Prop :=
  (abilities.map fun ability => ability.weight + 10).sum < 2 ^ 63

theorem LightAbilities.weightSum (light : LightAbilities abilities) :
    weightSum abilities = ((abilities.map fun ability => ability.weight + 10).sum : ℕ) := by
  have cast : (abilities.map fun ability => (ability.weight : ℤ) + 10).sum =
      ((abilities.map fun ability => ability.weight + 10).sum : ℕ) :=
    sum_map_cast fun _ _ => rfl
  rw [LightAbilities] at light
  rw [Channels.weightSum, cast, toInt_of_small (by omega) (by omega)]

theorem LightAbilities.sublist {others : List Ability} (light : LightAbilities others)
    (sublist : abilities.Sublist others) : LightAbilities abilities :=
  lt_of_le_of_lt ((sublist.map _).sum_le_sum fun _ _ => Nat.zero_le _) light

theorem LightAbilities.perm {others : List Ability} (light : LightAbilities others)
    (perm : abilities.Perm others) : LightAbilities abilities := by
  rw [LightAbilities, (perm.map _).sum_eq]
  exact light

theorem pickAbility_eq {weight : ℤ} (light : LightAbilities abilities) (nonneg : 0 ≤ weight)
    (below : weight < 2 ^ 63) :
    pickAbility abilities weight = pickPlainAbility abilities weight := by
  induction abilities generalizing weight with
  | nil => rfl
  | cons first _ ih =>
    simp only [LightAbilities, List.map_cons, List.sum_cons] at light
    simp only [pickAbility, pickPlainAbility]
    rw [toInt_of_small (by omega) (by omega)]
    split
    · rfl
    · exact ih (by rw [LightAbilities]; omega) (by omega) (by omega)

end Abilities

end NewApi.Channels
