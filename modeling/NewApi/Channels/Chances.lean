import NewApi.Channels.Draw
import Mathlib.Data.List.Range

/-!
# How many draws select a channel

The draws below the total weight are equally likely. From the cache a channel is selected by as
many of them as it has weight.
-/

namespace NewApi.Channels

/-- The number of draws below `total` whose selection is among the chosen ones. -/
def draws {Item : Type} (total : ℕ) (select : ℕ → Option Item) (chosen : Item → Bool) : ℕ :=
  (List.range total).countP fun draw => (select draw).any chosen

/-- The effective weight of the chosen items. -/
def weightOfChosen {Item : Type} (weightOf : Item → ℕ) (chosen : Item → Bool)
    (items : List Item) : ℕ :=
  ((items.filter chosen).map weightOf).sum

section Counting

variable {Item : Type} {select : ℕ → Option Item} {chosen : Item → Bool}

theorem draws_add (width rest : ℕ) :
    draws (width + rest) select chosen =
      draws width select chosen + draws rest (fun draw => select (width + draw)) chosen := by
  simp only [draws, List.range_add, List.countP_append, List.countP_map]
  rfl

theorem draws_congr {total : ℕ} {other : ℕ → Option Item}
    (same : ∀ draw < total, select draw = other draw) :
    draws total select chosen = draws total other chosen := by
  apply List.countP_congr
  intro draw inRange
  rw [same draw (List.mem_range.mp inRange)]

theorem draws_const (total : ℕ) (item : Item) :
    draws total (fun _ => some item) chosen = if chosen item then total else 0 := by
  cases isChosen : chosen item with
  | true | false => simp [draws, isChosen]

theorem weightOfChosen_cons (weightOf : Item → ℕ) (first : Item) (items : List Item) :
    weightOfChosen weightOf chosen (first :: items) =
      (if chosen first then weightOf first else 0) + weightOfChosen weightOf chosen items := by
  cases isChosen : chosen first with
  | true | false => simp [weightOfChosen, isChosen]

end Counting

/-! ## From the cache -/

section Weighted

variable {weightOf : Channel → ℕ} {chans : List Channel}

theorem draws_pickPlain (chosen : Channel → Bool) :
    draws (chans.map weightOf).sum (fun draw => pickPlain weightOf chans draw) chosen =
      weightOfChosen weightOf chosen chans := by
  induction chans with
  | nil => rfl
  | cons first _ ih =>
    rw [List.map_cons, List.sum_cons, draws_add, weightOfChosen_cons]
    congr 1
    · refine (draws_congr ?_).trans (draws_const _ first)
      intro _ _
      simp only [pickPlain]
      rw [if_pos (by omega)]
    · refine (draws_congr ?_).trans ih
      intro draw _
      simp only [pickPlain]
      rw [if_neg (by omega)]
      congr 1
      omega

theorem drawPlain_total {draw : ℕ} (inRange : draw < (chans.map (effectiveWeight chans)).sum) :
    ∃ chan ∈ chans, drawPlain chans draw = .ok chan := by
  have some : ∀ (others : List Channel) (random : ℕ), random < (others.map
      (effectiveWeight chans)).sum →
      ∃ chan, pickPlain (effectiveWeight chans) others random = some chan := by
    intro others
    induction others with
    | nil =>
      intro _ below
      cases below
    | cons first _ ih =>
      intro random below
      simp only [List.map_cons, List.sum_cons] at below
      simp only [pickPlain]
      split
      · exact ⟨first, rfl⟩
      next =>
        have rest : (random : ℤ) - effectiveWeight chans first =
            (random - effectiveWeight chans first : ℕ) := by omega
        rw [rest]
        exact ih _ (by omega)
  rcases some chans draw inRange with ⟨chan, picked⟩
  refine ⟨chan, (pickPlain_some (Int.natCast_nonneg _) picked).1, ?_⟩
  simp only [drawPlain, ← sum_effectiveWeight, Nat.mod_eq_of_lt inRange, picked]

theorem draws_drawPlain (chosen : Channel → Bool) :
    draws (chans.map (effectiveWeight chans)).sum
        (fun draw => (drawPlain chans draw).toOption) chosen =
      weightOfChosen (effectiveWeight chans) chosen chans := by
  refine (draws_congr ?_).trans (draws_pickPlain chosen)
  intro _ inRange
  rcases drawPlain_total inRange with ⟨_, _, drawn⟩
  simp only [drawn]
  simp only [drawPlain, ← sum_effectiveWeight, Nat.mod_eq_of_lt inRange] at drawn
  split at drawn
  next picked =>
    cases drawn
    exact picked.symm
  · cases drawn

end Weighted

/-! ## From the tables -/

section Abilities

variable {abilities : List Ability}

/-- The weight of an ability in the draw of `GetChannel`. -/
def Ability.drawWeight (ability : Ability) : ℕ :=
  ability.weight + 10

theorem draws_pickPlainAbility_succ (chosen : Ability → Bool) :
    draws (abilities.map Ability.drawWeight).sum
        (fun draw => pickPlainAbility abilities ((draw + 1 : ℕ) : ℤ)) chosen =
      weightOfChosen Ability.drawWeight chosen abilities := by
  induction abilities with
  | nil => rfl
  | cons first _ ih =>
    rw [List.map_cons, List.sum_cons, draws_add, weightOfChosen_cons]
    congr 1
    · refine (draws_congr ?_).trans (draws_const _ first)
      intro _ inRange
      simp only [Ability.drawWeight] at inRange
      simp only [pickPlainAbility]
      rw [if_pos (by omega)]
    · refine (draws_congr ?_).trans ih
      intro draw _
      have width : first.drawWeight = first.weight + 10 := rfl
      rw [pickPlainAbility, if_neg (by omega)]
      congr 1
      omega

theorem pickPlainAbility_total (first : Ability) (abilities : List Ability) :
    pickPlainAbility (first :: abilities) (((first :: abilities).map Ability.drawWeight).sum : ℕ) =
      some ((first :: abilities).getLast (by simp)) := by
  induction abilities generalizing first with
  | nil => simp [pickPlainAbility, Ability.drawWeight]
  | cons two _ ih =>
    have rest := ih two
    simp only [List.map_cons, List.sum_cons, Ability.drawWeight] at rest ⊢
    rw [pickPlainAbility, if_neg (by omega), List.getLast_cons (by simp), ← rest]
    congr 1
    omega

theorem draws_pickPlainAbility (first : Ability) (abilities : List Ability)
    (chosen : Ability → Bool) :
    draws ((first :: abilities).map Ability.drawWeight).sum
          (fun draw => pickPlainAbility (first :: abilities) draw) chosen +
        (if chosen ((first :: abilities).getLast (by simp)) then 1 else 0) =
      (if chosen first then 1 else 0) +
        weightOfChosen Ability.drawWeight chosen (first :: abilities) := by
  have isFirst : pickPlainAbility (first :: abilities) (0 : ℕ) = some first := by
    simp only [pickPlainAbility]
    rw [if_pos (by omega)]
  have isLast := pickPlainAbility_total first abilities
  have counted := @draws_pickPlainAbility_succ (first :: abilities) chosen
  generalize ((first :: abilities).map Ability.drawWeight).sum = total at isLast counted ⊢
  have early := @draws_add _ (fun draw => pickPlainAbility (first :: abilities) (draw : ℕ)) chosen
    1 total
  have late := @draws_add _ (fun draw => pickPlainAbility (first :: abilities) (draw : ℕ)) chosen
    total 1
  have one : draws 1 (fun draw => pickPlainAbility (first :: abilities) (draw : ℕ)) chosen =
      if chosen first then 1 else 0 := by
    refine (draws_congr ?_).trans (draws_const 1 first)
    intro _ isZero
    rw [Nat.lt_one_iff.mp isZero, isFirst]
  have final :
      draws 1 (fun draw => pickPlainAbility (first :: abilities) (total + draw : ℕ)) chosen =
      if chosen ((first :: abilities).getLast (by simp)) then 1 else 0 := by
    refine (draws_congr ?_).trans (draws_const 1 _)
    intro _ isZero
    rw [Nat.lt_one_iff.mp isZero, Nat.add_zero, isLast]
  simp only [Nat.add_comm 1] at early
  rw [one, counted] at early
  rw [final] at late
  omega

theorem exists_pickPlainAbility_of_lt (first : Ability) (abilities : List Ability) {draw : ℕ}
    (inRange : draw < ((first :: abilities).map Ability.drawWeight).sum) :
    ∃ ability ∈ first :: abilities, pickPlainAbility (first :: abilities) draw = some ability := by
  have some : ∃ ability, pickPlainAbility (first :: abilities) draw = some ability := by
    induction abilities generalizing first draw with
    | nil =>
      simp only [List.map_cons, List.map_nil, List.sum_cons, List.sum_nil,
        Ability.drawWeight] at inRange
      exact ⟨first, by simp only [pickPlainAbility]; rw [if_pos (by omega)]⟩
    | cons two _ ih =>
      rw [pickPlainAbility]
      split
      · exact ⟨first, rfl⟩
      next =>
        rw [List.map_cons, List.sum_cons, Ability.drawWeight] at inRange
        have rest : (draw : ℤ) - (first.weight + 10) = (draw - (first.weight + 10) : ℕ) := by
          omega
        rw [rest]
        exact ih two (by omega)
  rcases some with ⟨ability, picked⟩
  exact ⟨ability, pickPlainAbility_some picked, picked⟩

end Abilities

/-! ## Both loops -/

/-- Every draw selects a candidate, and the number of draws that select a channel is its
effective weight. -/
structure ExactSelection (chans : List Channel) (abilities : List Ability) : Prop where
  cacheTotal : chans ≠ [] → 0 < totalWeight chans
  cacheDraw : ∀ draw < (totalWeight chans).toNat,
    ∃ chan ∈ chans, drawWeighted chans draw = .ok chan
  cacheCount : ∀ id, draws (totalWeight chans).toNat
      (fun draw => (drawWeighted chans draw).toOption) (fun chan => chan.id = id) =
    weightOfChosen (effectiveWeight chans) (fun chan => chan.id = id) chans
  storeTotal : abilities ≠ [] → 0 < weightSum abilities
  storeDraw : ∀ draw < (weightSum abilities).toNat,
    ∃ ability ∈ abilities, pickAbility abilities draw = some ability
  storeCount : ∀ id, draws (weightSum abilities).toNat
      (fun draw => pickAbility abilities draw) (fun ability => ability.channelId = id) =
    weightOfChosen Ability.drawWeight (fun ability => ability.channelId = id) abilities

section Light

variable {chans : List Channel} {abilities : List Ability}

theorem cache_exact (light : LightChannels chans) :
    (chans ≠ [] → 0 < totalWeight chans) ∧
    (∀ draw < (totalWeight chans).toNat, ∃ chan ∈ chans, drawWeighted chans draw = .ok chan) ∧
    ∀ chosen, draws (totalWeight chans).toNat
        (fun draw => (drawWeighted chans draw).toOption) chosen =
      weightOfChosen (effectiveWeight chans) chosen chans := by
  rw [light.totalWeight, Int.toNat_natCast]
  have plain : ∀ draw < (chans.map (effectiveWeight chans)).sum,
      drawWeighted chans draw = drawPlain chans draw := by
    intro draw inRange
    refine (drawWeighted_eq light ?_ draw).2
    rintro rfl
    cases inRange
  refine ⟨?_, ?_, ?_⟩
  · intro filled
    rw [← light.totalWeight]
    exact (drawWeighted_eq light filled 0).1
  · intro draw inRange
    rw [plain draw inRange]
    exact drawPlain_total inRange
  · intro chosen
    refine (draws_congr ?_).trans (draws_drawPlain chosen)
    intro draw inRange
    rw [plain draw inRange]

theorem store_plain (light : LightAbilities abilities) :
    (weightSum abilities).toNat = (abilities.map Ability.drawWeight).sum ∧
      ∀ draw < (abilities.map Ability.drawWeight).sum,
        pickAbility abilities draw = pickPlainAbility abilities draw := by
  have total : (abilities.map Ability.drawWeight).sum < 2 ^ 63 := light
  refine ⟨by rw [light.weightSum, Int.toNat_natCast]; rfl, ?_⟩
  intro draw inRange
  exact pickAbility_eq light (by omega) (by omega)

end Light

/-- Sums that an `int` holds make the loop over the cache exact, and the loop over the tables
only if the first and the last ability are of the same channel. -/
theorem exactSelection_iff (chans : List Channel) (abilities : List Ability)
    (lightChannels : LightChannels chans) (lightAbilities : LightAbilities abilities) :
    ExactSelection chans abilities ↔
      abilities.head?.map Ability.channelId = abilities.getLast?.map Ability.channelId := by
  obtain ⟨cacheTotal, cacheDraw, cacheCount⟩ := cache_exact lightChannels
  obtain ⟨total, plain⟩ := store_plain lightAbilities
  cases abilities with
  | nil =>
    refine iff_of_true ⟨cacheTotal, cacheDraw, fun id => cacheCount _,
      fun filled => absurd rfl filled, ?_, ?_⟩ rfl
    · intro _ inRange
      rw [total] at inRange
      cases inRange
    · intro _
      rw [total]
      rfl
  | cons first rest =>
    have storeDraw : ∀ draw < ((first :: rest).map Ability.drawWeight).sum,
        ∃ ability ∈ first :: rest, pickAbility (first :: rest) draw = some ability := by
      intro draw inRange
      rw [plain draw inRange]
      exact exists_pickPlainAbility_of_lt first rest inRange
    have storeTotal : 0 < weightSum (first :: rest) := by
      rw [lightAbilities.weightSum]
      simp only [List.map_cons, List.sum_cons]
      omega
    have count : ∀ chosen, draws ((first :: rest).map Ability.drawWeight).sum
        (fun draw => pickAbility (first :: rest) draw) chosen =
        draws ((first :: rest).map Ability.drawWeight).sum
          (fun draw => pickPlainAbility (first :: rest) draw) chosen :=
      fun chosen => draws_congr plain
    have counted := draws_pickPlainAbility first rest
    rw [List.head?_cons, List.getLast?_eq_some_getLast (by simp), Option.map_some,
      Option.map_some, Option.some.injEq]
    constructor
    · intro exactly
      have ofFirst := counted fun ability => ability.channelId = first.channelId
      have exact := exactly.storeCount first.channelId
      rw [total, count] at exact
      rw [exact] at ofFirst
      by_contra diff
      simp only [decide_true, if_true, decide_eq_true_eq, if_neg (Ne.symm diff)] at ofFirst
      omega
    · intro same
      refine ⟨cacheTotal, cacheDraw, fun id => cacheCount _, fun _ => storeTotal, ?_, ?_⟩
      · rw [total]
        exact storeDraw
      · intro id
        have ofID := counted fun ability => ability.channelId = id
        simp only [← same] at ofID
        rw [total, count]
        omega

def evenAbilities : List Ability :=
  [⟨"default", "gpt-4o", 1, true, 0, 0⟩, ⟨"default", "gpt-4o", 2, true, 0, 0⟩]

def weightedChannel : Channel where
  id := 1
  type := 1
  key := "k"
  status := channelStatusEnabled
  weight := some 5
  models := "gpt-4o"
  group := "default"
  priority := some 0

theorem exactSelection_iff_sample :
    ExactSelection [weightedChannel] [⟨"default", "gpt-4o", 1, true, 0, 5⟩] := by
  refine (exactSelection_iff _ _ ?_ ?_).mpr rfl
  · unfold LightChannels
    decide
  · unfold LightAbilities
    decide

/-- Two abilities without a weight are selected by 11 and by 9 of the 20 draws. -/
theorem uneven_selection : ¬ExactSelection [] evenAbilities := by
  intro exactly
  have ofFirst := exactly.storeCount 1
  revert ofFirst
  decide

end NewApi.Channels
