import NewApi.Task.Outcome
import NewApi.Task.Submission

/-!
# The recalculation of a task

A finished task is charged for its tokens. `RecalculateTaskQuotaByTokens` looks the ratios up
again: by the model that was requested, and by the group of the task in the place of its user's.
-/

namespace NewApi.Relay

open NewApi.Types NewApi.Service NewApi.Model

/-- The ratios that a recalculation multiplies. -/
structure BillingTerms where
  (modelRatio groupRatio otherMultiplier channelRatio : ℚ)

def BillingTerms.quota (terms : BillingTerms) (totalTokens : ℤ) : ℤ :=
  quotaFromFloat (totalTokens * terms.modelRatio * terms.groupRatio * terms.otherMultiplier *
    terms.channelRatio)

/-! ## The row of a submitted task -/

/-- The settings of the submission are read again. -/
def TaskPricing.settings (pricing : TaskPricing) (cfg : TaskSettings) : TaskSettings :=
  { cfg with
    modelRatio := pricing.prices.modelRatio
    groupRatio := pricing.prices.groupRatio
    groupGroupRatio := pricing.prices.groupGroupRatio }

/-- What `RelayTask` stores of a submission. -/
def submittedTask (pricing : TaskPricing) (submitted : RelayState) (task : Task) : Task :=
  { task with
    userId := submitted.info.userId
    group := submitted.context.usingGroup submitted.info
    quota := submitted.info.priceData.quota
    originModelName := submitted.info.originModelName
    privateData := { task.privateData with
      billingContext := some {
        channelRatio := submitted.info.priceData.getChannelRatio
        channelRatioSet := true
        otherRatios := submitted.info.priceData.otherRatios.filter (isValidOtherRatio ·.2)
        originModelName := submitted.info.originModelName
        perCallBilling := pricing.patched submitted || submitted.info.priceData.usePrice } } }

/-! ## Terms -/

/-- The group that the recalculation looks up. -/
def recalculationGroup (cfg : TaskSettings) (task : Task) : String :=
  if task.group = "" then (cfg.userGroup task.userId).getD "" else task.group

/-- The ratios that the recalculation multiplies, unless it returns early. -/
def recalculationTerms (cfg : TaskSettings) (task : Task) : Option BillingTerms :=
  let (modelRatio, hasRatioSetting) := cfg.modelRatio (taskModelName task)
  let group := recalculationGroup cfg task
  if hasRatioSetting = false ∨ modelRatio ≤ 0 ∨ group = "" then none
  else some {
    modelRatio := modelRatio
    groupRatio := (cfg.groupGroupRatio group group).getD (cfg.groupRatio group)
    otherMultiplier := (task.privateData.billingContext.map fun ctx =>
      ((ctx.otherRatios.filter fun entry => isValidOtherRatio entry.2).map
        PriceData.appliedRatio).prod).getD 1
    channelRatio := (task.privateData.billingContext.map fun ctx =>
      if ctx.channelRatio < 0 ∨ (ctx.channelRatio = 0 ∧ ctx.channelRatioSet = false)
      then 1 else ctx.channelRatio).getD 1 }

/-- The ratios of the submission. -/
def submissionTerms (pricing : TaskPricing) (req : Request) (s submitted : RelayState) :
    BillingTerms where
  modelRatio := (pricing.prices.modelRatio (billingModelName s)).1
  groupRatio := (handleGroupRatio pricing.prices req s.context s.info).groupRatio
  otherMultiplier := submitted.info.priceData.otherRatioMultiplier
  channelRatio := getChannelPriceRatio s.channelMeta

def billedPerCall (pricing : TaskPricing) (s : RelayState) : Bool :=
  pricing.patched s || (pricing.prices.modelFixedPrice (billingModelName s)).2 ||
    (pricing.defaultModelPrice (billingModelName s)).isSome

/-- The recalculation multiplies the ratios of the submission. A free task is not charged, and
costs no more than its tokens. -/
structure RecalculatedAsSubmitted (pricing : TaskPricing) (cfg : TaskSettings)
    (req : Request) (s submitted : RelayState) (task : Task) : Prop where
  terms : task.privateData.billingContext.any (·.perCallBilling) = false → ∀ terms,
    recalculationTerms (pricing.settings cfg) task = some terms →
      terms = submissionTerms pricing req s submitted
  free : (submissionTerms pricing req s submitted).groupRatio = 0 ∨
      (submissionTerms pricing req s submitted).channelRatio = 0 → ∀ info actual,
    completionQuota (pricing.settings cfg) 0 info task = some actual →
      recalculateTaskQuota actual task = .idle ∧
        task.quota ≤ (submissionTerms pricing req s submitted).quota info.totalTokens

/-- Where the recalculation goes ahead, the group counts the same for the user as for itself, and
the model that was requested has the ratio of the one that was billed. -/
def SameLookups (pricing : TaskPricing) (cfg : TaskSettings) (req : Request)
    (s : RelayState) : Prop :=
  let requested := pricing.prices.modelRatio s.info.originModelName
  let usingGroup := s.context.usingGroup s.info
  let group := if usingGroup = "" then (cfg.userGroup s.info.userId).getD ""
    else usingGroup
  requested.2 = true → 0 < requested.1 → group ≠ "" →
    requested.1 = (pricing.prices.modelRatio (billingModelName s)).1 ∧
      (pricing.prices.groupGroupRatio group group).getD (pricing.prices.groupRatio group) =
        (pricing.prices.groupGroupRatio req.userGroup usingGroup).getD
          (pricing.prices.groupRatio usingGroup)

section Terms

variable {pricing : TaskPricing} {cfg : TaskSettings} {req : Request}
  {s submitted : RelayState} {adaptor : TaskAdaptor} {base : PriceData} {task : Task}
  {patched : Bool}

theorem quotaByTokens_eq (totalTokens : ℤ) : quotaByTokens cfg totalTokens task =
    if totalTokens ≤ 0 then none
    else (recalculationTerms cfg task).map (·.quota totalTokens) := by
  rw [quotaByTokens]
  by_cases early : totalTokens ≤ 0
  · simp [early]
  · rw [if_neg early, recalculationTerms]
    by_cases stops : (cfg.modelRatio (taskModelName task)).2 = false ∨
        (cfg.modelRatio (taskModelName task)).1 ≤ 0 ∨ recalculationGroup cfg task = ""
    · simp only [if_pos stops, Option.map_none]
      exact if_pos (.inr stops)
    · simp only [if_neg stops, Option.map_some]
      exact if_neg (not_or.mpr ⟨early, stops⟩)

theorem handleGroupRatio_groupRatio :
    (handleGroupRatio pricing.prices req s.context s.info).groupRatio =
      (pricing.prices.groupGroupRatio req.userGroup (s.context.usingGroup s.info)).getD
          (pricing.prices.groupRatio (s.context.usingGroup s.info)) := by
  rw [handleGroupRatio]
  split
  next special => rw [special, Option.getD_some]
  next normal => rw [normal, Option.getD_none]

theorem getChannelPriceRatio_nonneg (chanMeta : Option ChannelMeta) :
    0 ≤ getChannelPriceRatio chanMeta := by
  unfold getChannelPriceRatio
  split
  · norm_num
  · split_ifs with negative
    · norm_num
    · norm_num
    · linarith

/-! ## Prices on the way -/

/-- The ratios that a submission leaves as the helper computed them. -/
def KeepsPrice (base price : PriceData) : Prop :=
  price.usePrice = base.usePrice ∧ price.channelRatio = base.channelRatio ∧
    price.channelRatioSet = base.channelRatioSet

theorem keepsPrice_addOtherRatios {price : PriceData} (same : KeepsPrice base price)
    (ratios : List (String × ℚ)) : KeepsPrice base (price.addOtherRatios ratios) := by
  induction ratios generalizing price with
  | nil => exact same
  | cons _ _ ih =>
    apply ih
    simp only [PriceData.addOtherRatio]
    split
    · exact same
    · exact same

theorem keepsPrice_submitted : KeepsPrice base
    (adjustedPrice adaptor (estimatedPrice patched adaptor base)) := by
  have estimated : KeepsPrice base (estimatedPrice patched adaptor base) := by
    have added := keepsPrice_addOtherRatios (⟨rfl, rfl, rfl⟩ : KeepsPrice base base)
      adaptor.estimateBilling
    rw [estimatedPrice]
    split
    · exact added
    · exact added
  rw [adjustedPrice]
  split
  · exact estimated
  · have cleared : KeepsPrice base
        { estimatedPrice patched adaptor base with otherRatios := [] } := estimated
    exact keepsPrice_addOtherRatios cleared adaptor.adjustBillingOnSubmit

theorem quotaFromFloat_zero : quotaFromFloat 0 = 0 := by
  decide

theorem submitted_free (free : base.quota = 0) :
    (adjustedPrice adaptor (estimatedPrice patched adaptor base)).quota = 0 := by
  have estimated : (estimatedPrice patched adaptor base).quota = 0 := by
    rw [show adaptor = ⟨adaptor.estimateBilling, adaptor.adjustBillingOnSubmit⟩ from rfl,
      estimated_quota]
    simp [free, quotaFromFloat_zero]
  rw [adjustedPrice]
  split
  · exact estimated
  next recalculated =>
    simp only [recalcQuotaFromRatios, Option.ite_none_left_eq_some, Option.some.injEq]
      at recalculated
    rw [← recalculated.2, PriceData.removeOtherRatiosFromFloat_eq, estimated]
    simp [PriceData.applyOtherRatiosToFloat, quotaFromFloat_zero]

/-- What the helper says of the price that it computes. -/
theorem modelPriceHelperPerCall_eq_some (submitted : RelayState)
    (priced : modelPriceHelperPerCall pricing req s = some base) :
    base.channelRatio = getChannelPriceRatio s.channelMeta ∧ base.channelRatioSet = true ∧
      (pricing.patched s || base.usePrice) = billedPerCall pricing s ∧
      ((submissionTerms pricing req s submitted).groupRatio = 0 ∨
        (submissionTerms pricing req s submitted).channelRatio = 0 → base.quota = 0) := by
  simp only [modelPriceHelperPerCall, Option.bind_eq_bind, Option.pure_def,
    Option.bind_eq_some_iff, Option.some.injEq] at priced
  rcases priced with ⟨_, _, quota, converted, rfl⟩
  refine ⟨rfl, rfl, ?_, ?_⟩
  · rw [billedPerCall, Bool.or_assoc]
    cases (pricing.prices.modelFixedPrice (billingModelName s)).2 <;> simp
  · intro free
    have zero : quota = 0 := by
      simp only [submissionTerms] at free
      rw [quotaFromFloatStrict] at converted
      rcases free with group | chan
      · simp [group, maxQuota, minQuota] at converted
        exact converted.symm
      · simp [chan, maxQuota, minQuota] at converted
        exact converted.symm
    simp [zero]

variable (submits : relayTaskSubmit pricing req adaptor s = some submitted)

include submits in
theorem submission_eq_some : ∃ base,
    modelPriceHelperPerCall pricing req s = some base ∧ submitted = s.withPrice
      (adjustedPrice adaptor (estimatedPrice (pricing.patched s) adaptor base)) := by
  simp only [relayTaskSubmit, estimateTask, Option.pure_def, Option.bind_eq_bind,
    Option.bind_eq_some_iff, Option.some.injEq] at submits
  rcases submits with ⟨_, ⟨base, priced, rfl⟩, rfl⟩
  exact ⟨base, priced, rfl⟩

/-! ## The terms of a recalculation -/

theorem prod_valid (ratios : List (String × ℚ)) :
    ((ratios.filter (isValidOtherRatio ·.2)).map PriceData.appliedRatio).prod =
      (ratios.map PriceData.appliedRatio).prod := by
  induction ratios with
  | nil => rfl
  | cons entry _ ih =>
    cases valid : isValidOtherRatio entry.2 with
    | true => simp [valid, ih]
    | false => simp [valid, ih, PriceData.appliedRatio]

theorem taskModelName_submitted :
    taskModelName (submittedTask pricing submitted task) = submitted.info.originModelName := by
  simp only [taskModelName, submittedTask]
  split <;> rfl

/-- The terms that the row of a task leads to. -/
theorem recalculationTerms_submitted (price : PriceData) :
    recalculationTerms (pricing.settings cfg) (submittedTask pricing (s.withPrice price) task) =
      let requested := pricing.prices.modelRatio s.info.originModelName
      let usingGroup := s.context.usingGroup s.info
      let group := if usingGroup = "" then (cfg.userGroup s.info.userId).getD ""
        else usingGroup
      if requested.2 = false ∨ requested.1 ≤ 0 ∨ group = "" then none
      else some ⟨requested.1,
        (pricing.prices.groupGroupRatio group group).getD (pricing.prices.groupRatio group),
        price.otherRatioMultiplier, price.getChannelRatio⟩ := by
  have chan : ¬(price.getChannelRatio < 0 ∨ (price.getChannelRatio = 0 ∧ true = false)) := by
    have nonneg := price.getChannelRatio_nonneg
    simp only [Bool.true_eq_false, and_false, or_false, not_lt]
    exact nonneg
  rw [recalculationTerms, taskModelName_submitted]
  simp only [submittedTask, RelayState.withPrice, Option.map_some, Option.getD_some, prod_valid,
    if_neg chan, ← PriceData.otherRatioMultiplier_eq_prod]
  rfl

theorem getChannelRatio_submitted (priced : modelPriceHelperPerCall pricing req s = some base) :
    (adjustedPrice adaptor (estimatedPrice patched adaptor base)).getChannelRatio =
      getChannelPriceRatio s.channelMeta := by
  have keeps : KeepsPrice base (adjustedPrice adaptor (estimatedPrice patched adaptor base)) :=
    keepsPrice_submitted
  have helper := modelPriceHelperPerCall_eq_some s priced
  have nonneg := getChannelPriceRatio_nonneg s.channelMeta
  rw [PriceData.getChannelRatio, keeps.2.1, keeps.2.2, helper.1, helper.2.1,
    if_neg (by linarith), if_neg (by simp)]

include submits in
theorem perCallBilling_submitted :
    (submittedTask pricing submitted task).privateData.billingContext.any (·.perCallBilling) =
      billedPerCall pricing s := by
  rcases submission_eq_some submits with ⟨base, priced, rfl⟩
  have helper := modelPriceHelperPerCall_eq_some s priced
  have keeps : KeepsPrice base
      (adjustedPrice adaptor (estimatedPrice (pricing.patched s) adaptor base)) :=
    keepsPrice_submitted
  rw [← helper.2.2.1, ← keeps.1]
  rfl

include submits in
/-- The terms of the recalculation, beside those of the submission. -/
theorem recalculationTerms_eq_some (same : SameLookups pricing cfg req s) {terms : BillingTerms}
    (multiplied : recalculationTerms (pricing.settings cfg)
      (submittedTask pricing submitted task) = some terms) :
    terms = submissionTerms pricing req s submitted := by
  rcases submission_eq_some submits with ⟨_, priced, rfl⟩
  simp only [recalculationTerms_submitted, Option.ite_none_left_eq_some, not_or, not_le,
    Bool.not_eq_false, Option.some.injEq] at multiplied
  rcases multiplied with ⟨⟨configured, pos, named⟩, rfl⟩
  rcases same configured pos named with ⟨model, group⟩
  rw [getChannelRatio_submitted priced, model, group, ← handleGroupRatio_groupRatio]
  rfl

theorem submissionTerms_free (free : (submissionTerms pricing req s submitted).groupRatio = 0 ∨
      (submissionTerms pricing req s submitted).channelRatio = 0) (totalTokens : ℤ) :
    (submissionTerms pricing req s submitted).quota totalTokens = 0 := by
  rw [BillingTerms.quota]
  rcases free with group | chan
  · simp [group, quotaFromFloat_zero]
  · simp [chan, quotaFromFloat_zero]

/-- The recalculation uses the terms of the submission exactly when the task is billed per call or
both look the same ratios up. -/
theorem recalculatedAsSubmitted_iff
    (submits : relayTaskSubmit pricing req adaptor s = some submitted) :
    RecalculatedAsSubmitted pricing cfg req s submitted (submittedTask pricing submitted task) ↔
      billedPerCall pricing s = true ∨ SameLookups pricing cfg req s := by
  constructor
  · intro recalculated
    cases perCall : billedPerCall pricing s with
    | true => exact .inl rfl
    | false =>
      right
      intro configured pos named
      have terms := recalculated.terms ((perCallBilling_submitted submits).trans perCall)
      rcases submission_eq_some submits with ⟨base, priced, rfl⟩
      rw [recalculationTerms_submitted] at terms
      have same := terms _ (if_neg (by simp [configured, pos.not_ge, named]))
      constructor
      · exact congrArg BillingTerms.modelRatio same
      · rw [← handleGroupRatio_groupRatio]
        exact congrArg BillingTerms.groupRatio same
  · intro looksUp
    have same : billedPerCall pricing s = false →
        SameLookups pricing cfg req s := by
      intro perToken
      exact looksUp.resolve_left (by simp [perToken])
    constructor
    · intro perToken _ multiplied
      rw [perCallBilling_submitted submits] at perToken
      exact recalculationTerms_eq_some submits (same perToken) multiplied
    · intro free _ _ completes
      rw [completionQuota, perCallBilling_submitted submits] at completes
      simp only [Option.ite_none_left_eq_some, Bool.not_eq_true, gt_iff_lt, lt_irrefl, if_false,
        Option.ite_none_right_eq_some, quotaByTokens_eq, Option.map_eq_some_iff] at completes
      rcases completes with ⟨perToken, _, _, _, multiplied, rfl⟩
      rw [recalculationTerms_eq_some submits (same perToken) multiplied, submissionTerms_free free]
      rcases submission_eq_some submits with ⟨_, priced, rfl⟩
      have unpriced := (modelPriceHelperPerCall_eq_some _ priced).2.2.2 free
      constructor
      · simp [recalculateTaskQuota]
      · exact (submitted_free unpriced).le

end Terms

/-! ## A group that is free for some -/

def vipRequest : Request :=
  { sampleRelayRequest with userGroup := "vip" }

def videoSubmission (pricing : TaskPricing) : Option RelayState :=
  relayTaskSubmit pricing vipRequest ⟨[("seconds", 8)], []⟩ videoState

theorem recalculatedAsSubmitted_video : ∃ submitted, videoSubmission videoPricing = some submitted ∧
      RecalculatedAsSubmitted videoPricing Task.sampleTaskSettings vipRequest videoState submitted
        (submittedTask videoPricing submitted Task.sampleTask) := by
  have runs : (videoSubmission videoPricing).isSome := by decide +kernel
  rcases Option.isSome_iff_exists.mp runs with ⟨submitted, submits⟩
  refine ⟨submitted, submits, (recalculatedAsSubmitted_iff submits).mpr (.inr ?_)⟩
  intro _ _ _
  decide

/-- Members of `vip` pay nothing for the group `default`. -/
def vipPricing : TaskPricing :=
  { videoPricing with
    prices := { samplePrices with
      groupGroupRatio := fun user group =>
        if user = "vip" ∧ group = "default" then some 0 else none } }

def videoAnswer : TaskInfo :=
  { status := .success, totalTokens := 100 }

/-- The tokens of a free task are charged. -/
theorem free_task_charged : ∃ submitted, videoSubmission vipPricing = some submitted ∧
      ¬RecalculatedAsSubmitted vipPricing Task.sampleTaskSettings vipRequest videoState submitted
        (submittedTask vipPricing submitted Task.sampleTask) := by
  have charges : (videoSubmission vipPricing).any (fun submitted =>
      (completionQuota (vipPricing.settings Task.sampleTaskSettings) 0 videoAnswer
        (submittedTask vipPricing submitted Task.sampleTask)).any fun actual =>
          recalculateTaskQuota actual (submittedTask vipPricing submitted Task.sampleTask) =
            .adjust actual) = true := by
    decide +kernel
  rcases (Option.any_eq_true _ _).mp charges with ⟨submitted, submits, adjusts⟩
  rcases (Option.any_eq_true _ _).mp adjusts with ⟨actual, completes, adjusts⟩
  refine ⟨submitted, submits, ?_⟩
  intro recalculated
  have isFree : (handleGroupRatio vipPricing.prices vipRequest videoState.context
      videoState.info).groupRatio = 0 := by
    decide
  have idle := (recalculated.free (.inl isFree) videoAnswer actual completes).1
  rw [of_decide_eq_true adjusts] at idle
  cases idle

end NewApi.Relay
