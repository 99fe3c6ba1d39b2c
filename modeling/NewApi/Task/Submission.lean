import NewApi.Billing.ServingCharge

/-!
# The submission of a task

`ModelPriceHelperPerCall` prices a task, and `RelayTaskSubmit` multiplies its quota by the ratios
that the adaptor estimates. Once the upstream has answered, `recalcQuotaFromRatios` divides them
out again and multiplies by the adjusted ones. A submission that fails on the way has no quota.
-/

namespace NewApi.Types.PriceData

def addOtherRatios (price : PriceData) (ratios : List (String × ℚ)) : PriceData :=
  ratios.foldl (fun price entry => price.addOtherRatio entry.1 entry.2) price

def replaceOtherRatios (price : PriceData) (ratios : List (String × ℚ)) : PriceData :=
  { price with otherRatios := [] }.addOtherRatios ratios

def applyOtherRatiosToFloat (price : PriceData) (val : ℚ) : ℚ :=
  val * price.otherRatioMultiplier

def removeOtherRatiosFromFloat (price : PriceData) (val : ℚ) : ℚ :=
  price.otherRatios.foldl (fun val entry =>
    if isValidOtherRatio entry.2 && entry.2 ≠ 1 then val / entry.2 else val) val

theorem removeOtherRatiosFromFloat_eq (price : PriceData) (val : ℚ) :
    price.removeOtherRatiosFromFloat val = val / price.otherRatioMultiplier := by
  rw [removeOtherRatiosFromFloat, otherRatioMultiplier_eq_prod]
  induction price.otherRatios generalizing val with
  | nil => simp
  | cons _ _ ih =>
    rw [List.foldl_cons, ih, List.map_cons, List.prod_cons, ← div_div]
    congr 1
    unfold appliedRatio
    split <;> simp

theorem addOtherRatio_quota (price : PriceData) (key : String) (ratio : ℚ) :
    (price.addOtherRatio key ratio).quota = price.quota := by
  simp only [addOtherRatio]
  split <;> rfl

theorem addOtherRatios_quota (price : PriceData) (ratios : List (String × ℚ)) :
    (price.addOtherRatios ratios).quota = price.quota := by
  induction ratios generalizing price with
  | nil => rfl
  | cons _ _ ih =>
    exact (ih _).trans (price.addOtherRatio_quota _ _)

theorem addOtherRatios_congr {price other : PriceData}
    (same : price.otherRatios = other.otherRatios) (ratios : List (String × ℚ)) :
    (price.addOtherRatios ratios).otherRatios = (other.addOtherRatios ratios).otherRatios := by
  induction ratios generalizing price other with
  | nil => exact same
  | cons _ _ ih =>
    apply ih
    simp only [addOtherRatio]
    split
    · exact same
    · simp only [same]

end NewApi.Types.PriceData

namespace NewApi.Relay

open NewApi.Types NewApi.Service

def quotaFromFloat (val : ℚ) : ℤ :=
  saturateQuota (if 0 ≤ val then ⌊val⌋ else ⌈val⌉)

/-! ## The price of a task -/

/-- The prices that the submission of a task reads. -/
structure TaskPricing where
  prices : PriceSettings
  defaultModelPrice : String → Option ℚ
  quotaPerUnit : ℚ
  taskPricePatches : List String

/-- The ratio of a model, which counts when it has no price. -/
def perCallModelRatio (pricing : TaskPricing) (req : Request) (model : String) :
    Option ℚ → Option ℚ
  | some _ => some 0
  | none =>
    if (pricing.prices.modelRatio model).2 = false ∧ req.acceptUnsetRatioModel = false
    then none else some (pricing.prices.modelRatio model).1

/-- `ModelPriceHelperPerCall`. A model without a price is billed by half its ratio. -/
def modelPriceHelperPerCall (pricing : TaskPricing) (req : Request) (s : RelayState) :
    Option PriceData := do
  let groupRatioInfo := handleGroupRatio pricing.prices req s.context s.info
  let channelRatio := getChannelPriceRatio s.channelMeta
  let model := billingModelName s
  let fixed := pricing.prices.modelFixedPrice model
  let modelPrice := if fixed.2 then some fixed.1 else pricing.defaultModelPrice model
  let modelRatio ← perCallModelRatio pricing req model modelPrice
  let quota ← quotaFromFloatStrict (modelPrice.getD (modelRatio / 2) * pricing.quotaPerUnit *
    groupRatioInfo.groupRatio * channelRatio)
  let freeModel := isFreeModel pricing.prices groupRatioInfo.groupRatio channelRatio
    (modelPrice.getD modelRatio = 0)
  return { zeroPriceData with
    freeModel := freeModel
    modelPrice := modelPrice.getD (-1)
    modelRatio := modelRatio
    usePrice := modelPrice.isSome
    channelRatio := channelRatio
    channelRatioSet := true
    quota := if freeModel then 0 else quota
    quotaToPreConsume := 0
    groupRatioInfo := groupRatioInfo }

/-! ## Ratios -/

def maxTaskDurationSeconds : ℤ :=
  3600

/-- The task that a remix starts from: with a billing context, or with the seconds and the size
in its data. -/
inductive OriginTask where
  | billed (otherRatios : List (String × ℚ))
  | legacy (seconds : ℤ) (size : String)

def OriginTask.ratios : OriginTask → List (String × ℚ)
  | .billed otherRatios => otherRatios
  | .legacy seconds size =>
    let seconds := if seconds ≤ 0 then 4 else min seconds maxTaskDurationSeconds
    let sizes := if size = "1792x1024" ∨ size = "1024x1792" then [("size", 1.666667)] else []
    ("seconds", (seconds : ℚ)) :: ("size", 1) :: sizes

/-- The ratios that an adaptor answers with. -/
structure TaskAdaptor where
  estimateBilling : List (String × ℚ)
  adjustBillingOnSubmit : List (String × ℚ)

def recalcQuotaFromRatios (price : PriceData) (ratios : List (String × ℚ)) : Option ℤ :=
  let baseQuota := price.removeOtherRatiosFromFloat price.quota
  let replaced := price.replaceOtherRatios ratios
  if replaced.otherRatios = [] then none
  else some (quotaFromFloat (replaced.applyOtherRatiosToFloat baseQuota))

def estimatedPrice (patched : Bool) (adaptor : TaskAdaptor) (price : PriceData) : PriceData :=
  let price := price.addOtherRatios adaptor.estimateBilling
  if patched then price
  else { price with quota := quotaFromFloat (price.applyOtherRatiosToFloat price.quota) }

def adjustedPrice (adaptor : TaskAdaptor) (price : PriceData) : PriceData :=
  match recalcQuotaFromRatios price adaptor.adjustBillingOnSubmit with
  | none => price
  | some quota =>
    { price.replaceOtherRatios adaptor.adjustBillingOnSubmit with quota := quota }

/-! ## Submission -/

def RelayState.withPrice (s : RelayState) (price : PriceData) : RelayState :=
  { s with info := { s.info with priceData := price } }

def TaskPricing.patched (pricing : TaskPricing) (s : RelayState) : Bool :=
  pricing.taskPricePatches.contains s.info.originModelName

/-- `ResolveOriginTask`, for a task that is a remix or starts afresh. -/
def resolveOriginTask (origin : Option OriginTask) (s : RelayState) : RelayState :=
  match origin with
  | none => s
  | some origin => s.withPrice (s.info.priceData.addOtherRatios origin.ratios)

/-- `RelayTaskSubmit` up to the request to the upstream. -/
def estimateTask (pricing : TaskPricing) (req : Request) (adaptor : TaskAdaptor)
    (s : RelayState) : Option RelayState := do
  let price ← modelPriceHelperPerCall pricing req s
  return s.withPrice (estimatedPrice (pricing.patched s) adaptor price)

def relayTaskSubmit (pricing : TaskPricing) (req : Request) (adaptor : TaskAdaptor)
    (s : RelayState) : Option RelayState := do
  let estimated ← estimateTask pricing req adaptor s
  return estimated.withPrice (adjustedPrice adaptor estimated.info.priceData)

/-! ## The charge -/

def taskQuota (s : Option RelayState) : Option ℤ :=
  s.map (·.info.priceData.quota)

/-- The product of the estimated ratios. -/
def estimateMultiplier (base : PriceData) (estimate : List (String × ℚ)) : ℚ :=
  (base.addOtherRatios estimate).otherRatioMultiplier

/-- The product of the ratios of the origin and of the estimate. -/
def mergedMultiplier (base : PriceData) (origin : Option OriginTask)
    (estimate : List (String × ℚ)) : ℚ :=
  estimateMultiplier (base.addOtherRatios ((origin.map OriginTask.ratios).getD [])) estimate

/-- A task is charged its base times its ratios, whatever attempts went before. -/
structure ChargesRatios (pricing : TaskPricing) (req : Request) (s : RelayState)
    (origin : Option OriginTask) (estimate : List (String × ℚ)) (base : PriceData) : Prop where
  estimated : ∀ adjusted, taskQuota (estimateTask pricing req ⟨estimate, adjusted⟩
        (resolveOriginTask origin s)) =
      some (if pricing.patched s then base.quota
        else quotaFromFloat (base.quota * mergedMultiplier base origin estimate))
  adjusted : ∀ adjusted ≠ [], (∀ entry ∈ adjusted, 0 < entry.2) →
    taskQuota (relayTaskSubmit pricing req ⟨estimate, adjusted⟩ (resolveOriginTask origin s)) =
      some (quotaFromFloat (base.quota * (base.replaceOtherRatios adjusted).otherRatioMultiplier))
  retried : ∀ adjusted (past : List TaskAdaptor) submitted,
    past.foldlM (fun s adaptor => relayTaskSubmit pricing req adaptor s)
        (resolveOriginTask origin s) = some submitted →
      taskQuota (relayTaskSubmit pricing req ⟨estimate, adjusted⟩ submitted) =
        taskQuota (relayTaskSubmit pricing req ⟨estimate, adjusted⟩ (resolveOriginTask origin s))

/-- Dividing the estimate out gives the base back, and the ratios of the origin, which the
submission forgets, make no difference. -/
def RatiosRecoverable (patched : Bool) (base : PriceData) (origin : Option OriginTask)
    (estimate : List (String × ℚ)) : Prop :=
  if patched then base.quota = 0 ∨ estimateMultiplier base estimate = 1
  else (quotaFromFloat (base.quota * mergedMultiplier base origin estimate) : ℚ) =
    base.quota * estimateMultiplier base estimate

/-! ## Truncation -/

theorem quotaFromFloat_intCast (val : ℤ) : quotaFromFloat val = saturateQuota val := by
  simp [quotaFromFloat]

theorem saturateQuota_idem (val : ℤ) :
    saturateQuota (saturateQuota val) = saturateQuota val := by
  simp only [saturateQuota, Rounding.saturate, minQuota, maxQuota]
  split_ifs <;> omega

theorem quotaFromFloat_idem (val : ℚ) :
    quotaFromFloat (quotaFromFloat val : ℚ) = quotaFromFloat val := by
  rw [quotaFromFloat_intCast]
  exact saturateQuota_idem _

theorem eq_of_saturateQuota {val inside : ℤ} (same : saturateQuota val = inside)
    (low : minQuota < inside) (high : inside < maxQuota) : val = inside := by
  simp only [saturateQuota, Rounding.saturate] at same
  split_ifs at same <;> omega

theorem one_le_of_quotaFromFloat {val : ℚ} (one : quotaFromFloat val = 1) : 1 ≤ val := by
  have truncated := eq_of_saturateQuota one (by decide) (by decide)
  by_cases sign : 0 ≤ val
  · rw [if_pos sign] at truncated
    exact_mod_cast (Int.floor_eq_iff.mp truncated).1
  · have ceil : ⌈val⌉ ≤ 0 := Int.ceil_le.mpr (by push_cast; linarith)
    rw [if_neg sign] at truncated
    omega

theorem le_neg_one_of_quotaFromFloat {val : ℚ} (one : quotaFromFloat val = -1) :
    val ≤ -1 := by
  have truncated := eq_of_saturateQuota one (by decide) (by decide)
  by_cases sign : 0 ≤ val
  · have floor : 0 ≤ ⌊val⌋ := Int.floor_nonneg.mpr sign
    rw [if_pos sign] at truncated
    omega
  · rw [if_neg sign] at truncated
    exact_mod_cast (Int.ceil_eq_iff.mp truncated).2

/-- A value whose multiples truncate as those of another lies on its side of zero, and no
further out. -/
theorem le_of_scaled_quota {val other : ℚ} (pos : 0 < val) (same : ∀ ratio : ℚ, 0 < ratio →
      quotaFromFloat (val * ratio) = quotaFromFloat (other * ratio)) : val ≤ other := by
  have scaled := same (1 / val) (by positivity)
  rw [mul_one_div_cancel pos.ne'] at scaled
  have one : quotaFromFloat (1 : ℚ) = 1 := by decide
  have reaches := one_le_of_quotaFromFloat (scaled.symm.trans one)
  rw [mul_one_div, le_div_iff₀ pos] at reaches
  linarith

theorem ge_of_scaled_quota {val other : ℚ} (neg : val < 0) (same : ∀ ratio : ℚ, 0 < ratio →
      quotaFromFloat (val * ratio) = quotaFromFloat (other * ratio)) : other ≤ val := by
  have scaled := same (1 / -val) (by apply one_div_pos.mpr; linarith)
  have cancels : val * (1 / -val) = -1 := by
    rw [mul_one_div, div_neg, div_self neg.ne]
  rw [cancels] at scaled
  have one : quotaFromFloat (-1 : ℚ) = -1 := by decide
  have reaches := le_neg_one_of_quotaFromFloat (scaled.symm.trans one)
  rw [mul_one_div, div_le_iff₀ (by linarith)] at reaches
  linarith

theorem eq_of_scaled_quota {val other : ℚ} (same : ∀ ratio : ℚ, 0 < ratio →
      quotaFromFloat (val * ratio) = quotaFromFloat (other * ratio)) : val = other := by
  have back : ∀ ratio : ℚ, 0 < ratio →
      quotaFromFloat (other * ratio) = quotaFromFloat (val * ratio) :=
    fun ratio pos => (same ratio pos).symm
  rcases lt_trichotomy val 0 with neg | rfl | pos
  · have le := ge_of_scaled_quota neg same
    exact le_antisymm (ge_of_scaled_quota (by linarith) back) le
  · rcases lt_trichotomy other 0 with neg | rfl | pos
    · have := ge_of_scaled_quota neg back
      linarith
    · rfl
    · have := le_of_scaled_quota pos back
      linarith
  · have le := le_of_scaled_quota pos same
    exact le_antisymm le (le_of_scaled_quota (by linarith) back)

/-! ## Prices on the way -/

section Charge

variable {patched : Bool} {base price : PriceData} {origin : Option OriginTask}
  {estimate ratios : List (String × ℚ)} {pricing : TaskPricing} {req : Request}
  {s : RelayState} {adaptor : TaskAdaptor}

theorem estimated_quota : (estimatedPrice patched ⟨estimate, ratios⟩ price).quota =
    if patched then price.quota
    else quotaFromFloat (price.quota * estimateMultiplier price estimate) := by
  simp only [estimatedPrice, PriceData.applyOtherRatiosToFloat, PriceData.addOtherRatios_quota]
  split
  · exact PriceData.addOtherRatios_quota _ _
  · rfl

theorem estimated_multiplier :
    (estimatedPrice patched ⟨estimate, ratios⟩ price).otherRatioMultiplier =
      estimateMultiplier price estimate := by
  simp only [estimatedPrice, estimateMultiplier]
  split <;> rfl

theorem estimateMultiplier_pos : 0 < estimateMultiplier price estimate :=
  PriceData.otherRatioMultiplier_pos _

theorem replaced_multiplier (one two : PriceData) :
    (one.replaceOtherRatios ratios).otherRatioMultiplier =
      (two.replaceOtherRatios ratios).otherRatioMultiplier := by
  have same : (one.replaceOtherRatios ratios).otherRatios =
      (two.replaceOtherRatios ratios).otherRatios := by
    unfold PriceData.replaceOtherRatios
    apply PriceData.addOtherRatios_congr
    rfl
  simp only [PriceData.otherRatioMultiplier, same]

theorem addOtherRatios_ne_nil (notNil : ratios ≠ []) (pos : ∀ entry ∈ ratios, 0 < entry.2) :
    (price.addOtherRatios ratios).otherRatios ≠ [] := by
  induction ratios using List.reverseRecOn with
  | nil => exact absurd rfl notNil
  | append_singleton _ entry =>
    have valid := pos entry (by simp)
    rw [PriceData.addOtherRatios, List.foldl_append, List.foldl_cons, List.foldl_nil,
      PriceData.addOtherRatio]
    simp [isValidOtherRatio, valid]

/-- What is left of the base when the estimated ratios are divided out again. -/
def recoveredBase (patched : Bool) (price : PriceData) (estimate : List (String × ℚ)) : ℚ :=
  (estimatedPrice patched ⟨estimate, []⟩ price).quota / estimateMultiplier price estimate

theorem adjusted_quota (notNil : ratios ≠ []) (pos : ∀ entry ∈ ratios, 0 < entry.2) :
    (adjustedPrice ⟨estimate, ratios⟩ (estimatedPrice patched ⟨estimate, ratios⟩ price)).quota =
      quotaFromFloat (recoveredBase patched price estimate *
        (price.replaceOtherRatios ratios).otherRatioMultiplier) := by
  have kept : ((estimatedPrice patched ⟨estimate, ratios⟩ price).replaceOtherRatios
      ratios).otherRatios ≠ [] := addOtherRatios_ne_nil notNil pos
  simp only [adjustedPrice, recalcQuotaFromRatios, if_neg kept, PriceData.applyOtherRatiosToFloat,
    PriceData.removeOtherRatiosFromFloat_eq, recoveredBase, estimated_quota, estimated_multiplier]
  rw [replaced_multiplier]

theorem recoveredBase_eq_iff : recoveredBase patched price estimate = price.quota ↔
    if patched then price.quota = 0 ∨ estimateMultiplier price estimate = 1
    else (quotaFromFloat (price.quota * estimateMultiplier price estimate) : ℚ) =
      price.quota * estimateMultiplier price estimate := by
  have pos : estimateMultiplier price estimate ≠ 0 := estimateMultiplier_pos.ne'
  rw [recoveredBase, estimated_quota, div_eq_iff pos]
  cases patched with
  | false => simp only [Bool.false_eq_true, if_false]
  | true =>
    simp only [if_true]
    constructor
    · intro same
      by_cases zero : price.quota = 0
      · exact .inl zero
      · right
        have nonzero : (price.quota : ℚ) ≠ 0 := by exact_mod_cast zero
        exact (mul_right_eq_self₀.mp same.symm).resolve_right nonzero
    · rintro (zero | one)
      · simp [zero]
      · rw [one, mul_one]

/-! ## Submissions -/

theorem resolveOriginTask_eq (origin : Option OriginTask) (s : RelayState) :
    ∃ price, resolveOriginTask origin s = s.withPrice price := by
  cases origin with
  | none => exact ⟨s.info.priceData, rfl⟩
  | some _ => exact ⟨_, rfl⟩

/-- A submission forgets the price that the state brings along. -/
theorem estimateTask_withPrice :
    estimateTask pricing req adaptor (s.withPrice price) = estimateTask pricing req adaptor s :=
  rfl

theorem relayTaskSubmit_withPrice :
    relayTaskSubmit pricing req adaptor (s.withPrice price) =
      relayTaskSubmit pricing req adaptor s :=
  rfl

theorem relayTaskSubmit_eq_some {submitted : RelayState}
    (submits : relayTaskSubmit pricing req adaptor s = some submitted) :
    ∃ price, submitted = s.withPrice price := by
  simp only [relayTaskSubmit, estimateTask, Option.pure_def, Option.bind_eq_bind,
    Option.bind_eq_some_iff, Option.some.injEq] at submits
  rcases submits with ⟨_, ⟨_, _, rfl⟩, rfl⟩
  exact ⟨_, rfl⟩

theorem retries_eq_some (past : List TaskAdaptor) {submitted : RelayState}
    (runs : past.foldlM (fun s adaptor => relayTaskSubmit pricing req adaptor s)
      s = some submitted) : ∃ price, submitted = s.withPrice price := by
  induction past generalizing s with
  | nil => exact ⟨s.info.priceData, (Option.some.inj runs).symm⟩
  | cons _ _ ih =>
    rw [List.foldlM_cons] at runs
    rcases Option.bind_eq_some_iff.mp runs with ⟨_, submits, runs⟩
    rcases relayTaskSubmit_eq_some submits with ⟨price, rfl⟩
    rcases ih runs with ⟨price, rfl⟩
    exact ⟨price, rfl⟩

variable (priced : modelPriceHelperPerCall pricing req s = some base)

include priced in
theorem estimateTask_quota :
    taskQuota (estimateTask pricing req ⟨estimate, ratios⟩ (resolveOriginTask origin s)) =
      some (if pricing.patched s then base.quota
        else quotaFromFloat (base.quota * estimateMultiplier base estimate)) := by
  rcases resolveOriginTask_eq origin s with ⟨_, done⟩
  rw [done, estimateTask_withPrice, estimateTask, priced]
  exact congrArg some estimated_quota

include priced in
theorem relayTaskSubmit_quota (notNil : ratios ≠ []) (pos : ∀ entry ∈ ratios, 0 < entry.2) :
    taskQuota (relayTaskSubmit pricing req ⟨estimate, ratios⟩ (resolveOriginTask origin s)) =
      some (quotaFromFloat (recoveredBase (pricing.patched s) base estimate *
        (base.replaceOtherRatios ratios).otherRatioMultiplier)) := by
  rcases resolveOriginTask_eq origin s with ⟨_, done⟩
  rw [done, relayTaskSubmit_withPrice, relayTaskSubmit, estimateTask, priced]
  exact congrArg some (adjusted_quota notNil pos)

theorem replaceOtherRatios_single {ratio : ℚ} (pos : 0 < ratio) :
    (base.replaceOtherRatios [("seconds", ratio)]).otherRatioMultiplier = ratio := by
  have valid : isValidOtherRatio ratio = true := decide_eq_true pos
  simp [PriceData.replaceOtherRatios, PriceData.addOtherRatios, PriceData.addOtherRatio, valid,
    PriceData.otherRatioMultiplier_eq_prod, PriceData.appliedRatio]
  intro one
  exact one.symm

include priced in
/-- A task is charged its base times its ratios exactly when the estimate can be divided out
again and the ratios of the origin make no difference. -/
theorem chargesRatios_iff :
    ChargesRatios pricing req s origin estimate base ↔
      RatiosRecoverable (pricing.patched s) base origin estimate := by
  constructor
  · intro charges
    have recovers : recoveredBase (pricing.patched s) base estimate = base.quota := by
      apply eq_of_scaled_quota
      intro ratio pos
      have adjusted := charges.adjusted [("seconds", ratio)] (by simp) (by simpa using pos)
      rw [relayTaskSubmit_quota priced (by simp) (by simpa using pos),
        replaceOtherRatios_single pos] at adjusted
      exact Option.some.inj adjusted
    have estimated := (estimateTask_quota priced).symm.trans (charges.estimated [])
    rw [recoveredBase_eq_iff] at recovers
    unfold RatiosRecoverable
    cases patched : pricing.patched s with
    | true => simpa [patched] using recovers
    | false =>
      simp only [patched, Bool.false_eq_true, if_false, Option.some.injEq] at recovers estimated ⊢
      rw [← estimated, recovers]
  · intro recoverable
    have same : (if pricing.patched s then base.quota
        else quotaFromFloat (base.quota * estimateMultiplier base estimate)) =
        if pricing.patched s then base.quota
        else quotaFromFloat (base.quota * mergedMultiplier base origin estimate) := by
      unfold RatiosRecoverable at recoverable
      split
      · rfl
      next unpatched =>
        rw [if_neg unpatched] at recoverable
        rw [← recoverable, quotaFromFloat_idem]
    have recovers : recoveredBase (pricing.patched s) base estimate = base.quota := by
      rw [recoveredBase_eq_iff]
      unfold RatiosRecoverable at recoverable
      split
      next patched => rwa [if_pos patched] at recoverable
      next unpatched =>
        rw [if_neg unpatched] at recoverable
        rw [← recoverable, quotaFromFloat_idem]
    refine ⟨?_, ?_, ?_⟩
    · intro _
      rw [estimateTask_quota priced, same]
    · intro _ notNil pos
      rw [relayTaskSubmit_quota priced notNil pos, recovers]
    · intro _ past _ runs
      rcases retries_eq_some past runs with ⟨_, rfl⟩
      rw [relayTaskSubmit_withPrice]

end Charge

/-! ## A remix -/

def videoPricing : TaskPricing :=
  ⟨samplePrices, fun _ => none, 500, []⟩

def videoState : RelayState :=
  ⟨⟨none, sampleChannel 5 1⟩, some ⟨5, 14, 1, true, "claude", false⟩, sampleOpening, none⟩

/-- The eight seconds of an estimate are a whole number of quota. -/
theorem chargesRatios_video : ∃ base,
    modelPriceHelperPerCall videoPricing sampleRelayRequest videoState = some base ∧
      ChargesRatios videoPricing sampleRelayRequest videoState none [("seconds", 8)] base := by
  have priced : (modelPriceHelperPerCall videoPricing sampleRelayRequest videoState).any
      (fun base => (quotaFromFloat (base.quota * mergedMultiplier base none [("seconds", 8)]) : ℚ) =
        base.quota * estimateMultiplier base [("seconds", 8)]) = true := by
    decide +kernel
  rcases (Option.any_eq_true _ _).mp priced with ⟨base, isBase, whole⟩
  refine ⟨base, isBase, (chargesRatios_iff isBase).mpr ?_⟩
  rw [RatiosRecoverable, if_neg (by decide)]
  exact of_decide_eq_true whole

/-- The eight seconds of the task that is remixed are not charged. -/
theorem remix_ratio_dropped : ∃ base,
    modelPriceHelperPerCall videoPricing sampleRelayRequest videoState = some base ∧
      ¬ChargesRatios videoPricing sampleRelayRequest videoState
        (some (.billed [("seconds", 8)])) [] base := by
  have diff : (modelPriceHelperPerCall videoPricing sampleRelayRequest videoState).any
      (fun base => taskQuota (estimateTask videoPricing sampleRelayRequest ⟨[], []⟩
          (resolveOriginTask (some (.billed [("seconds", 8)])) videoState)) ≠
        some (if videoPricing.patched videoState then base.quota
          else quotaFromFloat (base.quota *
            mergedMultiplier base (some (.billed [("seconds", 8)])) []))) = true := by
    decide +kernel
  rcases (Option.any_eq_true _ _).mp diff with ⟨base, isBase, charged⟩
  refine ⟨base, isBase, ?_⟩
  intro charges
  exact of_decide_eq_true charged (charges.estimated [])

end NewApi.Relay
