import Mathlib.Algebra.Order.Archimedean.Basic
import NewApi.Billing.TextSettlement

/-!
# The two styles of usage reports

OpenAI's report counts cached tokens inside the prompt, Claude's counts them beside it.
-/

namespace NewApi.Service

open NewApi.Dto NewApi.Types

/-! ## Reports -/

/-- The disjoint counts of a request. -/
structure TokenSplit where
  (text cacheRead cacheWrite completion : ℕ)

namespace TokenSplit

def total (split : TokenSplit) : ℕ :=
  split.text + split.cacheRead + split.cacheWrite + split.completion

theorem eq_of_total_eq_zero (split : TokenSplit) (none : split.total = 0) :
    split = ⟨0, 0, 0, 0⟩ := by
  rcases split with ⟨text, cacheRead, cacheWrite, completion⟩
  change text + cacheRead + cacheWrite + completion = 0 at none
  rw [TokenSplit.mk.injEq]
  omega

/-- No count of the first split is larger. -/
structure Le (split grown : TokenSplit) : Prop where
  text : split.text ≤ grown.text
  cacheRead : split.cacheRead ≤ grown.cacheRead
  cacheWrite : split.cacheWrite ≤ grown.cacheWrite
  completion : split.completion ≤ grown.completion

end TokenSplit

/-- The split in the style of OpenAI. -/
structure OpenAIReport (info : RelayInfo) (split : TokenSplit) (usage : Usage) : Prop where
  semantic : usageSemanticFromUsage info (some usage) ≠ "anthropic"
  prompt : usage.promptTokens = split.text + split.cacheRead + split.cacheWrite
  completion : usage.completionTokens = split.completion
  cached : usage.promptTokensDetails.cachedTokens = split.cacheRead
  written : usage.promptTokensDetails.cacheCreationTokensTotal = split.cacheWrite
  image : usage.promptTokensDetails.imageTokens = 0
  audio : usage.promptTokensDetails.audioTokens = 0
  fiveMinutes : usage.claudeCacheCreation5mTokens = 0
  hour : usage.claudeCacheCreation1hTokens = 0

/-- The report counts cached tokens beside the prompt. Some of those written may be reported as
written for five minutes. -/
structure ClaudeReport (split : TokenSplit) (usage : Usage) : Prop where
  semantic : usage.usageSemantic = "anthropic"
  prompt : usage.promptTokens = split.text
  completion : usage.completionTokens = split.completion
  cached : usage.promptTokensDetails.cachedTokens = split.cacheRead
  written : usage.promptTokensDetails.cacheCreationTokensTotal = split.cacheWrite
  image : usage.promptTokensDetails.imageTokens = 0
  audio : usage.promptTokensDetails.audioTokens = 0
  fiveMinutes : 0 ≤ usage.claudeCacheCreation5mTokens ∧
    usage.claudeCacheCreation5mTokens ≤ split.cacheWrite
  hour : usage.claudeCacheCreation1hTokens = 0

/-- Either style, with the tokens that it counts as prompt and completion. -/
inductive StyledReport (info : RelayInfo) (split : TokenSplit) (usage : Usage) : ℕ → Prop where
  | openAI (report : OpenAIReport info split usage) :
      StyledReport info split usage split.total
  | claude (report : ClaudeReport split usage) :
      StyledReport info split usage (split.text + split.completion)

def openAIReport (split : TokenSplit) : Usage where
  promptTokens := split.text + split.cacheRead + split.cacheWrite
  completionTokens := split.completion
  usageSemantic := "openai"
  promptTokensDetails :=
    { cachedTokens := split.cacheRead, cachedCreationTokens := split.cacheWrite }

def claudeReport (split : TokenSplit) : Usage where
  promptTokens := split.text
  completionTokens := split.completion
  usageSemantic := "anthropic"
  promptTokensDetails :=
    { cachedTokens := split.cacheRead, cachedCreationTokens := split.cacheWrite }

theorem cacheCreationTokensTotal_ofNat (read written : ℕ) :
    ({ cachedTokens := read, cachedCreationTokens := written } :
      InputTokenDetails).cacheCreationTokensTotal = written := by
  have nonneg : (0 : ℤ) ≤ written := Int.natCast_nonneg _
  simp only [InputTokenDetails.cacheCreationTokensTotal]
  rw [if_neg (by omega), if_neg (by omega)]

theorem openAIReport_isReport (info : RelayInfo) (split : TokenSplit) :
    OpenAIReport info split (openAIReport split) where
  semantic := by
    simp [usageSemanticFromUsage, openAIReport]
  prompt := rfl
  completion := rfl
  cached := rfl
  written := cacheCreationTokensTotal_ofNat _ _
  image := rfl
  audio := rfl
  fiveMinutes := rfl
  hour := rfl

theorem claudeReport_isReport (split : TokenSplit) : ClaudeReport split (claudeReport split) where
  semantic := rfl
  prompt := rfl
  completion := rfl
  cached := rfl
  written := cacheCreationTokensTotal_ofNat _ _
  image := rfl
  audio := rfl
  fiveMinutes := ⟨le_refl _, Int.natCast_nonneg _⟩
  hour := rfl

/-! ## The charge of a split -/

section Charge

variable (cfg : Settings) (ctx : RequestContext) (info : RelayInfo)

def toolSurcharge : ℚ :=
  (calculateTextToolCallSurcharge cfg ctx info info.priceData.groupRatioInfo.groupRatio).2

def tokenRate : ℚ :=
  info.priceData.modelRatio * info.priceData.groupRatioInfo.groupRatio *
    info.priceData.otherRatioMultiplier * info.priceData.getChannelRatio

def requestChargeRatio : ℚ :=
  info.priceData.modelRatio * info.priceData.groupRatioInfo.groupRatio *
    info.priceData.getChannelRatio

def weightedTokens (split : TokenSplit) : ℚ :=
  split.text + split.cacheRead * info.priceData.cacheRatio +
    split.cacheWrite * info.priceData.cacheCreationRatio +
    split.completion * info.priceData.completionRatio

def splitCharge (split : TokenSplit) : ℚ :=
  weightedTokens info split * tokenRate info +
    toolSurcharge cfg ctx info * info.priceData.getChannelRatio

/-- The quota of a charge that counts, at least one unless the request is free. -/
def chargedQuota (chargeRatio charge : ℚ) : ℤ :=
  let charge := if chargeRatio ≠ 0 ∧ charge ≤ 0 then 1 else charge
  if chargeRatio ≠ 0 ∧ quotaFromDecimal charge = 0 then 1 else quotaFromDecimal charge

variable {cfg ctx info} {split : TokenSplit} {usage : Usage} {counted : ℕ}

theorem tokenQuota_of_report {summary : TextQuotaSummary} {separate : Bool}
    (prompt : summary.promptTokens - (if separate then 0 else
      summary.cacheTokens + summary.cacheCreationTokens) = split.text)
    (cached : summary.cacheTokens = split.cacheRead)
    (written : summary.cachedCreationTokensWithRatio separate =
      split.cacheWrite * summary.cacheCreationRatio)
    (completion : summary.completionTokens = split.completion)
    (image : summary.imageTokens = 0) (audio : summary.audioTokens = 0) :
    summary.tokenQuota cfg separate = (split.text + split.cacheRead * summary.cacheRatio +
        split.cacheWrite * summary.cacheCreationRatio +
        split.completion * summary.completionRatio) * summary.ratio := by
  have noAudio : summary.audioPriced = false := by
    simp [TextQuotaSummary.audioPriced, audio]
  have base : summary.baseTokens separate = split.text := by
    simp only [TextQuotaSummary.baseTokens, noAudio, image, prompt, sub_zero, Bool.false_eq_true,
      if_false]
    rw [if_neg (by omega)]
    rfl
  simp only [TextQuotaSummary.tokenQuota, TextQuotaSummary.audioInputQuota, noAudio, base, cached,
    written, completion, image, Bool.false_eq_true, if_false, Int.cast_natCast, Int.cast_zero,
    zero_mul, add_zero]

theorem unpricedSummary_of_report (notOpenRouter : info.channelType ≠ channelTypeOpenRouter) :
    let summary := unpricedSummary cfg ctx info (some usage) (· + ·)
    summary.promptTokens = usage.promptTokens ∧
      summary.cacheCreationTokens = usage.promptTokensDetails.cacheCreationTokensTotal := by
  have notClaude : isOpenRouterClaudeBilling info (some usage) = false := by
    simp [isOpenRouterClaudeBilling, notOpenRouter]
  simp only [unpricedSummary, notClaude, Bool.false_eq_true, if_false, Option.getD_some]
  exact ⟨trivial, trivial⟩

/-- The quota of a report by its split. -/
theorem report_tokenQuota (cfg : Settings) (ctx : RequestContext)
    (notOpenRouter : info.channelType ≠ channelTypeOpenRouter)
    (sameRatio : info.priceData.cacheCreation5mRatio = info.priceData.cacheCreationRatio)
    (report : StyledReport info split usage counted) :
    let summary := unpricedSummary cfg ctx info (some usage) (· + ·)
    summary.tokenQuota cfg (summary.isClaudeUsageSemantic ||
        isLegacyClaudeDerivedOpenAIUsage info usage) =
      weightedTokens info split * summary.ratio := by
  intro summary
  have fields : summary.promptTokens = usage.promptTokens ∧
      summary.cacheCreationTokens = usage.promptTokensDetails.cacheCreationTokensTotal :=
    unpricedSummary_of_report notOpenRouter
  rcases fields with ⟨isPrompt, isWritten⟩
  have isSemantic : summary.isClaudeUsageSemantic =
      decide (usageSemanticFromUsage info (some usage) = "anthropic") := rfl
  cases report with
  | openAI report =>
    have notLegacy : isLegacyClaudeDerivedOpenAIUsage info usage = false := by
      simp [isLegacyClaudeDerivedOpenAIUsage, report.fiveMinutes, report.hour]
    have separate : (summary.isClaudeUsageSemantic ||
        isLegacyClaudeDerivedOpenAIUsage info usage) = false := by
      simp [isSemantic, report.semantic, notLegacy]
    rw [separate]
    refine tokenQuota_of_report ?_ report.cached ?_ report.completion report.image report.audio
    · rw [isPrompt, isWritten, report.prompt, report.written]
      simp only [Bool.false_eq_true, if_false]
      have isCached : summary.cacheTokens = split.cacheRead := report.cached
      rw [isCached]
      ring
    · simp only [TextQuotaSummary.cachedCreationTokensWithRatio, Bool.false_eq_true, if_false]
      split
      · rw [isWritten, report.written]
        rfl
      next none =>
        have noneWritten : summary.cacheCreationTokens = 0 := by
          by_contra written
          exact none (.inl written)
        rw [isWritten, report.written] at noneWritten
        have isZero : (split.cacheWrite : ℚ) = 0 := by exact_mod_cast noneWritten
        rw [isZero, zero_mul]
  | claude report =>
    have isClaude : usageSemanticFromUsage info (some usage) = "anthropic" := by
      simp [usageSemanticFromUsage, report.semantic]
    have separate : (summary.isClaudeUsageSemantic ||
        isLegacyClaudeDerivedOpenAIUsage info usage) = true := by
      simp [isSemantic, isClaude]
    rw [separate]
    refine tokenQuota_of_report ?_ report.cached ?_ report.completion report.image report.audio
    · rw [isPrompt, report.prompt]
      simp
    · have five : summary.cacheCreationTokens5m = usage.claudeCacheCreation5mTokens := rfl
      have hour : summary.cacheCreationTokens1h = 0 := report.hour
      have ratio5m : summary.cacheCreationRatio5m = summary.cacheCreationRatio := sameRatio
      rcases report.fiveMinutes with ⟨_, _⟩
      simp only [TextQuotaSummary.cachedCreationTokensWithRatio, if_true, isWritten,
        report.written, five, hour, ratio5m]
      split
      · rw [if_neg (by omega)]
        push_cast
        ring
      next none =>
        have noneWritten : (split.cacheWrite : ℤ) = 0 := by
          by_contra written
          exact none (.inl written)
        have isZero : (split.cacheWrite : ℚ) = 0 := by exact_mod_cast noneWritten
        rw [isZero, zero_mul]

/-- The charge of a report depends on its split only. -/
theorem quota_of_report (perToken : info.priceData.usePrice = false)
    (notOpenRouter : info.channelType ≠ channelTypeOpenRouter)
    (sameRatio : info.priceData.cacheCreation5mRatio = info.priceData.cacheCreationRatio)
    (report : StyledReport info split usage counted) :
    (calculateTextQuotaSummary cfg ctx info (some usage) (· + ·)).quota =
      if 0 < counted ∨ toolSurcharge cfg ctx info ≠ 0 then
        chargedQuota (requestChargeRatio info) (splitCharge cfg ctx info split)
      else 0 := by
  have tokens := report_tokenQuota cfg ctx notOpenRouter sameRatio report
  have decimal : (unpricedSummary cfg ctx info (some usage) (· + ·)).quotaDecimal cfg info.priceData
        ((unpricedSummary cfg ctx info (some usage) (· + ·)).isClaudeUsageSemantic ||
          isLegacyClaudeDerivedOpenAIUsage info usage) =
        if requestChargeRatio info ≠ 0 ∧ splitCharge cfg ctx info split ≤ 0 then 1
        else splitCharge cfg ctx info split := by
    have isCharge : (info.priceData.applyOtherRatiosToDecimal (weightedTokens info split *
          (unpricedSummary cfg ctx info (some usage) (· + ·)).ratio) +
        (unpricedSummary cfg ctx info (some usage) (· + ·)).toolCallSurchargeQuota) *
          (unpricedSummary cfg ctx info (some usage) (· + ·)).channelRatio =
        splitCharge cfg ctx info split := by
      rw [PriceData.applyOtherRatiosToDecimal_eq]
      simp only [splitCharge, tokenRate, toolSurcharge, TextQuotaSummary.ratio, unpricedSummary]
      ring
    simp only [TextQuotaSummary.quotaDecimal, perToken, Bool.false_eq_true, if_false, tokens,
      isCharge, true_and]
    rfl
  have billable : (unpricedSummary cfg ctx info (some usage) (· + ·)).hasBillableUsage =
      decide (0 < counted ∨ toolSurcharge cfg ctx info ≠ 0) := by
    have total : (unpricedSummary cfg ctx info (some usage) (· + ·)).totalTokens = counted := by
      change usage.promptTokens + usage.completionTokens = counted
      cases report with
      | openAI report =>
        rw [report.prompt, report.completion]
        simp [TokenSplit.total]
      | claude report =>
        rw [report.prompt, report.completion]
        simp
    rw [TextQuotaSummary.hasBillableUsage, total]
    simp only [gt_iff_lt, Int.natCast_pos, Bool.decide_or]
    rfl
  simp only [calculateTextQuotaSummary, Option.getD_some, TextQuotaSummary.finalQuota, decimal,
    billable, chargedQuota]
  by_cases counts : 0 < counted ∨ toolSurcharge cfg ctx info ≠ 0
  · simp only [counts, decide_true, Bool.not_true, Bool.false_eq_true, if_false, if_true]
    rfl
  · simp only [counts, decide_false, Bool.not_false, if_true, if_false]

end Charge

/-! ## Quotas of charges -/

section Quotas

variable {chargeRatio charge larger : ℚ}

theorem chargedQuota_free : chargedQuota 0 charge = quotaFromDecimal charge := by
  simp [chargedQuota]

theorem chargedQuota_notFree (charge : ℚ) (notFree : chargeRatio ≠ 0) :
    ∃ amount, 0 < amount ∧ (charge < 3 / 2 → amount < 3 / 2) ∧
      chargedQuota chargeRatio charge =
        if quotaFromDecimal amount = 0 then 1 else quotaFromDecimal amount := by
  by_cases nonpos : charge ≤ 0
  · refine ⟨1, by norm_num, fun _ => by norm_num, ?_⟩
    simp only [chargedQuota, ne_eq, notFree, not_false_eq_true, nonpos, and_self, if_true, true_and]
  · refine ⟨charge, not_le.mp nonpos, fun small => small, ?_⟩
    simp only [chargedQuota, ne_eq, notFree, not_false_eq_true, nonpos, and_false, if_false,
      true_and]

theorem chargedQuota_le_maxQuota : chargedQuota chargeRatio charge ≤ maxQuota := by
  by_cases free : chargeRatio = 0
  · rw [free, chargedQuota_free]
    exact quotaFromDecimal_le_maxQuota _
  · rcases chargedQuota_notFree charge free with ⟨_, -, -, isQuota⟩
    rw [isQuota]
    split
    · decide
    · exact quotaFromDecimal_le_maxQuota _

theorem one_le_chargedQuota (notFree : chargeRatio ≠ 0) : 1 ≤ chargedQuota chargeRatio charge := by
  rcases chargedQuota_notFree charge notFree with ⟨amount, _, -, isQuota⟩
  have nonneg : ¬quotaFromDecimal amount < 0 := by
    rw [quotaFromDecimal_neg_iff]
    linarith
  rw [isQuota]
  split <;> omega

theorem chargedQuota_le_one (notFree : chargeRatio ≠ 0) (small : charge < 3 / 2) :
    chargedQuota chargeRatio charge ≤ 1 := by
  rcases chargedQuota_notFree charge notFree with ⟨_, -, isSmall, isQuota⟩
  rw [isQuota]
  split
  · exact le_refl 1
  · exact quotaFromDecimal_le_one (isSmall small)

theorem two_le_chargedQuota (large : 3 / 2 ≤ charge) : 2 ≤ chargedQuota chargeRatio charge := by
  have two : 2 ≤ quotaFromDecimal charge := by
    refine le_trans ?_ (quotaFromDecimal_mono large)
    decide +kernel
  have pos : ¬(chargeRatio ≠ 0 ∧ charge ≤ 0) := by
    rintro ⟨_, _⟩
    linarith
  have notZero : ¬(chargeRatio ≠ 0 ∧ quotaFromDecimal charge = 0) := by
    rintro ⟨_, _⟩
    omega
  simp only [chargedQuota, if_neg pos, if_neg notZero]
  exact two

theorem chargedQuota_mono (le : charge ≤ larger) :
    chargedQuota chargeRatio charge ≤ chargedQuota chargeRatio larger := by
  by_cases free : chargeRatio = 0
  · rw [free, chargedQuota_free, chargedQuota_free]
    exact quotaFromDecimal_mono le
  · by_cases small : charge < 3 / 2
    · exact (chargedQuota_le_one free small).trans (one_le_chargedQuota free)
    · have large : 3 / 2 ≤ charge := not_lt.mp small
      have quota : ∀ amount, 3 / 2 ≤ amount →
          chargedQuota chargeRatio amount = quotaFromDecimal amount := by
        intro amount isLarge
        have two : 2 ≤ chargedQuota 0 amount := two_le_chargedQuota isLarge
        rw [chargedQuota_free] at two
        have pos : ¬(chargeRatio ≠ 0 ∧ amount ≤ 0) := by
          rintro ⟨_, _⟩
          linarith
        have notZero : ¬(chargeRatio ≠ 0 ∧ quotaFromDecimal amount = 0) := by
          rintro ⟨_, _⟩
          omega
        simp only [chargedQuota, if_neg pos, if_neg notZero]
      rw [quota charge large, quota larger (large.trans le)]
      exact quotaFromDecimal_mono le

end Quotas

/-! ## Growing splits -/

section Growing

variable (cfg : Settings) (ctx : RequestContext) (info : RelayInfo)

/-- The rates of all counts are not negative. -/
structure RatesNonneg : Prop where
  text : 0 ≤ tokenRate info
  cacheRead : 0 ≤ tokenRate info * info.priceData.cacheRatio
  cacheWrite : 0 ≤ tokenRate info * info.priceData.cacheCreationRatio
  completion : 0 ≤ tokenRate info * info.priceData.completionRatio

variable {cfg ctx info} {split grown : TokenSplit}

theorem splitCharge_eq (split : TokenSplit) :
    splitCharge cfg ctx info split = split.text * tokenRate info +
        split.cacheRead * (tokenRate info * info.priceData.cacheRatio) +
        split.cacheWrite * (tokenRate info * info.priceData.cacheCreationRatio) +
        split.completion * (tokenRate info * info.priceData.completionRatio) +
        toolSurcharge cfg ctx info * info.priceData.getChannelRatio := by
  simp only [splitCharge, weightedTokens]
  ring

theorem splitCharge_mono (rates : RatesNonneg info) (le : split.Le grown) :
    splitCharge cfg ctx info split ≤ splitCharge cfg ctx info grown := by
  have part : ∀ {few many : ℕ} {rate : ℚ}, 0 ≤ rate → few ≤ many →
      (few : ℚ) * rate ≤ many * rate := by
    intro _ _ _ nonneg fewer
    apply mul_le_mul_of_nonneg_right _ nonneg
    exact_mod_cast fewer
  rw [splitCharge_eq, splitCharge_eq]
  have text := part rates.text le.text
  have cacheRead := part rates.cacheRead le.cacheRead
  have cacheWrite := part rates.cacheWrite le.cacheWrite
  have completion := part rates.completion le.completion
  linarith

theorem exists_charge_lt {rate : ℚ} (negative : rate < 0) (charge bound : ℚ) :
    ∃ more : ℕ, charge + more * rate < bound := by
  rcases exists_nat_gt ((charge - bound) / -rate) with ⟨more, enough⟩
  refine ⟨more, ?_⟩
  rw [div_lt_iff₀ (by linarith)] at enough
  linarith

variable (cfg ctx) in
theorem exists_grown_lt (lowered : ¬RatesNonneg info) (split : TokenSplit) (bound : ℚ) :
    ∃ grown, split.Le grown ∧ splitCharge cfg ctx info grown < bound := by
  have same : split.Le split := ⟨le_refl _, le_refl _, le_refl _, le_refl _⟩
  by_cases text : 0 ≤ tokenRate info
  · by_cases cacheRead : 0 ≤ tokenRate info * info.priceData.cacheRatio
    · by_cases cacheWrite : 0 ≤ tokenRate info * info.priceData.cacheCreationRatio
      · have completion : ¬0 ≤ tokenRate info * info.priceData.completionRatio :=
          fun completion => lowered ⟨text, cacheRead, cacheWrite, completion⟩
        rcases exists_charge_lt (not_le.mp completion)
          (splitCharge cfg ctx info split) bound with ⟨more, less⟩
        refine ⟨{ split with completion := split.completion + more },
          { same with completion := Nat.le_add_right _ _ }, ?_⟩
        rw [splitCharge_eq] at less ⊢
        push_cast
        linarith
      · rcases exists_charge_lt (not_le.mp cacheWrite)
          (splitCharge cfg ctx info split) bound with ⟨more, less⟩
        refine ⟨{ split with cacheWrite := split.cacheWrite + more },
          { same with cacheWrite := Nat.le_add_right _ _ }, ?_⟩
        rw [splitCharge_eq] at less ⊢
        push_cast
        linarith
    · rcases exists_charge_lt (not_le.mp cacheRead)
        (splitCharge cfg ctx info split) bound with ⟨more, less⟩
      refine ⟨{ split with cacheRead := split.cacheRead + more },
        { same with cacheRead := Nat.le_add_right _ _ }, ?_⟩
      rw [splitCharge_eq] at less ⊢
      push_cast
      linarith
  · rcases exists_charge_lt (not_le.mp text)
      (splitCharge cfg ctx info split) bound with ⟨more, less⟩
    refine ⟨{ split with text := split.text + more },
      { same with text := Nat.le_add_right _ _ }, ?_⟩
    rw [splitCharge_eq] at less ⊢
    push_cast
    linarith

variable (free : requestChargeRatio info = 0)

include free

theorem tokenRate_of_free : tokenRate info = 0 := by
  calc tokenRate info
      = requestChargeRatio info * info.priceData.otherRatioMultiplier := by
        simp only [tokenRate, requestChargeRatio]
        ring
    _ = 0 := by rw [free, zero_mul]

theorem ratesNonneg_of_free : RatesNonneg info := by
  constructor <;> simp [tokenRate_of_free free]

theorem splitCharge_of_free :
    splitCharge cfg ctx info split =
      toolSurcharge cfg ctx info * info.priceData.getChannelRatio := by
  simp only [splitCharge, tokenRate_of_free free, mul_zero, zero_add]

end Growing

/-! ## What is charged for a split -/

section Styles

variable (cfg : Settings) (ctx : RequestContext) (info : RelayInfo) (split : TokenSplit)

/-- The quota for a usage whose counts have an exact total. -/
def reportedQuota (usage : Usage) : ℤ :=
  (calculateTextQuotaSummary cfg ctx info (some usage) (· + ·)).quota

/-- What is charged for the split is the same in both styles, is a quota, does not decrease when
the split grows, and is positive for a request that is not free. -/
structure ChargesUse : Prop where
  same : ∀ usage claude, OpenAIReport info split usage → ClaudeReport split claude →
    reportedQuota cfg ctx info usage = reportedQuota cfg ctx info claude
  inRange : ∀ usage, OpenAIReport info split usage ∨ ClaudeReport split usage →
    0 ≤ reportedQuota cfg ctx info usage ∧
      reportedQuota cfg ctx info usage ≤ maxQuota
  monotoneOpenAI : ∀ grown, split.Le grown → ∀ usage more, OpenAIReport info split usage →
    OpenAIReport info grown more →
      reportedQuota cfg ctx info usage ≤ reportedQuota cfg ctx info more
  monotoneClaude : ∀ grown, split.Le grown → ∀ usage more, ClaudeReport split usage →
    ClaudeReport grown more →
      reportedQuota cfg ctx info usage ≤ reportedQuota cfg ctx info more
  positive : 0 < split.total → requestChargeRatio info ≠ 0 →
    ∀ usage, OpenAIReport info split usage ∨ ClaudeReport split usage →
      1 ≤ reportedQuota cfg ctx info usage

/-- A split of cached tokens alone is free or comes with a tool's surcharge, the surcharge of a
free request is no credit, and a charge that a further token could lower is below two. -/
structure UseCounts : Prop where
  counted : split.text + split.completion = 0 → toolSurcharge cfg ctx info = 0 →
    requestChargeRatio info ≠ 0 → split.total = 0
  surcharge : requestChargeRatio info = 0 →
    -(1 / 2) < toolSurcharge cfg ctx info * info.priceData.getChannelRatio
  rates : 3 / 2 ≤ splitCharge cfg ctx info split → RatesNonneg info

variable {cfg ctx info split} {usage : Usage} {counted : ℕ}

/-- The quota of a report whose style counts `counted` tokens. -/
def countedQuota (cfg : Settings) (ctx : RequestContext) (info : RelayInfo)
    (split : TokenSplit) (counted : ℕ) : ℤ :=
  if 0 < counted ∨ toolSurcharge cfg ctx info ≠ 0 then
    chargedQuota (requestChargeRatio info) (splitCharge cfg ctx info split)
  else 0

theorem countedQuota_le_maxQuota : countedQuota cfg ctx info split counted ≤ maxQuota := by
  simp only [countedQuota]
  split
  · exact chargedQuota_le_maxQuota
  · decide

theorem countedQuota_free (free : requestChargeRatio info = 0) :
    countedQuota cfg ctx info split counted = quotaFromDecimal
        (toolSurcharge cfg ctx info * info.priceData.getChannelRatio) := by
  have none : quotaFromDecimal 0 = 0 := by decide +kernel
  by_cases surcharge : toolSurcharge cfg ctx info = 0
  · simp only [countedQuota, free, splitCharge_of_free free, chargedQuota_free, surcharge,
      zero_mul, none, ite_self]
  · simp only [countedQuota, free, splitCharge_of_free free, chargedQuota_free, surcharge, ne_eq,
      not_false_eq_true, or_true, if_true]

variable (counts : UseCounts cfg ctx info split)

include counts

theorem countedQuota_nonneg : 0 ≤ countedQuota cfg ctx info split counted := by
  by_cases free : requestChargeRatio info = 0
  · have small := counts.surcharge free
    rw [countedQuota_free free]
    by_contra neg
    rw [not_le, quotaFromDecimal_neg_iff] at neg
    linarith
  · simp only [countedQuota]
    split
    · have one : 1 ≤ chargedQuota (requestChargeRatio info)
          (splitCharge cfg ctx info split) := one_le_chargedQuota free
      omega
    · exact le_refl 0

theorem countedQuota_mono {grown : TokenSplit} {more : ℕ} (le : split.Le grown)
    (isMore : counted ≤ more) :
    countedQuota cfg ctx info split counted ≤ countedQuota cfg ctx info grown more := by
  by_cases free : requestChargeRatio info = 0
  · rw [countedQuota_free free, countedQuota_free free]
  · by_cases opened : 0 < counted ∨ toolSurcharge cfg ctx info ≠ 0
    · have still : 0 < more ∨ toolSurcharge cfg ctx info ≠ 0 :=
        opened.imp_left fun _ => by omega
      simp only [countedQuota, if_pos opened, if_pos still]
      by_cases small : splitCharge cfg ctx info split < 3 / 2
      · exact (chargedQuota_le_one free small).trans (one_le_chargedQuota free)
      · exact chargedQuota_mono (splitCharge_mono (counts.rates (not_lt.mp small)) le)
    · simp only [countedQuota, if_neg opened]
      split
      · have one : 1 ≤ chargedQuota (requestChargeRatio info)
            (splitCharge cfg ctx info grown) := one_le_chargedQuota free
        omega
      · exact le_refl 0

theorem countedQuota_same :
    countedQuota cfg ctx info split split.total =
      countedQuota cfg ctx info split (split.text + split.completion) := by
  by_cases free : requestChargeRatio info = 0
  · rw [countedQuota_free free, countedQuota_free free]
  · by_cases surcharge : toolSurcharge cfg ctx info = 0
    · by_cases cachedAlone : split.text + split.completion = 0
      · rw [counts.counted cachedAlone surcharge free, cachedAlone]
      · have all : 0 < split.total := by
          simp only [TokenSplit.total]
          omega
        have some : 0 < split.text + split.completion := by omega
        simp only [countedQuota, all, some, true_or, if_true]
    · simp only [countedQuota, surcharge, ne_eq, not_false_eq_true, or_true, if_true]

omit counts

theorem one_le_countedQuota (notFree : requestChargeRatio info ≠ 0) (used : 0 < split.total) :
    1 ≤ countedQuota cfg ctx info split split.total := by
  simp only [countedQuota, used, true_or, if_true]
  exact one_le_chargedQuota notFree

variable (cfg ctx info split) in
/-- The text charge depends on what was used exactly when it counts. -/
theorem chargesUse_iff (perToken : info.priceData.usePrice = false)
    (notOpenRouter : info.channelType ≠ channelTypeOpenRouter)
    (sameRatio : info.priceData.cacheCreation5mRatio = info.priceData.cacheCreationRatio) :
    ChargesUse cfg ctx info split ↔ UseCounts cfg ctx info split := by
  have openAI : ∀ {split : TokenSplit} {usage : Usage}, OpenAIReport info split usage →
      reportedQuota cfg ctx info usage = countedQuota cfg ctx info split split.total :=
    fun report => quota_of_report perToken notOpenRouter sameRatio (.openAI report)
  have claude : ∀ {split : TokenSplit} {usage : Usage}, ClaudeReport split usage →
      reportedQuota cfg ctx info usage =
        countedQuota cfg ctx info split (split.text + split.completion) :=
    fun report => quota_of_report perToken notOpenRouter sameRatio (.claude report)
  have isOpenAI := openAIReport_isReport info
  have isClaude := claudeReport_isReport
  constructor
  · intro charges
    refine ⟨?_, ?_, ?_⟩
    · intro cachedAlone surcharge notFree
      by_contra used
      have pos := charges.positive (Nat.pos_of_ne_zero used) notFree _ (.inr (isClaude split))
      rw [claude (isClaude split), cachedAlone, countedQuota] at pos
      simp [surcharge] at pos
    · intro free
      have nonneg := (charges.inRange _ (.inl (isOpenAI split))).1
      rw [openAI (isOpenAI split), countedQuota_free free] at nonneg
      by_contra credit
      have negative : quotaFromDecimal
          (toolSurcharge cfg ctx info * info.priceData.getChannelRatio) < 0 :=
        quotaFromDecimal_neg_iff.mpr (not_lt.mp credit)
      omega
    · intro large
      by_contra lowered
      have notFree : requestChargeRatio info ≠ 0 :=
        fun free => lowered (ratesNonneg_of_free free)
      rcases exists_grown_lt cfg ctx lowered split (3 / 2) with
        ⟨grown, le, small⟩
      have mono := charges.monotoneOpenAI grown le _ _ (isOpenAI split) (isOpenAI grown)
      rw [openAI (isOpenAI split), openAI (isOpenAI grown)] at mono
      have atLeastTwo : 2 ≤ countedQuota cfg ctx info split split.total := by
        have opened : 0 < split.total ∨ toolSurcharge cfg ctx info ≠ 0 := by
          by_contra nothing
          push Not at nothing
          rcases nothing with ⟨none, noSurcharge⟩
          rw [split.eq_of_total_eq_zero (Nat.le_zero.mp none), splitCharge_eq, noSurcharge] at large
          norm_num at large
        rw [countedQuota, if_pos opened]
        exact two_le_chargedQuota large
      have atMostOne : countedQuota cfg ctx info grown grown.total ≤ 1 := by
        simp only [countedQuota]
        split
        · exact chargedQuota_le_one notFree small
        · omega
      omega
  · intro counts
    have countedOpenAI : ∀ {grown : TokenSplit}, split.Le grown → split.total ≤ grown.total := by
      intro _ le
      rcases le with ⟨_, _, _, _⟩
      simp only [TokenSplit.total]
      omega
    refine ⟨?_, ?_, ?_, ?_, ?_⟩
    · intro _ _ isReport isReport'
      rw [openAI isReport, claude isReport']
      exact countedQuota_same counts
    · rintro usage (report | report)
      · rw [openAI report]
        exact ⟨countedQuota_nonneg counts, countedQuota_le_maxQuota⟩
      · rw [claude report]
        exact ⟨countedQuota_nonneg counts, countedQuota_le_maxQuota⟩
    · intro _ le _ _ report reportMore
      rw [openAI report, openAI reportMore]
      exact countedQuota_mono counts le (countedOpenAI le)
    · intro _ le _ _ report reportMore
      rw [claude report, claude reportMore]
      exact countedQuota_mono counts le (Nat.add_le_add le.text le.completion)
    · rintro used notFree _ (report | report)
      · rw [openAI report]
        exact one_le_countedQuota notFree used
      · rw [claude report, ← countedQuota_same counts]
        exact one_le_countedQuota notFree used

end Styles

/-- Text with cached tokens is charged in either style. -/
theorem chargesUse_sample :
    ChargesUse sampleSettings ⟨"token", 0, false, 1⟩ (sampleRelayInfo 1) ⟨10, 4, 0, 2⟩ := by
  apply (chargesUse_iff sampleSettings ⟨"token", 0, false, 1⟩ (sampleRelayInfo 1) ⟨10, 4, 0, 2⟩
    rfl (by decide) rfl).mpr
  refine ⟨?_, ?_, fun _ => ⟨?_, ?_, ?_, ?_⟩⟩
  · intro none
    exact absurd none (by decide)
  all_goals decide +kernel

/-- Ten tokens read from the cache are charged when reported inside the prompt, and not when
reported beside it. -/
theorem cachedAlone_uncharged :
    ¬∀ (cfg : Settings) (ctx : RequestContext) (info : RelayInfo) (split : TokenSplit),
      info.priceData.usePrice = false → info.channelType ≠ channelTypeOpenRouter →
      info.priceData.cacheCreation5mRatio = info.priceData.cacheCreationRatio →
        ChargesUse cfg ctx info split := by
  intro always
  have charges := always sampleSettings ⟨"token", 0, false, 1⟩ (sampleRelayInfo 1) ⟨0, 10, 0, 0⟩
    rfl (by decide) rfl
  have same := charges.same _ _ (openAIReport_isReport _ _) (claudeReport_isReport _)
  exact absurd same (by decide +kernel)

end NewApi.Service
