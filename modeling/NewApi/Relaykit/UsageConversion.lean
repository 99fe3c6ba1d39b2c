import NewApi.Dto.Usage

/-!
# Conversions between the usages of the protocols

An OpenAI prompt includes the tokens that were read from a cache or written to it, and the input
of a Claude usage excludes them.
-/

namespace NewApi.Relaykit

open NewApi.Dto

/-- `Usage`, with the fields that the conversions read besides those that are billed. -/
structure ConvertedUsage extends UpstreamUsage where
  promptCacheHitTokens : ℤ := 0
  inputTokensDetails : Option InputTokenDetails := none

/-- `ClaudeUsage`, with its side record. -/
structure ConvertedClaudeUsage extends ClaudeUsage where
  billingUsage : Option BillingUsage := none

/-! ## Side records -/

def hasClaudeUsageTokens (usage : ClaudeUsage) : Bool :=
  usage.inputTokens ≠ 0 || usage.outputTokens ≠ 0 || usage.cacheCreationInputTokens ≠ 0 ||
    usage.cacheReadInputTokens ≠ 0 || usage.claudeCacheCreation5mTokens ≠ 0 ||
    usage.claudeCacheCreation1hTokens ≠ 0 ||
    usage.cacheCreation.any fun split =>
      split.ephemeral5mInputTokens ≠ 0 || split.ephemeral1hInputTokens ≠ 0

def newClaudeMessagesBillingUsage (usage : ClaudeUsage) : Option BillingUsage :=
  if hasClaudeUsageTokens usage then
    some { source := "claude_messages", semantic := "anthropic", claudeUsage := some usage }
  else none

def InputTokenDetails.any (details : InputTokenDetails) : Bool :=
  details.cachedTokens ≠ 0 || details.imageTokens ≠ 0 || details.audioTokens ≠ 0 ||
    details.cachedCreationTokens ≠ 0 || details.cacheWriteTokens ≠ 0 || details.textTokens ≠ 0

def OutputTokenDetails.any (details : OutputTokenDetails) : Bool :=
  details.reasoningTokens ≠ 0 || details.textTokens ≠ 0 || details.audioTokens ≠ 0 ||
    details.imageTokens ≠ 0

def hasOpenAIUsageTokens (usage : ConvertedUsage) : Bool :=
  usage.promptTokens ≠ 0 || usage.completionTokens ≠ 0 || usage.totalTokens ≠ 0 ||
    usage.inputTokens ≠ 0 || usage.outputTokens ≠ 0 || usage.promptCacheHitTokens ≠ 0 ||
    usage.claudeCacheCreation5mTokens ≠ 0 || usage.claudeCacheCreation1hTokens ≠ 0 ||
    InputTokenDetails.any usage.promptTokensDetails ||
    OutputTokenDetails.any usage.completionTokenDetails || usage.inputTokensDetails.isSome

def newOpenAIBillingUsage (src : String) (usage : ConvertedUsage) : Option BillingUsage :=
  if hasOpenAIUsageTokens usage then
    some { source := src, semantic := "openai", openAIUsage := some usage.toUsage }
  else none

/-! ## Chat and Responses -/

def usageFromChatUsage (usage : ConvertedUsage) : ConvertedUsage where
  usageSemantic := usage.usageSemantic
  usageSource := usage.usageSource
  billingUsage := usage.billingUsage.or (newOpenAIBillingUsage "oai_chat" usage)
  cost := usage.cost
  promptTokens := usage.promptTokens
  inputTokens := usage.promptTokens
  completionTokens := usage.completionTokens
  outputTokens := usage.completionTokens
  totalTokens :=
    if usage.totalTokens ≠ 0 then usage.totalTokens
    else usage.promptTokens + usage.completionTokens
  inputTokensDetails :=
    if InputTokenDetails.any usage.promptTokensDetails then some usage.promptTokensDetails
    else none
  completionTokenDetails :=
    if OutputTokenDetails.any usage.completionTokenDetails then usage.completionTokenDetails
    else {}
  claudeCacheCreation5mTokens := usage.claudeCacheCreation5mTokens
  claudeCacheCreation1hTokens := usage.claudeCacheCreation1hTokens

def usageFromResponsesUsage (usage : ConvertedUsage) : ConvertedUsage where
  usageSemantic := usage.usageSemantic
  usageSource := usage.usageSource
  billingUsage := usage.billingUsage.or (newOpenAIBillingUsage "oai_responses" usage)
  cost := usage.cost
  promptTokens := usage.inputTokens
  inputTokens := usage.inputTokens
  completionTokens := usage.outputTokens
  outputTokens := usage.outputTokens
  totalTokens :=
    if usage.totalTokens ≠ 0 then usage.totalTokens else usage.inputTokens + usage.outputTokens
  promptTokensDetails := usage.inputTokensDetails.getD {}
  completionTokenDetails :=
    if OutputTokenDetails.any usage.completionTokenDetails then usage.completionTokenDetails
    else {}
  claudeCacheCreation5mTokens := usage.claudeCacheCreation5mTokens
  claudeCacheCreation1hTokens := usage.claudeCacheCreation1hTokens

/-! ## Chat and Claude messages -/

/-- `GetCacheCreation5mTokens`. -/
def cacheCreation5mTokens (usage : ClaudeUsage) : ℤ :=
  (usage.cacheCreation.map (·.ephemeral5mInputTokens)).getD 0

/-- `GetCacheCreation1hTokens`. -/
def cacheCreation1hTokens (usage : ClaudeUsage) : ℤ :=
  (usage.cacheCreation.map (·.ephemeral1hInputTokens)).getD 0

def normalizeCacheCreationSplit (totalTokens tokens5m tokens1h : ℤ) : ℤ × ℤ :=
  (tokens5m + max (totalTokens - tokens5m - tokens1h) 0, tokens1h)

def cacheCreationTokensForOpenAIUsage (usage : Usage) : ℤ :=
  let splitCacheCreationTokens :=
    usage.claudeCacheCreation5mTokens + usage.claudeCacheCreation1hTokens
  if splitCacheCreationTokens = 0 then usage.promptTokensDetails.cachedCreationTokens
  else if usage.promptTokensDetails.cachedCreationTokens > splitCacheCreationTokens then
    usage.promptTokensDetails.cachedCreationTokens
  else splitCacheCreationTokens

def buildOpenAIStyleUsageFromClaudeUsage (usage : ConvertedUsage) : ConvertedUsage :=
  let split := normalizeCacheCreationSplit usage.promptTokensDetails.cachedCreationTokens
    usage.claudeCacheCreation5mTokens usage.claudeCacheCreation1hTokens
  let cacheCreationTokens := cacheCreationTokensForOpenAIUsage usage.toUsage
  let totalInputTokens :=
    usage.promptTokens + usage.promptTokensDetails.cachedTokens + cacheCreationTokens
  { usage with
    claudeCacheCreation5mTokens := split.1
    claudeCacheCreation1hTokens := split.2
    promptTokensDetails :=
      { usage.promptTokensDetails with cacheWriteTokens := cacheCreationTokens }
    promptTokens := totalInputTokens
    inputTokens := totalInputTokens
    totalTokens := totalInputTokens + usage.completionTokens
    usageSemantic := "openai"
    usageSource := "anthropic" }

/-- The usage that `UsageFromClaudeAPIUsage` builds first, in the semantics of Claude. -/
def semanticUsage (usage : ConvertedClaudeUsage) : ConvertedUsage where
  promptTokens := usage.inputTokens
  completionTokens := usage.outputTokens
  usageSemantic := "anthropic"
  usageSource := "anthropic"
  billingUsage := usage.billingUsage.or (newClaudeMessagesBillingUsage usage.toClaudeUsage)
  promptTokensDetails :=
    { cachedTokens := usage.cacheReadInputTokens
      cachedCreationTokens := usage.cacheCreationInputTokens }
  claudeCacheCreation5mTokens := cacheCreation5mTokens usage.toClaudeUsage
  claudeCacheCreation1hTokens := cacheCreation1hTokens usage.toClaudeUsage

def usageFromClaudeAPIUsage (usage : ConvertedClaudeUsage) : ConvertedUsage :=
  buildOpenAIStyleUsageFromClaudeUsage (semanticUsage usage)

/-- The figures of Claude that a side record carries. -/
def recordedClaudeUsage (billingUsage : Option BillingUsage) : Option ClaudeUsage :=
  (billingUsage.filter fun record =>
    record.source = "claude_messages" || record.semantic = "anthropic").bind (·.claudeUsage)

/-- The side record of OpenAI that a Claude usage takes over. -/
def recordedOpenAIUsage (billingUsage : Option BillingUsage) : Option BillingUsage :=
  billingUsage.filter fun record => record.openAIUsage.isSome &&
    (record.source = "oai_chat" || record.source = "oai_responses" || record.semantic = "openai")

def cacheCreationOf (tokens5m tokens1h : ℤ) : Option ClaudeCacheCreationUsage :=
  if 0 < tokens5m ∨ 0 < tokens1h then some ⟨tokens5m, tokens1h⟩ else none

def buildClaudeUsageFromOpenAIUsage (usage : ConvertedUsage) : ConvertedClaudeUsage :=
  match recordedClaudeUsage usage.billingUsage with
  | some recorded => { recorded with }
  | none =>
    let details := usage.promptTokensDetails
    let split := normalizeCacheCreationSplit details.cachedCreationTokens
      usage.claudeCacheCreation5mTokens usage.claudeCacheCreation1hTokens
    let cacheCreationTokens := details.cacheCreationTokensTotal
    { inputTokens :=
        if 0 < details.cacheWriteTokens then
          max (usage.promptTokens - details.cachedTokens - cacheCreationTokens) 0
        else usage.promptTokens
      outputTokens := usage.completionTokens
      cacheCreationInputTokens := cacheCreationTokens
      cacheReadInputTokens := details.cachedTokens
      cacheCreation := cacheCreationOf split.1 split.2
      billingUsage := (recordedOpenAIUsage usage.billingUsage).or
        (newOpenAIBillingUsage "oai_chat" usage) }

/-! ## Preserved counts -/

/-- The token counts of an OpenAI usage, with their details. -/
def openAICounts (usage : ConvertedUsage) :
    (ℤ × ℤ × ℤ × ℤ × ℤ × ℤ) × InputTokenDetails × OutputTokenDetails :=
  ((usage.promptTokens, usage.completionTokens, usage.totalTokens, usage.promptCacheHitTokens,
    usage.claudeCacheCreation5mTokens, usage.claudeCacheCreation1hTokens),
    usage.promptTokensDetails, usage.completionTokenDetails)

/-- The token counts of a Claude usage. -/
def claudeCounts (usage : ClaudeUsage) : ℤ × ℤ × ℤ × ℤ × ℤ × ℤ :=
  (usage.inputTokens, usage.cacheReadInputTokens, usage.cacheCreationInputTokens,
    cacheCreation5mTokens usage, cacheCreation1hTokens usage, usage.outputTokens)

/-- The counts of a usage are not negative. -/
structure ConvertedUsage.NonNegative (usage : ConvertedUsage) : Prop where
  counts : usage.toUsage.NonNegative
  promptCacheHitTokens : 0 ≤ usage.promptCacheHitTokens

/-- The counts of a Claude usage are not negative. -/
structure NonNegativeClaude (usage : ClaudeUsage) : Prop where
  inputTokens : 0 ≤ usage.inputTokens
  outputTokens : 0 ≤ usage.outputTokens
  cacheReadInputTokens : 0 ≤ usage.cacheReadInputTokens
  cacheCreationInputTokens : 0 ≤ usage.cacheCreationInputTokens
  cacheCreation5m : 0 ≤ cacheCreation5mTokens usage
  cacheCreation1h : 0 ≤ cacheCreation1hTokens usage

/-- The three conversions preserve the token totals of a chat usage, a Claude usage and an
OpenAI usage. -/
structure UsagePreserved (chat : ConvertedUsage) (claude : ClaudeUsage)
    (openAI : ConvertedUsage) : Prop where
  responses : openAICounts (usageFromResponsesUsage (usageFromChatUsage chat)) = openAICounts chat
  recorded : claudeCounts (buildClaudeUsageFromOpenAIUsage
    (usageFromClaudeAPIUsage { claude with })).toClaudeUsage = claudeCounts claude
  unrecorded : claudeCounts (buildClaudeUsageFromOpenAIUsage
    { usageFromClaudeAPIUsage { claude with } with billingUsage := none }).toClaudeUsage =
      claudeCounts claude
  total : (buildClaudeUsageFromOpenAIUsage openAI).inputTokens +
      (buildClaudeUsageFromOpenAIUsage openAI).cacheReadInputTokens +
      (buildClaudeUsageFromOpenAIUsage openAI).cacheCreationInputTokens = openAI.promptTokens

theorem InputTokenDetails.eq_of_not_any {details : InputTokenDetails}
    (none : InputTokenDetails.any details = false) : details = {} := by
  simp only [InputTokenDetails.any, Bool.or_eq_false_iff, decide_eq_false_iff_not, not_not,
    ne_eq] at none
  cases details
  simp_all

theorem OutputTokenDetails.eq_of_not_any {details : OutputTokenDetails}
    (none : OutputTokenDetails.any details = false) : details = {} := by
  simp only [OutputTokenDetails.any, Bool.or_eq_false_iff, decide_eq_false_iff_not, not_not,
    ne_eq] at none
  cases details
  simp_all

theorem responses_iff (usage : ConvertedUsage) :
    openAICounts (usageFromResponsesUsage (usageFromChatUsage usage)) = openAICounts usage ↔
      (usage.totalTokens = 0 → usage.promptTokens + usage.completionTokens = 0) ∧
        usage.promptCacheHitTokens = 0 := by
  have inputDetails : (usageFromChatUsage usage).inputTokensDetails.getD {} =
      usage.promptTokensDetails := by
    simp only [usageFromChatUsage]
    split
    · rfl
    next none => exact (InputTokenDetails.eq_of_not_any (by simpa using none)).symm
  have outputDetails : (usageFromResponsesUsage (usageFromChatUsage usage)).completionTokenDetails =
      usage.completionTokenDetails := by
    have chat : (usageFromChatUsage usage).completionTokenDetails =
        usage.completionTokenDetails := by
      simp only [usageFromChatUsage]
      split
      · rfl
      next none => exact (OutputTokenDetails.eq_of_not_any (by simpa using none)).symm
    simp only [usageFromResponsesUsage, chat]
    split
    · rfl
    next none => exact (OutputTokenDetails.eq_of_not_any (by simpa using none)).symm
  have total : (usageFromResponsesUsage (usageFromChatUsage usage)).totalTokens =
      if usage.totalTokens ≠ 0 then usage.totalTokens
      else usage.promptTokens + usage.completionTokens := by
    simp only [usageFromResponsesUsage, usageFromChatUsage]
    split <;> simp_all
  simp only [openAICounts, outputDetails, total, Prod.mk.injEq, and_true]
  simp only [usageFromResponsesUsage, inputDetails, and_true]
  simp only [usageFromChatUsage, true_and]
  by_cases isZero : usage.totalTokens = 0
  · simp only [isZero, ne_eq, not_true, if_false, forall_const, and_true]
    constructor
    · exact fun same => ⟨same.1, same.2.symm⟩
    · exact fun same => ⟨same.1, same.2.symm⟩
  · simp only [isZero, ne_eq, not_false_eq_true, if_true, false_imp_iff, true_and, and_true]
    exact eq_comm

section Claude

variable {usage : ClaudeUsage}

theorem claudeCounts_of_no_tokens (none : hasClaudeUsageTokens usage = false) :
    claudeCounts usage = (0, 0, 0, 0, 0, 0) := by
  simp only [hasClaudeUsageTokens, Bool.or_eq_false_iff, decide_eq_false_iff_not, not_not,
    ne_eq, Option.any_eq_false_iff_get] at none
  cases isSplit : usage.cacheCreation <;> simp_all [claudeCounts, cacheCreation5mTokens,
    cacheCreation1hTokens]

theorem cacheCreationTokensForOpenAIUsage_eq {usage : Usage}
    (created : 0 ≤ usage.promptTokensDetails.cachedCreationTokens) :
    cacheCreationTokensForOpenAIUsage usage = max usage.promptTokensDetails.cachedCreationTokens
        (usage.claudeCacheCreation5mTokens + usage.claudeCacheCreation1hTokens) := by
  simp only [cacheCreationTokensForOpenAIUsage]
  split
  · omega
  · split
    · omega
    · omega

theorem cacheCreationOf_counts {tokens5m tokens1h : ℤ} (short : 0 ≤ tokens5m)
    (long : 0 ≤ tokens1h) :
    ((cacheCreationOf tokens5m tokens1h).map (·.ephemeral5mInputTokens)).getD 0 = tokens5m ∧
      ((cacheCreationOf tokens5m tokens1h).map (·.ephemeral1hInputTokens)).getD 0 = tokens1h := by
  simp only [cacheCreationOf]
  split
  · exact ⟨rfl, rfl⟩
  · simp only [Option.map_none, Option.getD_none]
    omega

theorem claudeCounts_build {usage : ConvertedUsage}
    (unrecorded : recordedClaudeUsage usage.billingUsage = none)
    (short : 0 ≤ usage.claudeCacheCreation5mTokens) (long : 0 ≤ usage.claudeCacheCreation1hTokens) :
    claudeCounts (buildClaudeUsageFromOpenAIUsage usage).toClaudeUsage =
      (if 0 < usage.promptTokensDetails.cacheWriteTokens then
          max (usage.promptTokens - usage.promptTokensDetails.cachedTokens -
            usage.promptTokensDetails.cacheCreationTokensTotal) 0
        else usage.promptTokens,
        usage.promptTokensDetails.cachedTokens,
        usage.promptTokensDetails.cacheCreationTokensTotal,
        usage.claudeCacheCreation5mTokens + max (usage.promptTokensDetails.cachedCreationTokens -
            usage.claudeCacheCreation5mTokens - usage.claudeCacheCreation1hTokens) 0,
        usage.claudeCacheCreation1hTokens, usage.completionTokens) := by
  simp only [buildClaudeUsageFromOpenAIUsage, unrecorded, claudeCounts, Prod.mk.injEq, true_and,
    and_true, cacheCreation5mTokens, cacheCreation1hTokens, normalizeCacheCreationSplit]
  exact cacheCreationOf_counts (by omega) long

theorem unrecorded_iff (nonneg : NonNegativeClaude usage) :
    claudeCounts (buildClaudeUsageFromOpenAIUsage
        { usageFromClaudeAPIUsage { usage with } with billingUsage := none }).toClaudeUsage =
      claudeCounts usage ↔
    cacheCreation5mTokens usage + cacheCreation1hTokens usage = usage.cacheCreationInputTokens ∧
      (usage.cacheCreationInputTokens = 0 → usage.cacheReadInputTokens = 0) := by
  have input := nonneg.inputTokens
  have read := nonneg.cacheReadInputTokens
  have made := nonneg.cacheCreationInputTokens
  have short := nonneg.cacheCreation5m
  have long := nonneg.cacheCreation1h
  have writes : cacheCreationTokensForOpenAIUsage (semanticUsage { usage with }).toUsage = _ :=
    cacheCreationTokensForOpenAIUsage_eq made
  have total : InputTokenDetails.cacheCreationTokensTotal
      (usageFromClaudeAPIUsage { usage with }).promptTokensDetails =
        max usage.cacheCreationInputTokens
          (cacheCreation5mTokens usage + cacheCreation1hTokens usage) := by
    simp only [InputTokenDetails.cacheCreationTokensTotal, usageFromClaudeAPIUsage,
      buildOpenAIStyleUsageFromClaudeUsage, writes]
    simp only [semanticUsage]
    omega
  refine Iff.trans (Eq.congr_left (claudeCounts_build rfl ?_ long)) ?_
  · simp only [usageFromClaudeAPIUsage, buildOpenAIStyleUsageFromClaudeUsage,
      normalizeCacheCreationSplit, semanticUsage]
    omega
  · simp only [total]
    simp only [usageFromClaudeAPIUsage, buildOpenAIStyleUsageFromClaudeUsage, writes,
      normalizeCacheCreationSplit, claudeCounts, Prod.mk.injEq]
    simp only [semanticUsage, true_and, and_true]
    omega

theorem recorded_counts (nonneg : NonNegativeClaude usage) :
    claudeCounts (buildClaudeUsageFromOpenAIUsage
      (usageFromClaudeAPIUsage { usage with })).toClaudeUsage = claudeCounts usage := by
  cases tokens : hasClaudeUsageTokens usage with
  | true =>
    have recorded : recordedClaudeUsage
        (usageFromClaudeAPIUsage { usage with }).billingUsage = some usage := by
      simp only [usageFromClaudeAPIUsage, buildOpenAIStyleUsageFromClaudeUsage, semanticUsage,
        newClaudeMessagesBillingUsage, tokens]
      rfl
    simp only [buildClaudeUsageFromOpenAIUsage, recorded]
  | false =>
    have isZero := claudeCounts_of_no_tokens tokens
    have unrecorded : usageFromClaudeAPIUsage { usage with } =
        { usageFromClaudeAPIUsage { usage with } with billingUsage := none } := by
      simp only [usageFromClaudeAPIUsage, buildOpenAIStyleUsageFromClaudeUsage, semanticUsage,
        newClaudeMessagesBillingUsage, tokens]
      rfl
    rw [unrecorded]
    apply (unrecorded_iff nonneg).mpr
    simp only [claudeCounts, Prod.mk.injEq] at isZero
    omega

end Claude

theorem total_iff {usage : ConvertedUsage} (nonneg : usage.NonNegative)
    (unrecorded : recordedClaudeUsage usage.billingUsage = none)
    (fits : usage.promptTokensDetails.cachedTokens +
      usage.promptTokensDetails.cacheCreationTokensTotal ≤ usage.promptTokens) :
    (buildClaudeUsageFromOpenAIUsage usage).inputTokens +
        (buildClaudeUsageFromOpenAIUsage usage).cacheReadInputTokens +
        (buildClaudeUsageFromOpenAIUsage usage).cacheCreationInputTokens = usage.promptTokens ↔
      (usage.promptTokensDetails.cacheWriteTokens = 0 → usage.promptTokensDetails.cachedTokens = 0 ∧
          usage.promptTokensDetails.cachedCreationTokens = 0) := by
  have cached := nonneg.counts.cachedTokens
  have created := nonneg.counts.cachedCreationTokens
  have written := nonneg.counts.cacheWriteTokens
  simp only [buildClaudeUsageFromOpenAIUsage, unrecorded]
  simp only [InputTokenDetails.cacheCreationTokensTotal] at fits ⊢
  by_cases counted : 0 < usage.promptTokensDetails.cacheWriteTokens
  · rw [if_pos counted]
    omega
  · rw [if_neg counted]
    omega

/-- The conversions lose the cache reads of a usage without cache writes, a cache write without
a split, and a total that was not reported. -/
theorem usagePreserved_iff {chat openAI : ConvertedUsage} {claude : ClaudeUsage}
    (claudeNonneg : NonNegativeClaude claude) (nonneg : openAI.NonNegative)
    (unrecorded : recordedClaudeUsage openAI.billingUsage = none)
    (fits : openAI.promptTokensDetails.cachedTokens +
      openAI.promptTokensDetails.cacheCreationTokensTotal ≤ openAI.promptTokens) :
    UsagePreserved chat claude openAI ↔
      ((chat.totalTokens = 0 → chat.promptTokens + chat.completionTokens = 0) ∧
        chat.promptCacheHitTokens = 0) ∧
      (cacheCreation5mTokens claude + cacheCreation1hTokens claude =
          claude.cacheCreationInputTokens ∧
        (claude.cacheCreationInputTokens = 0 → claude.cacheReadInputTokens = 0)) ∧
      (openAI.promptTokensDetails.cacheWriteTokens = 0 →
        openAI.promptTokensDetails.cachedTokens = 0 ∧
          openAI.promptTokensDetails.cachedCreationTokens = 0) := by
  constructor
  · intro preserved
    exact ⟨(responses_iff chat).mp preserved.responses, (unrecorded_iff claudeNonneg).mp
      preserved.unrecorded, (total_iff nonneg unrecorded fits).mp preserved.total⟩
  · rintro ⟨ofChat, ofClaude, ofOpenAI⟩
    exact ⟨(responses_iff chat).mpr ofChat, recorded_counts claudeNonneg, (unrecorded_iff
      claudeNonneg).mpr ofClaude, (total_iff nonneg unrecorded fits).mpr ofOpenAI⟩

/-- 100 input tokens beside 20 that were read from the cache. -/
def cacheReading : ClaudeUsage :=
  { inputTokens := 100, cacheReadInputTokens := 20, outputTokens := 5 }

/-- A prompt of 120 tokens, of which 20 were read from the cache. -/
def cachedPrompt : ConvertedUsage :=
  { promptTokens := 120, completionTokens := 5, totalTokens := 125,
    promptTokensDetails := { cachedTokens := 20 } }

def writtenPrompt : ConvertedUsage :=
  { cachedPrompt with promptTokensDetails := { cachedTokens := 20, cacheWriteTokens := 30 } }

def splitCache : ClaudeUsage :=
  { cacheReading with
    cacheCreationInputTokens := 30
    cacheCreation := some ⟨20, 10⟩ }

theorem usagePreserved_split : UsagePreserved cachedPrompt splitCache writtenPrompt :=
  (usagePreserved_iff (by constructor <;> decide) ⟨by constructor <;> decide, by decide⟩ rfl
    (by decide)).mpr ⟨⟨by decide, rfl⟩, ⟨rfl, by decide⟩, by decide⟩

/-- A cache read without cache writes is counted twice. -/
theorem usage_not_preserved : ¬UsagePreserved cachedPrompt cacheReading cachedPrompt := by
  intro preserved
  have total := preserved.total
  revert total
  decide

end NewApi.Relaykit
