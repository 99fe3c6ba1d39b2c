import NewApi.Library.Text
import Mathlib.Data.Rat.Cast.Defs

/-!
# Token usage

The usage that an upstream reports, and the usage that is billed: when the report carries the
provider's own figures, these are converted and billed instead of it.
-/

namespace NewApi.Dto

/-- The parts of the prompt tokens. -/
structure InputTokenDetails where
  cachedTokens : ℤ := 0
  cachedCreationTokens : ℤ := 0
  cacheWriteTokens : ℤ := 0
  textTokens : ℤ := 0
  audioTokens : ℤ := 0
  imageTokens : ℤ := 0
deriving DecidableEq

/-- The parts of the completion tokens. -/
structure OutputTokenDetails where
  textTokens : ℤ := 0
  audioTokens : ℤ := 0
  imageTokens : ℤ := 0
  reasoningTokens : ℤ := 0
deriving DecidableEq

/-- The dynamic types that the field `Cost` of the report can have. -/
inductive Cost where
  | absent
  | float (val : ℚ)
  | integer (val : ℤ)
  | other
deriving DecidableEq

/-- `Usage`, without the figures of the provider and the fields that billing does not read. -/
structure Usage where
  promptTokens : ℤ := 0
  completionTokens : ℤ := 0
  totalTokens : ℤ := 0
  usageSemantic : String := ""
  usageSource : String := ""
  promptTokensDetails : InputTokenDetails := {}
  completionTokenDetails : OutputTokenDetails := {}
  inputTokens : ℤ := 0
  outputTokens : ℤ := 0
  claudeCacheCreation5mTokens : ℤ := 0
  claudeCacheCreation1hTokens : ℤ := 0
  cost : Cost := .absent
deriving DecidableEq

/-- The cache writes by their lifetime. -/
structure ClaudeCacheCreationUsage where
  ephemeral5mInputTokens : ℤ := 0
  ephemeral1hInputTokens : ℤ := 0
deriving DecidableEq

/-- The usage that Claude reports. -/
structure ClaudeUsage where
  inputTokens : ℤ := 0
  cacheCreationInputTokens : ℤ := 0
  cacheReadInputTokens : ℤ := 0
  outputTokens : ℤ := 0
  cacheCreation : Option ClaudeCacheCreationUsage := none
  claudeCacheCreation5mTokens : ℤ := 0
  claudeCacheCreation1hTokens : ℤ := 0
deriving DecidableEq

/-- The tokens of one modality. -/
structure GeminiPromptTokensDetails where
  modality : String
  tokenCount : ℤ
deriving DecidableEq

/-- The usage that Gemini reports. -/
structure GeminiUsageMetadata where
  promptTokenCount : ℤ := 0
  toolUsePromptTokenCount : ℤ := 0
  candidatesTokenCount : ℤ := 0
  totalTokenCount : ℤ := 0
  thoughtsTokenCount : ℤ := 0
  cachedContentTokenCount : ℤ := 0
  promptTokensDetails : List GeminiPromptTokensDetails := []
  toolUsePromptTokensDetails : List GeminiPromptTokensDetails := []
  candidatesTokensDetails : List GeminiPromptTokensDetails := []
deriving DecidableEq

/-- The side record: the usage as its provider reported it. -/
structure BillingUsage where
  source : String := ""
  semantic : String := ""
  openAIUsage : Option Usage := none
  claudeUsage : Option ClaudeUsage := none
  geminiUsageMetadata : Option GeminiUsageMetadata := none
deriving DecidableEq

/-- `Usage` as the upstream reports it. -/
structure UpstreamUsage extends Usage where
  billingUsage : Option BillingUsage := none
deriving DecidableEq

def InputTokenDetails.cacheCreationTokensTotal (details : InputTokenDetails) : ℤ :=
  let total :=
    if details.cacheWriteTokens > details.cachedCreationTokens then details.cacheWriteTokens
    else details.cachedCreationTokens
  if total < 0 then 0 else total

theorem InputTokenDetails.cacheCreationTokensTotal_nonneg (details : InputTokenDetails) :
    0 ≤ details.cacheCreationTokensTotal := by
  simp only [cacheCreationTokensTotal]
  split <;> omega

/-! ## The billed usage -/

/-- `GetCacheCreation5mTokens`, with the older field in its place. -/
def ClaudeUsage.cacheCreation5m (usage : ClaudeUsage) : ℤ :=
  let told := (usage.cacheCreation.map (·.ephemeral5mInputTokens)).getD 0
  if told = 0 then usage.claudeCacheCreation5mTokens else told

/-- `GetCacheCreation1hTokens`, with the older field in its place. -/
def ClaudeUsage.cacheCreation1h (usage : ClaudeUsage) : ℤ :=
  let told := (usage.cacheCreation.map (·.ephemeral1hInputTokens)).getD 0
  if told = 0 then usage.claudeCacheCreation1hTokens else told

/-- The sum of two counts as an `int` holds it. -/
def intSum (left right : ℤ) : ℤ :=
  (left + right).bmod (2 ^ 64)

theorem intSum_of_small {left right : ℤ} (low : -2 ^ 63 ≤ left + right)
    (high : left + right < 2 ^ 63) : intSum left right = left + right := by
  rw [intSum, Int.bmod_eq_of_le] <;> omega

def usageFromOpenAIBillingUsage (src : String) (usage : Usage) : Usage :=
  let promptTokens :=
    if usage.promptTokens = 0 ∧ 0 < usage.inputTokens then usage.inputTokens
    else usage.promptTokens
  let completionTokens :=
    if usage.completionTokens = 0 ∧ 0 < usage.outputTokens then usage.outputTokens
    else usage.completionTokens
  { usage with
    promptTokens := promptTokens
    completionTokens := completionTokens
    inputTokens :=
      if usage.inputTokens = 0 ∧ 0 < promptTokens then promptTokens else usage.inputTokens
    outputTokens :=
      if usage.outputTokens = 0 ∧ 0 < completionTokens then completionTokens
      else usage.outputTokens
    totalTokens :=
      if usage.totalTokens = 0 then intSum promptTokens completionTokens else usage.totalTokens
    usageSemantic := "openai"
    usageSource := src }

def usageFromClaudeBillingUsage (usage : ClaudeUsage) : Usage where
  promptTokens := usage.inputTokens
  completionTokens := usage.outputTokens
  totalTokens := intSum usage.inputTokens usage.outputTokens
  inputTokens :=
    intSum (intSum usage.inputTokens usage.cacheReadInputTokens) usage.cacheCreationInputTokens
  outputTokens := usage.outputTokens
  usageSemantic := "anthropic"
  usageSource := "claude_messages"
  claudeCacheCreation5mTokens := usage.cacheCreation5m
  claudeCacheCreation1hTokens := usage.cacheCreation1h
  promptTokensDetails :=
    { cachedTokens := usage.cacheReadInputTokens
      cachedCreationTokens := usage.cacheCreationInputTokens }

def addGeminiInputTokenDetail (details : InputTokenDetails) (detail : GeminiPromptTokensDetails) :
    InputTokenDetails :=
  if detail.modality = "AUDIO" then
    { details with audioTokens := intSum details.audioTokens detail.tokenCount }
  else if detail.modality = "IMAGE" then
    { details with imageTokens := intSum details.imageTokens detail.tokenCount }
  else if detail.modality = "TEXT" then
    { details with textTokens := intSum details.textTokens detail.tokenCount }
  else
    details

def addGeminiOutputTokenDetail (details : OutputTokenDetails)
    (detail : GeminiPromptTokensDetails) : OutputTokenDetails :=
  if detail.modality = "IMAGE" then
    { details with imageTokens := intSum details.imageTokens detail.tokenCount }
  else if detail.modality = "AUDIO" then
    { details with audioTokens := intSum details.audioTokens detail.tokenCount }
  else if detail.modality = "TEXT" then
    { details with textTokens := intSum details.textTokens detail.tokenCount }
  else
    details

def GeminiUsageMetadata.promptTokens (mdata : GeminiUsageMetadata) : ℤ :=
  intSum mdata.promptTokenCount mdata.toolUsePromptTokenCount

/-- The completion tokens of Gemini's metadata. Without any, they are what the total leaves
beside the prompt, and nothing keeps that from being negative. -/
def GeminiUsageMetadata.completionTokens (mdata : GeminiUsageMetadata) : ℤ :=
  let told := intSum mdata.candidatesTokenCount mdata.thoughtsTokenCount
  if mdata.totalTokenCount ≠ 0 ∧ told ≤ 0 then
    intSum mdata.totalTokenCount (-mdata.promptTokens)
  else
    told

def usageFromGeminiBillingUsage (mdata : GeminiUsageMetadata) : Usage :=
  let promptTokens := mdata.promptTokens
  let details := (mdata.promptTokensDetails ++ mdata.toolUsePromptTokensDetails).foldl
    addGeminiInputTokenDetail { cachedTokens := mdata.cachedContentTokenCount }
  { promptTokens := promptTokens
    completionTokens := mdata.completionTokens
    totalTokens :=
      if mdata.totalTokenCount = 0 then
        intSum promptTokens (intSum mdata.candidatesTokenCount mdata.thoughtsTokenCount)
      else
        mdata.totalTokenCount
    usageSemantic := "gemini"
    usageSource := "gemini_chat"
    promptTokensDetails :=
      if 0 < promptTokens ∧ details.textTokens = 0 ∧ details.audioTokens = 0 then
        { details with textTokens := promptTokens }
      else
        details
    completionTokenDetails := mdata.candidatesTokensDetails.foldl addGeminiOutputTokenDetail
      { reasoningTokens := mdata.thoughtsTokenCount } }

/-- The figures of a provider in its own form. -/
inductive ProviderFigures where
  | openAI (src : String) (usage : Usage)
  | claude (usage : ClaudeUsage)
  | gemini (mdata : GeminiUsageMetadata)

/-- The conditions of `usageFromBillingUsage`: the figures whose source or semantic is named. -/
def BillingUsage.figures (billing : BillingUsage) : Option ProviderFigures :=
  let src := Text.trimSpace billing.source
  let semantic := Text.trimSpace billing.semantic
  let openAI := billing.openAIUsage.filter fun _ =>
    Text.equalFold src "oai_chat" || Text.equalFold src "oai_responses" ||
      Text.equalFold semantic "openai"
  let claude := billing.claudeUsage.filter fun _ =>
    Text.equalFold src "claude_messages" || Text.equalFold semantic "anthropic"
  let gemini := billing.geminiUsageMetadata.filter fun _ =>
    Text.equalFold src "gemini_chat" || Text.equalFold semantic "gemini"
  match openAI, claude, gemini with
  | some usage, _, _ => some (.openAI billing.source usage)
  | none, some usage, _ => some (.claude usage)
  | none, none, some mdata => some (.gemini mdata)
  | none, none, none => none

def ProviderFigures.usage : ProviderFigures → Usage
  | openAI src usage => usageFromOpenAIBillingUsage src usage
  | claude usage => usageFromClaudeBillingUsage usage
  | gemini mdata => usageFromGeminiBillingUsage mdata

def usageFromBillingUsage (usage : UpstreamUsage) : Option Usage :=
  (usage.billingUsage.bind BillingUsage.figures).map ProviderFigures.usage

def effectiveBillingUsage (usage : UpstreamUsage) : Usage :=
  (usageFromBillingUsage usage).getD usage.toUsage

/-! ## Non-negative reports -/

/-- The counts of a usage are not negative. -/
structure Usage.NonNegative (usage : Usage) : Prop where
  promptTokens : 0 ≤ usage.promptTokens
  completionTokens : 0 ≤ usage.completionTokens
  inputTokens : 0 ≤ usage.inputTokens
  outputTokens : 0 ≤ usage.outputTokens
  totalTokens : 0 ≤ usage.totalTokens
  cachedTokens : 0 ≤ usage.promptTokensDetails.cachedTokens
  cachedCreationTokens : 0 ≤ usage.promptTokensDetails.cachedCreationTokens
  cacheWriteTokens : 0 ≤ usage.promptTokensDetails.cacheWriteTokens
  textTokens : 0 ≤ usage.promptTokensDetails.textTokens
  audioTokens : 0 ≤ usage.promptTokensDetails.audioTokens
  imageTokens : 0 ≤ usage.promptTokensDetails.imageTokens
  outputTextTokens : 0 ≤ usage.completionTokenDetails.textTokens
  outputAudioTokens : 0 ≤ usage.completionTokenDetails.audioTokens
  outputImageTokens : 0 ≤ usage.completionTokenDetails.imageTokens
  reasoningTokens : 0 ≤ usage.completionTokenDetails.reasoningTokens
  cacheCreation5m : 0 ≤ usage.claudeCacheCreation5mTokens
  cacheCreation1h : 0 ≤ usage.claudeCacheCreation1hTokens

/-- The counts of a usage are not negative. -/
structure ClaudeUsage.NonNegative (usage : ClaudeUsage) : Prop where
  inputTokens : 0 ≤ usage.inputTokens
  outputTokens : 0 ≤ usage.outputTokens
  cacheReadInputTokens : 0 ≤ usage.cacheReadInputTokens
  cacheCreationInputTokens : 0 ≤ usage.cacheCreationInputTokens
  cacheCreation5m : 0 ≤ usage.cacheCreation5m
  cacheCreation1h : 0 ≤ usage.cacheCreation1h

/-- The counts of a usage are not negative. -/
structure GeminiUsageMetadata.NonNegative (mdata : GeminiUsageMetadata) : Prop where
  promptTokenCount : 0 ≤ mdata.promptTokenCount
  toolUsePromptTokenCount : 0 ≤ mdata.toolUsePromptTokenCount
  candidatesTokenCount : 0 ≤ mdata.candidatesTokenCount
  thoughtsTokenCount : 0 ≤ mdata.thoughtsTokenCount
  totalTokenCount : 0 ≤ mdata.totalTokenCount
  cachedContentTokenCount : 0 ≤ mdata.cachedContentTokenCount
  details : ∀ detail ∈ mdata.promptTokensDetails ++ mdata.toolUsePromptTokensDetails ++
    mdata.candidatesTokensDetails, 0 ≤ detail.tokenCount

/-- The counts of the figures are not negative. -/
def ProviderFigures.NonNegative : ProviderFigures → Prop
  | openAI _ usage => usage.NonNegative
  | claude usage => usage.NonNegative
  | gemini mdata => mdata.NonNegative

/-- No token count of a report is negative, neither its own nor one of the provider. -/
structure UpstreamUsage.NonNegative (usage : UpstreamUsage) : Prop where
  reported : usage.toUsage.NonNegative
  figures : ∀ billing ∈ usage.billingUsage, ∀ figures ∈ billing.figures, figures.NonNegative

theorem UpstreamUsage.NonNegative.billedFigures {usage : UpstreamUsage}
    (nonneg : usage.NonNegative) {figures : ProviderFigures}
    (found : usage.billingUsage.bind BillingUsage.figures = some figures) :
    figures.NonNegative := by
  rcases Option.bind_eq_some_iff.mp found with ⟨billing, billingEq, figuresEq⟩
  exact nonneg.figures billing billingEq figures figuresEq

/-- The reported total is smaller than the prompt, and nothing else is reported. -/
def GeminiUsageMetadata.totalBelowPrompt (mdata : GeminiUsageMetadata) : Bool :=
  mdata.totalTokenCount ≠ 0 && mdata.candidatesTokenCount + mdata.thoughtsTokenCount = 0 &&
    mdata.totalTokenCount < mdata.promptTokenCount + mdata.toolUsePromptTokenCount

def UpstreamUsage.totalBelowPrompt (usage : UpstreamUsage) : Bool :=
  match usage.billingUsage.bind BillingUsage.figures with
  | some (.gemini mdata) => mdata.totalBelowPrompt
  | _ => false

theorem usageFromOpenAIBillingUsage_nonneg {src : String} {usage : Usage}
    (nonneg : usage.NonNegative) :
    0 ≤ (usageFromOpenAIBillingUsage src usage).promptTokens ∧
      0 ≤ (usageFromOpenAIBillingUsage src usage).completionTokens := by
  have prompt := nonneg.promptTokens
  have completion := nonneg.completionTokens
  simp only [usageFromOpenAIBillingUsage]
  constructor
  · split <;> omega
  · split <;> omega

/-- The counts are not negative and an `int` holds their sum. -/
def Usage.totalFits (usage : Usage) : Bool :=
  0 ≤ usage.promptTokens && 0 ≤ usage.completionTokens &&
    usage.promptTokens + usage.completionTokens < 2 ^ 63

/-- No sum of the billed counts leaves the range of an `int`. -/
def UpstreamUsage.Small (usage : UpstreamUsage) : Prop :=
  match usage.billingUsage.bind BillingUsage.figures with
  | some (.gemini mdata) =>
    mdata.promptTokenCount + mdata.toolUsePromptTokenCount + mdata.candidatesTokenCount +
      mdata.thoughtsTokenCount < 2 ^ 63 ∧ mdata.totalTokenCount < 2 ^ 63
  | _ => (effectiveBillingUsage usage).promptTokens +
      (effectiveBillingUsage usage).completionTokens < 2 ^ 63

theorem gemini_totalFits_iff {mdata : GeminiUsageMetadata} (nonneg : mdata.NonNegative)
    (small : mdata.promptTokenCount + mdata.toolUsePromptTokenCount +
      mdata.candidatesTokenCount + mdata.thoughtsTokenCount < 2 ^ 63 ∧
        mdata.totalTokenCount < 2 ^ 63) :
    (usageFromGeminiBillingUsage mdata).totalFits = true ↔ mdata.totalBelowPrompt = false := by
  have prompt := nonneg.promptTokenCount
  have tools := nonneg.toolUsePromptTokenCount
  have candidates := nonneg.candidatesTokenCount
  have thoughts := nonneg.thoughtsTokenCount
  have total := nonneg.totalTokenCount
  have isPrompt : mdata.promptTokens = mdata.promptTokenCount + mdata.toolUsePromptTokenCount :=
    intSum_of_small (by omega) (by omega)
  have isTold : intSum mdata.candidatesTokenCount mdata.thoughtsTokenCount =
      mdata.candidatesTokenCount + mdata.thoughtsTokenCount :=
    intSum_of_small (by omega) (by omega)
  have isRest : intSum mdata.totalTokenCount
      (-(mdata.promptTokenCount + mdata.toolUsePromptTokenCount)) =
      mdata.totalTokenCount + -(mdata.promptTokenCount + mdata.toolUsePromptTokenCount) :=
    intSum_of_small (by omega) (by omega)
  simp only [Usage.totalFits, usageFromGeminiBillingUsage, GeminiUsageMetadata.completionTokens,
    GeminiUsageMetadata.totalBelowPrompt, isRest, isPrompt, isTold, Bool.and_eq_true,
    Bool.and_eq_false_iff, decide_eq_true_eq, decide_eq_false_iff_not, not_not]
  split <;> omega

/-- The billed counts of a small report have a total, unless Gemini's total is below its
prompt. -/
theorem totalFits_iff {usage : UpstreamUsage} (nonneg : usage.NonNegative)
    (small : usage.Small) :
    (effectiveBillingUsage usage).totalFits = true ↔ usage.totalBelowPrompt = false := by
  unfold UpstreamUsage.Small at small
  unfold effectiveBillingUsage usageFromBillingUsage at small ⊢
  unfold UpstreamUsage.totalBelowPrompt
  cases found : usage.billingUsage.bind BillingUsage.figures with
  | none =>
    have prompt := nonneg.reported.promptTokens
    have completion := nonneg.reported.completionTokens
    simp only [found, Option.map_none, Option.getD_none] at small
    simpa [Usage.totalFits] using ⟨⟨prompt, completion⟩, small⟩
  | some figures =>
    have figuresNonneg := nonneg.billedFigures found
    simp only [found, Option.map_some, Option.getD_some] at small
    cases figures with
    | openAI src told =>
      have converted := @usageFromOpenAIBillingUsage_nonneg src told figuresNonneg
      simpa [Usage.totalFits] using ⟨converted, small⟩
    | claude told =>
      simpa [Usage.totalFits] using
        ⟨⟨figuresNonneg.inputTokens, figuresNonneg.outputTokens⟩, small⟩
    | gemini _ => exact gemini_totalFits_iff figuresNonneg small

theorem foldl_cachedTokens (reports : List GeminiPromptTokensDetails)
    (details : InputTokenDetails) :
    (reports.foldl addGeminiInputTokenDetail details).cachedTokens = details.cachedTokens := by
  induction reports generalizing details with
  | nil => rfl
  | cons _ _ ih =>
    rw [List.foldl_cons, ih]
    unfold addGeminiInputTokenDetail
    split_ifs <;> rfl

theorem effectiveBillingUsage_cachedTokens {usage : UpstreamUsage} (nonneg : usage.NonNegative) :
    0 ≤ (effectiveBillingUsage usage).promptTokensDetails.cachedTokens := by
  unfold effectiveBillingUsage usageFromBillingUsage
  cases found : usage.billingUsage.bind BillingUsage.figures with
  | none => exact nonneg.reported.cachedTokens
  | some figures =>
    have figuresNonneg := nonneg.billedFigures found
    cases figures with
    | openAI _ _ => exact figuresNonneg.cachedTokens
    | claude _ => exact figuresNonneg.cacheReadInputTokens
    | gemini _ =>
      have cached := figuresNonneg.cachedContentTokenCount
      simp only [Option.map_some, Option.getD_some, ProviderFigures.usage,
        usageFromGeminiBillingUsage]
      split <;> simpa [foldl_cachedTokens] using cached

end NewApi.Dto
