import NewApi.Relaykit.UsageConversion
import NewApi.Service.TextQuota

/-!
# The tokens of a tiered price

A billing expression prices the tokens of a usage by class, and `BuildTieredTokenParams` takes the
classes that the expression uses off the prompt and the completion.
-/

namespace NewApi.Billing

open NewApi.Dto NewApi.Service NewApi.Relaykit
open Rounding (float64)
open NewApi.Service renaming buildTieredTokenParams → tokenParams
open NewApi.Relaykit renaming buildOpenAIStyleUsageFromClaudeUsage → openAIUsage

/-- The tokens of a class that an expression uses, or none. -/
def countedTokens (vars : String → Bool) (name : String) (tokens : ℚ) : ℚ :=
  if vars name then tokens else 0

theorem countedTokens_le {vars : String → Bool} {name : String} {tokens : ℚ}
    (nonneg : 0 ≤ tokens) : countedTokens vars name tokens ≤ tokens := by
  simp only [countedTokens]
  split
  · exact le_refl tokens
  · exact nonneg

/-- The cache writes of a usage. -/
def cacheWrites (usage : Usage) : ℤ :=
  usage.promptTokensDetails.cacheCreationTokensTotal

def cacheWriteSplit (usage : Usage) : ℤ :=
  usage.claudeCacheCreation5mTokens + usage.claudeCacheCreation1hTokens

/-- No part of a usage exceeds its total; a prompt in the semantics of Claude excludes its
parts. -/
structure WithinTotals (usage : Usage) (isClaudeUsageSemantic : Bool) : Prop where
  nonneg : usage.NonNegative
  prompt : isClaudeUsageSemantic = false →
    usage.promptTokensDetails.cachedTokens + cacheWrites usage +
      usage.promptTokensDetails.imageTokens + usage.promptTokensDetails.audioTokens ≤
        usage.promptTokens
  completion : isClaudeUsageSemantic = false →
    usage.completionTokenDetails.imageTokens + usage.completionTokenDetails.audioTokens ≤
      usage.completionTokens
  split : cacheWriteSplit usage ≤ cacheWrites usage

/-- All the tokens of the input. -/
def inputLength (usage : Usage) (isClaude : Bool) : ℤ :=
  if isClaude then
    usage.promptTokens + usage.promptTokensDetails.cachedTokens + cacheWrites usage
  else
    usage.promptTokens

/-- The counts and the length of the input are doubles. -/
structure Representable (usage : Usage) (isClaude : Bool) : Prop where
  input : inputLength usage isClaude ≤ 2 ^ 53
  completion : usage.completionTokens ≤ 2 ^ 53
  images : usage.promptTokensDetails.imageTokens ≤ 2 ^ 53
  audio : usage.promptTokensDetails.audioTokens ≤ 2 ^ 53
  outputImages : usage.completionTokenDetails.imageTokens ≤ 2 ^ 53
  outputAudio : usage.completionTokenDetails.audioTokens ≤ 2 ^ 53

/-- What a Claude upstream reports: text, with the cache writes in the field of Claude. -/
structure ClaudeReport (usage : Usage) : Prop where
  semantic : usage.usageSemantic = "anthropic"
  writes : usage.promptTokensDetails.cacheWriteTokens = 0
  images : usage.promptTokensDetails.imageTokens = 0
  audio : usage.promptTokensDetails.audioTokens = 0
  outputImages : usage.completionTokenDetails.imageTokens = 0
  outputAudio : usage.completionTokenDetails.audioTokens = 0

/-- The expression charges all kinds of cache tokens on their own. -/
def usesCacheVars (vars : String → Bool) : Bool :=
  vars "cr" && vars "cc" && vars "cc1h"

/-- Every token of a usage is in one class of its parameters. -/
structure CountedOnce (usage : Usage) (isClaude : Bool) (vars : String → Bool) : Prop where
  remainders : 0 ≤ (tokenParams usage isClaude vars).p ∧
    0 ≤ (tokenParams usage isClaude vars).c
  prompt : isClaude = false →
    (tokenParams usage isClaude vars).p +
      countedTokens vars "cr" (tokenParams usage isClaude vars).cr +
      countedTokens vars "cc" (tokenParams usage isClaude vars).cc +
      countedTokens vars "cc1h" (tokenParams usage isClaude vars).cc1h +
      countedTokens vars "img" (tokenParams usage isClaude vars).img +
      countedTokens vars "ai" (tokenParams usage isClaude vars).ai = usage.promptTokens
  completion : isClaude = false →
    (tokenParams usage isClaude vars).c +
      countedTokens vars "img_o" (tokenParams usage isClaude vars).imgO +
      countedTokens vars "ao" (tokenParams usage isClaude vars).ao = usage.completionTokens
  claudeInput : isClaude = true → usesCacheVars vars →
    vars "img" = false → vars "ai" = false →
    (tokenParams usage isClaude vars).p + (tokenParams usage isClaude vars).cr +
      (tokenParams usage isClaude vars).cc +
      (tokenParams usage isClaude vars).cc1h =
        usage.promptTokens + usage.promptTokensDetails.cachedTokens + cacheWrites usage
  writes : (cacheWrites usage : ℚ) ≤ (tokenParams usage isClaude vars).cc +
    (tokenParams usage isClaude vars).cc1h
  length : (tokenParams usage isClaude vars).len =
    if isClaude then
      usage.promptTokens + usage.promptTokensDetails.cachedTokens + cacheWrites usage
    else usage.promptTokens
  independent : ∀ others, (tokenParams usage isClaude others).len =
    (tokenParams usage isClaude vars).len
  styles : ClaudeReport usage → isClaude = true → usesCacheVars vars →
    tokenParams (openAIUsage { usage with }).toUsage false vars = tokenParams usage true vars

section Params

variable {usage : Usage} {isClaude : Bool} {vars : String → Bool}

/-! ## Without rounding -/

/-- The parameters without the rounding to doubles. -/
def exactParams (usage : Usage) (isClaude : Bool) (vars : String → Bool) : TokenParams :=
  let details := usage.promptTokensDetails
  let cr : ℚ := details.cachedTokens
  let cc5m : ℚ := if usage.usageSemantic = "anthropic" then usage.claudeCacheCreation5mTokens
    else details.cacheCreationTokensTotal
  let cc1h : ℚ := if usage.usageSemantic = "anthropic" then usage.claudeCacheCreation1hTokens
    else 0
  let img : ℚ := details.imageTokens
  let ai : ℚ := details.audioTokens
  let imgO : ℚ := usage.completionTokenDetails.imageTokens
  let ao : ℚ := usage.completionTokenDetails.audioTokens
  let priced (name : String) (tokens : ℚ) : ℚ :=
    if !isClaude && vars name then tokens else 0
  let p := usage.promptTokens - priced "cr" cr - priced "cc" cc5m - priced "cc1h" cc1h -
    priced "img" img - priced "ai" ai
  let c := usage.completionTokens - priced "img_o" imgO - priced "ao" ao
  { p := if p < 0 then 0 else p
    c := if c < 0 then 0 else c
    len := if isClaude then usage.promptTokens + cr + cc5m + cc1h else usage.promptTokens
    cr := cr
    cc := cc5m
    cc1h := cc1h
    img := img
    imgO := imgO
    ai := ai
    ao := ao }

/-- The cache writes in the classes by lifetime. -/
def classedWrites (usage : Usage) : ℤ :=
  if usage.usageSemantic = "anthropic" then cacheWriteSplit usage else cacheWrites usage

theorem writes_eq : (exactParams usage isClaude vars).cc +
    (exactParams usage isClaude vars).cc1h = classedWrites usage := by
  simp only [exactParams, classedWrites]
  split
  · simp [cacheWriteSplit]
  · simp [cacheWrites]

theorem cc_nonneg (within : WithinTotals usage isClaude) :
    0 ≤ (exactParams usage isClaude vars).cc ∧
      0 ≤ (exactParams usage isClaude vars).cc1h := by
  have writes := usage.promptTokensDetails.cacheCreationTokensTotal_nonneg
  have short := within.nonneg.cacheCreation5m
  have long := within.nonneg.cacheCreation1h
  simp only [exactParams]
  split
  · exact ⟨by exact_mod_cast short, by exact_mod_cast long⟩
  · exact ⟨by exact_mod_cast writes, le_refl 0⟩

theorem classedWrites_le (within : WithinTotals usage isClaude) :
    classedWrites usage ≤ cacheWrites usage := by
  simp only [classedWrites]
  split
  · exact within.split
  · exact le_refl _

theorem prompt_eq (within : WithinTotals usage false) :
    (exactParams usage false vars).p + countedTokens vars "cr" (exactParams usage false vars).cr +
      countedTokens vars "cc" (exactParams usage false vars).cc +
      countedTokens vars "cc1h" (exactParams usage false vars).cc1h +
      countedTokens vars "img" (exactParams usage false vars).img +
      countedTokens vars "ai" (exactParams usage false vars).ai =
        usage.promptTokens := by
  have fits : (usage.promptTokensDetails.cachedTokens + cacheWrites usage +
      usage.promptTokensDetails.imageTokens + usage.promptTokensDetails.audioTokens : ℚ) ≤
        usage.promptTokens := by
    exact_mod_cast within.prompt rfl
  have below : (classedWrites usage : ℚ) ≤ cacheWrites usage := by
    exact_mod_cast classedWrites_le within
  rw [← @writes_eq usage false vars] at below
  have classes := @cc_nonneg usage false vars within
  have cr : (0 : ℚ) ≤ usage.promptTokensDetails.cachedTokens := by
    exact_mod_cast within.nonneg.cachedTokens
  have img : (0 : ℚ) ≤ usage.promptTokensDetails.imageTokens := by
    exact_mod_cast within.nonneg.imageTokens
  have ai : (0 : ℚ) ≤ usage.promptTokensDetails.audioTokens := by
    exact_mod_cast within.nonneg.audioTokens
  have crLe := @countedTokens_le vars "cr" _ cr
  have ccLe := @countedTokens_le vars "cc" _ classes.1
  have cc1hLe := @countedTokens_le vars "cc1h" _ classes.2
  have imgLe := @countedTokens_le vars "img" _ img
  have aiLe := @countedTokens_le vars "ai" _ ai
  simp only [exactParams, countedTokens, Bool.not_false, Bool.true_and] at *
  rw [if_neg (by linarith)]
  ring

theorem completion_eq (within : WithinTotals usage false) :
    (exactParams usage false vars).c +
      countedTokens vars "img_o" (exactParams usage false vars).imgO +
      countedTokens vars "ao" (exactParams usage false vars).ao =
        usage.completionTokens := by
  have fits : (usage.completionTokenDetails.imageTokens +
      usage.completionTokenDetails.audioTokens : ℚ) ≤ usage.completionTokens := by
    exact_mod_cast within.completion rfl
  have images : (0 : ℚ) ≤ usage.completionTokenDetails.imageTokens := by
    exact_mod_cast within.nonneg.outputImageTokens
  have audio : (0 : ℚ) ≤ usage.completionTokenDetails.audioTokens := by
    exact_mod_cast within.nonneg.outputAudioTokens
  have imagesLe := @countedTokens_le vars "img_o" _ images
  have audioLe := @countedTokens_le vars "ao" _ audio
  simp only [exactParams, countedTokens, Bool.not_false, Bool.true_and] at *
  rw [if_neg (by linarith)]
  ring

theorem claude_p (within : WithinTotals usage true) :
    (exactParams usage true vars).p = usage.promptTokens := by
  have prompt : (0 : ℚ) ≤ usage.promptTokens := by exact_mod_cast within.nonneg.promptTokens
  simp only [exactParams, Bool.not_true, Bool.false_and, if_false, sub_zero, Bool.false_eq_true]
  rw [if_neg (not_lt.mpr prompt)]

theorem clamp_nonneg (val : ℚ) : 0 ≤ if val < 0 then 0 else val := by
  split
  · exact le_refl 0
  next notNegative => exact not_lt.mp notNegative

theorem remainders_nonneg :
    0 ≤ (exactParams usage isClaude vars).p ∧
      0 ≤ (exactParams usage isClaude vars).c :=
  ⟨clamp_nonneg _, clamp_nonneg _⟩

theorem length_eq : (exactParams usage isClaude vars).len =
    if isClaude then
      (usage.promptTokens + usage.promptTokensDetails.cachedTokens + classedWrites usage : ℚ)
    else usage.promptTokens := by
  rw [← @writes_eq usage isClaude vars]
  simp only [exactParams]
  split
  · ring
  · rfl

/-- The cache writes of a Claude report, and what its conversion makes of them. -/
theorem claudeReport_writes (report : ClaudeReport usage) (within : WithinTotals usage true) :
    cacheWrites usage = usage.promptTokensDetails.cachedCreationTokens ∧
      cacheCreationTokensForOpenAIUsage usage =
        usage.promptTokensDetails.cachedCreationTokens := by
  have created := within.nonneg.cachedCreationTokens
  have isWrites : cacheWrites usage = usage.promptTokensDetails.cachedCreationTokens := by
    simp only [cacheWrites, InputTokenDetails.cacheCreationTokensTotal, report.writes]
    omega
  have split := within.split
  rw [isWrites, cacheWriteSplit] at split
  refine ⟨isWrites, ?_⟩
  rw [cacheCreationTokensForOpenAIUsage_eq created]
  exact max_eq_left split

theorem openAIStyle_params (report : ClaudeReport usage) (within : WithinTotals usage true)
    (uses : usesCacheVars vars) :
    exactParams (openAIUsage { usage with }).toUsage false vars =
        { p := usage.promptTokens
          c := usage.completionTokens
          len := usage.promptTokens + usage.promptTokensDetails.cachedTokens + cacheWrites usage
          cr := usage.promptTokensDetails.cachedTokens
          cc := cacheWrites usage
          cc1h := 0, img := 0, imgO := 0, ai := 0, ao := 0 } := by
  have created := within.nonneg.cachedCreationTokens
  obtain ⟨isWrites, written⟩ := claudeReport_writes report within
  have prompt : (0 : ℚ) ≤ usage.promptTokens := by exact_mod_cast within.nonneg.promptTokens
  have completion : (0 : ℚ) ≤ usage.completionTokens := by
    exact_mod_cast within.nonneg.completionTokens
  have total : InputTokenDetails.cacheCreationTokensTotal
      { cachedTokens := usage.promptTokensDetails.cachedTokens
        cachedCreationTokens := usage.promptTokensDetails.cachedCreationTokens
        cacheWriteTokens := usage.promptTokensDetails.cachedCreationTokens
        textTokens := usage.promptTokensDetails.textTokens } =
      usage.promptTokensDetails.cachedCreationTokens := by
    simp only [InputTokenDetails.cacheCreationTokensTotal]
    omega
  obtain ⟨⟨usesCr, usesCc⟩, usesCc1h⟩ : (vars "cr" ∧ vars "cc") ∧ vars "cc1h" := by
    simpa only [usesCacheVars, Bool.and_eq_true] using uses
  simp only [exactParams, openAIUsage, written, isWrites,
    report.images, report.audio, report.outputImages, report.outputAudio]
  rw [total]
  push_cast
  have rest : (usage.promptTokens + usage.promptTokensDetails.cachedTokens +
      usage.promptTokensDetails.cachedCreationTokens - usage.promptTokensDetails.cachedTokens -
        usage.promptTokensDetails.cachedCreationTokens : ℚ) = usage.promptTokens := by ring
  simp [usesCr, usesCc, usesCc1h, not_lt.mpr completion]
  rw [rest, if_neg (by linarith)]

theorem styles_iff (report : ClaudeReport usage) (within : WithinTotals usage true)
    (uses : usesCacheVars vars) :
    exactParams (openAIUsage { usage with }).toUsage false vars = exactParams usage true vars ↔
      cacheWrites usage ≤ usage.claudeCacheCreation5mTokens := by
  have split := within.split
  have long := within.nonneg.cacheCreation1h
  rw [openAIStyle_params report within uses]
  constructor
  · intro same
    have short := congrArg TokenParams.cc same
    simp only [exactParams, report.semantic, if_true] at short
    exact le_of_eq (by exact_mod_cast short)
  · intro _
    simp only [cacheWriteSplit] at split
    have short : cacheWrites usage = usage.claudeCacheCreation5mTokens := by omega
    have none : usage.claudeCacheCreation1hTokens = 0 := by omega
    have completion : (0 : ℚ) ≤ usage.completionTokens := by
      exact_mod_cast within.nonneg.completionTokens
    have prompt : (0 : ℚ) ≤ usage.promptTokens := by exact_mod_cast within.nonneg.promptTokens
    simp only [exactParams, report.semantic, short, none, report.images, report.audio,
      report.outputImages, report.outputAudio]
    simp [not_lt.mpr prompt, not_lt.mpr completion]

/-! ## Small counts are not rounded -/

theorem float64_count {n : ℤ} (nonneg : 0 ≤ n) (small : n ≤ 2 ^ 53) : float64 n = n := by
  apply Rounding.float64_intCast
  rw [abs_of_nonneg nonneg]
  exact small

/-- Classes that fit into a small total are taken off it without rounding. -/
theorem foldl_exact (classes : List (String × ℤ)) (rest : ℤ)
    (nonneg : ∀ counts ∈ classes, 0 ≤ counts.2) (fits : (classes.map Prod.snd).sum ≤ rest)
    (small : rest ≤ 2 ^ 53) :
    classes.foldl (fun (rest : ℚ) counts =>
        if vars counts.1 then float64 (rest - counts.2) else rest) (rest : ℚ) =
      rest - (classes.map fun counts => countedTokens vars counts.1 counts.2).sum := by
  induction classes generalizing rest with
  | nil => simp
  | cons counts classes ih =>
    have first := nonneg counts (by simp)
    have others : ∀ counts ∈ classes, 0 ≤ counts.2 :=
      fun counts isIn => nonneg counts (List.mem_cons_of_mem _ isIn)
    have after : 0 ≤ (classes.map Prod.snd).sum := by
      apply List.sum_nonneg
      intro tokens isIn
      obtain ⟨counts, inClasses, rfl⟩ := List.mem_map.mp isIn
      exact others counts inClasses
    simp only [List.map_cons, List.sum_cons] at fits
    simp only [List.foldl_cons, List.map_cons, List.sum_cons, countedTokens]
    by_cases uses : vars counts.1
    · have step : float64 ((rest : ℚ) - counts.2) = ((rest - counts.2 : ℤ) : ℚ) := by
        have exact := @float64_count (rest - counts.2) (by omega) (by omega)
        push_cast at exact ⊢
        exact exact
      rw [if_pos uses, if_pos uses, step, ih _ others (by omega) (by omega)]
      simp only [countedTokens]
      push_cast
      ring
    · rw [if_neg uses, if_neg uses, ih _ others (by omega) small]
      simp only [countedTokens]
      ring

/-- The cache writes of the short lifetime, and those whose lifetime is unknown. -/
def shortWrites (usage : Usage) : ℤ :=
  if usage.usageSemantic = "anthropic" then usage.claudeCacheCreation5mTokens
  else cacheWrites usage

def longWrites (usage : Usage) : ℤ :=
  if usage.usageSemantic = "anthropic" then usage.claudeCacheCreation1hTokens else 0

theorem writes_small (within : WithinTotals usage isClaude) :
    0 ≤ shortWrites usage ∧ 0 ≤ longWrites usage ∧
      shortWrites usage + longWrites usage ≤ cacheWrites usage := by
  have split := within.split
  have short := within.nonneg.cacheCreation5m
  have long := within.nonneg.cacheCreation1h
  have writes : 0 ≤ cacheWrites usage :=
    usage.promptTokensDetails.cacheCreationTokensTotal_nonneg
  simp only [cacheWriteSplit] at split
  simp only [shortWrites, longWrites]
  split <;> omega

/-- The counts of a usage that is small enough are priced without rounding. -/
theorem params_exact (within : WithinTotals usage isClaude) (small : Representable usage isClaude) :
    tokenParams usage isClaude vars = exactParams usage isClaude vars := by
  obtain ⟨shortNonneg, longNonneg, written⟩ := writes_small within
  have prompt := within.nonneg.promptTokens
  have completion := within.nonneg.completionTokens
  have cached := within.nonneg.cachedTokens
  have images := within.nonneg.imageTokens
  have audio := within.nonneg.audioTokens
  have outputImages := within.nonneg.outputImageTokens
  have outputAudio := within.nonneg.outputAudioTokens
  obtain ⟨promptSmall, partsSmall⟩ : usage.promptTokens ≤ 2 ^ 53 ∧
      usage.promptTokensDetails.cachedTokens + cacheWrites usage ≤ 2 ^ 53 := by
    have input := small.input
    cases isClaude with
    | true =>
      simp only [inputLength, if_true] at input
      omega
    | false =>
      have fits := within.prompt rfl
      simp only [inputLength, Bool.false_eq_true, if_false] at input
      omega
  have short : (if usage.usageSemantic = "anthropic" then (usage.claudeCacheCreation5mTokens : ℚ)
      else usage.promptTokensDetails.cacheCreationTokensTotal) = shortWrites usage := by
    simp only [shortWrites, cacheWrites]
    split <;> rfl
  have long : (if usage.usageSemantic = "anthropic" then (usage.claudeCacheCreation1hTokens : ℚ)
      else 0) = longWrites usage := by
    simp only [longWrites]
    split <;> simp
  have longDouble : (if usage.usageSemantic = "anthropic" then
      float64 usage.claudeCacheCreation1hTokens else 0) = longWrites usage := by
    have exact := @float64_count (longWrites usage) longNonneg (by omega)
    simp only [longWrites] at exact ⊢
    split at exact <;> simp_all
  have isPrompt := float64_count prompt (by omega)
  have isCompletion := float64_count completion small.completion
  have isCached := float64_count cached (by omega)
  have isShort := float64_count shortNonneg (by omega)
  have isImages := float64_count images small.images
  have isAudio := float64_count audio small.audio
  have isOutputImages := float64_count outputImages small.outputImages
  have isOutputAudio := float64_count outputAudio small.outputAudio
  simp only [tokenParams, exactParams, short, long, longDouble, isPrompt, isCompletion, isCached,
    isShort, isImages, isAudio, isOutputImages, isOutputAudio]
  cases isClaude with
  | true =>
    have input := small.input
    simp only [inputLength, if_true] at input
    have sum : float64 (float64 (float64 ((usage.promptTokens : ℚ) +
        usage.promptTokensDetails.cachedTokens) + shortWrites usage) + longWrites usage) =
        usage.promptTokens + usage.promptTokensDetails.cachedTokens + shortWrites usage +
          longWrites usage := by
      have first := @float64_count
        (usage.promptTokens + usage.promptTokensDetails.cachedTokens) (by omega) (by omega)
      have second := @float64_count (usage.promptTokens + usage.promptTokensDetails.cachedTokens +
        shortWrites usage) (by omega) (by omega)
      have third := @float64_count (usage.promptTokens + usage.promptTokensDetails.cachedTokens +
        shortWrites usage + longWrites usage) (by omega) (by omega)
      push_cast at first second third
      rw [first, second, third]
    simp [sum]
  | false =>
    have fits := within.prompt rfl
    have outputFits := within.completion rfl
    have p := @foldl_exact vars
      [("cr", usage.promptTokensDetails.cachedTokens), ("cc", shortWrites usage),
        ("cc1h", longWrites usage), ("img", usage.promptTokensDetails.imageTokens),
        ("ai", usage.promptTokensDetails.audioTokens)] usage.promptTokens
      (by simp; omega) (by simp; omega) (by omega)
    have c := @foldl_exact vars
      [("img_o", usage.completionTokenDetails.imageTokens),
        ("ao", usage.completionTokenDetails.audioTokens)] usage.completionTokens
      (by simp; omega) (by simp; omega) small.completion
    simp only [List.foldl_cons, List.foldl_nil, List.map_cons, List.map_nil, List.sum_cons,
      List.sum_nil, countedTokens, add_zero, ← sub_sub] at p c
    simp only [Bool.not_false, Bool.true_and, p, c]
    simp [sub_sub, add_assoc]

/-- A report that was converted to the style of OpenAI is small with its original. -/
theorem converted_exact (report : ClaudeReport usage) (within : WithinTotals usage true)
    (small : Representable usage true) :
    tokenParams (openAIUsage { usage with }).toUsage false vars =
      exactParams (openAIUsage { usage with }).toUsage false vars := by
  obtain ⟨isWrites, written⟩ := claudeReport_writes report within
  have nonneg := within.nonneg
  have split := within.split
  have input := small.input
  have prompt := nonneg.promptTokens
  have cached := nonneg.cachedTokens
  have created := nonneg.cachedCreationTokens
  have short := nonneg.cacheCreation5m
  have long := nonneg.cacheCreation1h
  have completion := nonneg.completionTokens
  simp only [cacheWriteSplit] at split
  simp only [inputLength, if_true, isWrites] at input
  have total : cacheWrites (openAIUsage { usage with }).toUsage =
      usage.promptTokensDetails.cachedCreationTokens := by
    simp only [cacheWrites, openAIUsage, written, InputTokenDetails.cacheCreationTokensTotal]
    omega
  have smallCopy : Representable (openAIUsage { usage with }).toUsage false := by
    refine ⟨?_, small.completion, small.images, small.audio, small.outputImages,
      small.outputAudio⟩
    simp only [inputLength, openAIUsage, written, Bool.false_eq_true, if_false]
    exact input
  have withinCopy : WithinTotals (openAIUsage { usage with }).toUsage false := by
    refine ⟨?_, ?_, ?_, ?_⟩
    · exact
        { nonneg with
          promptTokens := by simp only [openAIUsage, written]; omega
          inputTokens := by simp only [openAIUsage, written]; omega
          totalTokens := by simp only [openAIUsage, written]; omega
          cacheWriteTokens := by simp only [openAIUsage, written]; omega
          cacheCreation5m := by simp only [openAIUsage, normalizeCacheCreationSplit]; omega }
    · intro _
      rw [total]
      simp only [openAIUsage, written, report.images, report.audio]
      omega
    · intro _
      simp only [openAIUsage, report.outputImages, report.outputAudio]
      omega
    · rw [total]
      simp only [cacheWriteSplit, openAIUsage, normalizeCacheCreationSplit]
      omega
  exact params_exact withinCopy smallCopy

end Params

/-- Counts that are doubles are counted once exactly if the cache writes in the semantics of
Claude are split, and if those of a report that is compared with its other style have the short
lifetime. -/
theorem countedOnce_iff {usage : Usage} {isClaude : Bool} {vars : String → Bool}
    (within : WithinTotals usage isClaude) (small : Representable usage isClaude) :
    CountedOnce usage isClaude vars ↔
      (usage.usageSemantic = "anthropic" → cacheWrites usage ≤ cacheWriteSplit usage) ∧
      (ClaudeReport usage → isClaude = true → usesCacheVars vars →
        cacheWrites usage ≤ usage.claudeCacheCreation5mTokens) := by
  have below := classedWrites_le within
  have exact : ∀ {vars}, tokenParams usage isClaude vars = exactParams usage isClaude vars :=
    params_exact within small
  constructor
  · intro counted
    refine ⟨?_, ?_⟩
    · intro semantic
      have writes := counted.writes
      rw [exact, writes_eq, classedWrites, if_pos semantic] at writes
      exact_mod_cast writes
    · rintro report rfl uses
      have styles := counted.styles report rfl uses
      rw [exact, converted_exact report within small] at styles
      exact (styles_iff report within uses).mp styles
  · rintro ⟨split, short⟩
    have covered : classedWrites usage = cacheWrites usage := by
      apply le_antisymm below
      simp only [classedWrites]
      by_cases semantic : usage.usageSemantic = "anthropic"
      · rw [if_pos semantic]
        exact split semantic
      · rw [if_neg semantic]
    exact
      { remainders := by
          rw [exact]
          exact remainders_nonneg
        prompt := by
          rintro rfl
          rw [exact]
          exact prompt_eq within
        completion := by
          rintro rfl
          rw [exact]
          exact completion_eq within
        claudeInput := by
          rintro rfl _ _ _
          have classes := @writes_eq usage true vars
          rw [covered] at classes
          rw [exact, claude_p within, add_assoc, classes]
          rfl
        writes := by rw [exact, writes_eq, covered]
        length := by
          rw [exact, length_eq, covered]
          split <;> push_cast <;> rfl
        independent := by
          intro _
          rw [exact, exact, length_eq, length_eq]
        styles := by
          rintro report rfl uses
          rw [exact, converted_exact report within small]
          exact (styles_iff report within uses).mpr (short report rfl uses) }

/-- 100 tokens beside 50 that were written to the cache, for five minutes. -/
def splitReport : Usage :=
  { promptTokens := 100, completionTokens := 5, totalTokens := 105
    usageSemantic := "anthropic"
    promptTokensDetails := { cachedCreationTokens := 50 }
    claudeCacheCreation5mTokens := 50 }

theorem countedOnce_splitReport : CountedOnce splitReport true fun _ => true :=
  (countedOnce_iff ⟨by constructor <;> decide, by simp, by simp, by decide⟩
    (by constructor <;> decide)).mpr
    ⟨fun _ => by decide, fun _ _ _ => by decide⟩

/-- Without the split the written tokens are in no class. -/
theorem unsplit_writes_dropped :
    ¬CountedOnce { splitReport with claudeCacheCreation5mTokens := 0 } true fun _ => true := by
  intro counted
  have writes := counted.writes
  revert writes
  decide +kernel

end NewApi.Billing
