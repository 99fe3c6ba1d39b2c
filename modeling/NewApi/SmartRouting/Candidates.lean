import Mathlib.Algebra.Order.Field.Basic
import Mathlib.Data.List.Infix
import Mathlib.Tactic.Linarith
import NewApi.SmartRouting.RuntimeHealth

/-!
# Candidates of smart routing

A candidate is a model on a channel. `smart_routing.go` rejects those that cannot serve the
request and scores the others by ten factors. Scores are exact rationals.
-/

namespace SmartRouting

/-! ## Requests -/

/-- The kinds of files in a request. -/
inductive FileType where
  | image
  | audio
  | video
  | file
deriving DecidableEq

/-- The fields of `TokenCountMeta` that scores read. An absent entry is a nil pointer. -/
structure TokenCountMeta where
  combineText : String
  files : List (Option FileType)
  maxTokens : ℤ

/-- What the context of a conversation demands of its route. -/
structure ContextRoutingConstraint where
  validationMode : String
  switchAllowed : Bool

/-- `SmartRouteRequest`: what a request needs of a channel. -/
structure SmartRouteRequest where
  originalModel : String
  stream : Bool
  (maxOutputTokens contextTokensRequired : ℤ)
  hasTools : Bool
  toolCount : ℤ
  (requiresJSONSchema hasImages hasAudio hasFiles reasoningRequested requiresReliability : Bool)
  tokenMeta : Option TokenCountMeta
  contextConstraint : ContextRoutingConstraint

/-- How hard a request is taken to be. -/
inductive TaskComplexity where
  | simple
  | standard
  | complex
  | critical

/-- What a request is taken to be about. -/
inductive TaskType where
  | general
  | translation
  | coding
  | reasoning
  | analysis
  | creative
deriving DecidableEq

/-- The tiers of models. -/
inductive ModelQualityTier where
  | economy
  | standard
  | premium
  | reasoning
  | unknown (name : String)
deriving DecidableEq

/-- What a route is chosen by. -/
inductive RoutePolicy where
  | costFirst
  | balanced
  | qualityFirst
  | latencyFirst
  | reliabilityFirst
  | unknown (name : String)

/-- The factors of a score, each normalized. -/
structure ScoreFactors where
  (cost reliability latency throughput quality taskMatch context cache resetWindow affinity : ℚ)
deriving DecidableEq

/-- A candidate without a health state is one that has not been looked up. -/
structure SmartRouteCandidate where
  modelName : String
  channelID : ℤ
  group : String
  qualityTier : ModelQualityTier
  maxContextTokens : ℤ
  (supportsTools supportsJSONSchema supportsVision supportsAudio supportsFiles : Bool)
  (supportsReasoning supportsStream : Bool)
  estimatedQuota : ℤ
  (reliability latencyScore throughputScore qualityScore codingScore reasoningScore speedScore : ℚ)
  (contextScore preferenceScore affinityScore cacheAffinityScore resetWindowScore : ℚ)
  healthState : Option ChannelHealthState
  hardUnavailable : Bool
  finalScore : ℚ
  scoreFactors : ScoreFactors
deriving DecidableEq

/-- What the analysis of a request recommends. -/
structure SmartRouteAnalysis where
  taskComplexity : TaskComplexity
  taskType : TaskType
  recommendedTier : ModelQualityTier

/-! ## Analysis of the request -/

def contains (text term : String) : Bool :=
  decide (term.toList <:+: text.toList)

section Analysis

variable (toLower : String → String)

def normalizedCombinedText : Option TokenCountMeta → String
  | none => ""
  | some details => toLower (Text.trimSpace details.combineText)

def containsAny (text : String) (terms : List String) : Bool :=
  terms.any fun term => contains text (toLower term)

def hasFileType (tokenMeta : Option TokenCountMeta) (fileType : FileType) : Bool :=
  match tokenMeta with
  | none => false
  | some details => details.files.any (· = some fileType)

def isSimpleRewriteOrTranslation (text : String) : Bool :=
  if text = "" then false
  else containsAny toLower text
    ["翻译", "translate", "改写", "rewrite", "润色", "polish", "格式调整", "format"]

def isCodingTaskText (text : String) : Bool :=
  containsAny toLower text ["代码", "code", "debug", "调试", "迁移", "migration", "架构", "schema"]

def taskScoreParts (req : SmartRouteRequest) : List (Bool × ℤ × String) :=
  let text := normalizedCombinedText toLower req.tokenMeta
  [(isSimpleRewriteOrTranslation toLower text, -2, "simple_rewrite_or_translation"),
    (req.hasTools || decide (req.toolCount > 0), 3 + min req.toolCount 3, "tools_required"),
    (req.requiresJSONSchema, 3, "json_schema_required"),
    (req.hasImages || hasFileType req.tokenMeta .image, 3, "vision_required"),
    (req.hasAudio || hasFileType req.tokenMeta .audio, 2, "audio_required"),
    (req.hasFiles || hasFileType req.tokenMeta .file, 2, "files_required"),
    (req.reasoningRequested || contains text "reasoning" || contains text "推理", 3,
      "reasoning_requested"),
    (containsAny toLower text ["代码", "code", "debug", "调试", "迁移", "migration", "架构", "方案",
      "多步骤", "multi-step", "schema"], 2, "complex_task_terms"),
    (containsAny toLower text ["证明", "prove", "数学", "math", "定理", "theorem", "根因",
      "root cause"], 2, "deep_analysis_terms"),
    (decide (req.maxOutputTokens ≥ 4096) ||
      req.tokenMeta.any (fun details => decide (details.maxTokens ≥ 4096)), 1,
      "large_output_budget"),
    (req.requiresReliability, 4, "high_reliability_required")]

def scoreTaskComplexity (req : SmartRouteRequest) : ℤ × List String :=
  let parts := (taskScoreParts toLower req).filter (·.1)
  let score := (parts.map (·.2.1)).sum
  (if score < 0 then 0 else score, parts.map (·.2.2))

def classifyTaskComplexity (score : ℤ) (requiresReliability : Bool) : TaskComplexity :=
  if requiresReliability || decide (score ≥ 9) then .critical
  else if score ≥ 6 then .complex
  else if score ≥ 2 then .standard
  else .simple

def classifyTaskType (req : SmartRouteRequest) : TaskType :=
  let text := normalizedCombinedText toLower req.tokenMeta
  if isSimpleRewriteOrTranslation toLower text && containsAny toLower text ["翻译", "translate"] then
    .translation
  else if req.reasoningRequested ||
      containsAny toLower text ["reasoning", "推理", "证明", "prove", "定理", "theorem"] then
    .reasoning
  else if isCodingTaskText toLower text then .coding
  else if containsAny toLower text
      ["分析", "analysis", "比较", "compare", "评估", "evaluate", "根因", "root cause"] then
    .analysis
  else if containsAny toLower text
      ["创作", "creative", "故事", "story", "文案", "copywriting", "诗", "poem"] then
    .creative
  else .general

def recommendedTier (complexity : TaskComplexity) (taskType : TaskType)
    (req : SmartRouteRequest) : ModelQualityTier :=
  if taskType = .reasoning ∨ req.reasoningRequested = true then .reasoning
  else
    let tier : ModelQualityTier :=
      match complexity with
      | .critical | .complex => .premium
      | .standard => .standard
      | .simple => .economy
    if (req.hasTools ∨ req.toolCount > 0 ∨ req.requiresJSONSchema) ∧
        tier = .economy then .standard
    else tier

def analyzeRequest (req : SmartRouteRequest) : SmartRouteAnalysis :=
  let complexity := classifyTaskComplexity (scoreTaskComplexity toLower req).1
    req.requiresReliability
  let taskType := classifyTaskType toLower req
  { taskComplexity := complexity
    taskType := taskType
    recommendedTier := recommendedTier complexity taskType req }

end Analysis

/-! ## Rejection -/

def rejectCandidate (req : SmartRouteRequest) (cand : SmartRouteCandidate)
    (skipEstimatedContextLimit : Bool) : List String :=
  (if cand.hardUnavailable then ["channel_hard_unavailable"]
    else if cand.healthState = some .circuitOpen then ["channel_health_open"] else []) ++
  (if req.contextConstraint.validationMode ≠ "" ∧
      req.contextConstraint.switchAllowed = false ∧
      cand.modelName ≠ req.originalModel then ["context_state_switch_not_allowed"]
    else []) ++
  (if skipEstimatedContextLimit = false ∧ req.contextTokensRequired > 0 ∧
      cand.maxContextTokens > 0 ∧
      req.contextTokensRequired > cand.maxContextTokens then ["context_too_small"]
    else []) ++
  (if req.stream && !cand.supportsStream then ["stream_not_supported"] else []) ++
  (if (req.hasTools || decide (req.toolCount > 0)) && !cand.supportsTools then
      ["tools_not_supported"]
    else []) ++
  (if req.requiresJSONSchema && !cand.supportsJSONSchema then
      ["json_schema_not_supported"]
    else []) ++
  (if req.hasImages && !cand.supportsVision then ["vision_not_supported"] else []) ++
  (if req.hasAudio && !cand.supportsAudio then ["audio_not_supported"] else []) ++
  (if req.hasFiles && !cand.supportsFiles then ["files_not_supported"] else []) ++
  (if req.reasoningRequested && !cand.supportsReasoning then
      ["reasoning_not_supported"]
    else [])

/-! ## Scores -/

def maxEstimatedQuota (cands : List SmartRouteCandidate) : ℤ :=
  cands.foldl (fun maxQuota cand =>
    if cand.estimatedQuota > maxQuota then cand.estimatedQuota else maxQuota) 0

def costScore (estimatedQuota maxQuota : ℤ) : ℚ :=
  if estimatedQuota ≤ 0 then 1
  else if maxQuota ≤ 0 then 1
  else normalizeScore (1 - estimatedQuota / maxQuota)

def candidateLatencyFactor (cand : SmartRouteCandidate) : ℚ :=
  if cand.speedScore > 0 then normalizeScore cand.speedScore
  else normalizeScore cand.latencyScore

def candidateQualityFactor (toLower : String → String) (req : SmartRouteRequest)
    (cand : SmartRouteCandidate) : ℚ :=
  let text := normalizedCombinedText toLower req.tokenMeta
  let quality := cand.qualityScore
  let quality :=
    if isCodingTaskText toLower text = true ∧ cand.codingScore > 0 then cand.codingScore
    else quality
  let quality :=
    if (req.reasoningRequested || contains text "reasoning" || contains text "推理") = true ∧
        cand.reasoningScore > 0 then cand.reasoningScore
    else quality
  let quality :=
    if cand.contextScore > 0 ∧ (req.contextTokensRequired ≥ 32000 ∨
        req.contextTokensRequired > cand.maxContextTokens.tdiv 2) then
      quality * (3 / 4) + cand.contextScore * (1 / 4)
    else quality
  let quality :=
    if cand.preferenceScore > 0 ∧ quality = 0 then cand.preferenceScore else quality
  normalizeScore quality

def tierOrder : ModelQualityTier → Option ℤ
  | .economy => some 0
  | .standard => some 1
  | .premium => some 2
  | .reasoning => some 3
  | .unknown _ => none

def qualityTierMatchScore (recommended actual : ModelQualityTier) : ℚ :=
  if recommended = actual then 1
  else
    match tierOrder recommended, tierOrder actual with
    | some recommendedOrder, some actualOrder =>
      if |recommendedOrder - actualOrder| = 1 then 7 / 10 else 35 / 100
    | _, _ => 1 / 2

def candidateTaskMatchFactor (analysis : SmartRouteAnalysis) (cand : SmartRouteCandidate) :
    ℚ :=
  let specialtyScore : ℚ :=
    match analysis.taskType with
    | .coding => if cand.codingScore > 0 then cand.codingScore else 1 / 2
    | .reasoning =>
      if cand.reasoningScore > 0 then cand.reasoningScore
      else if cand.supportsReasoning then 8 / 10
      else 1 / 2
    | .analysis => if cand.reasoningScore > 0 then cand.reasoningScore else 1 / 2
    | _ => 1 / 2
  let tierScore := qualityTierMatchScore analysis.recommendedTier cand.qualityTier
  normalizeScore (specialtyScore * (1 / 2) + tierScore * (1 / 2))

def candidateContextFactor (req : SmartRouteRequest) (cand : SmartRouteCandidate) : ℚ :=
  let requiredTokens := req.contextTokensRequired
  if requiredTokens ≤ 0 then
    if cand.contextScore > 0 then normalizeScore cand.contextScore else 1 / 2
  else if cand.maxContextTokens ≤ 0 then 1 / 2
  else if requiredTokens ≥ cand.maxContextTokens then 0
  else
    let headroom : ℚ := 1 - requiredTokens / cand.maxContextTokens
    let headroom :=
      if cand.contextScore > 0 then
        headroom * (3 / 4) + normalizeScore cand.contextScore * (1 / 4)
      else headroom
    normalizeScore headroom

def buildScoreFactors (toLower : String → String) (req : SmartRouteRequest)
    (analysis : SmartRouteAnalysis) (cand : SmartRouteCandidate) (maxQuota : ℤ) :
    ScoreFactors where
  cost := costScore cand.estimatedQuota maxQuota
  reliability := normalizeScore cand.reliability
  latency := candidateLatencyFactor cand
  throughput := normalizeScore cand.throughputScore
  quality := candidateQualityFactor toLower req cand
  taskMatch := candidateTaskMatchFactor analysis cand
  context := candidateContextFactor req cand
  cache := normalizeScore cand.cacheAffinityScore
  resetWindow := normalizeScore cand.resetWindowScore
  affinity := normalizeScore cand.affinityScore

def balancedWeights : ScoreFactors :=
  ⟨18 / 100, 20 / 100, 15 / 100, 5 / 100, 12 / 100, 12 / 100, 6 / 100, 4 / 100, 3 / 100, 5 / 100⟩

/-- The weights, in hundredths: cost, reliability, latency, throughput, quality, task match,
context, cache, reset window, affinity. -/
def routePolicyWeights : RoutePolicy → ScoreFactors
  | .costFirst =>
    ⟨40 / 100, 15 / 100, 10 / 100, 4 / 100, 5 / 100, 8 / 100, 5 / 100, 4 / 100, 4 / 100, 5 / 100⟩
  | .balanced => balancedWeights
  | .qualityFirst =>
    ⟨7 / 100, 18 / 100, 7 / 100, 4 / 100, 25 / 100, 20 / 100, 7 / 100, 3 / 100, 3 / 100, 6 / 100⟩
  | .latencyFirst =>
    ⟨10 / 100, 17 / 100, 30 / 100, 8 / 100, 5 / 100, 9 / 100, 5 / 100, 6 / 100, 4 / 100, 6 / 100⟩
  | .reliabilityFirst =>
    ⟨6 / 100, 32 / 100, 10 / 100, 5 / 100, 8 / 100, 10 / 100, 5 / 100, 6 / 100, 8 / 100, 10 / 100⟩
  | .unknown _ => balancedWeights

def weightedScore (factors : ScoreFactors) (policy : RoutePolicy) : ℚ :=
  let weights := routePolicyWeights policy
  factors.cost * weights.cost + factors.reliability * weights.reliability +
    factors.latency * weights.latency +
    factors.throughput * weights.throughput +
    factors.quality * weights.quality +
    factors.taskMatch * weights.taskMatch +
    factors.context * weights.context +
    factors.cache * weights.cache +
    factors.resetWindow * weights.resetWindow +
    factors.affinity * weights.affinity

/-! ## Properties of scores -/

theorem maxEstimatedQuota_eq_foldl_max (cands : List SmartRouteCandidate) :
    maxEstimatedQuota cands = (cands.map (·.estimatedQuota)).foldl max 0 := by
  rw [List.foldl_map, maxEstimatedQuota]
  congr
  funext maxQuota cand
  split <;> omega

theorem maxEstimatedQuota_perm {cands reordered : List SmartRouteCandidate}
    (perm : reordered.Perm cands) :
    maxEstimatedQuota reordered = maxEstimatedQuota cands := by
  rw [maxEstimatedQuota_eq_foldl_max, maxEstimatedQuota_eq_foldl_max]
  apply (perm.map _).foldl_eq'
  intro first _ second _ maxQuota
  exact max_right_comm _ _ _

theorem le_foldl_max (quotas : List ℤ) (start : ℤ) :
    start ≤ quotas.foldl max start ∧ ∀ quota ∈ quotas, quota ≤ quotas.foldl max start := by
  induction quotas generalizing start with
  | nil => simp
  | cons first _ ih =>
    rcases ih (max start first) with ⟨startLe, restLe⟩
    refine ⟨(le_max_left _ _).trans startLe, ?_⟩
    intro quota mem
    rcases List.mem_cons.mp mem with rfl | mem
    · exact (le_max_right _ _).trans startLe
    · exact restLe quota mem

theorem le_maxEstimatedQuota {cands : List SmartRouteCandidate}
    {cand : SmartRouteCandidate} (mem : cand ∈ cands) :
    cand.estimatedQuota ≤ maxEstimatedQuota cands := by
  rw [maxEstimatedQuota_eq_foldl_max]
  exact (le_foldl_max _ 0).2 _ (List.mem_map_of_mem mem)

theorem costScore_inj {quota maxQuota other : ℤ} (pos : 0 < quota) (le : quota ≤ maxQuota)
    (otherLe : quota ≤ other) :
    costScore quota maxQuota = costScore quota other ↔ maxQuota = other := by
  have score : ∀ {bound : ℤ}, quota ≤ bound →
      costScore quota bound = 1 - (quota : ℚ) / bound := by
    intro bound below
    have positiveBound : (0 : ℚ) < bound := by exact_mod_cast pos.trans_le below
    have atMostOne : (quota : ℚ) / bound ≤ 1 := by
      rw [div_le_one positiveBound]
      exact_mod_cast below
    have nonneg : 0 ≤ (quota : ℚ) / bound := by
      apply div_nonneg _ positiveBound.le
      exact_mod_cast pos.le
    rw [costScore, if_neg (not_le.mpr pos), if_neg (by omega), normalizeScore,
      if_neg (by linarith), if_neg (by linarith)]
  rw [score le, score otherLe]
  have quotaNe : (quota : ℚ) ≠ 0 := by exact_mod_cast pos.ne'
  constructor
  · intro _
    have fractions : (quota : ℚ) / maxQuota = quota / other := by linarith
    rw [div_eq_mul_inv, div_eq_mul_inv] at fractions
    have inverses := inv_injective (mul_left_cancel₀ quotaNe fractions)
    exact_mod_cast inverses
  · rintro rfl
    rfl

end SmartRouting
