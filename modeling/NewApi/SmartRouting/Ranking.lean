import Mathlib.Data.Prod.Lex
import NewApi.Library.StableSort
import NewApi.SmartRouting.Candidates

/-!
# Ranking of candidates

`rankCandidates` rejects the candidates that cannot serve the request and sorts the others by
score, estimated quota and channel.
-/

namespace SmartRouting

/-! ## Reasons -/

/-- Why a candidate is rejected. -/
inductive RejectionReason where
  | channelHardUnavailable
  | channelHealthOpen
  | contextStateSwitchNotAllowed
  | contextTooSmall
  | streamNotSupported
  | toolsNotSupported
  | jsonSchemaNotSupported
  | visionNotSupported
  | audioNotSupported
  | filesNotSupported
  | reasoningNotSupported
deriving DecidableEq

namespace RejectionReason

def code : RejectionReason → String
  | channelHardUnavailable => "channel_hard_unavailable"
  | channelHealthOpen => "channel_health_open"
  | contextStateSwitchNotAllowed => "context_state_switch_not_allowed"
  | contextTooSmall => "context_too_small"
  | streamNotSupported => "stream_not_supported"
  | toolsNotSupported => "tools_not_supported"
  | jsonSchemaNotSupported => "json_schema_not_supported"
  | visionNotSupported => "vision_not_supported"
  | audioNotSupported => "audio_not_supported"
  | filesNotSupported => "files_not_supported"
  | reasoningNotSupported => "reasoning_not_supported"

/-- When a reason applies to a candidate. A channel that is unavailable has no health to look at,
and `skipLimit` leaves the inferred context window to a later check. -/
def Applies (req : SmartRouteRequest) (cand : SmartRouteCandidate) (skipLimit : Bool) :
    RejectionReason → Prop
  | channelHardUnavailable => cand.hardUnavailable = true
  | channelHealthOpen =>
    cand.hardUnavailable = false ∧ cand.healthState = some .circuitOpen
  | contextStateSwitchNotAllowed =>
    req.contextConstraint.validationMode ≠ "" ∧
      req.contextConstraint.switchAllowed = false ∧
      cand.modelName ≠ req.originalModel
  | contextTooSmall =>
    skipLimit = false ∧ 0 < req.contextTokensRequired ∧ 0 < cand.maxContextTokens ∧
      cand.maxContextTokens < req.contextTokensRequired
  | streamNotSupported => req.stream = true ∧ cand.supportsStream = false
  | toolsNotSupported =>
    (req.hasTools = true ∨ 0 < req.toolCount) ∧ cand.supportsTools = false
  | jsonSchemaNotSupported =>
    req.requiresJSONSchema = true ∧ cand.supportsJSONSchema = false
  | visionNotSupported => req.hasImages = true ∧ cand.supportsVision = false
  | audioNotSupported => req.hasAudio = true ∧ cand.supportsAudio = false
  | filesNotSupported => req.hasFiles = true ∧ cand.supportsFiles = false
  | reasoningNotSupported =>
    req.reasoningRequested = true ∧ cand.supportsReasoning = false

instance (req : SmartRouteRequest) (cand : SmartRouteCandidate) (skipLimit : Bool) :
    DecidablePred (Applies req cand skipLimit) := fun reason => by
  cases reason <;> dsimp only [Applies] <;> infer_instance

def all : List RejectionReason :=
  [channelHardUnavailable, channelHealthOpen, contextStateSwitchNotAllowed, contextTooSmall,
    streamNotSupported, toolsNotSupported, jsonSchemaNotSupported, visionNotSupported,
    audioNotSupported, filesNotSupported, reasoningNotSupported]

theorem mem_all (reason : RejectionReason) : reason ∈ all := by
  cases reason <;> decide

theorem code_injective : Function.Injective code := by
  intro reason other same
  cases reason <;> cases other <;> first | rfl | exact absurd same (by decide)

end RejectionReason

section Reasons

variable {req : SmartRouteRequest} {cand : SmartRouteCandidate} {skipLimit : Bool}

theorem map_filter_cons {α β : Type*} (f : α → β) (p : α → Prop) [DecidablePred p] (first : α)
    (rest : List α) :
    ((first :: rest).filter (p ·)).map f =
      (if p first then [f first] else []) ++ (rest.filter (p ·)).map f := by
  by_cases holds : p first
  · simp [holds]
  · simp [holds]

theorem rejectCandidate_eq :
    rejectCandidate req cand skipLimit = (RejectionReason.all.filter
        fun reason => decide (reason.Applies req cand skipLimit)).map
          RejectionReason.code := by
  rw [RejectionReason.all]
  iterate 11 rw [map_filter_cons]
  simp only [RejectionReason.Applies, RejectionReason.code, rejectCandidate, List.filter_nil,
    List.map_nil, List.append_nil, List.append_assoc, decide_eq_true_eq, Bool.and_eq_true,
    Bool.or_eq_true, Bool.not_eq_true', gt_iff_lt]
  by_cases unavailable : cand.hardUnavailable = true
  · simp [unavailable]
  · simp [unavailable]

theorem mem_rejectCandidate_iff {code : String} :
    code ∈ rejectCandidate req cand skipLimit ↔
      ∃ reason : RejectionReason, reason.Applies req cand skipLimit ∧ reason.code = code := by
  simp only [rejectCandidate_eq, List.mem_map, List.mem_filter, RejectionReason.mem_all, true_and,
    decide_eq_true_eq]

theorem rejectCandidate_nodup : (rejectCandidate req cand skipLimit).Nodup := by
  rw [rejectCandidate_eq]
  apply List.Nodup.map RejectionReason.code_injective
  exact List.Nodup.filter _ (by decide)

theorem rejectCandidate_eq_nil_iff :
    rejectCandidate req cand skipLimit = [] ↔
      ∀ reason : RejectionReason, ¬reason.Applies req cand skipLimit := by
  simp only [rejectCandidate_eq, List.map_eq_nil_iff, List.filter_eq_nil_iff,
    RejectionReason.mem_all, true_imp_iff, decide_eq_true_eq]

end Reasons

/-! ## Ranking -/

/-- A rejected candidate with all of its reasons. -/
structure CandidateRejection where
  candidate : SmartRouteCandidate
  reasons : List String

section Ranking

variable (toLower : String → String) (req : SmartRouteRequest) (policy : RoutePolicy)
  (skipLimit : Bool)

/-- A candidate with its factors and its score, against the largest quota. -/
def scored (maxQuota : ℤ) (cand : SmartRouteCandidate) : SmartRouteCandidate :=
  let factors := buildScoreFactors toLower req (analyzeRequest toLower req) cand maxQuota
  { cand with scoreFactors := factors, finalScore := weightedScore factors policy }

def precedes (left right : SmartRouteCandidate) : Bool :=
  if left.finalScore = right.finalScore then
    if left.estimatedQuota = right.estimatedQuota then decide (left.channelID < right.channelID)
    else decide (left.estimatedQuota < right.estimatedQuota)
  else decide (left.finalScore > right.finalScore)

def rankStep (maxQuota : ℤ) (lists : List SmartRouteCandidate × List CandidateRejection)
    (cand : SmartRouteCandidate) : List SmartRouteCandidate × List CandidateRejection :=
  let reasons := rejectCandidate req cand skipLimit
  if reasons.length > 0 then (lists.1, lists.2 ++ [⟨cand, reasons⟩])
  else (lists.1 ++ [scored toLower req policy maxQuota cand], lists.2)

def rankCandidates (cands : List SmartRouteCandidate) :
    List SmartRouteCandidate × List CandidateRejection :=
  if cands.length = 0 then ([], [])
  else
    let lists := cands.foldl
      (rankStep toLower req policy skipLimit (maxEstimatedQuota cands)) ([], [])
    (StableSort.sliceStable precedes lists.1, lists.2)

/-- The candidates that are not rejected. -/
def takenOf (cands : List SmartRouteCandidate) : List SmartRouteCandidate :=
  cands.filter fun cand => (rejectCandidate req cand skipLimit).length = 0

/-- The accepted candidates with their scores, in the order of the input. -/
def scoredOf (cands : List SmartRouteCandidate) : List SmartRouteCandidate :=
  (takenOf req skipLimit cands).map (scored toLower req policy (maxEstimatedQuota cands))

/-- The rejected candidates with their reasons, in the order of the input. -/
def rejectionsOf (cands : List SmartRouteCandidate) : List CandidateRejection :=
  (cands.filter fun cand =>
    (rejectCandidate req cand skipLimit).length > 0).map
      fun cand => ⟨cand, rejectCandidate req cand skipLimit⟩

def rankKey (cand : SmartRouteCandidate) : ℚᵒᵈ ×ₗ ℤ ×ₗ ℤ :=
  toLex (OrderDual.toDual cand.finalScore, toLex (cand.estimatedQuota, cand.channelID))

theorem precedes_eq (left right : SmartRouteCandidate) :
    precedes left right = decide (rankKey left < rankKey right) := by
  rw [Bool.eq_iff_iff]
  simp only [precedes, rankKey, Prod.Lex.toLex_lt_toLex, OrderDual.toDual_lt_toDual,
    OrderDual.toDual_inj, decide_eq_true_eq]
  split
  next sameScore =>
    simp only [sameScore, lt_irrefl, false_or, true_and]
    split
    next sameQuota => simp [sameQuota]
    next otherQuota => simp [otherQuota]
  next otherScore => simp [otherScore]

theorem foldl_rankStep (maxQuota : ℤ) (cands : List SmartRouteCandidate)
    (lists : List SmartRouteCandidate × List CandidateRejection) :
    cands.foldl (rankStep toLower req policy skipLimit maxQuota) lists =
      (lists.1 ++ (takenOf req skipLimit cands).map (scored toLower req policy maxQuota),
        lists.2 ++ rejectionsOf req skipLimit cands) := by
  induction cands generalizing lists with
  | nil => simp [takenOf, rejectionsOf]
  | cons cand _ ih =>
    rw [List.foldl_cons, ih]
    by_cases rejected : (rejectCandidate req cand skipLimit).length > 0
    · have kept : ¬(rejectCandidate req cand skipLimit).length = 0 := by omega
      simp only [rankStep, takenOf, rejectionsOf, List.filter_cons, rejected, kept, if_true,
        decide_true, decide_false, Bool.false_eq_true, if_false, List.map_cons,
        List.append_assoc, List.singleton_append]
    · have kept : (rejectCandidate req cand skipLimit).length = 0 := by omega
      simp only [rankStep, takenOf, rejectionsOf, List.filter_cons, kept, gt_iff_lt,
        lt_self_iff_false, if_true, decide_true, decide_false, Bool.false_eq_true, if_false,
        List.map_cons, List.append_assoc, List.singleton_append]

theorem rankCandidates_eq (cands : List SmartRouteCandidate) :
    rankCandidates toLower req policy skipLimit cands =
      (StableSort.sortBy rankKey (scoredOf toLower req policy skipLimit cands),
        rejectionsOf req skipLimit cands) := by
  cases cands with
  | nil => rfl
  | cons first rest =>
    have filled : (first :: rest).length ≠ 0 := by simp
    simp only [rankCandidates, if_neg filled, foldl_rankStep, List.nil_append,
      StableSort.sliceStable_eq rankKey precedes_eq]
    rfl

/-- The ranks of two accepted candidates, of which the first stands before the second. -/
def RankedBefore (first second : SmartRouteCandidate) : Prop :=
  second.finalScore < first.finalScore ∨
    first.finalScore = second.finalScore ∧ (first.estimatedQuota < second.estimatedQuota ∨
      first.estimatedQuota = second.estimatedQuota ∧ first.channelID ≤ second.channelID)

theorem rankKey_le_iff (first second : SmartRouteCandidate) :
    rankKey first ≤ rankKey second ↔ RankedBefore first second := by
  simp only [rankKey, RankedBefore, Prod.Lex.toLex_le_toLex, OrderDual.toDual_lt_toDual,
    OrderDual.toDual_inj]

def tiedAt (cands : List SmartRouteCandidate) (rank : ℚᵒᵈ ×ₗ ℤ ×ₗ ℤ) :
    List SmartRouteCandidate :=
  (scoredOf toLower req policy skipLimit cands).filter (rankKey · = rank)

/-- Every candidate is accepted without a reason or rejected with all of its reasons, and the
accepted ones are sorted. Without some of the rejected candidates, the others are ranked as before
exactly when the largest quota remains or no accepted candidate has a positive quota. In another
order, they are ranked as before exactly when those of one rank come as before. -/
structure Ranks (cands : List SmartRouteCandidate) : Prop where
  partition : ∃ taken : List SmartRouteCandidate,
    (taken ++ (rankCandidates toLower req policy skipLimit cands).2.map (·.candidate)).Perm cands ∧
    (rankCandidates toLower req policy skipLimit cands).1.Perm
      (taken.map (scored toLower req policy (maxEstimatedQuota cands))) ∧
    ∀ cand ∈ taken, ∀ reason : RejectionReason, ¬reason.Applies req cand skipLimit
  rejected : ∀ rejection ∈ (rankCandidates toLower req policy skipLimit cands).2,
    rejection.reasons ≠ [] ∧ rejection.reasons.Nodup ∧
      ∀ code, code ∈ rejection.reasons ↔ ∃ reason : RejectionReason,
        reason.Applies req rejection.candidate skipLimit ∧ reason.code = code
  sorted : (rankCandidates toLower req policy skipLimit cands).1.Pairwise RankedBefore
  removal : ∀ kept : List SmartRouteCandidate, kept.Sublist cands →
    takenOf req skipLimit kept = takenOf req skipLimit cands →
      ((rankCandidates toLower req policy skipLimit kept).1 =
          (rankCandidates toLower req policy skipLimit cands).1 ↔
        maxEstimatedQuota kept = maxEstimatedQuota cands ∨
          ∀ cand ∈ takenOf req skipLimit cands, cand.estimatedQuota ≤ 0)
  reordering : ∀ reordered : List SmartRouteCandidate, reordered.Perm cands →
    (rankCandidates toLower req policy skipLimit reordered).1.Perm
        (rankCandidates toLower req policy skipLimit cands).1 ∧
      ((rankCandidates toLower req policy skipLimit reordered).1 =
          (rankCandidates toLower req policy skipLimit cands).1 ↔
        ∀ rank, tiedAt toLower req policy skipLimit reordered rank =
          tiedAt toLower req policy skipLimit cands rank)

variable {toLower req policy skipLimit} {cands kept : List SmartRouteCandidate}

variable {cand : SmartRouteCandidate}

theorem not_applies_of_taken (mem : cand ∈ takenOf req skipLimit cands) (reason : RejectionReason) :
    ¬reason.Applies req cand skipLimit := by
  have none := (List.mem_filter.mp mem).2
  rw [decide_eq_true_eq, List.length_eq_zero_iff, rejectCandidate_eq_nil_iff] at none
  exact none reason

theorem taken_append_rejected_perm :
    (takenOf req skipLimit cands ++
      (rejectionsOf req skipLimit cands).map (·.candidate)).Perm cands := by
  have rejected : (rejectionsOf req skipLimit cands).map (·.candidate) = cands.filter fun cand =>
        !decide ((rejectCandidate req cand skipLimit).length = 0) := by
    simp only [rejectionsOf, List.map_map, Function.comp_def, List.map_id']
    congr 1
    funext cand
    simp only [gt_iff_lt, Nat.pos_iff_ne_zero, ne_eq, decide_not]
  rw [rejected]
  exact List.filter_append_perm _ cands

theorem mem_rejectionsOf {rejection : CandidateRejection}
    (mem : rejection ∈ rejectionsOf req skipLimit cands) :
    rejection.reasons = rejectCandidate req rejection.candidate skipLimit ∧
      rejection.reasons ≠ [] := by
  rcases List.mem_map.mp mem with ⟨_, candidateMem, rfl⟩
  refine ⟨rfl, ?_⟩
  have some := (List.mem_filter.mp candidateMem).2
  rw [decide_eq_true_eq] at some
  exact List.ne_nil_of_length_pos some

theorem eq_of_scored_eq {maxQuota other : ℤ} {same : SmartRouteCandidate}
    (equal : scored toLower req policy maxQuota cand = scored toLower req policy other same)
    (pos : 0 < cand.estimatedQuota) (le : cand.estimatedQuota ≤ maxQuota)
    (otherLe : same.estimatedQuota ≤ other) : maxQuota = other := by
  have sameQuota : cand.estimatedQuota = same.estimatedQuota := by
    have quotas := congrArg SmartRouteCandidate.estimatedQuota equal
    exact quotas
  have sameCost : costScore cand.estimatedQuota maxQuota = costScore same.estimatedQuota other := by
    have costs := congrArg (fun scored => scored.scoreFactors.cost) equal
    exact costs
  rw [← sameQuota] at sameCost otherLe
  exact (costScore_inj pos le otherLe).mp sameCost

theorem scored_of_nonpos (maxQuota other : ℤ) (nonpos : cand.estimatedQuota ≤ 0) :
    scored toLower req policy maxQuota cand = scored toLower req policy other cand := by
  have sameCost : costScore cand.estimatedQuota maxQuota = costScore cand.estimatedQuota other := by
    rw [costScore, costScore, if_pos nonpos, if_pos nonpos]
  simp only [scored, buildScoreFactors, sameCost]

theorem le_max_of_taken (mem : cand ∈ takenOf req skipLimit cands) :
    cand.estimatedQuota ≤ maxEstimatedQuota cands :=
  le_maxEstimatedQuota (List.mem_of_mem_filter mem)

theorem removal_iff (sameTaken : takenOf req skipLimit kept = takenOf req skipLimit cands) :
    (rankCandidates toLower req policy skipLimit kept).1 =
        (rankCandidates toLower req policy skipLimit cands).1 ↔
      maxEstimatedQuota kept = maxEstimatedQuota cands ∨
        ∀ cand ∈ takenOf req skipLimit cands, cand.estimatedQuota ≤ 0 := by
  simp only [rankCandidates_eq]
  constructor
  · intro same
    by_contra other
    push Not at other
    rcases other with ⟨otherMax, cand, mem, pos⟩
    have memKept : cand ∈ takenOf req skipLimit kept := by
      rw [sameTaken]
      exact mem
    have scoredMem : scored toLower req policy (maxEstimatedQuota kept) cand ∈
        StableSort.sortBy rankKey (scoredOf toLower req policy skipLimit cands) := by
      rw [← same, (StableSort.sortBy_perm rankKey).mem_iff]
      exact List.mem_map_of_mem memKept
    rw [(StableSort.sortBy_perm rankKey).mem_iff] at scoredMem
    rcases List.mem_map.mp scoredMem with ⟨_, twinMem, isScored⟩
    exact otherMax (eq_of_scored_eq isScored.symm pos (le_max_of_taken memKept)
      (le_max_of_taken twinMem))
  · intro cases'
    have sameScored : scoredOf toLower req policy skipLimit kept =
        scoredOf toLower req policy skipLimit cands := by
      rcases cases' with sameMax | nonpos
      · rw [scoredOf, scoredOf, sameMax, sameTaken]
      · rw [scoredOf, scoredOf, sameTaken]
        apply List.map_congr_left
        intro cand mem
        exact scored_of_nonpos _ _ (nonpos cand mem)
    rw [sameScored]

variable (toLower req policy skipLimit cands) in
/-- The amended promise of the ranking. -/
theorem rankCandidates_ranks : Ranks toLower req policy skipLimit cands := by
  have ranked := rankCandidates_eq toLower req policy skipLimit
  constructor
  case partition =>
    refine ⟨takenOf req skipLimit cands, ?_, ?_, ?_⟩
    · rw [ranked]
      exact taken_append_rejected_perm
    · rw [ranked]
      exact StableSort.sortBy_perm rankKey
    · exact fun _ mem reason => not_applies_of_taken mem reason
  case rejected =>
    intro _ mem
    rw [ranked] at mem
    rcases mem_rejectionsOf mem with ⟨isReasons, notEmpty⟩
    refine ⟨notEmpty, ?_, ?_⟩
    · rw [isReasons]
      exact rejectCandidate_nodup
    · intro _
      rw [isReasons]
      exact mem_rejectCandidate_iff
  case sorted =>
    rw [ranked]
    apply (StableSort.sortBy_sorted rankKey).imp
    intro first second le
    exact (rankKey_le_iff first second).mp le
  case removal =>
    intro kept _ sameTaken
    exact removal_iff sameTaken
  case reordering =>
    intro reordered perm
    have scoredPerm : (scoredOf toLower req policy skipLimit reordered).Perm
        (scoredOf toLower req policy skipLimit cands) := by
      rw [scoredOf, scoredOf, maxEstimatedQuota_perm perm]
      exact (perm.filter _).map _
    rw [ranked, ranked]
    constructor
    · exact ((StableSort.sortBy_perm rankKey).trans scoredPerm).trans
        (StableSort.sortBy_perm rankKey).symm
    · exact StableSort.sortBy_eq_iff rankKey

end Ranking

/-! ## A rejected candidate that decides -/

section Samples

def plainRequest : SmartRouteRequest where
  originalModel := "auto:balanced"
  stream := false
  maxOutputTokens := 0
  contextTokensRequired := 0
  hasTools := false
  toolCount := 0
  requiresJSONSchema := false
  hasImages := false
  hasAudio := false
  hasFiles := false
  reasoningRequested := false
  requiresReliability := false
  tokenMeta := none
  contextConstraint := ⟨"", false⟩

def plainCandidate (model : String) (chan estimatedQuota : ℤ) (reliability : ℚ)
    (hardUnavailable : Bool) : SmartRouteCandidate where
  modelName := model
  channelID := chan
  group := "default"
  qualityTier := .economy
  maxContextTokens := 0
  supportsTools := true
  supportsJSONSchema := true
  supportsVision := true
  supportsAudio := true
  supportsFiles := true
  supportsReasoning := true
  supportsStream := true
  estimatedQuota := estimatedQuota
  reliability := reliability
  latencyScore := 0
  throughputScore := 0
  qualityScore := 0
  codingScore := 0
  reasoningScore := 0
  speedScore := 0
  contextScore := 0
  preferenceScore := 0
  affinityScore := 0
  cacheAffinityScore := 0
  resetWindowScore := 0
  healthState := some .healthy
  hardUnavailable := hardUnavailable
  finalScore := 0
  scoreFactors := ⟨0, 0, 0, 0, 0, 0, 0, 0, 0, 0⟩

def rankedModels (cands : List SmartRouteCandidate) : List String :=
  (rankCandidates id plainRequest .balanced false cands).1.map (·.modelName)

/-- Beside an expensive channel without a key, the reliable model wins over the cheap one; without
that channel, the cheap one wins. Two models of one channel with equal scores are ranked as they
come. -/
theorem ranking_depends :
    (¬∀ cands kept : List SmartRouteCandidate, kept.Sublist cands →
      takenOf plainRequest false kept = takenOf plainRequest false cands →
        rankedModels kept = rankedModels cands) ∧
    ¬∀ cands reordered : List SmartRouteCandidate, reordered.Perm cands →
      rankedModels reordered = rankedModels cands := by
  constructor
  · intro always
    have same := always
      [plainCandidate "cheap" 1 5 (1 / 2) false, plainCandidate "reliable" 2 20 1 false,
        plainCandidate "unavailable" 3 1000 1 true]
      [plainCandidate "cheap" 1 5 (1 / 2) false, plainCandidate "reliable" 2 20 1 false]
      (((List.nil_sublist _).cons_cons _).cons_cons _) (by decide +kernel)
    exact absurd same (by decide +kernel)
  · intro always
    have same := always [plainCandidate "first" 1 10 1 false, plainCandidate "second" 1 10 1 false]
      [plainCandidate "second" 1 10 1 false, plainCandidate "first" 1 10 1 false]
      (List.Perm.swap _ _ [])
    exact absurd same (by decide +kernel)

end Samples

end SmartRouting
