import Mathlib.Data.List.Range
import Mathlib.Tactic.Ring
import NewApi.Service.ChannelSelect

/-!
# Retries across groups

The loop of `Relay` with what it does to the retry counter, the group index and the channel of the
request.
-/

namespace NewApi.Relay.GroupRetry

open NewApi.Service

variable {Channel : Type}

/-! ## The loop -/

/-- What `shouldRetry` reads of a failed attempt. -/
structure Failure where
  /-- `ShouldSkipRetryAfterChannelAffinityFailure`. -/
  (affinitySkip channelError skipRetry specificChannel : Bool)
  statusCode : ℤ
  (alwaysSkip retryByStatusCode : Bool)
deriving DecidableEq

def shouldRetry (err : Failure) (tries : ℤ) : Bool :=
  if err.affinitySkip then false
  else if err.channelError then true
  else if err.skipRetry then false
  else if tries ≤ 0 then false
  else if err.specificChannel then false
  else if 200 ≤ err.statusCode ∧ err.statusCode < 300 then false
  else if err.statusCode < 100 ∨ 599 < err.statusCode then true
  else if err.alwaysSkip then false
  else err.retryByStatusCode

/-- What comes of an attempt. -/
inductive Outcome where
  | refused
  | answered
  | failed (err : Failure) (hasSendResponse : Bool)
deriving DecidableEq

/-- What an attempt meets. -/
structure Surroundings (Channel : Type) where
  availability : Availability Channel
  (candidateUsable setup probe : Bool)
  outcome : Outcome

/-- The state of the loop, with the requests and the group of each attempt so far. -/
structure LoopState where
  param : RetryParam
  context : SelectContext
  decision : Bool
  candidates : ℕ
  hasChannelMeta : Bool
  group : Option ℕ
  requests : List GroupRequest
  attempts : List (Option ℕ)
deriving DecidableEq

def LoopState.select (selection : Selection Channel) (s : LoopState) : LoopState :=
  { s with
    param := selection.param
    context := selection.context
    group := selection.requests.getLast?.map GroupRequest.index
    requests := s.requests ++ selection.requests }

def getChannel (tries : ℤ) (around : Surroundings Channel) (s : LoopState) :
    LoopState × Bool :=
  if !s.hasChannelMeta then (s, true)
  else if s.candidates ≠ 0 then
    if s.candidates ≤ s.param.getRetry then (s, false)
    else ({ s with group := none }, around.candidateUsable)
  else
    let selection := cacheGetRandomSatisfiedChannel tries around.availability s.param s.context
    (s.select selection, selection.channel.isSome && around.setup)

/-- An attempt with the channel in the context; the second part says whether to go on. -/
def attempt (tries : ℤ) (around : Surroundings Channel) (s : LoopState) :
    LoopState × Bool :=
  let used := { s with attempts := s.attempts ++ [s.group] }
  if around.outcome = .refused then (used, false)
  else if s.decision && !around.probe then (used, true)
  else
    match around.outcome with
    | .failed err hasSendResponse =>
      ({ used with hasChannelMeta := true },
        !hasSendResponse && shouldRetry err (tries - s.param.getRetry))
    | _ => ({ used with hasChannelMeta := true }, false)

def turn (tries : ℤ) (around : Surroundings Channel) (s : LoopState) :
    LoopState × Bool :=
  let selected := getChannel tries around s
  if selected.2 then attempt tries around selected.1 else (selected.1, false)

def loop (tries : ℤ) : List (Surroundings Channel) → LoopState → LoopState × Bool
  | [], s => (s, decide (tries < s.param.getRetry))
  | around :: rest, s =>
    if (s.param.getRetry : ℤ) ≤ tries then
      let done := turn tries around s
      if done.2 then
        loop tries rest { done.1 with param := done.1.param.increaseRetry }
      else (done.1, true)
    else (s, true)

/-- The state that the loop starts from, with the group of the first channel, if any, and the
requests that were made for it. -/
def startLoop (param : RetryParam) (ctx : SelectContext) (decision : Bool) (cands : ℕ)
    (group : Option ℕ) (reqs : List GroupRequest) : LoopState :=
  { param := { param with retry := some 0, resetNextTry := false }
    context := ctx
    decision := decision
    candidates := cands
    hasChannelMeta := false
    group := group
    requests := reqs
    attempts := [] }

/-- `Distribute` when it selects with `CacheGetRandomSatisfiedChannel`; nothing else has put a
channel, a decision or candidates in the context. -/
def distribute (tries : ℤ) (availability : Availability Channel) (param : RetryParam)
    (ctx : SelectContext) : Option LoopState :=
  let selection := cacheGetRandomSatisfiedChannel tries availability
    { param with retry := some 0, resetNextTry := false } { ctx with autoGroupIndex := none }
  selection.channel.map fun _ =>
    startLoop param selection.context false 0
      (selection.requests.getLast?.map GroupRequest.index) selection.requests

/-! ## Walks -/

def levelsOf (reqs : List GroupRequest) (i : ℕ) : List ℕ :=
  (reqs.filter fun req => req.index = i).map GroupRequest.level

/-- The walk so far: the attempts are few, groups come in order, the levels of a group are
`0, 1, 2, ...`, and a group that was left has had all of its attempts or had no channel. -/
structure Walked (groupCount : ℕ) (tries : ℤ) (reqs : List GroupRequest)
    (attempts : List (Option ℕ)) : Prop where
  bounded : attempts.length ≤ groupCount * (tries + 1).toNat
  ordered : reqs.Pairwise fun past later => past.index ≤ later.index
  levels : ∀ i, ∃ count, levelsOf reqs i = List.range count
  left : ∀ i, (∃ req ∈ reqs, i < req.index) →
    attempts.count (some i) = (tries + 1).toNat ∨
      ∃ req ∈ reqs, req.index = i ∧ req.found = false

/-- Where the walk over groups and levels stands. -/
structure At (tries : ℤ) (group level : ℕ) (reqs : List GroupRequest)
    (attempts : List (Option ℕ)) : Prop where
  ordered : reqs.Pairwise fun past later => past.index ≤ later.index
  levels : ∀ i, ∃ count, levelsOf reqs i = List.range count
  below : ∀ req ∈ reqs, req.index ≤ group
  used : ∀ i, some i ∈ attempts → i ≤ group
  here : levelsOf reqs group = List.range level
  attempted : attempts.count (some group) = level
  left : ∀ i < group, attempts.count (some i) = (tries + 1).toNat ∨
    ∃ req ∈ reqs, req.index = i ∧ req.found = false
  length : attempts.length ≤ group * (tries + 1).toNat + level

section Moves

variable {tries : ℤ} {group level groupCount : ℕ} {reqs : List GroupRequest}
  {attempts : List (Option ℕ)}

theorem levelsOf_append (reqs : List GroupRequest) (req : GroupRequest) (i : ℕ) :
    levelsOf (reqs ++ [req]) i = levelsOf reqs i ++ if req.index = i then [req.level] else [] := by
  simp only [levelsOf, List.filter_append, List.map_append]
  by_cases same : req.index = i
  · simp [same]
  · simp [same]

theorem levelsOf_eq_nil (below : ∀ req ∈ reqs, req.index ≤ group) :
    levelsOf reqs (group + 1) = [] := by
  have none : reqs.filter (fun req => req.index = group + 1) = [] := by
    apply List.filter_eq_nil_iff.mpr
    intro req inReqs
    have atMost := below req inReqs
    simp only [decide_eq_true_eq]
    omega
  simp only [levelsOf, none, List.map_nil]

variable (walk : At tries group level reqs attempts)

include walk

theorem At.ask (found : Bool) :
    (reqs ++ [GroupRequest.mk group level found]).Pairwise
        (fun past later => past.index ≤ later.index) ∧
      (∀ i, ∃ count, levelsOf (reqs ++ [GroupRequest.mk group level found]) i = List.range count) ∧
      (∀ req ∈ reqs ++ [GroupRequest.mk group level found], req.index ≤ group) ∧
      levelsOf (reqs ++ [GroupRequest.mk group level found]) group =
      List.range (level + 1) := by
  have here : levelsOf (reqs ++ [GroupRequest.mk group level found]) group =
      List.range (level + 1) := by
    rw [levelsOf_append, walk.here, if_pos rfl, List.range_succ]
  refine ⟨?_, ?_, ?_, here⟩
  · apply List.pairwise_append.mpr
    refine ⟨walk.ordered, List.pairwise_singleton _ _, ?_⟩
    intro past inReqs _ isLast
    rw [List.mem_singleton.mp isLast]
    exact walk.below past inReqs
  · intro i
    by_cases same : group = i
    · rw [← same]
      exact ⟨level + 1, here⟩
    · rcases walk.levels i with ⟨count, levels⟩
      refine ⟨count, ?_⟩
      rw [levelsOf_append, levels, if_neg same, List.append_nil]
  · intro req inReqs
    rcases List.mem_append.mp inReqs with past | isLast
    · exact walk.below req past
    · rw [List.mem_singleton.mp isLast]

theorem At.next :
    At tries group (level + 1) (reqs ++ [GroupRequest.mk group level true])
      (attempts ++ [some group]) := by
  rcases walk.ask true with ⟨ordered, levels, below, here⟩
  refine ⟨ordered, levels, below, ?_, here, ?_, ?_, ?_⟩
  · intro i tried
    rcases List.mem_append.mp tried with past | isLast
    · exact walk.used i past
    · have same := List.mem_singleton.mp isLast
      simp only [Option.some.injEq] at same
      omega
  · rw [List.count_append, walk.attempted]
    simp
  · intro i before
    have apart : (some group : Option ℕ) ≠ some i := by
      intro same
      simp only [Option.some.injEq] at same
      omega
    rw [List.count_append, List.count_cons_of_ne apart, List.count_nil, Nat.add_zero]
    rcases walk.left i before with all | ⟨req, inReqs, isUnfound⟩
    · exact .inl all
    · exact .inr ⟨req, List.mem_append_left _ inReqs, isUnfound⟩
  · have length := walk.length
    simp only [List.length_append, List.length_singleton]
    omega

theorem At.count_later : attempts.count (some (group + 1)) = 0 := by
  apply List.count_eq_zero.mpr
  intro tried
  have atMost := walk.used _ tried
  omega

theorem At.skip (few : level ≤ (tries + 1).toNat) :
    At tries (group + 1) 0 (reqs ++ [GroupRequest.mk group level false]) attempts := by
  rcases walk.ask false with ⟨ordered, levels, below, _⟩
  refine ⟨ordered, levels, ?_, ?_, ?_, walk.count_later, ?_, ?_⟩
  · intro req inReqs
    exact (below req inReqs).trans (Nat.le_succ group)
  · intro i tried
    exact (walk.used i tried).trans (Nat.le_succ group)
  · rw [levelsOf_eq_nil below, List.range_zero]
  · intro i _
    by_cases same : i = group
    · right
      exact ⟨⟨group, level, false⟩, List.mem_append_right _ (List.mem_singleton_self _),
        same.symm, rfl⟩
    · rcases walk.left i (by omega) with all | ⟨req, inReqs, isUnfound⟩
      · exact .inl all
      · exact .inr ⟨req, List.mem_append_left _ inReqs, isUnfound⟩
  · have length := walk.length
    rw [Nat.add_mul, Nat.one_mul]
    omega

theorem At.switch (all : level = (tries + 1).toNat) :
    At tries (group + 1) 0 reqs attempts := by
  refine ⟨walk.ordered, walk.levels, ?_, ?_, ?_, walk.count_later, ?_, ?_⟩
  · intro req inReqs
    exact (walk.below req inReqs).trans (Nat.le_succ group)
  · intro i tried
    exact (walk.used i tried).trans (Nat.le_succ group)
  · rw [levelsOf_eq_nil walk.below, List.range_zero]
  · intro i _
    by_cases same : i = group
    · left
      rw [same, walk.attempted, all]
    · exact walk.left i (by omega)
  · have length := walk.length
    rw [Nat.add_mul, Nat.one_mul]
    omega

variable (inGroups : group < groupCount ∧ level ≤ (tries + 1).toNat ∨ group ≤ groupCount ∧ level
    = 0)

include inGroups in
theorem At.length_le :
    attempts.length ≤ groupCount * (tries + 1).toNat := by
  have length := walk.length
  rcases inGroups with ⟨isGroup, _⟩ | ⟨atMost, _⟩
  · have most : (group + 1) * (tries + 1).toNat ≤ groupCount * (tries + 1).toNat :=
      Nat.mul_le_mul_right _ isGroup
    rw [Nat.add_mul, Nat.one_mul] at most
    omega
  · have most : group * (tries + 1).toNat ≤ groupCount * (tries + 1).toNat :=
      Nat.mul_le_mul_right _ atMost
    omega

include inGroups in
theorem At.walked :
    Walked groupCount tries reqs attempts := by
  refine ⟨walk.length_le inGroups, walk.ordered, walk.levels, ?_⟩
  rintro i ⟨req, inReqs, later⟩
  exact walk.left i (lt_of_lt_of_le later (walk.below req inReqs))

theorem At.walked_ask (inGroups : group < groupCount ∧ level ≤ (tries + 1).toNat) (found : Bool) :
    Walked groupCount tries (reqs ++ [GroupRequest.mk group level found]) attempts := by
  rcases walk.ask found with ⟨ordered, levels, below, _⟩
  refine ⟨walk.length_le (.inl inGroups), ordered, levels, ?_⟩
  rintro i ⟨req, inReqs, later⟩
  rcases walk.left i (lt_of_lt_of_le later (below req inReqs)) with
    all | ⟨other, inOthers, isUnfound⟩
  · exact .inl all
  · exact .inr ⟨other, List.mem_append_left _ inOthers, isUnfound⟩

end Moves

/-! ## Selections -/

def SameRequest (param laterParam : RetryParam) (ctx laterContext : SelectContext) : Prop :=
  (laterParam.tokenGroup, laterParam.modelName, laterParam.requestPath) =
      (param.tokenGroup, param.modelName, param.requestPath) ∧
    laterContext.autoGroups = ctx.autoGroups ∧
    laterContext.crossGroupRetry = ctx.crossGroupRetry

def groupAt (param : RetryParam) (ctx : SelectContext) (i : ℕ) : String :=
  if param.tokenGroup = "auto" then ctx.autoGroups.getD i "" else param.tokenGroup

def offers (availability : Availability Channel) (param : RetryParam) (group : String)
    (level : ℕ) : Bool :=
  match pickChannelSkippingOpen availability group param.modelName level param.requestPath with
  | .ok (some _) => true
  | _ => false

/-- The questions were answered as the availability says. -/
def Answered (availability : Availability Channel) (param : RetryParam) (ctx : SelectContext)
    (reqs : List GroupRequest) : Prop :=
  ∀ req ∈ reqs, req.found = offers availability param (groupAt param ctx req.index) req.level

def placeOf (param : RetryParam) (ctx : SelectContext) : ℕ :=
  if param.tokenGroup = "auto" then ctx.autoGroupIndex.getD 0 else 0

def groupCount (param : RetryParam) (ctx : SelectContext) : ℕ :=
  if param.tokenGroup = "auto" then ctx.autoGroups.length else 1

/-- The place of the walk after a channel of a group was taken for a level: the next level of the
group, or the next group after its last level. -/
def Placed (tries : ℤ) (i level : ℕ) (param : RetryParam) (ctx : SelectContext) : Prop :=
  (tries ≤ level ∧ param.resetNextTry = true ∧ param.getRetry = 0 ∧
      placeOf param ctx = i + 1) ∨
    (param.resetNextTry = false ∧ param.getRetry = level ∧ placeOf param ctx = i)

/-- A selection found a channel at a place of the walk that is not before the one it began at. -/
def Found (tries : ℤ) (groupCount start : ℕ) (before : List GroupRequest)
    (attempts : List (Option ℕ)) (selection : Selection Channel) : Prop :=
  ∃ i level reqs, i < groupCount ∧ (level = start ∨ level = 0) ∧
    selection.requests = reqs ++ [GroupRequest.mk i level true] ∧
    At tries i level (before ++ reqs) attempts ∧
    Placed tries i level selection.param selection.context

/-- What a search from a place of the walk leads to; without groups it does nothing. -/
def Searched (tries : ℤ) (groupCount start : ℕ) (before : List GroupRequest)
    (attempts : List (Option ℕ)) (groups : List String) (selection result : Selection Channel) :
    Prop :=
  SameRequest selection.param result.param selection.context result.context ∧
    ((result.channel = none ∧ ((groups = [] ∧ result = selection) ∨
        At tries groupCount 0 (before ++ result.requests) attempts)) ∨
      (result.channel.isSome ∧ Found tries groupCount start before attempts result))

section Searches

variable {tries : ℤ} {availability : Availability Channel} {before : List GroupRequest}
  {attempts : List (Option ℕ)}

theorem take_placed (chosen : Selection Channel) {i level : ℕ} (autoGroup : String)
    (chan : Channel) (auto : chosen.param.tokenGroup = "auto")
    (fresh : chosen.param.resetNextTry = false) (retry : chosen.param.getRetry = level) :
    Placed tries i level (chosen.take tries i level autoGroup chan).param
      (chosen.take tries i level autoGroup chan).context := by
  simp only [Selection.take, Placed]
  by_cases exhausted : (chosen.context.crossGroupRetry &&
      decide (tries ≤ (level : ℤ))) = true
  · left
    rw [if_pos exhausted, if_pos exhausted]
    simp only [Bool.and_eq_true, decide_eq_true_eq] at exhausted
    refine ⟨exhausted.2, rfl, rfl, ?_⟩
    exact if_pos auto
  · right
    rw [if_neg exhausted, if_neg exhausted]
    refine ⟨fresh, retry, ?_⟩
    exact if_pos auto

theorem take_same (chosen : Selection Channel) {i level : ℕ} (autoGroup : String) (chan : Channel) :
    SameRequest chosen.param (chosen.take tries i level autoGroup chan).param
      chosen.context (chosen.take tries i level autoGroup chan).context := by
  refine ⟨?_, rfl, rfl⟩
  by_cases exhausted : (chosen.context.crossGroupRetry &&
      decide (tries ≤ (level : ℤ))) = true
  · simp only [Selection.take, if_pos exhausted]
    rfl
  · simp only [Selection.take, if_neg exhausted]

theorem searchGroups_walks (availability : Availability Channel)
    {startIndex start : ℕ} (few : start ≤ (tries + 1).toNat)
    (rest : List String) : ∀ (i level : ℕ) (chosen : Selection Channel),
      At tries i level (before ++ chosen.requests) attempts →
      (level = start ∨ level = 0) → (startIndex < i → level = 0) →
      chosen.param.getRetry = level → chosen.param.resetNextTry = false →
      chosen.param.tokenGroup = "auto" → chosen.channel = none →
      Searched tries (i + rest.length) start before attempts rest chosen
        (searchGroups tries availability startIndex rest i chosen) := by
  induction rest with
  | nil =>
    intro _ _ _ _ _ _ _ _ _ noChannel
    exact ⟨⟨rfl, rfl, rfl⟩, .inl ⟨noChannel, .inl ⟨rfl, rfl⟩⟩⟩
  | cons autoGroup rest ih =>
    intro i level chosen walk among later retry fresh auto noChannel
    have priority : (if startIndex < i then 0 else chosen.param.getRetry) = level := by
      by_cases moved : startIndex < i
      · rw [if_pos moved, later moved]
      · rw [if_neg moved, retry]
    have atMost : level ≤ (tries + 1).toNat := by
      rcases among with rfl | rfl
      · exact few
      · exact Nat.zero_le _
    have skipped : Searched tries (i + (autoGroup :: rest).length) start before
        attempts (autoGroup :: rest) chosen
        (searchGroups tries availability startIndex rest (i + 1) (chosen.leave i level)) := by
      have walkOn : At tries (i + 1) 0 (before ++ (chosen.leave i level).requests)
          attempts := by
        have skip := walk.skip atMost
        rw [List.append_assoc] at skip
        exact skip
      rcases ih (i + 1) 0 (chosen.leave i level) walkOn (.inr rfl) (fun _ => rfl) rfl fresh
        auto noChannel with ⟨same, result⟩
      have length : i + 1 + rest.length = i + (autoGroup :: rest).length := by
        simp only [List.length_cons]
        omega
      rw [length] at result
      refine ⟨same, ?_⟩
      rcases result with ⟨none, ⟨isEmpty, kept⟩ | walked⟩ | found
      · left
        refine ⟨none, .inr ?_⟩
        rw [kept, ← length, isEmpty]
        exact walkOn
      · exact .inl ⟨none, .inr walked⟩
      · exact .inr found
    simp only [searchGroups, priority]
    split
    next chan _ =>
      refine ⟨take_same chosen autoGroup chan, .inr ⟨rfl, i, level, chosen.requests, ?_,
        among, rfl, walk, take_placed chosen autoGroup chan auto fresh retry⟩⟩
      simp only [List.length_cons]
      omega
    next => exact skipped

/-- The walk stands where the next selection begins. -/
structure Ready (tries : ℤ) (param : RetryParam) (ctx : SelectContext)
    (reqs : List GroupRequest) (attempts : List (Option ℕ)) : Prop where
  walk : At tries (placeOf param ctx) param.getRetry reqs attempts
  inGroups : placeOf param ctx < groupCount param ctx ∧
      param.getRetry ≤ (tries + 1).toNat ∨
    placeOf param ctx ≤ groupCount param ctx ∧ param.getRetry = 0
  few : param.getRetry ≤ (tries + 1).toNat
  fresh : param.resetNextTry = false

theorem SameRequest.tokenGroup {param laterParam : RetryParam} {ctx later : SelectContext}
    (same : SameRequest param laterParam ctx later) :
    laterParam.tokenGroup = param.tokenGroup :=
  congrArg Prod.fst same.1

theorem SameRequest.groupCount {param laterParam : RetryParam} {ctx later : SelectContext}
    (same : SameRequest param laterParam ctx later) :
    groupCount laterParam later = groupCount param ctx := by
  simp only [GroupRetry.groupCount, same.tokenGroup, same.2.1]

theorem select_walks (availability : Availability Channel) {param : RetryParam}
    {ctx : SelectContext} (ready : Ready tries param ctx before attempts) :
    SameRequest param (cacheGetRandomSatisfiedChannel tries availability param ctx).param ctx
        (cacheGetRandomSatisfiedChannel tries availability param ctx).context ∧
      (((cacheGetRandomSatisfiedChannel tries availability param ctx).channel = none ∧
          Walked (groupCount param ctx) tries (before ++
            (cacheGetRandomSatisfiedChannel tries availability param ctx).requests) attempts) ∨
        ((cacheGetRandomSatisfiedChannel tries availability param ctx).channel.isSome ∧
          Found tries (groupCount param ctx) param.getRetry before attempts
            (cacheGetRandomSatisfiedChannel tries availability param ctx))) := by
  have walk := ready.walk
  have inGroups := ready.inGroups
  by_cases auto : param.tokenGroup = "auto"
  · simp only [cacheGetRandomSatisfiedChannel, if_pos auto]
    simp only [placeOf, groupCount, if_pos auto] at walk inGroups ⊢
    by_cases noGroups : ctx.autoGroups = []
    · rw [if_pos noGroups]
      refine ⟨⟨rfl, rfl, rfl⟩, .inl ⟨rfl, ?_⟩⟩
      rw [List.append_nil]
      exact walk.walked inGroups
    · rw [if_neg noGroups]
      have start : At tries (ctx.autoGroupIndex.getD 0) param.getRetry
          (before ++ ([] : List GroupRequest)) attempts := by
        rw [List.append_nil]
        exact walk
      have atMost : ctx.autoGroupIndex.getD 0 ≤ ctx.autoGroups.length := by
        omega
      have searched := searchGroups_walks availability ready.few
        (ctx.autoGroups.drop (ctx.autoGroupIndex.getD 0))
        (ctx.autoGroupIndex.getD 0) param.getRetry
        ⟨none, param.tokenGroup, none, param, ctx, []⟩ start (.inl rfl)
        (fun never => absurd never (lt_irrefl _)) rfl ready.fresh auto rfl
      rw [List.length_drop, Nat.add_sub_cancel' atMost] at searched
      rcases searched with ⟨same, ⟨noChannel, ⟨_, kept⟩ | walked⟩ | found⟩
      · refine ⟨same, .inl ⟨noChannel, ?_⟩⟩
        rw [kept, List.append_nil]
        exact walk.walked inGroups
      · exact ⟨same, .inl ⟨noChannel, walked.walked (.inr ⟨le_refl _, rfl⟩)⟩⟩
      · exact ⟨same, .inr found⟩
  · have isGroup : placeOf param ctx < groupCount param ctx ∧
        param.getRetry ≤ (tries + 1).toNat := by
      simp only [placeOf, groupCount, if_neg auto]
      exact ⟨Nat.zero_lt_one, ready.few⟩
    have place : placeOf param ctx = 0 := if_neg auto
    have unfound := walk.walked_ask isGroup false
    rw [place] at walk unfound
    simp only [cacheGetRandomSatisfiedChannel, if_neg auto]
    split
    · exact ⟨⟨rfl, rfl, rfl⟩, .inl ⟨rfl, unfound⟩⟩
    next chan _ =>
      cases chan with
      | none => exact ⟨⟨rfl, rfl, rfl⟩, .inl ⟨rfl, unfound⟩⟩
      | some _ =>
        refine ⟨⟨rfl, rfl, rfl⟩, .inr ⟨rfl, 0, param.getRetry, [], ?_, .inl rfl, rfl, ?_,
          .inr ⟨ready.fresh, rfl, place⟩⟩⟩
        · rw [place] at isGroup
          exact isGroup.1
        · rw [List.append_nil]
          exact walk

end Searches

/-! ## Turns -/

section Turns

variable {tries : ℤ} {around : Surroundings Channel} {s : LoopState} {count : ℕ}

theorem attempt_cases (tries : ℤ) (around : Surroundings Channel)
    (noDecision : s.decision = false) :
    ∃ hasMeta, (attempt tries around s).1 =
        { s with attempts := s.attempts ++ [s.group], hasChannelMeta := hasMeta } ∧
      ((attempt tries around s).2 = true → hasMeta = true) := by
  simp only [attempt, noDecision, Bool.false_and, Bool.false_eq_true, if_false]
  by_cases isRefused : around.outcome = .refused
  · rw [if_pos isRefused]
    exact ⟨s.hasChannelMeta, rfl, fun never => (by cases never)⟩
  · rw [if_neg isRefused]
    cases around.outcome with
    | refused | answered | failed _ _ => exact ⟨true, rfl, fun _ => rfl⟩

/-- The loop walks over all the groups of its request. -/
structure Walking (tries : ℤ) (count : ℕ) (s : LoopState) : Prop where
  direct : s.candidates = 0 ∧ s.decision = false
  hasMeta : s.hasChannelMeta = true
  groups : groupCount s.param s.context = count
  walked : Walked count tries s.requests s.attempts
  ready : (s.param.getRetry : ℤ) ≤ tries →
    Ready tries s.param s.context s.requests s.attempts

variable {i : ℕ} {reqs : List GroupRequest} {param : RetryParam} {ctx : SelectContext}
  {availability : Availability Channel}

theorem attempt_walks (around : Surroundings Channel) {level : ℕ}
    (direct : s.candidates = 0 ∧ s.decision = false)
    (groups : groupCount s.param s.context = count) (isGroup : s.group = some i)
    (inGroups : i < count) (few : (level : ℤ) ≤ tries)
    (listed : s.requests = reqs ++ [GroupRequest.mk i level true])
    (walk : At tries i level reqs s.attempts)
    (placed : (s.param.increaseRetry.getRetry : ℤ) ≤ tries →
      (tries = level ∧ s.param.increaseRetry.getRetry = 0 ∧
          placeOf s.param s.context = i + 1) ∨
        (s.param.increaseRetry.getRetry = level + 1 ∧
          placeOf s.param s.context = i))
    (fresh : s.param.increaseRetry.resetNextTry = false)
    (same : s.param.increaseRetry.tokenGroup = s.param.tokenGroup) :
    Walked count tries (attempt tries around s).1.requests (attempt tries around s).1.attempts ∧
      (attempt tries around s).1.attempts.length = s.attempts.length + 1 ∧
      ((attempt tries around s).2 = true →
        Walking tries count
          { (attempt tries around s).1 with
            param := (attempt tries around s).1.param.increaseRetry }) := by
  rcases attempt_cases tries around direct.2 with
    ⟨hasMeta, result, goes⟩
  have next := walk.next
  rw [← listed] at next
  have atMost : level + 1 ≤ (tries + 1).toNat := by
    omega
  have walked : Walked count tries s.requests (s.attempts ++ [s.group]) := by
    rw [isGroup]
    exact next.walked (.inl ⟨inGroups, atMost⟩)
  rw [result]
  refine ⟨walked, ?_, ?_⟩
  · simp only [List.length_append, List.length_singleton]
  · intro continues
    have sameCount : groupCount s.param.increaseRetry s.context = count := by
      simp only [groupCount, same] at groups ⊢
      exact groups
    have samePlace : placeOf s.param.increaseRetry s.context = placeOf s.param s.context := by
      simp only [placeOf, same]
    refine ⟨direct, goes continues, sameCount, walked, ?_⟩
    intro again
    rcases placed again with ⟨_, retry, place⟩ | ⟨retry, place⟩
    · have switched := next.switch (by omega)
      refine ⟨?_, .inr ⟨?_, retry⟩, ?_, fresh⟩
      · rw [samePlace, retry, place, isGroup]
        exact switched
      · rw [samePlace, place, sameCount]
        exact inGroups
      · rw [retry]
        exact Nat.zero_le _
    · refine ⟨?_, .inl ⟨?_, ?_⟩, ?_, fresh⟩
      · rw [samePlace, retry, place, isGroup]
        exact next
      · rw [samePlace, place, sameCount]
        exact inGroups
      · rw [retry]
        exact atMost
      · rw [retry]
        exact atMost

theorem RetryParam.increaseRetry_tokenGroup (param : RetryParam) :
    param.increaseRetry.tokenGroup = param.tokenGroup := by
  simp only [RetryParam.increaseRetry, RetryParam.setRetry]
  split
  · rfl
  · rfl

theorem RetryParam.increaseRetry_fresh (param : RetryParam) :
    param.increaseRetry.resetNextTry = false := by
  simp only [RetryParam.increaseRetry, RetryParam.setRetry]
  split
  · rfl
  next goes => exact Bool.eq_false_iff.mpr goes

theorem Placed.next {level : ℕ}
    (placed : Placed tries i level param ctx) (few : (level : ℤ) ≤ tries) :
    (tries = level ∧ param.increaseRetry.getRetry = 0 ∧ placeOf param ctx = i + 1) ∨
      (param.increaseRetry.getRetry = level + 1 ∧ placeOf param ctx = i) := by
  rcases placed with ⟨last, resets, retry, place⟩ | ⟨fresh, retry, place⟩
  · left
    refine ⟨le_antisymm last few, ?_, place⟩
    simp only [RetryParam.increaseRetry, resets, if_true]
    exact retry
  · right
    refine ⟨?_, place⟩
    simp only [RetryParam.increaseRetry, fresh, Bool.false_eq_true, if_false, retry]
    rfl

theorem getChannel_select (tries : ℤ) (around : Surroundings Channel)
    (hasMeta : s.hasChannelMeta = true) (noCandidates : s.candidates = 0) :
    getChannel tries around s =
      (s.select (cacheGetRandomSatisfiedChannel tries around.availability s.param s.context),
      (cacheGetRandomSatisfiedChannel tries around.availability s.param
        s.context).channel.isSome && around.setup) := by
  simp only [getChannel, hasMeta, noCandidates, Bool.not_true, Bool.false_eq_true, if_false,
    ne_eq, not_true_eq_false]

theorem turn_walks (around : Surroundings Channel) (walking : Walking tries count s)
    (goes : (s.param.getRetry : ℤ) ≤ tries) :
    Walked count tries (turn tries around s).1.requests (turn tries around s).1.attempts ∧
      ((turn tries around s).2 = true →
        (turn tries around s).1.attempts.length = s.attempts.length + 1 ∧
          Walking tries count
            { (turn tries around s).1 with
              param := (turn tries around s).1.param.increaseRetry }) := by
  have chosen := getChannel_select tries around walking.hasMeta walking.direct.1
  simp only [turn, chosen]
  rcases select_walks around.availability (walking.ready goes) with
    ⟨same, ⟨noChannel, walked⟩ | ⟨hasChannel, i, level, reqs, inGroups, among, listed,
      walk, placed⟩⟩
  · rw [walking.groups] at walked
    simp only [noChannel, Option.isSome_none, Bool.false_and, Bool.false_eq_true, if_false]
    exact ⟨walked, fun never => (by cases never)⟩
  · have few : (level : ℤ) ≤ tries := by
      rcases among with rfl | rfl
      · exact goes
      · exact le_trans (Int.natCast_nonneg _) goes
    rw [walking.groups] at inGroups
    simp only [hasChannel, Bool.true_and]
    by_cases isSetUp : around.setup = true
    · rw [if_pos isSetUp]
      have sameCount := same.groupCount
      rw [walking.groups] at sameCount
      have direct : (s.select (cacheGetRandomSatisfiedChannel tries
          around.availability s.param s.context)).candidates = 0 ∧
          (s.select (cacheGetRandomSatisfiedChannel tries
            around.availability s.param s.context)).decision = false :=
        walking.direct
      have attempted := attempt_walks around direct sameCount
        (by simp [LoopState.select, listed]) inGroups few
        (by simp only [LoopState.select, listed, List.append_assoc]) walk
        (fun _ => placed.next few) (RetryParam.increaseRetry_fresh _)
        (RetryParam.increaseRetry_tokenGroup _)
      exact ⟨attempted.1, fun again => ⟨attempted.2.1, attempted.2.2 again⟩⟩
    · rw [if_neg isSetUp]
      refine ⟨?_, fun never => (by cases never)⟩
      simp only [LoopState.select, listed]
      rw [← List.append_assoc]
      exact walk.walked_ask ⟨inGroups, by omega⟩ true

/-! ## Runs -/

theorem loop_walks (turns : List (Surroundings Channel)) (walking : Walking tries count s) :
    Walked count tries (loop tries turns s).1.requests
        (loop tries turns s).1.attempts ∧ ((loop tries turns s).2 = false →
        (loop tries turns s).1.attempts.length = s.attempts.length + turns.length) := by
  induction turns generalizing s with
  | nil => exact ⟨walking.walked, fun _ => rfl⟩
  | cons around _ ih =>
    simp only [loop]
    by_cases goes : (s.param.getRetry : ℤ) ≤ tries
    · rw [if_pos goes]
      rcases turn_walks around walking goes with ⟨walked, continues⟩
      by_cases again : (turn tries around s).2 = true
      · rw [if_pos again]
        rcases continues again with ⟨length, next⟩
        rcases ih next with ⟨walkedOn, counted⟩
        refine ⟨walkedOn, ?_⟩
        intro unfinished
        rw [counted unfinished]
        simp only [length, List.length_cons]
        omega
      · rw [if_neg again]
        exact ⟨walked, fun never => (by cases never)⟩
    · rw [if_neg goes]
      exact ⟨walking.walked, fun never => (by cases never)⟩

theorem At.start (tries : ℤ) : At tries 0 0 [] [] where
  ordered := List.Pairwise.nil
  levels _ := ⟨0, rfl⟩
  below _ inReqs := absurd inReqs List.not_mem_nil
  used _ tried := absurd tried List.not_mem_nil
  here := rfl
  attempted := rfl
  left _ before := absurd before (Nat.not_lt_zero _)
  length := Nat.zero_le _

theorem started_walks (turns : List (Surroundings Channel))
    (direct : s.candidates = 0 ∧ s.decision = false) (noMeta : s.hasChannelMeta = false)
    (groups : groupCount s.param s.context = count) (isGroup : s.group = some i)
    (inGroups : i < count) (retry : s.param.getRetry = 0) (fresh : s.param.resetNextTry = false)
    (listed : s.requests = reqs ++ [GroupRequest.mk i 0 true]) (noAttempts : s.attempts = [])
    (walk : At tries i 0 reqs []) (place : 1 ≤ tries → placeOf s.param s.context = i) :
    Walked count tries (loop tries turns s).1.requests
        (loop tries turns s).1.attempts ∧ ((loop tries turns s).2 = false →
        (loop tries turns s).1.attempts.length = turns.length) := by
  have unattempted : Walked count tries s.requests s.attempts := by
    rw [listed, noAttempts]
    exact walk.walked_ask ⟨inGroups, Nat.zero_le _⟩ true
  have increased : s.param.increaseRetry.getRetry = 0 + 1 := by
    simp only [RetryParam.increaseRetry, fresh, Bool.false_eq_true, if_false, retry]
    rfl
  cases turns with
  | nil => exact ⟨unattempted, fun _ => (by rw [loop, noAttempts]; rfl)⟩
  | cons around rest =>
    simp only [loop]
    by_cases goes : (s.param.getRetry : ℤ) ≤ tries
    · have first : turn tries around s = attempt tries around s := by
        simp only [turn, getChannel, noMeta, Bool.not_false, if_true]
      rw [if_pos goes, first]
      rw [← noAttempts] at walk
      rw [retry] at goes
      rcases attempt_walks around direct groups isGroup inGroups goes listed walk
        (fun again => .inr ⟨increased, place (by rw [increased] at again; exact again)⟩)
        (RetryParam.increaseRetry_fresh _) (RetryParam.increaseRetry_tokenGroup _) with
        ⟨walked, length, continues⟩
      by_cases again : (attempt tries around s).2 = true
      · rw [if_pos again]
        rcases loop_walks rest (continues again) with ⟨walkedOn, counted⟩
        refine ⟨walkedOn, ?_⟩
        intro unfinished
        refine Eq.trans (counted unfinished) ?_
        rw [noAttempts] at length
        simp only [List.length_cons, List.length_nil] at length ⊢
        omega
      · rw [if_neg again]
        exact ⟨walked, fun never => (by cases never)⟩
    · rw [if_neg goes]
      exact ⟨unattempted, fun never => (by cases never)⟩

theorem distributed_walks (turns : List (Surroundings Channel))
    (selected : distribute tries availability param ctx = some s) :
    Walked (groupCount param ctx) tries (loop tries turns s).1.requests
        (loop tries turns s).1.attempts ∧ ((loop tries turns s).2 = false →
        (loop tries turns s).1.attempts.length = turns.length) := by
  have place : placeOf { param with retry := some 0, resetNextTry := false }
      { ctx with autoGroupIndex := none } = 0 := by
    simp only [placeOf, Option.getD_none, ite_self]
  have ready : Ready tries { param with retry := some 0, resetNextTry := false }
      { ctx with autoGroupIndex := none } [] [] := by
    refine ⟨?_, .inr ⟨?_, rfl⟩, Nat.zero_le _, rfl⟩
    · rw [place]
      exact At.start tries
    · rw [place]
      exact Nat.zero_le _
  have walks := select_walks availability ready
  simp only [distribute] at selected
  generalize cacheGetRandomSatisfiedChannel tries availability
    { param with retry := some 0, resetNextTry := false }
    { ctx with autoGroupIndex := none } = chosen at walks selected
  rcases Option.map_eq_some_iff.mp selected with ⟨_, isRow, rfl⟩
  rcases walks with
    ⟨same, ⟨noChannel, _⟩ | ⟨_, i, level, reqs, inGroups, among, listed, walk, placed⟩⟩
  · rw [isRow] at noChannel
    cases noChannel
  · have isZero : level = 0 := among.elim id id
    subst isZero
    have laterCount : groupCount param chosen.context = groupCount param ctx := by
      simp only [groupCount, same.2.1]
    refine started_walks turns ⟨rfl, rfl⟩ rfl laterCount (by simp [startLoop, listed])
      inGroups rfl rfl listed rfl walk ?_
    intro again
    rcases placed with ⟨last, _⟩ | ⟨_, _, isPlace⟩
    · exact absurd (le_trans again last) (by decide)
    · simp only [placeOf, same.tokenGroup] at isPlace
      exact isPlace

/-! ## A fixed availability -/

theorem SameRequest.trans {first two third : RetryParam}
    {firstContext secondContext thirdContext : SelectContext}
    (before : SameRequest first two firstContext secondContext)
    (after : SameRequest two third secondContext thirdContext) :
    SameRequest first third firstContext thirdContext :=
  ⟨after.1.trans before.1, after.2.1.trans before.2.1, after.2.2.trans before.2.2⟩

theorem Answered.of_same {laterParam : RetryParam} {later : SelectContext}
    (same : SameRequest param laterParam ctx later)
    (answered : Answered availability laterParam later reqs) :
    Answered availability param ctx reqs := by
  intro req inReqs
  rcases same with ⟨names, groups, _⟩
  simp only [Prod.mk.injEq] at names
  have gives := answered req inReqs
  simp only [offers, groupAt, names.1, names.2.1, names.2.2, groups] at gives ⊢
  exact gives

/-- The search asks for what is available, from the group where it stands. -/
theorem searchGroups_answered {startIndex : ℕ} (auto : param.tokenGroup = "auto")
    (rest : List String) : ∀ (i : ℕ) (chosen : Selection Channel), rest = ctx.autoGroups.drop i →
      SameRequest param chosen.param ctx chosen.context →
      Answered availability param ctx chosen.requests → SameRequest param
          (searchGroups tries availability startIndex rest i chosen).param ctx
          (searchGroups tries availability startIndex rest i chosen).context ∧
        Answered availability param ctx
          (searchGroups tries availability startIndex rest i chosen).requests := by
  induction rest with
  | nil =>
    intro _ _ _ same answered
    exact ⟨same, answered⟩
  | cons autoGroup _ ih =>
    intro i chosen isRest same answered
    have inGroups : i < ctx.autoGroups.length := by
      by_contra outside
      rw [List.drop_eq_nil_of_le (by omega)] at isRest
      cases isRest
    rw [List.drop_eq_getElem_cons inGroups, List.cons.injEq] at isRest
    have isGroup : groupAt param ctx i = autoGroup := by
      simp only [groupAt, if_pos auto]
      rw [isRest.1]
      simp only [List.getD, List.getElem?_eq_getElem inGroups, Option.getD_some]
    have names := same.1
    simp only [Prod.mk.injEq] at names
    have asked : ∀ (level : ℕ) (found : Bool), offers availability param autoGroup level = found →
          Answered availability param ctx (chosen.requests ++ [GroupRequest.mk i level found]) := by
      intro _ _ offered req inReqs
      rcases List.mem_append.mp inReqs with past | isLast
      · exact answered req past
      · rw [List.mem_singleton.mp isLast]
        simp only
        rw [isGroup, offered]
    simp only [searchGroups, names.2.1, names.2.2]
    split
    next chan picked =>
      refine ⟨same.trans (take_same chosen autoGroup chan), asked _ true ?_⟩
      simp only [offers, picked]
    next =>
      apply ih (i + 1) _ isRest.2
      · exact same
      · apply asked
        simp only [offers]

theorem select_answered (tries : ℤ) (availability : Availability Channel)
    (param : RetryParam) (ctx : SelectContext) :
    SameRequest param (cacheGetRandomSatisfiedChannel tries availability param ctx).param
        ctx (cacheGetRandomSatisfiedChannel tries availability param ctx).context ∧
      Answered availability param ctx
        (cacheGetRandomSatisfiedChannel tries availability param ctx).requests := by
  have none : Answered availability param ctx [] :=
    fun _ inReqs => absurd inReqs List.not_mem_nil
  by_cases auto : param.tokenGroup = "auto"
  · simp only [cacheGetRandomSatisfiedChannel, if_pos auto]
    by_cases noGroups : ctx.autoGroups = []
    · rw [if_pos noGroups]
      exact ⟨⟨rfl, rfl, rfl⟩, none⟩
    · rw [if_neg noGroups]
      exact searchGroups_answered auto _ _ _ rfl ⟨rfl, rfl, rfl⟩ none
  · have only : ∀ found, offers availability param param.tokenGroup param.getRetry = found →
        Answered availability param ctx [GroupRequest.mk 0 param.getRetry found] := by
      intro _ offered _ inReqs
      rw [List.mem_singleton.mp inReqs]
      simp only [groupAt, if_neg auto, offered]
    simp only [cacheGetRandomSatisfiedChannel, if_neg auto]
    split
    next failed => exact ⟨⟨rfl, rfl, rfl⟩, only false (by simp only [offers, failed])⟩
    next chan picked =>
      refine ⟨⟨rfl, rfl, rfl⟩, only chan.isSome ?_⟩
      cases chan with
      | none => simp only [offers, picked, Option.isSome_none]
      | some _ => simp only [offers, picked, Option.isSome_some]

theorem attempt_requests (tries : ℤ) (around : Surroundings Channel) (s : LoopState) :
    (attempt tries around s).1.requests = s.requests ∧
      (attempt tries around s).1.param = s.param ∧
      (attempt tries around s).1.context = s.context := by
  simp only [attempt]
  split
  · exact ⟨rfl, rfl, rfl⟩
  · split
    · exact ⟨rfl, rfl, rfl⟩
    · split
      · exact ⟨rfl, rfl, rfl⟩
      · exact ⟨rfl, rfl, rfl⟩

theorem turn_answered (tries : ℤ) (same : SameRequest param s.param ctx s.context)
    (answered : Answered around.availability param ctx s.requests) :
    SameRequest param (turn tries around s).1.param ctx
        (turn tries around s).1.context ∧ Answered around.availability param ctx
        (turn tries around s).1.requests := by
  have chosen : SameRequest param (getChannel tries around s).1.param ctx
        (getChannel tries around s).1.context ∧
      Answered around.availability param ctx (getChannel tries around s).1.requests := by
    simp only [getChannel]
    split
    · exact ⟨same, answered⟩
    · split
      · split
        · exact ⟨same, answered⟩
        · exact ⟨same, answered⟩
      · rcases select_answered tries around.availability s.param s.context with ⟨sameOn, answeredOn⟩
        refine ⟨same.trans sameOn, ?_⟩
        intro req inReqs
        rcases List.mem_append.mp inReqs with past | later
        · exact answered req past
        · exact Answered.of_same same answeredOn req later
  simp only [turn]
  split
  · rcases attempt_requests tries around (getChannel tries around s).1 with
      ⟨sameRequests, sameParam, sameContext⟩
    rw [sameRequests, sameParam, sameContext]
    exact chosen
  · exact chosen

theorem increaseRetry_same (param : RetryParam) (ctx : SelectContext) :
    SameRequest param param.increaseRetry ctx ctx := by
  refine ⟨?_, rfl, rfl⟩
  simp only [RetryParam.increaseRetry, RetryParam.setRetry]
  split
  · rfl
  · rfl

theorem loop_answered (turns : List (Surroundings Channel))
    (fixed : ∀ turn ∈ turns, turn.availability = availability)
    (same : SameRequest param s.param ctx s.context)
    (answered : Answered availability param ctx s.requests) :
    Answered availability param ctx (loop tries turns s).1.requests := by
  induction turns generalizing s with
  | nil => exact answered
  | cons around _ ih =>
    have isFixed := fixed around List.mem_cons_self
    have turned := turn_answered tries same (by rw [isFixed]; exact answered)
    rw [isFixed] at turned
    simp only [loop]
    split
    · split
      · apply ih (fun turn isIn => fixed turn (List.mem_cons_of_mem _ isIn))
        · exact turned.1.trans (increaseRetry_same _ _)
        · exact turned.2
      · exact turned.2
    · exact answered

/-- The loop of `Relay`, when `Distribute` has selected the first channel with
`CacheGetRandomSatisfiedChannel`: it ends, it walks the groups, and under a fixed availability the
requests that find no channel are those for a level that a group does not have. -/
theorem relay_walks_groups (tries : ℤ) (availability : Availability Channel)
    (param : RetryParam) (ctx : SelectContext) (turns : List (Surroundings Channel))
    (s : LoopState) (selected : distribute tries availability param ctx = some s) :
    Walked (groupCount param ctx) tries (loop tries turns s).1.requests
        (loop tries turns s).1.attempts ∧
      (groupCount param ctx * (tries + 1).toNat < turns.length →
        (loop tries turns s).2 = true) ∧ ((∀ turn ∈ turns, turn.availability = availability) →
        Answered availability param ctx (loop tries turns s).1.requests) := by
  rcases distributed_walks turns selected with ⟨walked, counted⟩
  refine ⟨walked, ?_, ?_⟩
  · intro _
    by_contra unfinished
    have length := counted (Bool.eq_false_iff.mpr unfinished)
    have bounded := walked.bounded
    omega
  · intro fixed
    have answered := select_answered tries availability
      { param with retry := some 0, resetNextTry := false }
      { ctx with autoGroupIndex := none }
    simp only [distribute] at selected
    rcases Option.map_eq_some_iff.mp selected with ⟨_, _, rfl⟩
    exact loop_answered turns fixed ⟨rfl, answered.1.2⟩ answered.2

end Turns

def sampleAvailability : Availability ℤ where
  randomSatisfiedChannel group _ _ _ _ := .ok (some (if group = "a" then 1 else 2))
  runtimeHealthOpen _ _ := false

def sampleParam : RetryParam := ⟨"auto", "m", "/v1/chat/completions", some 0, false⟩

def sampleContext : SelectContext := ⟨["a", "b"], true, none, none⟩

def failedTurn : Surroundings ℤ where
  availability := sampleAvailability
  candidateUsable := false
  setup := true
  probe := true
  outcome := .failed ⟨false, false, false, false, 500, false, true⟩ false

theorem relay_walks_groups_failing :
    ∃ s, distribute 1 sampleAvailability sampleParam sampleContext = some s ∧
      (loop 1 (List.replicate 5 failedTurn) s).1.attempts = [some 0, some 0, some 1, some 1] ∧
      Walked 2 1 (loop 1 (List.replicate 5 failedTurn) s).1.requests
        (loop 1 (List.replicate 5 failedTurn) s).1.attempts := by
  have selected : distribute 1 sampleAvailability sampleParam sampleContext =
      some (startLoop sampleParam ⟨["a", "b"], true, some 0, some "a"⟩ false 0 (some 0)
        [GroupRequest.mk 0 0 true]) := by
    decide
  refine ⟨_, selected, by decide, ?_⟩
  exact (relay_walks_groups 1 sampleAvailability sampleParam sampleContext
    (List.replicate 5 failedTurn) _ selected).1

/-- When the first channel was selected in another way, the first group is asked for level 1
first, and its level 0 is never asked for. -/
theorem relay_skips_a_level :
    ¬∀ (tries : ℤ) (param : RetryParam) (ctx : SelectContext) (decision : Bool)
      (cands : ℕ) (turns : List (Surroundings ℤ)), Walked (groupCount param ctx) tries
        (loop tries turns (startLoop param ctx decision cands none [])).1.requests
        (loop tries turns (startLoop param ctx decision cands none [])).1.attempts := by
  intro walks
  rcases (walks 1 sampleParam sampleContext false 0 (List.replicate 5 failedTurn)).levels 0 with
    ⟨count, levels⟩
  have skipped : levelsOf (loop 1 (List.replicate 5 failedTurn)
      (startLoop sampleParam sampleContext false 0 none [])).1.requests 0 = [1] := by
    decide
  rw [skipped] at levels
  have length := congrArg List.length levels
  simp only [List.length_singleton, List.length_range] at length
  subst length
  cases levels

end NewApi.Relay.GroupRetry
