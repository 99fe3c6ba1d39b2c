import NewApi.Billing.ServingCharge

/-!
# Tiered estimates along the retry loop

A model that is billed by an expression is estimated once. `refreshTieredBillingGroup` only
replaces the group ratio of the estimate when another group is selected.
-/

namespace NewApi.Relay

open NewApi.Types NewApi.Service NewApi.Model

/-- The states of a run that `PrepareTieredBillingForSelectedGroup` returned without error. -/
def preparedStates (prices : PriceSettings) (req : Request) :
    List Attempt → RelayState → List RelayState
  | [], _ => []
  | attempt :: rest, s =>
    match (getChannel prices req attempt.pick s).bind
        (prepareTieredBillingForSelectedGroup req attempt) with
    | none => []
    | some prepared =>
      prepared :: match execute prices req attempt prepared with
        | .retries next => preparedStates prices req rest next
        | _ => []

/-- The estimate of `modelPriceHelperTiered`. -/
def tieredEstimate (prices : PriceSettings) (cfg : Settings) (req : Request)
    (model : String) (group : GroupRatioInfo) (channelRatio : ℚ) (info : RelayInfo) :
    Option ℤ :=
  (modelPriceHelperTiered prices cfg req req.tokenCount req.promptTokens model
    group channelRatio info).bind fun priced =>
      priced.tieredBillingSnapshot.map (·.estimatedQuotaAfterGroup)

/-- The cost of the expression for a group, before the ratios. -/
def tieredBase (prices : PriceSettings) (cfg : Settings) (req : Request)
    (model : String) (groupRatio : ℚ) (info : RelayInfo) : Option ℚ := do
  let exprString ← prices.billingExpr model
  let completionTokens := if req.tokenCount.maxTokens = 0 ∧ groupRatio ≠ 0 then
    defaultTieredPreConsumeMaxTokens else req.tokenCount.maxTokens
  let input ← resolveIncomingBillingExprRequestInput req info
  let (rawCost, _) ← cfg.runExpr exprString (prices.exprHash exprString)
    ⟨req.promptTokens, completionTokens, req.promptTokens, 0, 0, 0, 0, 0, 0, 0⟩ input
  return rawCost / 1000000 * cfg.quotaPerUnit

/-- The group of a state, as if it were the first. -/
def routeGroup (prices : PriceSettings) (req : Request) (info : RelayInfo)
    (s : RelayState) : GroupRatioInfo :=
  handleGroupRatio prices req s.context info

/-- The channel ratio that an estimate holds after a route: the one of the first channel for as
long as the group ratio stays, and one as soon as it has changed. -/
def heldRatio (prices : PriceSettings) (req : Request) (ctx : Context) (info : RelayInfo)
    (route : List RelayState) : ℚ :=
  if ∀ s ∈ route, (routeGroup prices req info s).groupRatio =
      (handleGroupRatio prices req ctx info).groupRatio then
    ctx.channel.getPriceRatio
  else 1

/-- The estimate of a state after its route is the one of its group and channel if the group is
free, or if the estimate still holds the ratio of the channel and the completion was estimated as
for a paid group. Whatever the route, a session that reserves at all has reserved it. -/
structure RouteFree (prices : PriceSettings) (cfg : Settings) (req : Request) (ctx : Context)
    (info : RelayInfo) (route : List RelayState) (s : RelayState) : Prop where
  same : ∃ snap, s.info.tieredBillingSnapshot = some snap ∧
    ((routeGroup prices req info s).groupRatio = 0 →
      ∀ estimate ∈ tieredEstimate prices cfg req (openingModel ctx info)
        (routeGroup prices req info s) s.context.channel.getPriceRatio info,
          snap.estimatedQuotaAfterGroup = estimate) ∧
    ((routeGroup prices req info s).groupRatio ≠ 0 →
      req.tokenCount.maxTokens ≠ 0 ∨ (handleGroupRatio prices req ctx info).groupRatio ≠ 0 →
      s.context.channel.getPriceRatio = heldRatio prices req ctx info (route ++ [s]) →
        tieredEstimate prices cfg req (openingModel ctx info) (routeGroup prices req info s)
          s.context.channel.getPriceRatio info = some snap.estimatedQuotaAfterGroup)
  reserved : 0 < (routeGroup prices req info s).groupRatio →
    ∀ snap ∈ s.info.tieredBillingSnapshot, ∃ sess, s.billing = some sess ∧
      (sess.trusted = false → snap.estimatedQuotaAfterGroup ≤ sess.preConsumedQuota)

section Estimates

variable {prices : PriceSettings} {cfg : Settings} {req : Request} {model : String}
  {info priced : RelayInfo} {s next : RelayState} {attempt : Attempt} {base ratio : ℚ}
  {group : GroupRatioInfo} {ctx : Context} {newRatio : ℚ}

theorem quotaRoundStrict_zero : quotaRoundStrict 0 = some 0 := by
  decide +kernel

theorem tieredEstimate_eq : tieredEstimate prices cfg req model group ratio info =
    (tieredBase prices cfg req model group.groupRatio info).bind fun base =>
      quotaRoundStrict (base * group.groupRatio * ratio) := by
  simp only [tieredEstimate, modelPriceHelperTiered, tieredBase, Option.bind_eq_bind,
    Option.pure_def, Option.bind_assoc, Option.bind_some, Option.map_some]
  refine Option.bind_congr fun exprString _ => Option.bind_congr fun input _ =>
    Option.bind_congr fun cost _ => ?_
  cases rounds : quotaRoundStrict
      (cost.1 / 1000000 * cfg.quotaPerUnit * group.groupRatio * ratio) with
  | none => rfl
  | some _ =>
    cases free : isFreeModel prices group.groupRatio ratio false with
    | false => simp
    | true =>
      have zero : group.groupRatio * ratio = 0 := by
        simp only [isFreeModel, Bool.or_false, Bool.or_eq_true, decide_eq_true_eq,
          Bool.and_eq_true] at free
        grind
      rw [mul_assoc, zero, mul_zero, quotaRoundStrict_zero] at rounds
      simpa using rounds

/-- The completion is estimated alike for all groups, unless the first one was free. -/
theorem tieredBase_congr {groupRatio other : ℚ}
    (alike : groupRatio = other ∨ req.tokenCount.maxTokens ≠ 0 ∨ (groupRatio ≠ 0 ∧ other ≠ 0)) :
    tieredBase prices cfg req model groupRatio info =
      tieredBase prices cfg req model other info := by
  rcases alike with rfl | given | ⟨paid, otherPaid⟩
  · rfl
  · simp only [tieredBase, given, false_and, if_false]
  · simp only [tieredBase, paid, otherPaid, ne_eq, not_false_eq_true, and_true]

/-! ## States -/

/-- A state whose snapshot estimates `base` for its group, with sessions that are open. -/
structure Estimated (base ratio : ℚ) (s : RelayState) : Prop where
  snapshot : ∃ snapshot, s.info.tieredBillingSnapshot = some snapshot ∧
    snapshot.estimatedQuotaBeforeGroup = base ∧
    quotaRoundStrict (base * snapshot.groupRatio * ratio) = some snapshot.estimatedQuotaAfterGroup
  session : ∀ session ∈ s.billing, session.settled = false ∧ session.refunded = false

/-- What the reservation of a paid group amounts to. -/
def Covered (s : RelayState) : Prop :=
  0 < s.info.priceData.groupRatioInfo.groupRatio →
    ∀ snap ∈ s.info.tieredBillingSnapshot, ∃ sess, s.billing = some sess ∧
      (sess.trusted = false → snap.estimatedQuotaAfterGroup ≤ sess.preConsumedQuota)

theorem openSession_open {isPlayground : Bool} {trust : TrustInputs}
    {out rollback : Option ModelError} {quota : ℤ} :
    (openSession isPlayground trust out rollback quota).session.settled = false ∧
      (openSession isPlayground trust out rollback quota).session.refunded = false := by
  simp only [openSession, BillingSession.preConsume]
  repeat' split
  all_goals simp

theorem preConsumeBilling_open {out rollback : Option ModelError} {quota : ℤ}
    (isOk : preConsumeBilling req out rollback quota s = some next) :
    ∀ sess ∈ next.billing, sess.settled = false ∧ sess.refunded = false := by
  simp only [preConsumeBilling] at isOk
  split at isOk
  · cases isOk
  · split at isOk
    · cases isOk
    · rw [← Option.some.inj isOk]
      rintro sess ⟨⟩
      exact openSession_open

theorem reserve_open {sess : BillingSession} {out : Option ModelError} {goal taken : ℤ}
    (isOpen : sess.settled = false ∧ sess.refunded = false)
    (isOk : (sess.reserve out goal taken).error = none) :
    let held := (sess.reserve out goal taken).session
    (held.settled = false ∧ held.refunded = false) ∧
      (held.trusted = false → goal ≤ held.preConsumedQuota) := by
  revert isOk
  simp only [BillingSession.reserve, isOpen.1, isOpen.2, Bool.false_or]
  split
  · split
    next enough => simp [isOpen, enough]
    next => simp
  · split
    next done =>
      intro _
      refine ⟨isOpen, ?_⟩
      intro untrusted
      have untrusted : sess.trusted = false := untrusted
      simpa [untrusted] using done
    next short =>
      simp only [Bool.or_eq_true, decide_eq_true_eq, not_or, not_le] at short
      rw [if_neg (by omega)]
      split
      · simp
      · intro _
        refine ⟨⟨rfl, rfl⟩, ?_⟩
        intro _
        show goal ≤ sess.preConsumedQuota + (goal - sess.preConsumedQuota)
        omega

/-- Another group ratio takes the channel ratio out of the estimate. -/
theorem refreshed_estimate {stale snap : BillingSnapshot} {groupRatio : ℚ}
    (renews : refreshTieredBillingGroup groupRatio stale = some snap)
    (held : if stale.groupRatio = groupRatio then newRatio = ratio else newRatio = 1)
    (past : stale.estimatedQuotaBeforeGroup = base)
    (rounds : quotaRoundStrict (base * stale.groupRatio * ratio) =
      some stale.estimatedQuotaAfterGroup) :
    snap.estimatedQuotaBeforeGroup = base ∧
      quotaRoundStrict (base * snap.groupRatio * newRatio) =
        some snap.estimatedQuotaAfterGroup := by
  rw [refreshTieredBillingGroup] at renews
  split at renews
  next same =>
    rw [if_pos same] at held
    rw [← Option.some.inj renews, held]
    exact ⟨past, rounds⟩
  next switched =>
    rw [if_neg switched] at held
    rcases Option.map_eq_some_iff.mp renews with ⟨estimated, newRound, rfl⟩
    refine ⟨past, ?_⟩
    rw [held, mul_one]
    rwa [past] at newRound

theorem Estimated.prepared (estimated : Estimated base ratio s)
    (chosen : Selected prices req info priced s)
    (held : ∀ snap ∈ s.info.tieredBillingSnapshot,
      if snap.groupRatio = s.info.priceData.groupRatioInfo.groupRatio then newRatio = ratio
      else newRatio = 1)
    (ready : prepareTieredBillingForSelectedGroup req attempt s = some next) :
    Estimated base newRatio next ∧ Covered next := by
  rcases estimated.snapshot with ⟨stale, found, past, rounds⟩
  simp only [prepareTieredBillingForSelectedGroup, found] at ready
  rw [if_neg (by simp [chosen.mode stale found])] at ready
  split at ready
  next => cases ready
  next snap renews =>
    have estimate := refreshed_estimate renews (held stale found) past rounds
    have synced := (refreshTieredBillingGroup_eq_some renews).1
    split at ready
    next free =>
      rw [← Option.some.inj ready]
      refine ⟨⟨⟨snap, rfl, estimate⟩, estimated.session⟩, ?_⟩
      intro paid
      simp [← synced, free] at paid
    next =>
      split at ready
      next =>
        have opened := preConsumeBilling_open ready
        rcases preConsumeBilling_eq_some ready with ⟨sess, rfl, reserves, trusts⟩
        refine ⟨⟨⟨snap, rfl, estimate⟩, opened⟩, ?_⟩
        rintro _ current ⟨⟩
        refine ⟨sess, rfl, ?_⟩
        intro untrusted
        rw [reserves, reservedFor, ← trusts, untrusted]
        exact le_rfl
      next sess billed =>
        split at ready
        next => cases ready
        next isOk =>
          have isOpen := reserve_open (estimated.session sess billed) isOk
          rw [← Option.some.inj ready]
          refine ⟨⟨⟨snap, rfl, estimate⟩, ?_⟩, ?_⟩
          · rintro _ ⟨⟩
            exact isOpen.1
          · rintro _ current ⟨⟩
            exact ⟨_, rfl, isOpen.2⟩

/-! ## Runs -/

theorem Estimated.getChannel (estimated : Estimated base ratio s) {pick : Option Pick}
    (selects : getChannel prices req pick s = some next) : Estimated base ratio next := by
  simp only [Relay.getChannel] at selects
  split at selects
  · rwa [← Option.some.inj selects]
  · rcases Option.map_eq_some_iff.mp selects with ⟨_, _, rfl⟩
    exact ⟨estimated.snapshot, estimated.session⟩

theorem getChannel_snapshot {pick : Option Pick}
    (selects : getChannel prices req pick s = some next) :
    next.info.tieredBillingSnapshot = s.info.tieredBillingSnapshot := by
  simp only [Relay.getChannel] at selects
  split at selects
  · rw [← Option.some.inj selects]
  · rcases Option.map_eq_some_iff.mp selects with ⟨_, _, rfl⟩
    rfl

theorem execute_retries (tries : execute prices req attempt s = .retries next) :
    ∃ chanMeta, next = { s with channelMeta := chanMeta } ∨
      ∃ conversion,
        next = RelayState.converting prices req conversion { s with channelMeta := chanMeta } := by
  simp only [execute] at tries
  repeat' split at tries
  all_goals cases tries
  all_goals first
    | exact ⟨_, .inl rfl⟩
    | exact ⟨_, .inr ⟨_, rfl⟩⟩

theorem heldRatio_snoc (route : List RelayState) (s : RelayState) :
    heldRatio prices req ctx info (route ++ [s]) =
      if (routeGroup prices req info s).groupRatio =
          (handleGroupRatio prices req ctx info).groupRatio then
        heldRatio prices req ctx info route
      else 1 := by
  simp only [heldRatio, List.forall_mem_append, List.forall_mem_singleton]
  split
  next all => rw [if_pos all.2, if_pos all.1]
  next notAll =>
    split
    next here => rw [if_neg fun past => notAll ⟨past, here⟩]
    next => rfl

/-- The invariant of the loop, at every state that is prepared after a route. -/
theorem preparedStates_estimated (attempts : List Attempt) (past : List RelayState)
    (tracks : ∃ priced, Tracks prices req info priced s)
    (estimated : Estimated base (heldRatio prices req ctx info past) s)
    (unmoved : (∀ earlier ∈ past, (routeGroup prices req info earlier).groupRatio =
        (handleGroupRatio prices req ctx info).groupRatio) →
      ∀ snap ∈ s.info.tieredBillingSnapshot,
        snap.groupRatio = (handleGroupRatio prices req ctx info).groupRatio)
    {route later : List RelayState} {prepared : RelayState}
    (splits : preparedStates prices req attempts s = route ++ prepared :: later) :
    (∃ priced, Tracks prices req info priced prepared) ∧
      Estimated base (heldRatio prices req ctx info (past ++ route ++ [prepared])) prepared ∧
      Covered prepared := by
  induction attempts generalizing s past route with
  | nil => simp [preparedStates] at splits
  | cons attempt _ ih =>
    simp only [preparedStates] at splits
    cases ready : (Relay.getChannel prices req attempt.pick s).bind
        (prepareTieredBillingForSelectedGroup req attempt) with
    | none => simp [ready] at splits
    | some current =>
      simp only [ready] at splits
      rcases tracks with ⟨_, tracks⟩
      rcases Option.bind_eq_some_iff.mp ready with ⟨chosen, selects, renews⟩
      have kept := tracks.toSelected.getChannel selects
      have moved := kept.prepared renews
      have group : chosen.info.priceData.groupRatioInfo = routeGroup prices req info current := by
        rw [kept.group, routeGroup, prep_context renews]
      have held : ∀ snap ∈ chosen.info.tieredBillingSnapshot,
          if snap.groupRatio = chosen.info.priceData.groupRatioInfo.groupRatio then
            heldRatio prices req ctx info (past ++ [current]) =
              heldRatio prices req ctx info past
          else heldRatio prices req ctx info (past ++ [current]) = 1 := by
        intro snap isSnap
        rw [getChannel_snapshot selects] at isSnap
        rw [group, heldRatio_snoc]
        by_cases steady : ∀ earlier ∈ past, (routeGroup prices req info earlier).groupRatio =
            (handleGroupRatio prices req ctx info).groupRatio
        · rw [unmoved steady snap isSnap]
          split
          next here => rw [if_pos here.symm]
          next other => rw [if_neg fun here => other here.symm]
        · have one : heldRatio prices req ctx info past = 1 := if_neg steady
          simp only [one, ite_self]
      have estimate := (estimated.getChannel selects).prepared kept held renews
      cases route with
      | nil =>
        simp only [List.nil_append, List.cons.injEq] at splits
        rw [← splits.1, List.append_nil]
        exact ⟨⟨_, moved⟩, estimate⟩
      | cons head tail =>
        simp only [List.cons_append, List.cons.injEq] at splits
        rcases splits with ⟨rfl, splits⟩
        have steadyNext : (∀ earlier ∈ past ++ [current],
            (routeGroup prices req info earlier).groupRatio =
              (handleGroupRatio prices req ctx info).groupRatio) →
            ∀ snap ∈ current.info.tieredBillingSnapshot,
              snap.groupRatio = (handleGroupRatio prices req ctx info).groupRatio := by
          intro steady snap isSnap
          rw [← steady current (by simp)]
          exact moved.synced snap isSnap
        have found : past ++ current :: tail ++ [prepared] =
            past ++ [current] ++ tail ++ [prepared] := by simp
        rw [found]
        cases turns : execute prices req attempt current with
        | stops | serves _ _ => simp [turns] at splits
        | retries _ =>
          rw [turns] at splits
          rcases execute_retries turns with ⟨chanMeta, next⟩
          have described : Tracks prices req info _ { current with channelMeta := chanMeta } :=
            ⟨⟨moved.price, moved.group, moved.mode, moved.unselected⟩, moved.synced⟩
          rcases next with rfl | ⟨conversion, rfl⟩
          · exact ih (past ++ [current]) ⟨_, described⟩
              ⟨estimate.1.snapshot, estimate.1.session⟩ steadyNext splits
          · exact ih (past ++ [current]) ⟨_, described.converting conversion⟩
              ⟨estimate.1.snapshot, estimate.1.session⟩ steadyNext splits

theorem modelPriceHelperTiered_estimated {channelRatio : ℚ}
    (isOk : modelPriceHelperTiered prices cfg req req.tokenCount
      req.promptTokens model group channelRatio info = some priced) :
    ∃ base snap, tieredBase prices cfg req model group.groupRatio info =
        some base ∧ priced.tieredBillingSnapshot = some snap ∧
      snap.groupRatio = group.groupRatio ∧ snap.estimatedQuotaBeforeGroup = base ∧
      quotaRoundStrict (base * snap.groupRatio * channelRatio) =
        some snap.estimatedQuotaAfterGroup := by
  have estimate : tieredEstimate prices cfg req model group channelRatio info = _ :=
    tieredEstimate_eq
  rw [tieredEstimate, isOk, Option.bind_some] at estimate
  simp only [modelPriceHelperTiered, Option.bind_eq_bind, Option.bind_eq_some_iff, Option.pure_def,
    Option.some.injEq] at isOk
  rcases isOk with ⟨exprString, expr, input, resolves, cost, runs, rounded, _, rfl⟩
  have based : tieredBase prices cfg req model group.groupRatio info =
      some (cost.1 / 1000000 * cfg.quotaPerUnit) := by
    simp only [tieredBase, expr, resolves, Option.bind_eq_bind, Option.bind_some, runs,
      Option.pure_def]
  rw [based, Option.bind_some] at estimate
  exact ⟨_, _, based, rfl, rfl, rfl, estimate.symm⟩

theorem openRequest_open {out rollback : Option ModelError} {ctx : Context}
    (opens : openRequest prices cfg req out rollback ctx info = some next) :
    ∀ sess ∈ next.billing, sess.settled = false ∧ sess.refunded = false := by
  simp only [openRequest, modelPriceHelper, Option.bind_eq_some_iff, Option.map_eq_some_iff]
    at opens
  rcases opens with ⟨_, ⟨priced, _, rfl⟩, opens⟩
  split at opens
  · rw [← Option.some.inj opens]
    simp
  · exact preConsumeBilling_open opens

/-- Along every route the session has reserved the estimate of a paid group, and the estimate is
the one of its group and channel unless the route has lost or changed what it is made of. -/
theorem estimates_route_free {out rollback : Option ModelError} {opened : RelayState}
    {attempts : List Attempt} (fresh : info.tieredBillingSnapshot = none)
    (unreserved : info.finalPreConsumedQuota = 0)
    (tiered : prices.billedByExpr (openingModel ctx info) = true)
    (opens : openRequest prices cfg req out rollback ctx info = some opened)
    (route later : List RelayState) (prepared : RelayState)
    (splits : preparedStates prices req attempts opened = route ++ prepared :: later) :
    RouteFree prices cfg req ctx info route prepared := by
  rcases openRequest_opened fresh unreserved opens with ⟨priced, start⟩
  have succeeds := start.succeeds
  rw [priceByName, if_pos tiered] at succeeds
  rcases modelPriceHelperTiered_estimated succeeds with
    ⟨base, first, based, found, firstGroup, past, rounds⟩
  rw [← start.reserved.snapshot] at found
  have estimated : Estimated base (heldRatio prices req ctx info []) opened :=
    ⟨⟨first, found, past, by simpa [heldRatio] using rounds⟩, openRequest_open opens⟩
  have firstOnly : ∀ snap ∈ opened.info.tieredBillingSnapshot,
      snap.groupRatio = (handleGroupRatio prices req ctx info).groupRatio := by
    intro snap isSnap
    rw [Option.mem_def, found, Option.some.injEq] at isSnap
    rw [← isSnap, firstGroup]
  rcases preparedStates_estimated attempts [] ⟨priced, start.tracks⟩ estimated
    (fun _ => firstOnly) splits with ⟨⟨_, tracks⟩, ⟨⟨snap, current, _, rounded⟩, _⟩, covered⟩
  rw [List.nil_append] at rounded
  have ofGroup := tracks.synced snap current
  rw [ofGroup] at rounded
  have group : prepared.info.priceData.groupRatioInfo =
      routeGroup prices req info prepared := tracks.group
  refine ⟨⟨snap, current, ?_, ?_⟩, ?_⟩
  · intro free estimate isEstimate
    rw [Option.mem_def, tieredEstimate_eq, free] at isEstimate
    rcases Option.bind_eq_some_iff.mp isEstimate with ⟨other, _, zero⟩
    have none : (handleGroupRatio prices req prepared.context info).groupRatio = 0 := free
    rw [none] at rounded
    simp only [mul_zero, zero_mul, quotaRoundStrict_zero, Option.some.injEq] at rounded zero
    omega
  · intro paid completes holds
    have alike : tieredBase prices cfg req (openingModel ctx info)
        (routeGroup prices req info prepared).groupRatio info = some base := by
      rw [← based]
      exact tieredBase_congr (.inr (completes.imp_right fun firstPaid => ⟨paid, firstPaid⟩))
    rw [tieredEstimate_eq, alike, holds]
    exact rounded
  · rw [← group]
    exact covered

end Estimates

/-! ## A retry in another group -/

def routePrices : PriceSettings :=
  { samplePrices with
    billedByExpr := fun _ => true
    billingExpr := fun _ => some "c" }

/-- Only `vip` is a paid group. -/
def freeGroupPrices : PriceSettings :=
  { routePrices with groupRatio := fun group => if group = "vip" then 2 else 0 }

def routeSettings : Settings :=
  { sampleSettings with runExpr := fun _ _ params _ => some (params.c, "base") }

def routeStates (prices : PriceSettings) (req : Request) (ratio : ℚ)
    (attempts : List Attempt) : List RelayState :=
  ((openRequest prices routeSettings req none none ⟨some "default", sampleChannel 5 ratio⟩
    sampleOpening).map (preparedStates prices req attempts)).getD []

def routeEstimate (prices : PriceSettings) (s : RelayState) : Option ℤ :=
  tieredEstimate prices routeSettings sampleRelayRequest "claude"
    (routeGroup prices sampleRelayRequest sampleOpening s)
    s.context.channel.getPriceRatio sampleOpening

theorem estimates_route_free_vip : ∃ first second,
    routeStates routePrices sampleRelayRequest 1 (sampleRetry 1) = [first, second] ∧
      RouteFree routePrices routeSettings sampleRelayRequest ⟨some "default", sampleChannel 5 1⟩
        sampleOpening [first] second := by
  have two : (routeStates routePrices sampleRelayRequest 1 (sampleRetry 1)).length = 2 := by
    decide +kernel
  rcases List.length_eq_two.mp two with ⟨first, second, states⟩
  refine ⟨first, second, states, ?_⟩
  have opens : (openRequest routePrices routeSettings sampleRelayRequest none none
      ⟨some "default", sampleChannel 5 1⟩ sampleOpening).isSome := by
    decide +kernel
  rcases Option.isSome_iff_exists.mp opens with ⟨opened, opens⟩
  rw [routeStates, opens] at states
  exact estimates_route_free rfl rfl rfl opens [first] [] second states

/-- The retry stays in the group of the first channel. -/
def routeChannelRetry (ratio : ℚ) : List Attempt :=
  [⟨none, none, none, .failed none⟩,
    ⟨some ⟨false, sampleChannel 6 ratio, "default"⟩, none, none, .answered sampleAnswer⟩]

/-- The estimate keeps the ratio of a channel that is left, it loses the ratio in another group,
the completion stays that of a free group, and a trusted session reserves nothing. -/
theorem estimates_follow_route :
    (∃ prepared ∈ routeStates routePrices sampleRelayRequest 1 (routeChannelRetry 2),
      ∃ snap ∈ prepared.info.tieredBillingSnapshot,
        routeEstimate routePrices prepared ≠ some snap.estimatedQuotaAfterGroup) ∧
    (∃ prepared ∈ routeStates routePrices sampleRelayRequest 2 (sampleRetry 2),
      ∃ snap ∈ prepared.info.tieredBillingSnapshot,
        routeEstimate routePrices prepared ≠ some snap.estimatedQuotaAfterGroup) ∧
    (∃ prepared ∈ routeStates freeGroupPrices sampleRelayRequest 1 (sampleRetry 1),
      ∃ snap ∈ prepared.info.tieredBillingSnapshot,
        routeEstimate freeGroupPrices prepared ≠ some snap.estimatedQuotaAfterGroup) ∧
    ∃ prepared ∈ routeStates routePrices { sampleRelayRequest with trust := ⟨false, 1, true, 0⟩ } 1
        (sampleRetry 1),
      0 < prepared.info.priceData.groupRatioInfo.groupRatio ∧
        ∃ snap ∈ prepared.info.tieredBillingSnapshot, ∃ sess ∈ prepared.billing,
          sess.preConsumedQuota < snap.estimatedQuotaAfterGroup := by
  decide +kernel

end NewApi.Relay
