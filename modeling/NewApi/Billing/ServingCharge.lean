import NewApi.Billing.ServingChannel

/-!
# The charge of the serving channel

A request that one channel began and another one served is compared with a request that the
serving channel began. The ratio and the billed model of the first channel are what the loop never
refreshes.
-/

namespace NewApi.Relay

open NewApi.Dto NewApi.Types NewApi.Service NewApi.Model

/-! ## The reservation along the loop -/

section Reservation

variable {prices : PriceSettings} {cfg : Settings} {req : Request}
  {info priced found : RelayInfo} {s next : RelayState} {groupRatio : ℚ}

def reservation (priced : RelayInfo) : ℤ :=
  if priced.priceData.freeModel then 0 else priced.priceData.quotaToPreConsume

/-- A state in which the reservation is still that of `priced`. -/
structure Reserved (prices : PriceSettings) (req : Request) (info priced : RelayInfo)
    (groupRatio : ℚ) (s : RelayState) : Prop where
  steady : (handleGroupRatio prices req s.context info).groupRatio = groupRatio
  snapshot : s.info.tieredBillingSnapshot = priced.tieredBillingSnapshot
  reserved : s.info.finalPreConsumedQuota = reservedFor req.trust (reservation priced)
  session : ∀ session ∈ s.billing,
    session.preConsumedQuota = reservedFor req.trust (reservation priced) ∧
      session.trusted = req.trust.shouldTrust (reservation priced)

theorem reservedFor_zero (trust : TrustInputs) : reservedFor trust 0 = 0 := by
  simp [reservedFor]

theorem reserve_settled {sess : BillingSession} {out : Option ModelError} {goal taken : ℤ}
    (enough : sess.trusted = true ∨ goal ≤ sess.preConsumedQuota)
    (done : (sess.reserve out goal taken).error = none) :
    (sess.reserve out goal taken).session = sess := by
  revert done
  simp only [BillingSession.reserve]
  split
  next =>
    split
    next => intro _; rfl
    next => simp
  next =>
    rw [if_pos]
    · intro _
      rfl
    · rcases enough with trusted | covered
      · simp [trusted]
      · simp [covered]

variable {tokenCount : TokenCountMeta} {model : String} {group : GroupRatioInfo}
  {channelRatio : ℚ} {attempt : Attempt}

theorem priceByName_estimate {promptTokens : ℤ} (fresh : info.tieredBillingSnapshot = none)
    (done : priceByName prices cfg req tokenCount promptTokens model group
      channelRatio info = some priced) :
    ∀ snap ∈ priced.tieredBillingSnapshot, snap.estimatedQuotaAfterGroup = reservation priced := by
  simp only [priceByName] at done
  split at done
  next =>
    simp only [modelPriceHelperTiered, Option.bind_eq_bind, Option.bind_eq_some_iff, pure,
      Option.some.injEq] at done
    rcases done with ⟨_, _, _, _, ⟨_, _⟩, _, _, _, rfl⟩
    intro _ isSnap
    simp only [Option.mem_def, Option.some.injEq] at isSnap
    rw [← isSnap]
    simp only [reservation]
    split <;> rfl
  next =>
    split at done
    next =>
      simp only [Option.bind_eq_bind, Option.bind_eq_some_iff, pure, Option.some.injEq] at done
      rcases done with ⟨quota, _, rfl⟩
      simp [fresh]
    next =>
      split at done
      next => simp at done
      next =>
        simp only [Option.bind_eq_bind, Option.bind_eq_some_iff, pure, Option.some.injEq] at done
        rcases done with ⟨_, _, rfl⟩
        simp [fresh]

theorem foldl_addOtherRatio_regroup (ratios : List (String × ℚ)) (price : PriceData)
    (group : GroupRatioInfo) :
    ratios.foldl (fun price ratio => price.addOtherRatio ratio.1 ratio.2)
        { price with groupRatioInfo := group } =
      { ratios.foldl (fun price ratio => price.addOtherRatio ratio.1 ratio.2) price with
        groupRatioInfo := group } := by
  induction ratios generalizing price with
  | nil => rfl
  | cons _ _ ih =>
    rw [List.foldl_cons, List.foldl_cons, ← ih]
    congr 1
    simp only [PriceData.addOtherRatio]
    split <;> rfl

theorem callPrice_regroup {other : GroupRatioInfo}
    (sameRatio : group.groupRatio = other.groupRatio) :
    callPrice prices tokenCount model group channelRatio =
      { callPrice prices tokenCount model other channelRatio with groupRatioInfo := group } := by
  simp only [callPrice, sameRatio]
  rw [← foldl_addOtherRatio_regroup]

/-- Two groups of one ratio reserve the same. -/
theorem priceByName_reservation {promptTokens : ℤ} {other : GroupRatioInfo}
    {otherInfo otherPriced : RelayInfo} (sameRatio : group.groupRatio = other.groupRatio)
    (inputs : info.billingRequestInput = otherInfo.billingRequestInput)
    (snapshots : info.tieredBillingSnapshot = otherInfo.tieredBillingSnapshot)
    (done : priceByName prices cfg req tokenCount promptTokens model group
      channelRatio info = some priced)
    (otherOk : priceByName prices cfg req tokenCount promptTokens model other
      channelRatio otherInfo = some otherPriced) :
    priced.tieredBillingSnapshot = otherPriced.tieredBillingSnapshot ∧
      reservation priced = reservation otherPriced := by
  have resolves : resolveIncomingBillingExprRequestInput req info =
      resolveIncomingBillingExprRequestInput req otherInfo := by
    simp only [resolveIncomingBillingExprRequestInput, inputs]
  simp only [priceByName, modelPriceHelperTiered, sameRatio, resolves] at done
  simp only [priceByName, modelPriceHelperTiered] at otherOk
  split at done
  next billed =>
    rw [if_pos billed] at otherOk
    simp only [Option.bind_eq_bind, Option.bind_eq_some_iff, pure, Option.some.injEq]
      at done otherOk
    rcases done with ⟨_, expr, _, resolved, ⟨_, _⟩, ran, _, rounds, rfl⟩
    rcases otherOk with
      ⟨otherExpr, otherExprEq, otherInput, otherResolved, ⟨otherCost, otherTier⟩, otherRan,
        otherRounded, otherRounds, rfl⟩
    simp only [expr, Option.some.injEq] at otherExprEq
    subst otherExprEq
    simp only [resolved, Option.some.injEq] at otherResolved
    subst otherResolved
    simp only [ran, Option.some.injEq, Prod.mk.injEq] at otherRan
    rcases otherRan with ⟨rfl, rfl⟩
    simp only [rounds, Option.some.injEq] at otherRounds
    subst otherRounds
    exact ⟨rfl, rfl⟩
  next notBilled =>
    rw [if_neg notBilled] at otherOk
    split at done
    next perCall =>
      rw [if_pos perCall] at otherOk
      simp only [Option.bind_eq_bind, Option.bind_eq_some_iff, pure, Option.some.injEq]
        at done otherOk
      rcases done with ⟨quota, quotes, rfl⟩
      rcases otherOk with ⟨otherQuota, otherQuotes, rfl⟩
      rw [callPrice_regroup sameRatio] at quotes
      have quotesEq : some quota = some otherQuota := quotes.symm.trans otherQuotes
      simp only [Option.some.injEq] at quotesEq
      rw [callPrice_regroup sameRatio]
      exact ⟨snapshots, by simp only [reservation, quotesEq]⟩
    next perToken =>
      rw [if_neg perToken] at otherOk
      split at done
      next => simp at done
      next accepted =>
        rw [if_neg accepted] at otherOk
        simp only [Option.bind_eq_bind, Option.bind_eq_some_iff, pure, Option.some.injEq]
          at done otherOk
        rcases done with ⟨quota, quotes, rfl⟩
        rcases otherOk with ⟨otherQuota, otherQuotes, rfl⟩
        have quotesEq : some quota = some otherQuota := quotes.symm.trans otherQuotes
        simp only [Option.some.injEq] at quotesEq
        subst quotesEq
        refine ⟨snapshots, ?_⟩
        simp only [reservation, tokenPrice, sameRatio]
        rfl

theorem prep_context (ready : prepareTieredBillingForSelectedGroup req attempt s = some next) :
    next.context = s.context := by
  simp only [prepareTieredBillingForSelectedGroup] at ready
  split at ready
  next => rw [← Option.some.inj ready]
  next =>
    split at ready
    next => rw [← Option.some.inj ready]
    next =>
      split at ready
      next => simp at ready
      next =>
        split at ready
        next => rw [← Option.some.inj ready]
        next =>
          split at ready
          next =>
            rcases preConsumeBilling_eq_some ready with ⟨_, rfl, _⟩
            rfl
          next =>
            split at ready
            next => simp at ready
            next => rw [← Option.some.inj ready]

variable (current : ∀ snap ∈ priced.tieredBillingSnapshot,
  snap.groupRatio = groupRatio ∧ snap.estimatedQuotaAfterGroup = reservation priced)

variable (held : Reserved prices req info priced groupRatio s)

include current held in
theorem Reserved.prepared (chosen : Selected prices req info found s)
    (ready : prepareTieredBillingForSelectedGroup req attempt s = some next) :
    Reserved prices req info priced groupRatio next := by
  have sameContext := prep_context ready
  simp only [prepareTieredBillingForSelectedGroup] at ready
  split at ready
  next =>
    simp only [Option.some.injEq] at ready
    rwa [← ready]
  next stale isStale =>
    have foundPriced : priced.tieredBillingSnapshot = some stale := by
      rw [← held.snapshot, isStale]
    have isCurrent : stale.groupRatio = s.info.priceData.groupRatioInfo.groupRatio := by
      rw [(current stale foundPriced).1, chosen.group, held.steady]
    have kept : refreshTieredBillingGroup s.info.priceData.groupRatioInfo.groupRatio stale =
        some stale := by
      rw [refreshTieredBillingGroup, if_pos isCurrent]
    rw [if_neg (by simp [chosen.mode stale isStale])] at ready
    simp only [kept, (current stale foundPriced).2] at ready
    split at ready
    next =>
      simp only [Option.some.injEq] at ready
      subst ready
      exact ⟨held.steady, foundPriced.symm, held.reserved, held.session⟩
    next =>
      split at ready
      next =>
        rcases preConsumeBilling_eq_some ready with ⟨sess, rfl, quotaEq, trustedEq⟩
        refine ⟨held.steady, foundPriced.symm, quotaEq, ?_⟩
        intro _ isOpened
        simp only [Option.mem_def, Option.some.injEq] at isOpened
        rw [← isOpened]
        exact ⟨quotaEq, trustedEq⟩
      next sess isSession =>
        rcases held.session sess isSession with ⟨quotaEq, trustedEq⟩
        split at ready
        next => simp at ready
        next done =>
          have enough : sess.trusted = true ∨
              reservation priced ≤ sess.preConsumedQuota := by
            rw [trustedEq, quotaEq, reservedFor]
            cases req.trust.shouldTrust (reservation priced) <;> simp
          simp only [reserve_settled enough done, Option.some.injEq] at ready
          subst ready
          refine ⟨held.steady, foundPriced.symm, quotaEq, ?_⟩
          intro _ isOpened
          simp only [Option.mem_def, Option.some.injEq] at isOpened
          rw [← isOpened]
          exact ⟨quotaEq, trustedEq⟩

/-- Every selection that the attempts could make has the ratio of the first group. -/
def SteadyGroup (prices : PriceSettings) (req : Request) (info : RelayInfo) (groupRatio : ℚ)
    (attempts : List Attempt) : Prop :=
  ∀ attempt ∈ attempts, ∀ pick ∈ attempt.pick, req.tokenGroup = "auto" →
    (handleGroupRatio prices req ⟨some pick.group, pick.channel⟩ info).groupRatio = groupRatio

include held in
theorem Reserved.getChannel {offered : Option Pick}
    (steady : ∀ pick ∈ offered, req.tokenGroup = "auto" →
      (handleGroupRatio prices req ⟨some pick.group, pick.channel⟩ info).groupRatio =
        groupRatio) (selects : getChannel prices req offered s = some next) :
    Reserved prices req info priced groupRatio next := by
  simp only [Relay.getChannel] at selects
  split at selects
  next =>
    simp only [Option.some.injEq] at selects
    rwa [← selects]
  next =>
    rcases Option.map_eq_some_iff.mp selects with ⟨picked, isPicked, rfl⟩
    refine ⟨?_, held.snapshot, held.reserved, held.session⟩
    by_cases auto : req.tokenGroup = "auto" ∧ (picked.smart = true → picked.group ≠ "")
    · simp only [Context.selectGroup, if_pos auto]
      exact steady picked isPicked auto.1
    · simp only [Context.selectGroup, if_neg auto]
      exact held.steady

theorem turn_prepared {run : RelayState} (turns : turn prices req attempt s = .retries run ∨
      ∃ reply, turn prices req attempt s = .serves run reply) :
    ∃ chosen prepared, Relay.getChannel prices req attempt.pick s = some chosen ∧
      prepareTieredBillingForSelectedGroup req attempt chosen = some prepared ∧
      ∃ chanMeta, run = { prepared with channelMeta := chanMeta } ∨
        ∃ conversion, attempt.result = .failed (some conversion) ∧
          run = RelayState.converting prices req conversion
            { prepared with channelMeta := chanMeta } := by
  simp only [turn] at turns
  cases moves : (Relay.getChannel prices req attempt.pick s).bind
      (prepareTieredBillingForSelectedGroup req attempt) with
  | none => simp [moves] at turns
  | some prepared =>
    rcases Option.bind_eq_some_iff.mp moves with ⟨chosen, selects, ready⟩
    refine ⟨chosen, prepared, selects, ready, ?_⟩
    simp only [moves, execute] at turns
    split at turns
    next =>
      simp only [Turn.retries.injEq, reduceCtorEq, exists_false, or_false] at turns
      exact ⟨prepared.channelMeta, .inl (by rw [← turns])⟩
    next =>
      simp only [Turn.retries.injEq, reduceCtorEq, exists_false, or_false] at turns
      exact ⟨_, .inl turns.symm⟩
    next conversion failed =>
      split at turns
      next =>
        simp only [Turn.retries.injEq, reduceCtorEq, exists_false, or_false] at turns
        exact ⟨_, .inl turns.symm⟩
      next chanMeta _ =>
        simp only [Turn.retries.injEq, reduceCtorEq, exists_false, or_false] at turns
        exact ⟨some chanMeta, .inr ⟨conversion, failed, turns.symm⟩⟩
    next =>
      split at turns
      next =>
        simp only [Turn.retries.injEq, reduceCtorEq, exists_false, or_false] at turns
        exact ⟨_, .inl turns.symm⟩
      next =>
        simp only [reduceCtorEq, Turn.serves.injEq, exists_and_left, exists_eq', and_true,
          false_or] at turns
        exact ⟨_, .inl turns.symm⟩

include held in
theorem Reserved.converting (conversion : Conversion) :
    Reserved prices req info priced groupRatio (s.converting prices req conversion) :=
  ⟨held.steady, held.snapshot, held.reserved, held.session⟩

include current held in
theorem Reserved.turn {run : RelayState} (tracks : Tracks prices req info found s)
    (steady : s.channelMeta = none ∨ ∀ pick ∈ attempt.pick, req.tokenGroup = "auto" →
      (handleGroupRatio prices req ⟨some pick.group, pick.channel⟩ info).groupRatio =
        groupRatio) (turns : turn prices req attempt s = .retries run ∨
      ∃ reply, turn prices req attempt s = .serves run reply) :
    Reserved prices req info priced groupRatio run := by
  rcases turn_prepared turns with ⟨chosen, prepared, selects, ready, chanMeta, runs⟩
  have kept : Reserved prices req info priced groupRatio chosen := by
    rcases steady with first | steady
    · simp only [Relay.getChannel, first, Option.some.injEq] at selects
      rwa [← selects]
    · exact held.getChannel steady selects
  have settled := kept.prepared current (tracks.toSelected.getChannel selects) ready
  have described : Reserved prices req info priced groupRatio
      { prepared with channelMeta := chanMeta } :=
    ⟨settled.steady, settled.snapshot, settled.reserved, settled.session⟩
  rcases runs with rfl | ⟨conversion, _, rfl⟩
  · exact described
  · exact described.converting conversion

include current held in
theorem Reserved.served {attempts : List Attempt} {reply : Answer}
    (tracks : Tracks prices req info found s)
    (steady : SteadyGroup prices req info groupRatio attempts)
    (serves : attemptChannels prices req attempts s = some (next, reply)) :
    Reserved prices req info priced groupRatio next := by
  induction attempts generalizing s found with
  | nil => simp [attemptChannels] at serves
  | cons attempt rest ih =>
    have steadyNow := steady attempt List.mem_cons_self
    have steadyLater : SteadyGroup prices req info groupRatio rest := by
      intro later isLater
      exact steady later (List.mem_cons_of_mem _ isLater)
    simp only [attemptChannels] at serves
    split at serves
    next => simp at serves
    next retried tries =>
      have kept := held.turn current tracks (.inr steadyNow) (.inl tries)
      rcases tracks.turn.1 retried tries with same | ⟨_, _, converted⟩
      · exact ih kept same steadyLater serves
      · exact ih kept converted steadyLater serves
    next answered servesNow =>
      simp only [Option.some.injEq, Prod.mk.injEq] at serves
      rw [← serves.1]
      exact held.turn current tracks (.inr steadyNow) (.inr ⟨answered, servesNow⟩)

theorem Priced.finalPreConsumedQuota
    (pricing : Priced prices cfg req tokenCount model group channelRatio info priced) :
    priced.finalPreConsumedQuota = info.finalPreConsumedQuota := by
  cases pricing with
  | byExpr _ _ _ _ _ _ _ _ _ pricedEq => rw [pricedEq]
  | fixed _ _ _ pricedEq => rw [pricedEq]

/-- The first price of a request. -/
structure Opened (prices : PriceSettings) (cfg : Settings) (req : Request)
    (context : Context) (info priced : RelayInfo) (s : RelayState) : Prop where
  succeeds : priceByName prices cfg req req.tokenCount req.promptTokens
    (openingModel context info) (handleGroupRatio prices req context info)
    context.channel.getPriceRatio { info with usingGroup := context.usingGroup info } = some priced
  contextEq : s.context = context
  first : s.channelMeta = none
  tracks : Tracks prices req info priced s
  reserved : Reserved prices req info priced (handleGroupRatio prices req context info).groupRatio s

theorem openRequest_opened {out rollback : Option ModelError} {context : Context}
    (fresh : info.tieredBillingSnapshot = none) (unreserved : info.finalPreConsumedQuota = 0)
    (opens : openRequest prices cfg req out rollback context info = some next) :
    ∃ priced, Opened prices cfg req context info priced next := by
  simp only [openRequest, modelPriceHelper, Option.bind_eq_some_iff, Option.map_eq_some_iff]
    at opens
  rcases opens with ⟨_, ⟨priced, done, rfl⟩, opens⟩
  have ratio : channelPriceRatioForBilling ⟨context, none, info, none⟩ =
      context.channel.getPriceRatio := by
    simp [channelPriceRatioForBilling, getPriceRatio_nonneg]
  rw [ratio] at done
  have pricing := priceByName_priced done
  have tracks : Tracks prices req info priced ⟨context, none, priced, none⟩ := by
    refine pricing.tracks ?_ (by simp [fresh]) (by simp [fresh])
    intro notAuto
    simp [Context.usingGroup, notAuto]
  refine ⟨priced, ?_⟩
  split at opens
  next free =>
    simp only [Option.some.injEq] at opens
    subst opens
    refine ⟨done, rfl, rfl, tracks, rfl, rfl, ?_, by simp⟩
    simp only [pricing.finalPreConsumedQuota, unreserved, reservation, if_pos free,
      reservedFor_zero]
  next paid =>
    have reserves : reservation priced = priced.priceData.quotaToPreConsume := if_neg paid
    rcases preConsumeBilling_eq_some opens with ⟨_, rfl, quotaEq, trustedEq⟩
    rw [← reserves] at quotaEq trustedEq
    refine ⟨done, rfl, rfl, tracks.reserved _ _, rfl, rfl, quotaEq, ?_⟩
    intro _ isOpened
    simp only [Option.mem_def, Option.some.injEq] at isOpened
    rw [← isOpened]
    exact ⟨quotaEq, trustedEq⟩

theorem Opened.snapshot {context : Context} (opened : Opened prices cfg req context info priced s)
    (fresh : info.tieredBillingSnapshot = none) :
    ∀ snap ∈ priced.tieredBillingSnapshot,
      snap.groupRatio = (handleGroupRatio prices req context info).groupRatio ∧
        snap.estimatedQuotaAfterGroup = reservation priced := by
  intro snap isSnap
  have freshHere : ({ info with usingGroup := context.usingGroup info } :
      RelayInfo).tieredBillingSnapshot = none := fresh
  refine ⟨?_, priceByName_estimate freshHere opened.succeeds snap isSnap⟩
  rw [← opened.contextEq]
  exact opened.tracks.synced snap (by rw [opened.reserved.snapshot]; exact isSnap)

end Reservation

/-! ## The serving attempt -/

section Serving

variable {prices : PriceSettings} {cfg : Settings} {req : Request}
  {info priced basePriced : RelayInfo} {s served base : RelayState} {reply : Answer}

theorem attemptChannels_meta {attempts : List Attempt}
    (serves : attemptChannels prices req attempts s = some (served, reply)) :
    ∃ chanMeta, served.channelMeta = some chanMeta ∧
      modelMappedHelper served (initChannelMeta served) = some chanMeta := by
  induction attempts generalizing s with
  | nil => simp [attemptChannels] at serves
  | cons _ _ ih =>
    simp only [attemptChannels] at serves
    split at serves
    next => simp at serves
    next => exact ih serves
    next servesNow =>
      simp only [Option.some.injEq, Prod.mk.injEq] at serves
      rcases serves with ⟨rfl, _⟩
      simp only [turn] at servesNow
      split at servesNow
      next => simp at servesNow
      next =>
        simp only [execute] at servesNow
        split at servesNow
        next => simp at servesNow
        next => simp at servesNow
        next =>
          split at servesNow
          next => simp at servesNow
          next => simp at servesNow
        next =>
          split at servesNow
          next => simp at servesNow
          next chanMeta maps =>
            simp only [Turn.serves.injEq] at servesNow
            rcases servesNow with ⟨rfl, _⟩
            exact ⟨chanMeta, rfl, maps⟩

theorem attemptChannels_singleton {attempt : Attempt}
    (serves : attemptChannels prices req [attempt] s = some (served, reply)) :
    turn prices req attempt s = .serves served reply := by
  simp only [attemptChannels] at serves
  split at serves
  next => simp at serves
  next => simp at serves
  next servesNow =>
    simp only [Option.some.injEq, Prod.mk.injEq] at serves
    rcases serves with ⟨rfl, rfl⟩
    exact servesNow

theorem turn_first {attempt : Attempt} {given : Answer} (first : s.channelMeta = none)
    (result : attempt.result = .answered given)
    (serves : turn prices req attempt s = .serves served reply) :
    served.context = s.context ∧ reply = given := by
  rcases turn_prepared (.inr ⟨reply, serves⟩) with
    ⟨chosen, prepared, selects, ready, chanMeta, rfl | ⟨_, failed, _⟩⟩
  case inr => simp [result] at failed
  simp only [getChannel, first, Option.some.injEq] at selects
  subst selects
  have sameContext := prep_context ready
  refine ⟨sameContext, ?_⟩
  simp only [turn, getChannel, first, Option.bind_some, ready, execute, result] at serves
  split at serves
  next => simp at serves
  next => exact (Turn.serves.inj serves).2.symm

theorem modelMappedHelper_congr (contexts : served.context = base.context)
    (names : served.info.originModelName = base.info.originModelName) :
    modelMappedHelper served (initChannelMeta served) =
      modelMappedHelper base (initChannelMeta base) := by
  simp only [modelMappedHelper, initChannelMeta, contexts, names]

theorem modelMappedHelper_channel {chanMeta : ChannelMeta}
    (maps : modelMappedHelper s (initChannelMeta s) = some chanMeta) :
    chanMeta.channelId = s.context.channel.id ∧ chanMeta.channelType = s.context.channel.type := by
  simp only [modelMappedHelper] at maps
  split at maps
  · simp at maps
  · rcases Option.map_eq_some_iff.mp maps with ⟨_, _, rfl⟩
    exact ⟨rfl, rfl⟩

/-- Only a compaction reads more of the channel's description than its id and its type. -/
structure Agree (prices : PriceSettings) (req : Request) (info priced basePriced : RelayInfo)
    (served base : RelayState) : Prop where
  contexts : served.context = base.context
  metas : served.info.relayMode = relayModeResponsesCompact → served.channelMeta = base.channelMeta
  tracks : Tracks prices req info priced served
  baseTracks : Tracks prices req info basePriced base
  price : ∀ group, erased (regrouped priced group) = erased (regrouped basePriced group)

variable (agree : Agree prices req info priced basePriced served base)

include agree

theorem Agree.regrouped (group : GroupRatioInfo) :
    erased (Relay.regrouped served.info group) = erased (Relay.regrouped base.info group) := by
  rw [agree.tracks.price, agree.baseTracks.price, agree.price]

theorem Agree.erased : Relay.erased served.info = Relay.erased base.info := by
  rw [agree.tracks.erased_eq, agree.baseTracks.erased_eq, agree.price, agree.contexts]

theorem Agree.field
    {α : Type} (read : RelayInfo → α) (reads : ∀ info, read (Relay.erased info) = read info) :
    read served.info = read base.info := by
  rw [← reads, agree.erased, reads]

theorem Agree.billingModelName (compact : served.info.relayMode = relayModeResponsesCompact) :
    billingModelName served = billingModelName base := by
  have names := agree.field RelayInfo.originModelName fun _ => rfl
  simp only [Relay.billingModelName, billingModelName.resolved, agree.metas compact,
    agree.contexts, names]

theorem Agree.channelPriceRatio (compact : served.info.relayMode = relayModeResponsesCompact) :
    channelPriceRatioForBilling served = channelPriceRatioForBilling base := by
  simp only [channelPriceRatioForBilling, agree.metas compact, agree.contexts]

omit agree

theorem Tracks.repriced {tokenCount : TokenCountMeta} {promptTokens : ℤ} {repriced : RelayState}
    (tracks : Tracks prices req info priced s)
    (reprices : modelPriceHelper prices cfg req tokenCount promptTokens s = some repriced) :
    ∃ final, priceByName prices cfg req tokenCount promptTokens (billingModelName s)
        (handleGroupRatio prices req s.context info) (channelPriceRatioForBilling s)
        { s.info with usingGroup := s.context.usingGroup s.info } = some final ∧
      repriced = { s with info := final } ∧ Tracks prices req info final repriced := by
  simp only [modelPriceHelper, Option.map_eq_some_iff] at reprices
  rcases reprices with ⟨final, done, rfl⟩
  rw [handleGroupRatio_congr tracks.usingGroup] at done
  refine ⟨final, done, rfl, ?_⟩
  refine (priceByName_priced done).tracks ?_ tracks.mode tracks.synced
  intro notAuto
  rw [tracks.usingGroup]
  simp [Context.usingGroup, notAuto]

theorem Agree.settles {settling baseSettling : RelayState}
    (agree : Agree prices req info priced basePriced served base)
    (settles : priceToSettle prices cfg req served = some settling)
    (baseSettles : priceToSettle prices cfg req base = some baseSettling) :
    Relay.erased settling.info = Relay.erased baseSettling.info ∧
      settling.channelMeta = served.channelMeta ∧ baseSettling.channelMeta = base.channelMeta ∧
      (served.info.tieredBillingSnapshot = base.info.tieredBillingSnapshot →
        served.info.finalPreConsumedQuota = base.info.finalPreConsumedQuota →
        settling.info.tieredBillingSnapshot.map (fallbackQuota settling.info) =
          baseSettling.info.tieredBillingSnapshot.map (fallbackQuota baseSettling.info)) := by
  have modes := agree.field RelayInfo.relayMode fun _ => rfl
  have prompts := agree.field RelayInfo.estimatePromptTokens fun _ => rfl
  have inputs := agree.field RelayInfo.billingRequestInput fun _ => rfl
  simp only [priceToSettle, modes, prompts] at settles
  simp only [priceToSettle] at baseSettles
  split at settles
  next compact =>
    have compactServed := modes.trans compact
    rw [if_pos compact] at baseSettles
    rcases agree.tracks.repriced settles with ⟨final, done, rfl, tracks⟩
    rcases agree.baseTracks.repriced baseSettles with ⟨baseFinal, baseSucceeds, rfl, baseTracks⟩
    rw [agree.billingModelName compactServed, agree.channelPriceRatio compactServed,
      agree.contexts] at done
    have repricedAlike := (priceByName_priced done).erased_eq (priceByName_priced baseSucceeds)
      agree.regrouped
    refine ⟨?_, rfl, rfl, ?_⟩
    · have left := tracks.erased_eq
      have right := baseTracks.erased_eq
      simp only at left right ⊢
      rw [left, right, repricedAlike, agree.contexts]
    · intro snapshots quotas
      have same := (priceByName_reservation rfl (by exact inputs) (by exact snapshots) done
        baseSucceeds).1
      have finals : final.finalPreConsumedQuota = baseFinal.finalPreConsumedQuota := by
        rw [(priceByName_priced done).finalPreConsumedQuota,
          (priceByName_priced baseSucceeds).finalPreConsumedQuota]
        exact quotas
      simp only [same]
      congr 1
      funext snap
      simp only [fallbackQuota, finals]
  next notCompact =>
    rw [if_neg notCompact] at baseSettles
    simp only [Option.some.injEq] at settles baseSettles
    subst settles baseSettles
    refine ⟨agree.erased, rfl, rfl, ?_⟩
    intro snapshots quotas
    rw [snapshots]
    congr 1
    funext snap
    simp only [fallbackQuota, quotas]

end Serving

/-! ## The charge -/

section Charge

variable {prices : PriceSettings} {cfg : Settings} {req : Request}
  {info priced : RelayInfo} {s : RelayState} {told : Option Usage}

/-- The billing expression of a model, if it has one, has a value for a reported usage. -/
def HasValue (prices : PriceSettings) (cfg : Settings) (told : Option Usage)
    (model : String) : Prop :=
  ∀ exprString ∈ prices.billingExpr model, ∀ usage ∈ told, ∀ isClaudeUsageSemantic input,
    cfg.runExpr exprString (prices.exprHash exprString)
      (buildTieredTokenParams usage isClaudeUsageSemantic (cfg.usedVars exprString)) input ≠ none

/-- The expression of the snapshot is that of a model whose expression has a value. -/
def Valued (prices : PriceSettings) (cfg : Settings) (told : Option Usage)
    (info : RelayInfo) : Prop :=
  ∀ snap ∈ info.tieredBillingSnapshot, ∃ model, HasValue prices cfg told model ∧
      prices.billingExpr model = some snap.exprString ∧
      snap.exprHash = prices.exprHash snap.exprString

variable (valued : Valued prices cfg told info)

include valued

theorem Valued.evaluates (isClaudeUsageSemantic : Bool) :
    Evaluates cfg info told isClaudeUsageSemantic := by
  intro _ _ settles
  cases told with
  | none => simp [tieredSettlement] at settles
  | some usage =>
    cases found : info.tieredBillingSnapshot with
    | none => simp [tieredSettlement, tryTieredSettle, found] at settles
    | some snap =>
      rcases valued snap found with ⟨_, hasValue, expr, hash⟩
      by_cases mode : snap.billingMode = "tiered_expr"
      · have val := hasValue snap.exprString expr usage rfl isClaudeUsageSemantic
          (info.billingRequestInput.getD {})
        rw [← hash] at val
        rcases Option.ne_none_iff_exists'.mp val with ⟨⟨_, _⟩, ran⟩
        rcases tryTieredSettle_of_cost found mode ran with ⟨_, _, settled⟩
        simp only [tieredSettlement, found, Option.any_some, settled, Option.some.injEq,
          Prod.mk.injEq] at settles
        simp [← settles.2]
      · simp [tieredSettlement, tryTieredSettle, found, mode] at settles

theorem Valued.repriced {tokenCount : TokenCountMeta} {model : String} {group : GroupRatioInfo}
    {channelRatio : ℚ} (hasValue : HasValue prices cfg told model)
    (pricing : Priced prices cfg req tokenCount model group channelRatio info priced) :
    Valued prices cfg told priced := by
  cases pricing with
  | byExpr exprString _ snap _ expr _ terms _ _ pricedEq =>
    intro _ isCurrent
    rw [pricedEq] at isCurrent
    simp only [Option.mem_def, Option.some.injEq] at isCurrent
    subst isCurrent
    have exprEq : snap.exprString = exprString := by
      have fields := congrArg BillingSnapshot.exprString terms
      exact fields
    have hashEq : snap.exprHash = prices.exprHash exprString := by
      have fields := congrArg BillingSnapshot.exprHash terms
      exact fields
    exact ⟨model, hasValue, by rw [expr, exprEq], by rw [hashEq, exprEq]⟩
  | fixed _ _ _ pricedEq =>
    rw [pricedEq]
    exact valued

theorem Valued.congr {other : RelayInfo}
    (same : erased info = erased other) : Valued prices cfg told other := by
  intro _ isSnap
  have snapshots := congrArg RelayInfo.tieredBillingSnapshot same
  simp only [erased, Option.mem_def] at snapshots isSnap
  rw [isSnap, Option.map_some, Option.map_eq_some_iff] at snapshots
  rcases snapshots with ⟨stale, isStale, terms⟩
  rcases valued stale isStale with ⟨model, hasValue, expr, hash⟩
  have sameTerms := sameTerms_of_erased terms
  rw [sameTerms.expr] at expr hash
  exact ⟨model, hasValue, expr, by rw [← hash, sameTerms.hash]⟩

omit valued

theorem Valued.tracked (valued : Valued prices cfg told priced)
    (tracks : Tracks prices req info priced s) :
    Valued prices cfg told s.info := by
  have regroups : Valued prices cfg told
      (regrouped priced (handleGroupRatio prices req s.context info)) := by
    intro _ isSnap
    simp only [regrouped, Option.mem_def, Option.map_eq_some_iff] at isSnap
    rcases isSnap with ⟨stale, isStale, rfl⟩
    exact valued stale isStale
  exact regroups.congr tracks.erased_eq.symm

theorem Valued.settling {settling : RelayState} (valued : Valued prices cfg told priced)
    (hasValue : HasValue prices cfg told (billingModelName s))
    (tracks : Tracks prices req info priced s)
    (settles : priceToSettle prices cfg req s = some settling) :
    Valued prices cfg told settling.info := by
  have servedValued := valued.tracked tracks
  simp only [priceToSettle] at settles
  split at settles
  next =>
    rcases tracks.repriced settles with ⟨_, done, rfl, _⟩
    have current : Valued prices cfg told
        { s.info with usingGroup := s.context.usingGroup s.info } := servedValued
    exact current.repriced hasValue (priceByName_priced done)
  next =>
    simp only [Option.some.injEq] at settles
    rwa [← settles]

theorem Reserved.eq {context : Context} {basePriced : RelayInfo} {opened baseOpened : RelayState}
    {served base : RelayState} {groupRatio : ℚ}
    (start : Opened prices cfg req context info priced opened)
    (baseStart : Opened prices cfg req served.context info basePriced baseOpened)
    (sameRatio : served.context.channel.getPriceRatio = context.channel.getPriceRatio)
    (sameModel : openingModel served.context info = openingModel context info)
    (held : Reserved prices req info priced
      (handleGroupRatio prices req context info).groupRatio served)
    (baseReserved : Reserved prices req info basePriced groupRatio base) :
    served.info.tieredBillingSnapshot = base.info.tieredBillingSnapshot ∧
      served.info.finalPreConsumedQuota = base.info.finalPreConsumedQuota := by
  have baseSucceeds := baseStart.succeeds
  rw [sameModel, sameRatio] at baseSucceeds
  rcases priceByName_reservation held.steady.symm (by rfl) (by rfl) start.succeeds
    baseSucceeds with ⟨snapshots, reservations⟩
  refine ⟨?_, ?_⟩
  · rw [held.snapshot, baseReserved.snapshot, snapshots]
  · rw [held.reserved, baseReserved.reserved, reservations]

/-- The attempt adds no ratio to the price unless it serves. -/
def Quiet (attempt : Attempt) : Prop :=
  ∀ conversion, attempt.result = .failed (some conversion) → conversion.otherRatios = []

/-- What quiet attempts find of the price: at most the name of the model is another one. -/
theorem Tracks.served_quiet {attempts : List Attempt} {served : RelayState} {reply : Answer}
    (tracks : Tracks prices req info priced s) (quiet : ∀ attempt ∈ attempts, Quiet attempt)
    (serves : attemptChannels prices req attempts s = some (served, reply)) :
    ∃ found, (found = priced ∨ found = Relay.converting prices req [] priced) ∧
      Tracks prices req info found served := by
  refine Tracks.served tracks (.inl rfl) ?_ serves
  intro attempt isAttempt conversion failed found keeps
  rw [quiet attempt isAttempt conversion failed]
  rcases keeps with rfl | rfl
  · exact .inr rfl
  · exact .inr (converting_converting [] priced)

/-- A conversion leaves the same information whether attempts before it named the model or not. -/
theorem Tracks.sent {served : RelayState} {found : RelayInfo} (conversion : Conversion)
    (kept : found = priced ∨ found = Relay.converting prices req [] priced)
    (tracks : Tracks prices req info found served) :
    Tracks prices req info (Relay.converting prices req conversion.otherRatios priced)
      (served.converting prices req conversion) := by
  have sent := tracks.converting conversion
  rcases kept with rfl | rfl
  · exact sent
  · rwa [converting_converting] at sent

theorem noThinkingModelName_compact (compact : info.relayMode = relayModeResponsesCompact) :
    noThinkingModelName prices req info = info.originModelName := by
  refine if_neg ?_
  rintro ⟨gemini, _⟩
  rw [compact] at gemini
  exact absurd gemini (by decide)

/-- A compaction goes by the name that it was requested by. -/
theorem Tracks.originModelName_compact {served : RelayState} {found : RelayInfo}
    (kept : found = priced ∨ found = Relay.converting prices req [] priced)
    (tracks : Tracks prices req info found served)
    (compact : served.info.relayMode = relayModeResponsesCompact) :
    served.info.originModelName = priced.originModelName := by
  have names : served.info.originModelName = found.originModelName := by
    have fields := congrArg RelayInfo.originModelName (tracks.price ⟨0, 0, false⟩)
    exact fields
  have modes : served.info.relayMode = found.relayMode := by
    have fields := congrArg RelayInfo.relayMode (tracks.price ⟨0, 0, false⟩)
    exact fields
  rw [names]
  rcases kept with rfl | rfl
  · rfl
  · rw [modes] at compact
    exact noThinkingModelName_compact compact

/-- A request is charged what its serving channel would have charged from the start, if the
ratio and the billed model of that channel are those of the first one, no attempt that failed has
added a ratio to the price, and if its expression, when it has one, has a value, or the ratio of
the group stays. -/
theorem relay_charges_serving_channel {out rollback baseOutcome baseRollback : Option ModelError}
    {context : Context} {attempts : List Attempt} {pick : Option Pick}
    {attemptOutcome attemptRollback : Option ModelError} {served base : Served}
    (fresh : info.tieredBillingSnapshot = none) (unreserved : info.finalPreConsumedQuota = 0)
    (runs : relay prices cfg req out rollback context info attempts = some served)
    (begins : relay prices cfg req baseOutcome baseRollback served.state.context info
      [⟨pick, attemptOutcome, attemptRollback, .answered served.answer⟩] = some base)
    (sameRatio : served.state.context.channel.getPriceRatio = context.channel.getPriceRatio)
    (sameModel : openingModel served.state.context info = openingModel context info)
    (quiet : ∀ attempt ∈ attempts, Quiet attempt)
    (settles : (∀ model ∈ [openingModel context info, billingModelName served.state],
        HasValue prices cfg (served.answer.usage.map effectiveBillingUsage) model) ∨
      SteadyGroup prices req info (handleGroupRatio prices req context info).groupRatio attempts) :
    served.state.info.priceData.groupRatioInfo =
        handleGroupRatio prices req served.state.context info ∧ served.quota = base.quota := by
  simp only [relay, Option.bind_eq_bind, Option.bind_eq_some_iff, pure, Option.some.injEq]
    at runs begins
  rcases runs with ⟨_, opens, ⟨servedState, _⟩, serves, settling, reprices, rfl⟩
  rcases begins with ⟨_, baseOpens, ⟨baseState, baseAnswer⟩, baseServes, baseSettling,
    baseReprices, rfl⟩
  simp only at sameRatio sameModel settles baseOpens baseServes reprices baseReprices ⊢
  rcases openRequest_opened fresh unreserved opens with ⟨priced, start⟩
  rcases openRequest_opened fresh unreserved baseOpens with ⟨basePriced, baseStart⟩
  rcases start.tracks.served_quiet quiet serves with ⟨found, kept, tracks⟩
  rcases baseStart.tracks.served_quiet (by simp [Quiet]) baseServes with
    ⟨baseFound, baseKept, baseTracks⟩
  refine ⟨(tracks.converting _).group, ?_⟩
  have baseTurns := attemptChannels_singleton baseServes
  rcases turn_first baseStart.first rfl baseTurns with ⟨baseContext, rfl⟩
  have contexts : servedState.context = baseState.context := by
    rw [baseContext, baseStart.contextEq]
    rfl
  -- the two openings price the same model for the same channel ratio
  have price : ∀ group, erased (regrouped priced group) = erased (regrouped basePriced group) := by
    have basePricing := priceByName_priced baseStart.succeeds
    rw [sameModel, sameRatio] at basePricing
    exact (priceByName_priced start.succeeds).erased_eq basePricing fun _ => rfl
  have price_sent : ∀ group,
      erased (regrouped (converting prices req baseAnswer.conversion.otherRatios priced) group) =
        erased (regrouped
          (converting prices req baseAnswer.conversion.otherRatios basePriced) group) := by
    intro group
    rw [erased_regrouped_converting, price, erased_regrouped_converting]
  have modes : servedState.info.relayMode = baseState.info.relayMode := by
    have fields := congrArg RelayInfo.relayMode (((tracks.sent baseAnswer.conversion kept).price
      ⟨0, 0, false⟩).trans ((price_sent _).trans
        ((baseTracks.sent baseAnswer.conversion baseKept).price _).symm))
    exact fields
  rcases attemptChannels_meta serves with ⟨chanMeta, isMeta, maps⟩
  rcases attemptChannels_meta baseServes with ⟨baseMeta, isBaseMeta, baseMaps⟩
  have metas : servedState.info.relayMode = relayModeResponsesCompact →
      servedState.channelMeta.map (·.converting prices req baseAnswer.conversion servedState.info) =
        baseState.channelMeta.map
          (·.converting prices req baseAnswer.conversion baseState.info) := by
    intro compact
    have baseCompact := modes.symm.trans compact
    have names : servedState.info.originModelName = baseState.info.originModelName := by
      rw [tracks.originModelName_compact kept compact,
        baseTracks.originModelName_compact baseKept baseCompact]
      have fields := congrArg RelayInfo.originModelName (price ⟨0, 0, false⟩)
      exact fields
    rw [modelMappedHelper_congr contexts names, baseMaps] at maps
    rw [isMeta, isBaseMeta, ← maps]
    simp only [Option.map_some, ChannelMeta.converting, noThinkingModelName_compact compact,
      noThinkingModelName_compact baseCompact, if_true]
  have agree : Agree prices req info
      (converting prices req baseAnswer.conversion.otherRatios priced)
      (converting prices req baseAnswer.conversion.otherRatios basePriced)
      (servedState.converting prices req baseAnswer.conversion)
      (baseState.converting prices req baseAnswer.conversion) :=
    ⟨contexts, metas, tracks.sent _ kept, baseTracks.sent _ baseKept, price_sent⟩
  rcases agree.settles reprices baseReprices with
    ⟨same, settlingMeta, baseSettlingMeta, fallback⟩
  have sameSettling : erased (settling.settling baseAnswer) =
      erased (baseSettling.settling baseAnswer) := by
    -- only the id and the type of the channel are settled for
    have channels := modelMappedHelper_channel maps
    have baseChannels := modelMappedHelper_channel baseMaps
    have erasedSettling : ∀ s : RelayState, erased (s.settling baseAnswer) =
        { erased s.info with
          channelId := (s.channelMeta.map (·.channelId)).getD 0
          channelType := (s.channelMeta.map (·.channelType)).getD 0
          requestConversionChain := baseAnswer.requestConversionChain
          finalRequestRelayFormat := baseAnswer.finalRequestRelayFormat
          builtInTools := baseAnswer.builtInTools } := fun _ => rfl
    rw [erasedSettling, erasedSettling, same, settlingMeta, baseSettlingMeta]
    simp only [RelayState.converting, isMeta, isBaseMeta, Option.map_some, Option.getD_some,
      ChannelMeta.converting, channels, baseChannels, contexts]
  refine settledQuota_congr sameSettling ?_
  rcases settles with hasValue | steady
  · have opening : Valued prices cfg (baseAnswer.usage.map effectiveBillingUsage) priced := by
      have untouched : Valued prices cfg (baseAnswer.usage.map effectiveBillingUsage)
          { info with usingGroup := context.usingGroup info } := by
        simp [Valued, fresh]
      exact untouched.repriced (hasValue _ (by simp)) (priceByName_priced start.succeeds)
    have converted : Valued prices cfg (baseAnswer.usage.map effectiveBillingUsage)
        (converting prices req baseAnswer.conversion.otherRatios priced) := opening
    have valued := converted.settling (hasValue _ (by simp)) (tracks.sent _ kept) reprices
    have settlingValued : Valued prices cfg (baseAnswer.usage.map effectiveBillingUsage)
        (settling.settling baseAnswer) := valued
    exact .inl (settlingValued.evaluates _)
  · have snap := start.snapshot fresh
    have baseSnapshot := baseStart.snapshot fresh
    have held := start.reserved.served snap start.tracks steady serves
    have baseReserved := baseStart.reserved.turn baseSnapshot baseStart.tracks
      (.inl baseStart.first) (.inr ⟨baseAnswer, baseTurns⟩)
    have heldSent := held.converting baseAnswer.conversion
    have baseSent := baseReserved.converting baseAnswer.conversion
    rcases Reserved.eq start baseStart sameRatio sameModel heldSent baseSent with
      ⟨snapshots, quotas⟩
    exact .inr (fallback snapshots quotas)

end Charge

/-! ## A request with a retry -/

def samplePrices : PriceSettings where
  modelFixedPrice := fun _ => (0, false)
  groupGroupRatio := fun _ _ => none
  groupRatio := fun group => if group = "vip" then 2 else 1
  billedByExpr := fun _ => false
  billingExpr := fun _ => none
  exprHash := fun _ => ""
  exprVersion := fun _ => 1
  modelRatio := fun _ => (2, true)
  completionRatio := fun _ => 1
  cacheRatio := fun _ => 1
  createCacheRatio := fun _ => 1
  imageRatio := fun _ => 1
  audioRatio := fun _ => 1
  audioCompletionRatio := fun _ => 1
  preConsumedQuota := 100
  enableFreeModelPreConsume := false

def sampleRelayRequest : Request where
  userGroup := "default"
  tokenGroup := "auto"
  promptTokens := 10
  tokenCount := {}
  acceptUnsetRatioModel := false
  headers := []
  body := some ""
  trust := ⟨false, 0, true, 0⟩

def sampleChannel (id : ℤ) (ratio : ℚ) : Channel :=
  ⟨id, 14, some ratio, some []⟩

def sampleAnswer : Answer where
  usage := some sampleUsage
  ctx := ⟨"token", 0, false, 100⟩
  requestConversionChain := []
  finalRequestRelayFormat := none
  builtInTools := []

def sampleRetry (ratio : ℚ) : List Attempt :=
  [⟨none, none, none, .failed (some {})⟩,
    ⟨some ⟨false, sampleChannel 6 ratio, "vip"⟩, none, none, .answered sampleAnswer⟩]

def sampleOpening : RelayInfo :=
  { sampleRelayInfo 14 with finalPreConsumedQuota := 0 }

def sampleServed (ratio : ℚ) : Option Served :=
  relay samplePrices sampleSettings sampleRelayRequest none none
    ⟨some "default", sampleChannel 5 1⟩ sampleOpening (sampleRetry ratio)

def sampleBase (ratio : ℚ) : Option Served :=
  relay samplePrices sampleSettings sampleRelayRequest none none
    ⟨some "vip", sampleChannel 6 ratio⟩ sampleOpening [⟨none, none, none, .answered sampleAnswer⟩]

/-- The second channel has the ratio of the first one: its group decides the charge. -/
theorem relay_charges_serving_channel_sample :
    ∃ served base, sampleServed 1 = some served ∧ sampleBase 1 = some base ∧
      served.quota = base.quota := by
  have contexts : (sampleServed 1).map (·.state.context) =
      some ⟨some "vip", sampleChannel 6 1⟩ := by
    decide +kernel
  have gives : (sampleServed 1).map (·.answer) = some sampleAnswer := by
    decide +kernel
  have begun : (sampleBase 1).isSome := by
    decide +kernel
  rcases Option.map_eq_some_iff.mp contexts with ⟨served, runs, contextEq⟩
  rcases Option.isSome_iff_exists.mp begun with ⟨base, begins⟩
  have answerEq : served.answer = sampleAnswer := by simpa [runs] using gives
  have start := begins
  rw [sampleBase, ← contextEq, ← answerEq] at start
  refine ⟨served, base, runs, begins, ?_⟩
  refine (relay_charges_serving_channel rfl rfl runs start ?_ ?_ (by simp [sampleRetry, Quiet])
    (.inl ?_)).2
  · rw [contextEq]
    rfl
  · rw [contextEq]
    rfl
  · simp [HasValue, samplePrices]

/-- The second channel has three times the ratio of the first one, and is charged like it. -/
theorem relay_charges_first_channel_ratio :
    ∃ served base, sampleServed 3 = some served ∧ sampleBase 3 = some base ∧
      served.state.context = ⟨some "vip", sampleChannel 6 3⟩ ∧
      base.state.context = served.state.context ∧ base.quota = 3 * served.quota ∧
      served.quota ≠ base.quota := by
  have runs : (sampleServed 3).map (fun served => (served.state.context, served.quota)) =
      some (⟨some "vip", sampleChannel 6 3⟩, 64) := by
    decide +kernel
  have begins : (sampleBase 3).map (fun base => (base.state.context, base.quota)) =
      some (⟨some "vip", sampleChannel 6 3⟩, 192) := by
    decide +kernel
  rcases Option.map_eq_some_iff.mp runs with ⟨served, isServed, servedEq⟩
  rcases Option.map_eq_some_iff.mp begins with ⟨base, isBase, baseEq⟩
  simp only [Prod.mk.injEq] at servedEq baseEq
  refine ⟨served, base, isServed, isBase, servedEq.1, ?_, ?_, ?_⟩
  · rw [servedEq.1, baseEq.1]
  · omega
  · omega

end NewApi.Relay
