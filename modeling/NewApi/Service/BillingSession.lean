import NewApi.Model.BillingOperation

/-!
# Billing sessions

The session of one request, in memory. `taken` is the net amount that the session's calls have
taken from its token; every function returns it together with the session. The only funding source
is the wallet source, whose calls no longer move anything and cannot fail.
-/

namespace NewApi.Service

open NewApi.Model

/-- The state of a billing session: what it took from the funding and from the token, and what is
done. -/
structure BillingSession where
  isPlayground : Bool
  fundingConsumed : ℤ := 0
  preConsumedQuota : ℤ := 0
  tokenConsumed : ℤ := 0
  extraReserved : ℤ := 0
  trusted : Bool := false
  fundingSettled : Bool := false
  settled : Bool := false
  refunded : Bool := false
  billingOperationId : ℤ := 0
  billingOperationFingerprint : String := ""
  /-- The empty string of the source is `none`. -/
  billingOperationState : Option BillingOperationState := none
  refundStarted : Bool := false
  refundInProgress : Bool := false
  fundingRefunded : Bool := false
  tokenRefunded : Bool := false

/-- The session after a call, the quota that the call took from the funding, and its error. -/
structure SessionResult where
  session : BillingSession
  taken : ℤ
  error : Option ModelError

/-! ## Token and funding calls -/

def preConsumeTokenQuota (isPlayground : Bool) (out : Option ModelError) (quota taken : ℤ) :
    Option ModelError × ℤ :=
  if quota < 0 then
    (some (.message "quota 不能为负数！"), taken)
  else if isPlayground then
    (none, taken)
  else
    match out with
    | some err => (some err, taken)
    | none => (none, taken + quota)

def increaseTokenQuota (out : Option ModelError) (quota taken : ℤ) : Option ModelError × ℤ :=
  if quota < 0 then
    (some (.message "quota 不能为负数！"), taken)
  else
    match out with
    | some err => (some err, taken)
    | none => (none, taken - quota)

/-- `WalletFunding.PreConsume`. -/
def walletFundingPreConsume (_ : ℤ) : Option ModelError :=
  none

/-- `WalletFunding.Settle`. -/
def walletFundingSettle (_ : ℤ) : Option ModelError :=
  none

/-- `WalletFunding.Refund`. -/
def walletFundingRefund : Option ModelError :=
  none

namespace BillingSession

/-! ## Settle and Reserve -/

/-- The token adjustment of `Settle`. -/
def adjustToken (sess : BillingSession) (out : Option ModelError) (delta taken : ℤ) :
    Option ModelError × ℤ :=
  if sess.isPlayground then
    (none, taken)
  else if delta > 0 then
    preConsumeTokenQuota sess.isPlayground out delta taken
  else
    increaseTokenQuota out (-delta) taken

def settle (sess : BillingSession) (out : Option ModelError) (actualQuota taken : ℤ) :
    SessionResult :=
  if sess.billingOperationId ≠ 0 then
    ⟨sess, taken, some (.message "durable billing operation requires an atomic settlement payload")⟩
  else if sess.settled then
    ⟨sess, taken, none⟩
  else
    let delta := actualQuota - sess.preConsumedQuota
    if delta = 0 then
      ⟨{ sess with settled := true }, taken, none⟩
    else
      match if sess.fundingSettled then none else walletFundingSettle delta with
      | some err => ⟨sess, taken, some err⟩
      | none =>
        let adjusted := sess.adjustToken out delta taken
        -- A failed token adjustment is reported, but the session counts as settled.
        ⟨{ sess with fundingSettled := true, settled := true }, adjusted.2, adjusted.1⟩

def reserveToken (sess : BillingSession) (out : Option ModelError) (delta taken : ℤ) :
    Option ModelError × ℤ :=
  if delta ≤ 0 ∨ sess.isPlayground = true then
    (none, taken)
  else
    preConsumeTokenQuota sess.isPlayground out delta taken

def reserve (sess : BillingSession) (out : Option ModelError) (targetQuota taken : ℤ) :
    SessionResult :=
  if sess.billingOperationId ≠ 0 then
    if targetQuota ≤ sess.preConsumedQuota then
      ⟨sess, taken, none⟩
    else
      ⟨sess, taken,
        some (.message "durable billing operation cannot change its frozen reservation")⟩
  else if sess.settled || sess.refunded || sess.trusted || targetQuota ≤ sess.preConsumedQuota then
    ⟨sess, taken, none⟩
  else
    let delta := targetQuota - sess.preConsumedQuota
    if delta ≤ 0 then
      ⟨sess, taken, none⟩
    else
      let funded := { sess with fundingConsumed := sess.fundingConsumed + delta }
      match sess.reserveToken out delta taken with
      | (some err, taken) =>
        ⟨{ funded with fundingConsumed := funded.fundingConsumed - delta }, taken, some err⟩
      | (none, taken) =>
        ⟨{ funded with
            preConsumedQuota := sess.preConsumedQuota + delta
            tokenConsumed := sess.tokenConsumed + delta
            extraReserved := sess.extraReserved + delta }, taken, none⟩

/-! ## Refund -/

def needsRefundLocked (sess : BillingSession) : Bool :=
  if sess.settled || sess.refunded || sess.fundingSettled then
    false
  else if sess.refundStarted then
    !sess.fundingRefunded || (sess.tokenConsumed > 0 && !sess.isPlayground && !sess.tokenRefunded)
  else
    sess.tokenConsumed > 0

def needsRefund (sess : BillingSession) : Bool :=
  if sess.billingOperationId ≠ 0 then
    sess.billingOperationState = some .reserved && !sess.refundInProgress
  else
    sess.needsRefundLocked

end BillingSession

/-- What a refund returns, and to whom. -/
structure BillingRefundOperation where
  tokenQuota : ℤ
  (refundFunding refundToken : Bool)

/-- Which refunds were tried, and their errors. -/
structure BillingRefundResult where
  fundingAttempted : Bool
  fundingError : Option ModelError
  tokenAttempted : Bool
  tokenError : Option ModelError

/-- `beginRefund`: the session, and the refund to execute when there is one. -/
def BillingSession.beginRefund (sess : BillingSession) :
    BillingSession × Except ModelError (Option BillingRefundOperation) :=
  if sess.settled || sess.refunded || !sess.needsRefundLocked then
    (sess, .ok none)
  else if sess.refundInProgress then
    (sess, .error (.message "billing refund is already in progress"))
  else
    ({ sess with refundStarted := true, refundInProgress := true }, .ok (some
        { tokenQuota := sess.tokenConsumed
          refundFunding := !sess.fundingRefunded
          refundToken := !sess.tokenRefunded && sess.tokenConsumed > 0 && !sess.isPlayground }))

def BillingRefundOperation.execute (op : BillingRefundOperation)
    (out : Option ModelError) (taken : ℤ) : BillingRefundResult × ℤ :=
  let tokenCall :=
    if op.refundToken then increaseTokenQuota out op.tokenQuota taken
    else (none, taken)
  ({ fundingAttempted := op.refundFunding
     fundingError := if op.refundFunding then walletFundingRefund else none
     tokenAttempted := op.refundToken
     tokenError := tokenCall.1 }, tokenCall.2)

/-- `finishRefund`: the session, and the two errors that the source joins. -/
def BillingSession.finishRefund (sess : BillingSession) (result : BillingRefundResult) :
    BillingSession × List ModelError :=
  let fundingRefunded :=
    sess.fundingRefunded || (result.fundingAttempted && result.fundingError.isNone)
  let tokenRefunded :=
    sess.tokenRefunded || (result.tokenAttempted && result.tokenError.isNone)
  let tokenRefundComplete := sess.tokenConsumed ≤ 0 || sess.isPlayground || tokenRefunded
  ({ sess with
      fundingRefunded := fundingRefunded
      tokenRefunded := tokenRefunded
      refundInProgress := false
      refunded := sess.refunded || (fundingRefunded && tokenRefundComplete) },
    result.fundingError.toList ++ result.tokenError.toList)

/-! ## preConsume -/

/-- What `shouldTrust` reads: the request, the configured trust quota and the token. -/
structure TrustInputs where
  forcePreConsume : Bool
  trustQuota : ℤ
  tokenUnlimited : Bool
  tokenQuota : ℤ

def TrustInputs.shouldTrust (inputs : TrustInputs) (quota : ℤ) : Bool :=
  !inputs.forcePreConsume && inputs.trustQuota > 0 && (inputs.tokenUnlimited ||
      (inputs.tokenQuota > inputs.trustQuota && inputs.tokenQuota ≥ quota))

/-- `preConsume`; `rollback` is the outcome of giving the token's quota back. -/
def BillingSession.preConsume (sess : BillingSession) (inputs : TrustInputs)
    (out rollback : Option ModelError) (quota taken : ℤ) : SessionResult :=
  let trusted := inputs.shouldTrust quota
  let sess := if trusted then { sess with trusted := true } else sess
  let effectiveQuota := if trusted then 0 else quota
  let tokenCall :=
    if effectiveQuota > 0 then
      preConsumeTokenQuota sess.isPlayground out effectiveQuota taken
    else
      (none, taken)
  match tokenCall with
  | (some err, taken) => ⟨sess, taken, some err⟩
  | (none, taken) =>
    let sess :=
      if effectiveQuota > 0 then { sess with tokenConsumed := effectiveQuota } else sess
    match walletFundingPreConsume effectiveQuota with
    | some err =>
      if sess.tokenConsumed > 0 && !sess.isPlayground then
        ⟨{ sess with tokenConsumed := 0 },
          (increaseTokenQuota rollback sess.tokenConsumed taken).2, some err⟩
      else
        ⟨sess, taken, some err⟩
    | none => ⟨{ sess with preConsumedQuota := effectiveQuota }, taken, none⟩

end NewApi.Service
