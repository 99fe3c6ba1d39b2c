import NewApi.Library.Transition
import NewApi.Service.BillingSession

/-!
# The token ledger of a session without a durable operation

A refund runs in three parts: it is begun under the session's lock, executed without it and
finished under it again. `DirectSession` lets the parts of any number of refunds interleave with
`Reserve` and `Settle`, with every token call free to fail.
-/

namespace NewApi.Service

open NewApi.Model Transition

/-- A refund that has begun, and one whose writes are over. -/
inductive OpenRefund where
  | begun (op : BillingRefundOperation)
  | executed (result : BillingRefundResult)

/-- The session, what it has taken from its token, and the refunds in flight. -/
structure DirectSession where
  session : BillingSession
  taken : ℤ
  refunds : List OpenRefund

/-- The steps of the calls on a session. -/
inductive SessionAction where
  | reserve (out : Option ModelError) (targetQuota : ℤ)
  | settle (out : Option ModelError) (actualQuota : ℤ)
  | beginRefund
  | executeRefund (i : ℕ) (out : Option ModelError)
  | finishRefund (i : ℕ)

def DirectSession.next (s : DirectSession) : SessionAction → DirectSession
  | .reserve out targetQuota =>
    let result := s.session.reserve out targetQuota s.taken
    { s with session := result.session, taken := result.taken }
  | .settle out actualQuota =>
    let result := s.session.settle out actualQuota s.taken
    { s with session := result.session, taken := result.taken }
  | .beginRefund =>
    match s.session.beginRefund with
    | (sess, .ok (some op)) =>
      { s with session := sess, refunds := .begun op :: s.refunds }
    | (sess, _) => { s with session := sess }
  | .executeRefund i out =>
    match s.refunds[i]? with
    | some (.begun op) =>
      let (result, taken) := op.execute out s.taken
      { s with taken := taken, refunds := s.refunds.set i (.executed result) }
    | _ => s
  | .finishRefund i =>
    match s.refunds[i]? with
    | some (.executed result) =>
      { s with
        session := (s.session.finishRefund result).1
        refunds := s.refunds.eraseIdx i }
    | _ => s

/-- The session that `preConsume` opens. -/
def openSession (isPlayground : Bool) (inputs : TrustInputs)
    (out rollback : Option ModelError) (quota : ℤ) : SessionResult :=
  BillingSession.preConsume { isPlayground := isPlayground } inputs out rollback quota 0

/-- No `Reserve` while a refund is in progress. The first `Settle` comes neither while a refund
is in progress nor after a completed one, and asks for no negative amount; any may follow it. -/
def Orderly (s : DirectSession) : SessionAction → Prop
  | .reserve _ _ => s.session.refundInProgress = false
  | .settle _ actualQuota => s.session.settled = true ∨
      (s.session.refundInProgress = false ∧ s.session.refunded = false ∧ 0 ≤ actualQuota)
  | _ => True

instance (s : DirectSession) : (action : SessionAction) → Decidable (Orderly s action)
  | .reserve _ _ => inferInstanceAs (Decidable (_ = _))
  | .settle _ _ => inferInstanceAs (Decidable (_ ∨ _ ∧ _ ∧ _))
  | .beginRefund | .executeRefund _ _ | .finishRefund _ => inferInstanceAs (Decidable True)

/-! ## The calls on a session that charges its token -/

/-- A session without a durable operation that charges a token, and whose reservation is
what the token has been charged. -/
structure Charging (sess : BillingSession) : Prop where
  direct : sess.billingOperationId = 0
  charged : sess.isPlayground = false
  consumed : sess.tokenConsumed = sess.preConsumedQuota
  nonneg : 0 ≤ sess.preConsumedQuota

theorem preConsumeTokenQuota_cases (out : Option ModelError) (quota taken : ℤ)
    (nonneg : 0 ≤ quota) :
    preConsumeTokenQuota false out quota taken = (none, taken + quota) ∨
      ∃ err, preConsumeTokenQuota false out quota taken = (some err, taken) := by
  have notNegative : ¬quota < 0 := by omega
  cases out with
  | none => exact .inl (by simp [preConsumeTokenQuota, notNegative])
  | some err => exact .inr ⟨err, by simp [preConsumeTokenQuota, notNegative]⟩

theorem increaseTokenQuota_cases (out : Option ModelError) (quota taken : ℤ) (nonneg : 0 ≤ quota) :
    increaseTokenQuota out quota taken = (none, taken - quota) ∨
      ∃ err, increaseTokenQuota out quota taken = (some err, taken) := by
  have notNegative : ¬quota < 0 := by omega
  cases out with
  | none => exact .inl (by simp [increaseTokenQuota, notNegative])
  | some err => exact .inr ⟨err, by simp [increaseTokenQuota, notNegative]⟩

variable {sess : BillingSession} {s : DirectSession} {out : Option ModelError}

theorem adjustToken_cases (charging : Charging sess) (out : Option ModelError) (delta taken : ℤ) :
    sess.adjustToken out delta taken = (none, taken + delta) ∨
      ∃ err, sess.adjustToken out delta taken = (some err, taken) := by
  simp only [BillingSession.adjustToken, charging.charged, Bool.false_eq_true, if_false]
  split
  next => exact preConsumeTokenQuota_cases out delta taken (by omega)
  next =>
    rcases increaseTokenQuota_cases out (-delta) taken (by omega) with given | failed
    · left
      rw [given, sub_neg_eq_add]
    · exact .inr failed

theorem settle_open (charging : Charging sess)
    (isOpen : sess.settled = false) (out : Option ModelError) (actualQuota taken : ℤ) :
    (∃ funded, (sess.settle out actualQuota taken).session =
      { sess with fundingSettled := funded, settled := true }) ∧
    (((sess.settle out actualQuota taken).error = none ∧
        (sess.settle out actualQuota taken).taken = taken + (actualQuota - sess.preConsumedQuota)) ∨
      ((sess.settle out actualQuota taken).error ≠ none ∧
        (sess.settle out actualQuota taken).taken = taken)) := by
  simp only [BillingSession.settle, charging.direct, isOpen, ne_eq, not_true_eq_false, if_false,
    Bool.false_eq_true, walletFundingSettle, ite_self]
  split
  next => exact ⟨⟨sess.fundingSettled, rfl⟩, .inl ⟨rfl, by simp only; omega⟩⟩
  next =>
    refine ⟨⟨true, rfl⟩, ?_⟩
    rcases adjustToken_cases charging out (actualQuota - sess.preConsumedQuota) taken with
      charged | ⟨err, failed⟩
    · exact .inl (by simp [charged])
    · exact .inr (by simp [failed])

theorem reserve_cases (charging : Charging sess) (out : Option ModelError) (target taken : ℤ) :
    ((sess.reserve out target taken).session = sess ∧
      (sess.reserve out target taken).taken = taken) ∨
    (sess.settled = false ∧ sess.refunded = false ∧ ∃ delta, 0 < delta ∧
      (sess.reserve out target taken).session =
        { sess with
          fundingConsumed := sess.fundingConsumed + delta
          preConsumedQuota := sess.preConsumedQuota + delta
          tokenConsumed := sess.tokenConsumed + delta
          extraReserved := sess.extraReserved + delta } ∧
      (sess.reserve out target taken).taken = taken + delta) := by
  simp only [BillingSession.reserve, charging.direct, ne_eq, not_true_eq_false, if_false]
  split
  next => exact .inl ⟨rfl, rfl⟩
  next reserves =>
    simp only [Bool.or_eq_true, decide_eq_true_eq, not_or, Bool.not_eq_true] at reserves
    have pos : ¬(target - sess.preConsumedQuota ≤ 0) := by omega
    simp only [BillingSession.reserveToken, charging.charged, pos, Bool.false_eq_true,
      or_self, if_false]
    rcases preConsumeTokenQuota_cases out (target - sess.preConsumedQuota) taken
        (by omega) with charged | ⟨err, failed⟩
    · rw [charged]
      exact .inr ⟨reserves.1.1.1, reserves.1.1.2, _, by omega, rfl, rfl⟩
    · rw [failed]
      left
      refine ⟨?_, rfl⟩
      -- The rollback of the funding counter restores the session.
      rcases charging with ⟨direct, charged, _, _⟩
      cases sess
      simp only at direct charged
      subst direct charged
      simp

theorem beginRefund_ended (ended : sess.settled = true ∨ sess.refunded = true) :
    sess.beginRefund = (sess, .ok none) := by
  rcases ended with settled | isRefunded
  · simp [BillingSession.beginRefund, settled]
  · simp [BillingSession.beginRefund, isRefunded]

theorem beginRefund_cases (charging : Charging sess) (owed : sess.tokenRefunded = false)
    (retried : sess.refundStarted = true → sess.fundingRefunded = true) :
    (∃ reply, (∀ op, reply ≠ .ok (some op)) ∧
      sess.beginRefund = (sess, reply)) ∨
    (sess.refundInProgress = false ∧ 0 < sess.tokenConsumed ∧
      sess.beginRefund = ({ sess with refundStarted := true, refundInProgress := true }, .ok (some
            { tokenQuota := sess.tokenConsumed
              refundFunding := !sess.fundingRefunded
              refundToken := true }))) := by
  unfold BillingSession.beginRefund
  split
  next => exact .inl ⟨.ok none, by simp, rfl⟩
  next starts =>
    split
    next => exact .inl ⟨.error _, by simp, rfl⟩
    next idle =>
      have pos : 0 < sess.tokenConsumed := by
        simp only [Bool.or_eq_true, not_or, Bool.not_eq_true, Bool.not_eq_false'] at starts
        rcases starts with ⟨⟨_, _⟩, needs⟩
        unfold BillingSession.needsRefundLocked at needs
        split at needs
        next => simp at needs
        next =>
          split at needs
          next started => simpa [retried started, charging.charged, owed] using needs
          next => simpa using needs
      refine .inr ⟨by simpa using idle, pos, ?_⟩
      simp [owed, pos, charging.charged]

/-! ## The phases of a session -/

/-- Where an orderly session stands, and what it has taken from its token there. -/
inductive Phase (s : DirectSession) : Prop where
  | active (isOpen : s.session.settled = false) (notRefunded : s.session.refunded = false)
      (notReturned : s.session.tokenRefunded = false)
      (retried : s.session.refundStarted = true → s.session.fundingRefunded = true)
      (idle : s.session.refundInProgress = false) (noRefund : s.refunds = [])
      (takenEq : s.taken = s.session.preConsumedQuota)
  | begun (op : BillingRefundOperation) (isOpen : s.session.settled = false)
      (notRefunded : s.session.refunded = false)
      (notReturned : s.session.tokenRefunded = false)
      (pos : 0 < s.session.tokenConsumed)
      (busy : s.session.refundInProgress = true)
      (refund : s.refunds = [.begun op])
      (quotaEq : op.tokenQuota = s.session.preConsumedQuota)
      (returnsToken : op.refundToken = true)
      (returnsFunding : s.session.fundingRefunded = true ∨ op.refundFunding = true)
      (takenEq : s.taken = s.session.preConsumedQuota)
  | executed (result : BillingRefundResult) (isOpen : s.session.settled = false)
      (notRefunded : s.session.refunded = false)
      (notReturned : s.session.tokenRefunded = false)
      (pos : 0 < s.session.tokenConsumed)
      (busy : s.session.refundInProgress = true)
      (refund : s.refunds = [.executed result]) (attempted : result.tokenAttempted = true)
      (funded : result.fundingError = none)
      (returnedFunding : s.session.fundingRefunded = true ∨ result.fundingAttempted = true)
      (takenEq : s.taken =
        if result.tokenError = none then 0 else s.session.preConsumedQuota)
  | settled (isSettled : s.session.settled = true)
      (idle : s.session.refundInProgress = false) (noRefund : s.refunds = [])
      (nonneg : 0 ≤ s.taken)
  | refunded (isRefunded : s.session.refunded = true)
      (isOpen : s.session.settled = false)
      (idle : s.session.refundInProgress = false) (noRefund : s.refunds = [])
      (takenEq : s.taken = 0)

/-- What holds of a session in every run. -/
structure Accounted (s : DirectSession) : Prop where
  charging : Charging s.session
  phase : Phase s

/-! ## Steps keep the phases -/

theorem Accounted.reserve (holds : Accounted s) (out : Option ModelError) (target : ℤ)
    (idle : s.session.refundInProgress = false) :
    Accounted (s.next (.reserve out target)) := by
  rcases holds with ⟨charging, phase⟩
  simp only [DirectSession.next]
  rcases reserve_cases charging out target s.taken with
    ⟨sessionEq, takenEq⟩ | ⟨isOpen, unpaid, delta, pos, sessionEq, takenEq⟩
  · rw [sessionEq, takenEq]
    exact ⟨charging, phase⟩
  · rw [sessionEq, takenEq]
    rcases charging with ⟨direct, charged, _, _⟩
    refine ⟨⟨direct, charged, ?_, ?_⟩, ?_⟩
    · simp only
      omega
    · simp only
      omega
    · cases phase with
      | active isOpen unpaid owed retried idle noRefund _ =>
        refine .active isOpen unpaid owed retried idle noRefund ?_
        simp only
        omega
      | begun _ _ _ _ _ busy => simp [busy] at idle
      | executed _ _ _ _ _ busy => simp [busy] at idle
      | settled isSettled => simp [isSettled] at isOpen
      | refunded isRefunded => simp [isRefunded] at unpaid

/-- On a settled session `Settle` answers no error and does nothing, whatever it is asked for. -/
theorem settle_settled (charging : Charging s.session) (isSettled : s.session.settled = true)
    (out : Option ModelError) (actualQuota : ℤ) :
    (s.session.settle out actualQuota s.taken).error = none ∧
      s.next (.settle out actualQuota) = s := by
  simp [DirectSession.next, BillingSession.settle, charging.direct, isSettled]

/-- The first `Settle` ends the session, and takes what it asks for if it answers no error. -/
theorem Accounted.settle (holds : Accounted s) {actualQuota : ℤ}
    (isOpen : s.session.settled = false) (orderly : Orderly s (.settle out actualQuota)) :
    Accounted (s.next (.settle out actualQuota)) ∧
      (s.next (.settle out actualQuota)).session.settled = true ∧
      ((s.session.settle out actualQuota s.taken).error = none →
        (s.next (.settle out actualQuota)).taken = actualQuota) := by
  rcases holds with ⟨charging, phase⟩
  rcases orderly with isSettled | ⟨idle, unpaid, _⟩
  · simp [isOpen] at isSettled
  cases phase with
  | active isOpen _ _ _ idle noRefund _ =>
    simp only [DirectSession.next]
    rcases settle_open charging isOpen out actualQuota s.taken with
      ⟨⟨funded, sessionEq⟩, outcomeEq⟩
    rw [sessionEq]
    have reservation := charging.nonneg
    refine ⟨⟨⟨charging.direct, charging.charged, charging.consumed, charging.nonneg⟩,
      .settled rfl idle noRefund ?_⟩, rfl, ?_⟩
    · simp only
      rcases outcomeEq with ⟨_, takenAfter⟩ | ⟨_, takenAfter⟩
      · omega
      · omega
    · intro succeeded
      rcases outcomeEq with ⟨_, _⟩ | ⟨failed, _⟩
      · omega
      · exact absurd succeeded failed
  | begun _ _ _ _ _ busy => simp [busy] at idle
  | executed _ _ _ _ _ busy => simp [busy] at idle
  | settled isSettled => simp [isOpen] at isSettled
  | refunded isRefunded => simp [isRefunded] at unpaid

theorem beginRefund_busy (busy : sess.refundInProgress = true) :
    ∃ reply, (∀ op, reply ≠ .ok (some op)) ∧ sess.beginRefund = (sess, reply) := by
  unfold BillingSession.beginRefund
  split
  next => exact ⟨.ok none, by simp, rfl⟩
  next => exact ⟨_, by simp, rfl⟩

theorem next_beginRefund_idle {reply : Except ModelError (Option BillingRefundOperation)}
    (starts : ∀ op, reply ≠ .ok (some op)) (begins : s.session.beginRefund = (s.session, reply)) :
    s.next .beginRefund = s := by
  simp only [DirectSession.next, begins]

theorem Accounted.beginRefund (holds : Accounted s) : Accounted (s.next .beginRefund) := by
  rcases holds with ⟨charging, phase⟩
  have stays : ∀ reply, (∀ op, reply ≠ .ok (some op)) →
      s.session.beginRefund = (s.session, reply) →
      Accounted (s.next .beginRefund) := by
    intro _ starts begins
    rw [next_beginRefund_idle starts begins]
    exact ⟨charging, phase⟩
  cases phase with
  | active isOpen unpaid owed retried _ noRefund takenEq =>
    rcases beginRefund_cases charging owed retried with
      ⟨reply, starts, begins⟩ | ⟨_, pos, begins⟩
    · exact stays reply starts begins
    · simp only [DirectSession.next, begins, noRefund]
      refine ⟨⟨charging.direct, charging.charged, charging.consumed, charging.nonneg⟩,
        .begun _ isOpen unpaid owed pos rfl rfl charging.consumed rfl ?_ takenEq⟩
      cases s.session.fundingRefunded <;> simp
  | begun _ _ _ _ _ busy =>
    rcases beginRefund_busy busy with ⟨reply, starts, begins⟩
    exact stays reply starts begins
  | executed _ _ _ _ _ busy =>
    rcases beginRefund_busy busy with ⟨reply, starts, begins⟩
    exact stays reply starts begins
  | settled isSettled =>
    exact stays (.ok none) (by simp) (beginRefund_ended (.inl isSettled))
  | refunded isRefunded =>
    exact stays (.ok none) (by simp) (beginRefund_ended (.inr isRefunded))

theorem getElem?_of_singleton {refunds : List OpenRefund} {only : OpenRefund} (i : ℕ)
    (single : refunds = [only]) :
    (i = 0 ∧ refunds[i]? = some only) ∨ refunds[i]? = none := by
  subst single
  cases i with
  | zero => exact .inl ⟨rfl, rfl⟩
  | succ _ => exact .inr rfl

theorem execute_returning {op : BillingRefundOperation} (out : Option ModelError)
    (taken : ℤ) (returnsToken : op.refundToken = true) :
    op.execute out taken = (⟨op.refundFunding, none, true,
        (increaseTokenQuota out op.tokenQuota taken).1⟩,
        (increaseTokenQuota out op.tokenQuota taken).2) := by
  simp [BillingRefundOperation.execute, returnsToken, walletFundingRefund]

theorem finishRefund_attempted {result : BillingRefundResult}
    (charging : Charging sess) (unpaid : sess.refunded = false)
    (owed : sess.tokenRefunded = false) (pos : 0 < sess.tokenConsumed)
    (attempted : result.tokenAttempted = true) (funded : result.fundingError = none)
    (returned : sess.fundingRefunded = true ∨ result.fundingAttempted = true) :
    sess.finishRefund result =
      ({ sess with
          fundingRefunded := true
          tokenRefunded := result.tokenError.isNone
          refundInProgress := false
          refunded := result.tokenError.isNone }, result.tokenError.toList) := by
  have filled : ¬sess.tokenConsumed ≤ 0 := by omega
  rcases returned with done | attemptedFunding
  · simp [BillingSession.finishRefund, unpaid, owed, filled, attempted, funded, done,
      charging.charged]
  · simp [BillingSession.finishRefund, unpaid, owed, filled, attempted, funded,
      attemptedFunding, charging.charged]

variable (holds : Accounted s)

include holds

theorem Accounted.executeRefund (i : ℕ)
    (out : Option ModelError) : Accounted (s.next (.executeRefund i out)) := by
  rcases holds with ⟨charging, phase⟩
  simp only [DirectSession.next]
  split
  next op found =>
    cases phase with
    | active _ _ _ _ _ noRefund => simp [noRefund] at found
    | begun begunOperation isOpen unpaid owed pos busy refund quotaEq
        returnsToken returnsFunding takenEq =>
        rcases getElem?_of_singleton i refund with ⟨rfl, only⟩ | missing
        · have sameOperation : begunOperation = op := by simpa [only] using found
          subst sameOperation
          rw [execute_returning out s.taken returnsToken, refund]
          refine ⟨charging, .executed _ isOpen unpaid owed pos busy rfl rfl rfl returnsFunding ?_⟩
          have nonneg : 0 ≤ begunOperation.tokenQuota := by
            rw [quotaEq]
            exact charging.nonneg
          rcases increaseTokenQuota_cases out begunOperation.tokenQuota s.taken nonneg with
            given | ⟨err, failed⟩
          · simp only [given, if_true]
            omega
          · simp only [failed, reduceCtorEq, if_false]
            exact takenEq
        · simp [missing] at found
    | executed _ _ _ _ _ _ refund =>
      rcases getElem?_of_singleton i refund with ⟨_, only⟩ | missing
      · simp [only] at found
      · simp [missing] at found
    | settled _ _ noRefund => simp [noRefund] at found
    | refunded _ _ _ noRefund => simp [noRefund] at found
  next => exact ⟨charging, phase⟩

/-- The end of a refund keeps the session accounted for. -/
theorem Accounted.finishRefund (i : ℕ) :
    Accounted (s.next (.finishRefund i)) ∧
      ∀ result, s.refunds[i]? = some (.executed result) →
        (s.session.finishRefund result).2 = [] →
        (s.next (.finishRefund i)).session.refunded = true ∧
          (s.next (.finishRefund i)).session.settled = false := by
  rcases holds with ⟨charging, phase⟩
  simp only [DirectSession.next]
  split
  next result found =>
    cases phase with
    | active _ _ _ _ _ noRefund => simp [noRefund] at found
    | begun _ _ _ _ _ _ refund =>
      rcases getElem?_of_singleton i refund with ⟨_, only⟩ | missing
      · simp [only] at found
      · simp [missing] at found
    | executed onlyResult isOpen unpaid owed pos busy refund attempted funded
        returned takenEq =>
        rcases getElem?_of_singleton i refund with ⟨rfl, only⟩ | missing
        · have sameResult : onlyResult = result := by simpa [only] using found
          subst sameResult
          rw [finishRefund_attempted charging unpaid owed pos attempted funded returned, refund]
          have stillCharging : Charging
              { s.session with
                fundingRefunded := true
                tokenRefunded := onlyResult.tokenError.isNone
                refundInProgress := false
                refunded := onlyResult.tokenError.isNone } :=
            ⟨charging.direct, charging.charged, charging.consumed, charging.nonneg⟩
          cases tokenFailed : onlyResult.tokenError with
          | none =>
            simp only [tokenFailed, if_true] at takenEq stillCharging
            exact ⟨⟨stillCharging, .refunded rfl isOpen rfl rfl takenEq⟩,
              fun _ _ _ => ⟨rfl, isOpen⟩⟩
          | some _ =>
            simp only [tokenFailed, reduceCtorEq, if_false] at takenEq stillCharging
            refine ⟨⟨stillCharging, .active isOpen rfl rfl (fun _ => rfl) rfl rfl takenEq⟩, ?_⟩
            intro other otherFound succeeded
            have sameResult : onlyResult = other := by simpa using otherFound
            subst sameResult
            rw [finishRefund_attempted charging unpaid owed pos attempted
              funded returned] at succeeded
            simp [tokenFailed] at succeeded
        · simp [missing] at found
    | settled _ _ noRefund => simp [noRefund] at found
    | refunded _ _ _ noRefund => simp [noRefund] at found
  next missing =>
    refine ⟨⟨charging, phase⟩, ?_⟩
    intro result found
    exact absurd found (missing result)

theorem Accounted.next (action : SessionAction)
    (orderly : Orderly s action) : Accounted (s.next action) := by
  cases action with
  | reserve out target => exact holds.reserve out target orderly
  | settle out actualQuota =>
    cases isSettled : s.session.settled with
    | false => exact (holds.settle isSettled orderly).1
    | true =>
      rw [(settle_settled holds.charging isSettled out actualQuota).2]
      exact holds
  | beginRefund => exact holds.beginRefund
  | executeRefund i out => exact holds.executeRefund i out
  | finishRefund i => exact (holds.finishRefund i).1

variable (ended : s.session.settled = true ∨ s.session.refunded = true)

include ended

theorem Accounted.noRefund : s.refunds = [] := by
  cases holds.phase with
  | active _ _ _ _ _ noRefund => exact noRefund
  | begun _ isOpen unpaid => simp [isOpen, unpaid] at ended
  | executed _ isOpen unpaid => simp [isOpen, unpaid] at ended
  | settled _ _ noRefund => exact noRefund
  | refunded _ _ _ noRefund => exact noRefund

theorem Accounted.next_ended
    (action : SessionAction) (orderly : Orderly s action) : s.next action = s := by
  have noRefund := holds.noRefund ended
  cases action with
  | reserve out target =>
    rcases reserve_cases holds.charging out target s.taken with
      ⟨sessionEq, takenEq⟩ | ⟨isOpen, unpaid, _⟩
    · simp only [DirectSession.next, sessionEq, takenEq]
    · simp [isOpen, unpaid] at ended
  | settle out actualQuota =>
    rcases orderly with settled | ⟨_, unpaid, _⟩
    · exact (settle_settled holds.charging settled out actualQuota).2
    · rcases ended with settled | isRefunded
      · exact (settle_settled holds.charging settled out actualQuota).2
      · simp [isRefunded] at unpaid
  | beginRefund => exact next_beginRefund_idle (by simp) (beginRefund_ended ended)
  | executeRefund _ _ | finishRefund _ => simp [DirectSession.next, noRefund]

theorem unchanged_of_ended {later : DirectSession}
    (run : Reachable DirectSession.next Orderly s later) : later = s := by
  refine run.invariant (fun reachedState => reachedState = s) ?_ rfl
  rintro _ action orderly rfl
  exact holds.next_ended ended action orderly

omit ended

theorem Accounted.taken_nonneg : 0 ≤ s.taken := by
  rcases holds with ⟨charging, phase⟩
  have reservation := charging.nonneg
  cases phase with
  | active _ _ _ _ _ _ _ | begun _ _ _ _ _ _ _ _ _ _ _ => omega
  | executed _ _ _ _ _ _ _ _ _ _ takenEq =>
    rw [takenEq]
    split
    · exact le_rfl
    · exact reservation
  | settled _ _ _ nonneg => exact nonneg
  | refunded _ _ _ _ _ => omega

omit holds

/-! ## Every run -/

/-- The state of a session that `preConsume` has just opened. -/
def SessionResult.opened (result : SessionResult) : DirectSession :=
  ⟨result.session, result.taken, []⟩

theorem openSession_eq {inputs : TrustInputs} {rollback : Option ModelError} {quota : ℤ}
    (nonneg : 0 ≤ quota) (isOk : (openSession false inputs out rollback quota).error = none) :
    ∃ trusted amount, 0 ≤ amount ∧ openSession false inputs out rollback quota =
      ⟨{ isPlayground := false
         trusted := trusted
         preConsumedQuota := amount
         tokenConsumed := amount }, amount, none⟩ := by
  revert isOk
  simp only [openSession, BillingSession.preConsume, walletFundingPreConsume]
  cases inputs.shouldTrust quota with
  | true =>
    intro _
    exact ⟨true, 0, le_rfl, by simp⟩
  | false =>
    by_cases pos : quota > 0
    · simp only [Bool.false_eq_true, if_false, if_pos pos]
      rcases preConsumeTokenQuota_cases out quota 0 nonneg with charged | ⟨_, failed⟩
      · rw [charged]
        intro _
        exact ⟨false, quota, nonneg, by simp⟩
      · rw [failed]
        intro isOk
        simp at isOk
    · intro _
      have zero : quota = 0 := by omega
      exact ⟨false, 0, le_rfl, by simp [zero]⟩

theorem Accounted.opened {inputs : TrustInputs} {rollback : Option ModelError} {quota : ℤ}
    (nonneg : 0 ≤ quota) (isOk : (openSession false inputs out rollback quota).error = none) :
    Accounted (openSession false inputs out rollback quota).opened := by
  rcases openSession_eq nonneg isOk with ⟨_, _, amountNonneg, opened⟩
  rw [opened]
  exact ⟨⟨rfl, rfl, rfl, amountNonneg⟩, .active rfl rfl rfl (by simp [SessionResult.opened]) rfl
    rfl rfl⟩

/-- The token ledger of an orderly session. The amount taken is never negative; once the first
`Settle` has succeeded it is the settled amount, and once a refund has completed without an
error it is zero, whatever is called afterwards. Every further `Settle` answers no error. -/
theorem direct_session_accounted {inputs : TrustInputs} {out rollback : Option ModelError}
    {quota : ℤ} {s : DirectSession} (nonneg : 0 ≤ quota)
    (succeeds : (openSession false inputs out rollback quota).error = none)
    (reached : Reachable DirectSession.next Orderly
      (openSession false inputs out rollback quota).opened s) :
    0 ≤ s.taken ∧ (∀ callOutcome actualQuota, s.session.settled = false →
      Orderly s (.settle callOutcome actualQuota) →
      (s.session.settle callOutcome actualQuota s.taken).error = none →
      ∀ later, Reachable DirectSession.next Orderly
        (s.next (.settle callOutcome actualQuota)) later → later.taken = actualQuota) ∧
    (s.session.settled = true →
      (∀ callOutcome actualQuota,
        (s.session.settle callOutcome actualQuota s.taken).error = none) ∧
      ∀ later, Reachable DirectSession.next Orderly s later → later.taken = s.taken) ∧
    (∀ i result, s.refunds[i]? = some (.executed result) →
      (s.session.finishRefund result).2 = [] →
      ∀ later, Reachable DirectSession.next Orderly (s.next (.finishRefund i)) later →
        later.taken = 0) := by
  have holds : Accounted s := reached.invariant Accounted
    (fun _ action orderly holds => holds.next action orderly) (.opened nonneg succeeds)
  refine ⟨holds.taken_nonneg, ?_, ?_, ?_⟩
  · intro _ _ isOpen orderly settles _ continued
    rcases holds.settle isOpen orderly with ⟨settledHolds, isSettled, takenEq⟩
    rw [unchanged_of_ended settledHolds (.inl isSettled) continued]
    exact takenEq settles
  · intro isSettled
    refine ⟨fun out actualQuota => (settle_settled holds.charging isSettled out actualQuota).1, ?_⟩
    intro _ continued
    rw [unchanged_of_ended holds (.inl isSettled) continued]
  · intro i result found returned _ continued
    rcases holds.finishRefund i with ⟨finishedHolds, completes⟩
    rcases completes result found returned with ⟨isRefunded, isOpen⟩
    rw [unchanged_of_ended finishedHolds (.inr isRefunded) continued]
    cases finishedHolds.phase with
    | active _ notRefunded => simp [isRefunded] at notRefunded
    | begun _ _ notRefunded => simp [isRefunded] at notRefunded
    | executed _ _ notRefunded => simp [isRefunded] at notRefunded
    | settled isSettled => simp [isOpen] at isSettled
    | refunded _ _ _ _ takenEq => exact takenEq

def sampleSession (isPlayground : Bool) : SessionResult :=
  openSession isPlayground ⟨false, 0, false, 0⟩ none none 10

/-- Reserve up to 12, then settle at 15, with a refund and a settlement of another amount
after it. -/
def orderlyRun : List SessionAction :=
  [.reserve none 12, .settle none 15, .beginRefund, .settle none 20]

/-- The amount taken after the orderly run is the one settled first. -/
theorem direct_session_accounted_sample :
    (orderlyRun.foldl DirectSession.next (sampleSession false).opened).taken = 15 := by
  have opening : Reachable DirectSession.next Orderly (sampleSession false).opened
      ((sampleSession false).opened.next (.reserve none 12)) :=
    Reachable.of_run [SessionAction.reserve none 12] _ (by decide)
  have accounted := direct_session_accounted (by decide) (by decide) opening
  exact accounted.2.1 none 15 rfl (by decide) (by decide) _
    (Reachable.of_run [SessionAction.beginRefund, .settle none 20] _ (by decide))

/-- A playground session settles at 15 and takes nothing. A settlement that lands inside a
refund reports success, and the refund then returns what it had settled. -/
theorem session_ledger_deviates :
    (((sampleSession true).session.settle none 15 (sampleSession true).taken).error = none ∧
      ((sampleSession true).opened.next (.settle none 15)).taken = 0) ∧
    (∃ s, Reachable DirectSession.next Unrestricted (sampleSession false).opened s ∧
      (s.session.settle none 10 s.taken).error = none ∧ (s.next (.settle none 10)).taken = 10 ∧
      ((s.next (.settle none 10)).next (.executeRefund 0 none)).taken = 0 ∧
      ((s.next (.settle none 0)).next (.executeRefund 0 none)).taken = -10) := by
  refine ⟨by decide, (sampleSession false).opened.next .beginRefund,
    Reachable.foldl DirectSession.next [.beginRefund] _, by decide⟩

end NewApi.Service
