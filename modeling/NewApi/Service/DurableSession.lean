import NewApi.Billing.Effect
import NewApi.Service.BillingSession

/-!
# Sessions with a durable operation

`reserveBillingOperation`, `settleTextBillingOperation` and `refundBillingOperation` of one
session, next to everything other sessions do to the database. A call reads or writes the
session under its lock and talks to the database without it, so it is cut at these points:
between two of them any other call, or any other session, can run.
-/

namespace NewApi.Service

open NewApi.Model Relational

/-! ## The critical sections -/

namespace BillingSession

/-- The writes at the end of `reserveBillingOperation`. -/
def adoptOperation (sess : BillingSession) (op : BillingOperation)
    (fingerprint : String) : BillingSession :=
  { sess with
    billingOperationId := op.id
    billingOperationFingerprint := fingerprint
    billingOperationState := some op.state
    preConsumedQuota := op.reservedQuota
    tokenConsumed :=
      if op.isPlayground then sess.tokenConsumed else op.reservedQuota
    settled := sess.settled || op.state = .settled
    fundingSettled := sess.fundingSettled || op.state = .settled }

/-- The writes of `settleTextBillingOperation` once it takes the row for settled. -/
def noteSettled (sess : BillingSession) : BillingSession :=
  { sess with
    billingOperationState := some .settled
    settled := true
    fundingSettled := true }

/-- `refundBillingOperation` up to its transaction; the flag says whether to go on. -/
def beginOperationRefund (sess : BillingSession) :
    BillingSession × Except ModelError Bool :=
  if sess.billingOperationId = 0 ∨ sess.billingOperationState = some .settled ∨
      sess.billingOperationState = some .refunded then
    (sess, .ok false)
  else if sess.refundInProgress then
    (sess, .error (.message "billing refund is already in progress"))
  else
    ({ sess with refundInProgress := true }, .ok true)

/-- `refundBillingOperation` after its transaction. -/
def finishOperationRefund (sess : BillingSession) (result : RefundResult) : BillingSession :=
  let sess := { sess with refundInProgress := false }
  match result.error, result.operation with
  | none, some op =>
    let sess := { sess with billingOperationState := some op.state }
    if op.state = .refunded then
      { sess with refunded := true, fundingRefunded := true, tokenRefunded := true }
    else
      sess
  | _, _ => sess

end BillingSession

/-! ## The calls in flight -/

/-- A call on a durable session that has not returned, by the place it has reached. -/
inductive OpenCall where
  | adopting (op : BillingOperation) (fingerprint : String)
  /-- `SettleBillingOperation` has returned. -/
  | settling (result : SettleResult)
  | rereading
  | confirming
  | refunding
  /-- `RefundBillingOperation` has returned. -/
  | refunded (result : RefundResult)

/-- The database, the session of a request, and its calls in flight. -/
structure DurableSession where
  db : Database
  session : BillingSession
  calls : List OpenCall

/-- The statements of a call that fail. -/
structure CallFaults where
  read : Bool := false
  refund : RefundFaults := {}

/-- The steps of a durable session: the requests of its calls and what the calls do next. -/
inductive DurableAction where
  | reserve (faults : ReserveFaults) (req : BillingOperationReserveRequest)
      (decodeFails cacheFails : Bool)
  /-- `settleTextBillingOperation`, up to the answer of the transaction. -/
  | settle (now : ℤ) (faults : SettleFaults) (settlement : BillingOperationSettlement)
  | refund
  | advance (i : ℕ) (faults : CallFaults)
  | other (action : BillingAction)

namespace DurableSession

def proceed (s : DurableSession) (faults : CallFaults) :
    OpenCall → DurableSession × Option OpenCall
  | .adopting op fingerprint =>
    ({ s with session := s.session.adoptOperation op fingerprint }, none)
  | .settling result =>
    let isSettled := result.operation.any (·.state = .settled)
    ({ s with session := if isSettled then s.session.noteSettled else s.session },
      if result.error.isSome then some .rereading else none)
  | .rereading =>
    match getBillingOperationFrozenResult faults.read s.session.billingOperationId
        s.session.billingOperationFingerprint s.db with
    | .ok (some _) => (s, some .confirming)
    | _ => (s, none)
  | .confirming => ({ s with session := s.session.noteSettled }, none)
  | .refunding =>
    let (result, db) := refundBillingOperation faults.refund s.session.billingOperationId
      s.session.billingOperationFingerprint s.db
    ({ s with db := db }, some (.refunded result))
  | .refunded result =>
    ({ s with session := s.session.finishOperationRefund result }, none)

/-- One step. A session reserves once, before anything else: `NewBillingSession` hands it
out only after that. -/
def next (s : DurableSession) : DurableAction → DurableSession
  | .reserve faults req decodeFails cacheFails =>
    if s.session.billingOperationId ≠ 0 ∨ s.calls ≠ [] then
      s
    else
      match reserveBillingOperation faults req s.db with
      | (.error _, db) => { s with db := db }
      | (.ok op, db) =>
        if decodeFails || cacheFails then
          { s with db := db }
        else
          { s with
            db := db
            calls := [.adopting op req.identity.fingerprint] }
  | .settle now faults settlement =>
    if s.session.billingOperationId = 0 then
      s
    else
      let (result, db) := settleBillingOperation now faults s.session.billingOperationId
        s.session.billingOperationFingerprint settlement s.db
      { s with db := db, calls := .settling result :: s.calls }
  | .refund =>
    match s.session.beginOperationRefund with
    | (sess, .ok true) =>
      { s with session := sess, calls := .refunding :: s.calls }
    | (sess, _) => { s with session := sess }
  | .advance i faults =>
    match s.calls[i]? with
    | none => s
    | some call =>
      let (advanced, rest) := s.proceed faults call
      { advanced with calls := rest.toList ++ s.calls.eraseIdx i }
  | .other action => { s with db := s.db.next action }

end DurableSession

end NewApi.Service
