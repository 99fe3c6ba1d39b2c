import NewApi.Billing.Settlement
import NewApi.Service.DurableSession

/-!
# A durable session believes no more than the database

The struct that `SettleBillingOperation` returns is filled in before the commit is known, and the
session trusts it.
-/

namespace NewApi.Service

open NewApi.Model Relational Transition Fallible Table

def operationState (db : Database) (opId : ℤ) : Option BillingOperationState :=
  (db.operations.find? opId).map BillingOperation.state

/-- No settlement of the session is refused at its commit while the row is reserved. -/
def SettlesCommit (s : DurableSession) : DurableAction → Prop
  | .settle _ faults _ => faults.commit = true →
      operationState s.db s.session.billingOperationId ≠ some .reserved
  | _ => True

instance (s : DurableSession) :
    (action : DurableAction) → Decidable (SettlesCommit s action)
  | .settle _ faults _ => inferInstanceAs (Decidable (faults.commit = true →
      operationState s.db s.session.billingOperationId ≠ some .reserved))
  | .reserve _ _ _ _ | .refund | .advance _ _ | .other _ => inferInstanceAs (Decidable True)

/-- The identifiers of operations are positive. -/
def PositiveIds (db : Database) : Prop :=
  ∀ op ∈ db.operations.rows, 0 < op.id

theorem positiveIds_modify {ops : Table BillingOperation} {key : ℤ}
    {change : RowUpdate BillingOperation} (pos : ∀ op ∈ ops.rows, 0 < op.id) :
    ∀ op ∈ (ops.modify key change).rows, 0 < op.id := by
  intro op stored
  rcases mem_modify.mp stored with ⟨old, prior, _, rfl⟩ | ⟨prior, _⟩
  · have idEq : (change.apply old).id = old.id := change.key_apply old
    rw [idEq]
    exact pos old prior
  · exact pos op prior

variable {db after : Database} {op : BillingOperation} {opId : ℤ}
  {fingerprint : String} {req : BillingOperationReserveRequest} {s : DurableSession}

theorem positiveIds_kept (effect : Effect db after) (pos : PositiveIds db) : PositiveIds after := by
  cases effect with
  | idle => exact pos
  | migrate _ _ _ => exact positiveIds_modify pos
  | reserve _ _ _ _ _ =>
    intro op stored
    simp only [mem_insert] at stored
    rcases stored with prior | rfl
    · exact pos op prior
    · exact nextKey_pos db.operations
  | settle _ _ _ _ _ _ _ _ =>
    exact positiveIds_modify pos
  | refund _ _ _ _ => exact positiveIds_modify pos

/-! ## What the transactions report -/

theorem operationState_of_find? (found : db.operations.find? opId = some op) :
    operationState db opId = some op.state := by
  simp [operationState, found]

theorem id_pos_of_operationState {stored : BillingOperationState} (pos : PositiveIds db)
    (known : operationState db opId = some stored) : 0 < opId := by
  simp only [operationState, Option.map_eq_some_iff] at known
  rcases known with ⟨op, found, _⟩
  have keyEq : op.id = opId := key_of_find? found
  rw [← keyEq]
  exact pos op (mem_of_find? found)

theorem operationState_kept (effect : Effect db after) {final : BillingOperationState}
    (isFinal : final ≠ .reserved) (stored : operationState db opId = some final) :
    operationState after opId = some final := by
  simp only [operationState, Option.map_eq_some_iff] at stored
  rcases stored with ⟨op, found, stateEq⟩
  have keyEq : op.id = opId := key_of_find? found
  subst keyEq
  rcases effect.closed_kept found (by rw [stateEq]; exact isFinal) with ⟨kept, foundKept, columns⟩
  have keptState : kept.state = op.state := congrArg Prod.fst columns
  rw [operationState_of_find? foundKept, keptState, stateEq]

theorem settle_reports {now : ℤ} {faults : SettleFaults} {settlement : BillingOperationSettlement}
    (commits : faults.commit = true → operationState db opId ≠ some .reserved)
    (returned : (settleBillingOperation now faults opId fingerprint settlement
      db).1.operation = some op) (settled : op.state = .settled) :
    operationState (settleBillingOperation now faults opId fingerprint settlement db).2
      opId = some .settled := by
  revert returned
  simp only [settleBillingOperation]
  split
  next => simp
  next =>
    split
    next => simp
    next =>
      split
      next => simp
      next stored found =>
        have storedState := operationState_of_find? found
        have keyEq : stored.id = opId := key_of_find? found
        split
        next =>
          intro returned
          simp only [Option.some.injEq] at returned
          rw [storedState, returned, settled]
        next done =>
          rcases settleLocked_eq_ok done with ⟨wasSettled, _, rfl⟩ |
            ⟨reserved, _, tokens, users, channels, outcomes, _, _, _, rfl⟩
          · intro _
            split <;> exact storedState.trans (congrArg some wasSettled)
          · intro _
            split
            next refused =>
              rw [reserved] at storedState
              exact absurd storedState (commits refused)
            next =>
              have foundAfter : (db.operations.modify stored.id settlement.freeze).find?
                  opId = some (settlement.freeze.apply stored) := by
                rw [keyEq, find?_modify_self, found]
                rfl
              simp only [operationState, foundAfter]
              rfl

theorem refund_reports {faults : RefundFaults}
    (done : (refundBillingOperation faults opId fingerprint db).1.error = none) :
    ∃ op, (refundBillingOperation faults opId fingerprint db).1.operation =
        some op ∧ op.state ≠ .reserved ∧
      operationState (refundBillingOperation faults opId fingerprint db).2 opId =
        some op.state := by
  revert done
  simp only [refundBillingOperation]
  split
  next => simp
  next =>
    split
    next => simp
    next =>
      split
      next => simp
      next stored found =>
        have keyEq : stored.id = opId := key_of_find? found
        split
        next => simp
        next filled _ done =>
          split
          next => simp
          next =>
            intro _
            rcases refundLocked_eq_ok done with ⟨closed, rfl, rfl⟩ | ⟨reserved, rfl, tokens, _, rfl⟩
            · exact ⟨filled, rfl, closed, operationState_of_find? found⟩
            · refine ⟨markRefunded.apply stored, rfl, by simp [markRefunded], ?_⟩
              have foundAfter : (db.operations.modify stored.id markRefunded).find?
                  opId = some (markRefunded.apply stored) := by
                rw [keyEq, find?_modify_self, found]
                rfl
              exact operationState_of_find? foundAfter

theorem reload_reports {faults : ReserveFaults} {err : ModelError}
    (reloaded : reloadReservation faults req err db = .ok op) :
    op.state ≠ .refunded ∧ operationState db op.id = some op.state := by
  unfold reloadReservation at reloaded
  rw [guard_eq_ok] at reloaded
  rcases reloaded with ⟨_, reloaded⟩
  split at reloaded
  next found =>
    rw [guard_eq_ok, guard_eq_ok, Except.ok.injEq] at reloaded
    rcases reloaded with ⟨_, unpaid, rfl⟩
    exact ⟨unpaid, operationState_of_find? (findBillingOperation_stored found)⟩
  next => simp at reloaded

theorem transaction_reports {faults : ReserveFaults} {live : BillingOperationLookupCandidate}
    {committed : Database} (nonneg : 0 ≤ req.reservedQuota)
    (runs : reserveTransaction faults req live db = .ok (op, committed)) :
    op.state ≠ .refunded ∧ operationState committed op.id = some op.state := by
  unfold reserveTransaction at runs
  rw [guard_eq_ok] at runs
  rcases runs with ⟨_, runs⟩
  split at runs
  next existing found =>
    have stored := findBillingOperation_stored found
    rcases reserveExisting_eq_ok runs with ⟨unpaid, ⟨rfl, rfl⟩ | ⟨rfl, rfl⟩⟩
    · exact ⟨unpaid, operationState_of_find? stored⟩
    · refine ⟨unpaid, ?_⟩
      have migrated : (db.operations.modify existing.id live.adopt).find? existing.id =
          some (live.adopt.apply existing) := by
        rw [find?_modify_self, stored]
        rfl
      exact congrArg (Option.map BillingOperation.state) migrated
  next =>
    rcases reserveNew_eq_ok nonneg runs with ⟨rfl, _, _, _, rfl⟩
    refine ⟨by simp [newBillingOperation], ?_⟩
    exact congrArg (Option.map BillingOperation.state)
      (find?_insert_new (key_newBillingOperation req live))
  next => simp at runs

theorem reserve_reports {faults : ReserveFaults}
    (done : (reserveBillingOperation faults req db).1 = .ok op) :
    op.state ≠ .refunded ∧ operationState (reserveBillingOperation faults req db).2 op.id =
        some op.state := by
  revert done
  simp only [reserveBillingOperation]
  split
  next => simp
  next =>
    split
    next => simp
    next valid =>
      have nonneg := reservedQuota_nonneg valid
      split
      next => simp
      next =>
        split
        next runs =>
          split
          next =>
            intro reloaded
            exact reload_reports reloaded
          next =>
            intro returned
            simp only [Except.ok.injEq] at returned
            subst returned
            exact transaction_reports nonneg runs
        next err _ =>
          intro reloaded
          exact reload_reports reloaded

theorem frozenResult_settled {readFails : Bool} {frozen : BillingOperationFrozenResult}
    (read : getBillingOperationFrozenResult readFails opId fingerprint db = .ok (some frozen)) :
    operationState db opId = some .settled := by
  unfold getBillingOperationFrozenResult at read
  rw [guard_eq_ok] at read
  rcases read with ⟨_, read⟩
  split at read
  next => simp at read
  next found =>
    rw [guard_eq_ok] at read
    rcases read with ⟨_, read⟩
    split at read
    next => simp at read
    next settled =>
      simp only [ne_eq, not_not] at settled
      rw [operationState_of_find? found, settled]

/-! ## The invariant -/

def OpenCall.Honest (db : Database) (opId : ℤ) : OpenCall → Prop
  | .adopting op _ => opId = 0 ∧ op.id ≠ 0 ∧ op.state ≠ .refunded ∧
      (op.state = .settled → operationState db op.id = some .settled)
  | .settling result => opId ≠ 0 ∧ ∀ op, result.operation = some op →
      op.state = .settled → operationState db opId = some .settled
  | .rereading => opId ≠ 0
  | .confirming => opId ≠ 0 ∧ operationState db opId = some .settled
  | .refunding => opId ≠ 0
  | .refunded result => opId ≠ 0 ∧ (result.error = none → ∃ op,
      result.operation = some op ∧ op.state ≠ .reserved ∧
        operationState db opId = some op.state)

/-- What the session holds about its row is true, and so is what its calls have learnt. -/
structure Believes (s : DurableSession) : Prop where
  positiveIds : PositiveIds s.db
  fresh : s.session.billingOperationId = 0 →
    s.session.settled = false ∧ s.session.refunded = false
  known : s.session.billingOperationId ≠ 0 → s.session.billingOperationState ≠ none
  settled : s.session.billingOperationState = some .settled ∨
      s.session.settled = true →
    operationState s.db s.session.billingOperationId = some .settled
  refunded : s.session.billingOperationState = some .refunded ∨
      s.session.refunded = true →
    operationState s.db s.session.billingOperationId = some .refunded
  honest : ∀ call ∈ s.calls, call.Honest s.db s.session.billingOperationId
  alone : s.session.billingOperationId = 0 → s.calls.length ≤ 1

theorem OpenCall.Honest.kept {call : OpenCall}
    (effect : Effect db after) (honest : call.Honest db opId) :
    call.Honest after opId := by
  cases call with
  | adopting _ _ =>
    rcases honest with ⟨fresh, pos, unpaid, isStored⟩
    exact ⟨fresh, pos, unpaid, fun settled =>
      operationState_kept effect (by simp) (isStored settled)⟩
  | settling _ =>
    rcases honest with ⟨known, told⟩
    exact ⟨known, fun op returned settled =>
      operationState_kept effect (by simp) (told op returned settled)⟩
  | rereading => exact honest
  | confirming => exact ⟨honest.1, operationState_kept effect (by simp) honest.2⟩
  | refunding => exact honest
  | refunded _ =>
    refine ⟨honest.1, ?_⟩
    intro succeeded
    rcases honest.2 succeeded with ⟨op, returned, closed, stored⟩
    exact ⟨op, returned, closed, operationState_kept effect closed stored⟩

theorem Believes.kept (effect : Effect s.db after) (holds : Believes s) :
    Believes { s with db := after } where
  positiveIds := positiveIds_kept effect holds.positiveIds
  fresh := holds.fresh
  known := holds.known
  settled held := operationState_kept effect (by simp) (holds.settled held)
  refunded held := operationState_kept effect (by simp) (holds.refunded held)
  honest call inFlight := (holds.honest call inFlight).kept effect
  alone := holds.alone

/-! ## Steps keep the invariant -/

theorem Believes.reserve (holds : Believes s) (faults : ReserveFaults)
    (req : BillingOperationReserveRequest) (decodeFails cacheFails : Bool) :
    Believes (s.next (.reserve faults req decodeFails cacheFails)) := by
  simp only [DurableSession.next]
  split
  next => exact holds
  next isFresh =>
    simp only [not_or, not_not] at isFresh
    have effect := s.db.next_effect (.reserve faults req)
    simp only [Database.next] at effect
    cases reply : reserveBillingOperation faults req s.db with
    | mk returned _ =>
      rw [reply] at effect
      have moved := holds.kept effect
      cases returned with
      | error _ => exact moved
      | ok op =>
        have reports := reserve_reports (congrArg Prod.fst reply)
        rw [reply] at reports
        simp only
        split
        next => exact moved
        next =>
          refine ⟨moved.positiveIds, moved.fresh, moved.known, moved.settled, moved.refunded, ?_,
            by simp⟩
          intro _ inFlight
          simp only [List.mem_singleton] at inFlight
          subst inFlight
          have present : op.id ≠ 0 :=
            ne_of_gt (id_pos_of_operationState moved.positiveIds reports.2)
          refine ⟨isFresh.1, present, reports.1, ?_⟩
          intro settled
          rw [← settled]
          exact reports.2

theorem Believes.settle (holds : Believes s) (now : ℤ)
    (faults : SettleFaults) (settlement : BillingOperationSettlement)
    (commits : SettlesCommit s (.settle now faults settlement)) :
    Believes (s.next (.settle now faults settlement)) := by
  simp only [DurableSession.next]
  split
  next => exact holds
  next known =>
    have effect := s.db.next_effect (.settle now faults s.session.billingOperationId
      s.session.billingOperationFingerprint settlement)
    have moved := holds.kept effect
    refine ⟨moved.positiveIds, moved.fresh, moved.known, moved.settled, moved.refunded, ?_,
      fun unknown => absurd unknown known⟩
    intro call inFlight
    rcases List.mem_cons.mp inFlight with rfl | inFlight
    · refine ⟨known, ?_⟩
      intro _ returned settled
      exact settle_reports commits returned settled
    · exact moved.honest call inFlight

theorem beginOperationRefund_cases (sess : BillingSession) :
    (∃ reply, reply ≠ .ok true ∧ sess.beginOperationRefund = (sess, reply)) ∨
      (sess.billingOperationId ≠ 0 ∧ sess.beginOperationRefund =
        ({ sess with refundInProgress := true }, .ok true)) := by
  unfold BillingSession.beginOperationRefund
  split
  next => exact .inl ⟨.ok false, by simp, rfl⟩
  next starts =>
    split
    next => exact .inl ⟨_, by simp, rfl⟩
    next =>
      simp only [not_or] at starts
      exact .inr ⟨starts.1, rfl⟩

variable (holds : Believes s)

include holds

theorem Believes.refund : Believes (s.next .refund) := by
  simp only [DurableSession.next]
  rcases beginOperationRefund_cases s.session with ⟨_, notStarted, began⟩ | ⟨known, began⟩
  · rw [began]
    split
    next startedEq =>
      simp only [Prod.mk.injEq] at startedEq
      exact absurd startedEq.2 notStarted
    next sess _ _ answeredEq =>
      simp only [Prod.mk.injEq] at answeredEq
      rw [← answeredEq.1]
      exact holds
  · rw [began]
    refine ⟨holds.positiveIds, holds.fresh, holds.known, holds.settled, holds.refunded, ?_,
      fun unknown => absurd unknown known⟩
    intro call inFlight
    rcases List.mem_cons.mp inFlight with rfl | inFlight
    · exact known
    · exact holds.honest call inFlight

theorem Believes.noteSettled (known : s.session.billingOperationId ≠ 0)
    (settled : operationState s.db s.session.billingOperationId = some .settled) :
    Believes { s with session := s.session.noteSettled } := by
  refine ⟨holds.positiveIds, fun unknown => absurd unknown known,
    fun _ => by simp [BillingSession.noteSettled],
    fun _ => settled, ?_, holds.honest, holds.alone⟩
  rintro (held | held)
  · simp [BillingSession.noteSettled] at held
  · exact holds.refunded (.inr held)

theorem Believes.finishRefund {result : RefundResult}
    (honest : (OpenCall.refunded result).Honest s.db s.session.billingOperationId) :
    Believes { s with session := s.session.finishOperationRefund result } := by
  rcases honest with ⟨known, told⟩
  cases failed : result.error with
  | some _ =>
    simp only [BillingSession.finishOperationRefund, failed]
    exact ⟨holds.positiveIds, holds.fresh, holds.known, holds.settled, holds.refunded,
      holds.honest, holds.alone⟩
  | none =>
    rcases told failed with ⟨op, returned, closed, stored⟩
    simp only [BillingSession.finishOperationRefund, failed, returned]
    split
    next isRefunded =>
      rw [isRefunded] at stored
      refine ⟨holds.positiveIds, fun unknown => absurd unknown known, fun _ => by simp, ?_,
        fun _ => stored, holds.honest, holds.alone⟩
      rintro (held | held)
      · simp [isRefunded] at held
      · exact holds.settled (.inr held)
    next unpaid =>
      have isSettled : op.state = .settled := by
        cases stateEq : op.state with
        | reserved => exact absurd stateEq closed
        | settled => rfl
        | refunded => exact absurd stateEq unpaid
      rw [isSettled] at stored
      refine ⟨holds.positiveIds, fun unknown => absurd unknown known, fun _ => by simp,
        fun _ => stored, ?_, holds.honest, holds.alone⟩
      rintro (held | held)
      · simp [isSettled] at held
      · exact holds.refunded (.inr held)

theorem Believes.adopt
    (honest : (OpenCall.adopting op fingerprint).Honest s.db s.session.billingOperationId) :
    Believes
      { s with
        session := s.session.adoptOperation op fingerprint
        calls := [] } := by
  rcases honest with ⟨unknown, present, unpaid, isStored⟩
  rcases holds.fresh unknown with ⟨notSettled, sessionNotRefunded⟩
  refine ⟨holds.positiveIds, fun absent => absurd absent present,
    fun _ => by simp [BillingSession.adoptOperation], ?_, ?_, by simp, by simp⟩
  · rintro (held | held)
    · simp only [BillingSession.adoptOperation, Option.some.injEq] at held
      exact isStored held
    · simp only [BillingSession.adoptOperation, notSettled, Bool.false_or,
        decide_eq_true_eq] at held
      exact isStored held
  · rintro (held | held)
    · simp only [BillingSession.adoptOperation, Option.some.injEq] at held
      exact absurd held unpaid
    · simp [BillingSession.adoptOperation, sessionNotRefunded] at held

omit holds

theorem finishOperationRefund_id (sess : BillingSession) (result : RefundResult) :
    (sess.finishOperationRefund result).billingOperationId = sess.billingOperationId := by
  unfold BillingSession.finishOperationRefund
  simp only
  split
  next => split <;> rfl
  next => rfl

theorem Believes.proceed (holds : Believes s) {call : OpenCall}
    (known : s.session.billingOperationId ≠ 0)
    (honest : call.Honest s.db s.session.billingOperationId) (faults : CallFaults) :
    Believes (s.proceed faults call).1 ∧ (s.proceed faults call).1.calls = s.calls ∧
      (s.proceed faults call).1.session.billingOperationId ≠ 0 ∧
      ∀ rest ∈ (s.proceed faults call).2, rest.Honest (s.proceed faults call).1.db
        (s.proceed faults call).1.session.billingOperationId := by
  cases call with
  | adopting _ _ => exact absurd honest.1 known
  | settling result =>
    have leftHonest : ∀ rest ∈ (if result.error.isSome then some OpenCall.rereading else none),
        ∀ db, rest.Honest db s.session.billingOperationId := by
      intro _ isRest _
      split at isRest
      next =>
        simp only [Option.mem_some_iff] at isRest
        subst isRest
        exact known
      next => simp at isRest
    simp only [DurableSession.proceed]
    split
    next held =>
      simp only [Option.any_eq_true, decide_eq_true_eq] at held
      rcases held with ⟨op, returned, settled⟩
      exact ⟨holds.noteSettled known (honest.2 op returned settled), by trivial, known,
        fun rest isRest => leftHonest rest isRest _⟩
    next => exact ⟨holds, by trivial, known, fun rest isRest => leftHonest rest isRest _⟩
  | rereading =>
    simp only [DurableSession.proceed]
    split
    next read =>
      refine ⟨holds, rfl, known, ?_⟩
      intro _ isRest
      simp only [Option.mem_some_iff] at isRest
      subst isRest
      exact ⟨known, frozenResult_settled read⟩
    next => exact ⟨holds, rfl, known, by simp⟩
  | confirming =>
    simp only [DurableSession.proceed]
    exact ⟨holds.noteSettled known honest.2, by trivial, known, by simp⟩
  | refunding =>
    have effect := s.db.next_effect (.refund faults.refund
      s.session.billingOperationId s.session.billingOperationFingerprint)
    simp only [DurableSession.proceed]
    refine ⟨holds.kept effect, by trivial, known, ?_⟩
    intro _ isRest
    simp only [Option.mem_some_iff] at isRest
    subst isRest
    exact ⟨known, fun succeeded => refund_reports succeeded⟩
  | refunded _ =>
    simp only [DurableSession.proceed]
    refine ⟨holds.finishRefund honest, by trivial, ?_, by simp⟩
    simp only [finishOperationRefund_id]
    exact known

theorem Believes.advance (holds : Believes s) (i : ℕ)
    (faults : CallFaults) : Believes (s.next (.advance i faults)) := by
  simp only [DurableSession.next]
  cases picked : s.calls[i]? with
  | none => exact holds
  | some call =>
    have inFlight : call ∈ s.calls := List.mem_of_getElem? picked
    have honest := holds.honest call inFlight
    by_cases known : s.session.billingOperationId = 0
    · -- Only the adopting call runs before the session knows its row, and it runs alone.
      have emptied : s.calls.eraseIdx i = [] := by
        have bound := holds.alone known
        have inRange : i < s.calls.length := (List.getElem?_eq_some_iff.mp picked).1
        apply List.eq_nil_of_length_eq_zero
        rw [List.length_eraseIdx_of_lt inRange]
        omega
      cases call with
      | adopting _ _ =>
        simp only [DurableSession.proceed, Option.toList_none, List.nil_append, emptied]
        exact holds.adopt honest
      | settling _ => exact absurd known honest.1
      | rereading => exact absurd known honest
      | confirming => exact absurd known honest.1
      | refunding => exact absurd known honest
      | refunded _ => exact absurd known honest.1
    · rcases holds.proceed known honest faults with ⟨advanced, sameCalls, stillKnown, restHonest⟩
      refine ⟨advanced.positiveIds, advanced.fresh, advanced.known, advanced.settled,
        advanced.refunded, ?_, fun unknown => absurd unknown stillKnown⟩
      intro other otherIn
      rcases List.mem_append.mp otherIn with isRest | isOld
      · exact restHonest other (Option.mem_toList.mp isRest)
      · refine advanced.honest other ?_
        rw [sameCalls]
        exact List.mem_of_mem_eraseIdx isOld

theorem Believes.next (holds : Believes s) (action : DurableAction)
    (commits : SettlesCommit s action) : Believes (s.next action) := by
  cases action with
  | reserve faults req decodeFails cacheFails =>
    exact holds.reserve faults req decodeFails cacheFails
  | settle now faults settlement => exact holds.settle now faults settlement commits
  | refund => exact holds.refund
  | advance i faults => exact holds.advance i faults
  | other action => exact holds.kept (s.db.next_effect action)

/-! ## Every run -/

def freshSession (db : Database) (isPlayground : Bool) : DurableSession :=
  ⟨db, { isPlayground := isPlayground }, []⟩

/-- In every run whose settlements commit, what the session holds about its row is true, so
a session whose row is still reserved asks for a refund unless one is in progress. -/
theorem durable_session_honest {db : Database} {isPlayground : Bool} {s : DurableSession}
    (pos : PositiveIds db)
    (reached : Reachable DurableSession.next SettlesCommit (freshSession db isPlayground) s) :
    (s.session.billingOperationState = some .settled ∨ s.session.settled = true →
      operationState s.db s.session.billingOperationId = some .settled) ∧
    (s.session.billingOperationState = some .refunded ∨ s.session.refunded = true →
      operationState s.db s.session.billingOperationId = some .refunded) ∧
    (s.session.billingOperationId ≠ 0 →
      operationState s.db s.session.billingOperationId = some .reserved →
      s.session.refundInProgress = false → s.session.needsRefund = true) := by
  have startBelieves : Believes (freshSession db isPlayground) := by
    refine ⟨pos, fun _ => ⟨rfl, rfl⟩, fun known => absurd rfl known, ?_, ?_, ?_, ?_⟩
    all_goals simp [freshSession]
  have believes := reached.invariant Believes
    (fun _ action commits holds => holds.next action commits) startBelieves
  refine ⟨believes.settled, believes.refunded, ?_⟩
  intro known reserved idle
  have isReserved : s.session.billingOperationState = some .reserved := by
    cases held : s.session.billingOperationState with
    | none => exact absurd held (believes.known known)
    | some believed =>
      cases believed with
      | reserved => rfl
      | settled =>
        have := believes.settled (.inl held)
        simp [reserved] at this
      | refunded =>
        have := believes.refunded (.inl held)
        simp [reserved] at this
  simp [BillingSession.needsRefund, known, isReserved, idle]

/-- Reserve, settle with every commit accepted, and let the calls run to their ends. -/
def committedRun : List DurableAction :=
  [.reserve {} sampleRequest false false, .advance 0 {}, .settle 0 {} sampleSettlement,
    .advance 0 {}]

/-- The session holds that its row is settled, and it is. -/
theorem durable_session_honest_sample :
    (committedRun.foldl DurableSession.next (freshSession sampleDatabase false)).session.settled =
        true ∧ operationState (committedRun.foldl DurableSession.next
        (freshSession sampleDatabase false)).db 1 = some .settled := by
  have run : RunAllowed DurableSession.next SettlesCommit (freshSession sampleDatabase false)
      committedRun := by
    decide
  have believed : (committedRun.foldl DurableSession.next
      (freshSession sampleDatabase false)).session.settled = true := by
    decide
  have honest := durable_session_honest (by simp [PositiveIds, sampleDatabase, empty])
    (Reachable.of_run _ _ run)
  exact ⟨believed, honest.1 (.inr believed)⟩

def refusedRun : List DurableAction :=
  [.reserve {} sampleRequest false false, .advance 0 {},
    .settle 0 { commit := true } sampleSettlement, .advance 0 {}, .advance 0 {}]

/-- After a refused commit the session holds that its row is settled and asks for no
refund, while the row is reserved. -/
theorem refused_commit_believed :
    ∃ s : DurableSession,
      Reachable DurableSession.next Unrestricted (freshSession sampleDatabase false) s ∧
        s.calls.length = 0 ∧
        s.session.billingOperationState = some .settled ∧ s.session.settled = true ∧
        operationState s.db s.session.billingOperationId = some .reserved ∧
        s.session.refundInProgress = false ∧ s.session.needsRefund = false := by
  refine ⟨refusedRun.foldl DurableSession.next (freshSession sampleDatabase false),
    Reachable.foldl _ _ _, ?_⟩
  decide

end NewApi.Service
