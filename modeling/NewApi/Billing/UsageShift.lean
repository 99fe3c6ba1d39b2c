import NewApi.Billing.Effect

/-!
# Billing over shifted usage counters

Billing adds to the usage counters of tokens and users and reads one of them back: a settlement or
a refund returns quota only as far as the token has used it.
-/

namespace NewApi.Model

open Relational

/-- By how much two databases differ in their counters. -/
structure UsageShift where
  tokenUsed : ℤ → ℤ
  userUsed : ℤ → ℤ
  userRequests : ℤ → ℤ

namespace UsageShift

variable (shift : UsageShift)

def token (row : Token) : Token :=
  { row with usedQuota := row.usedQuota + shift.tokenUsed row.id }

def user (row : User) : User :=
  { row with
    usedQuota := row.usedQuota + shift.userUsed row.id
    requestCount := row.requestCount + shift.userRequests row.id }

def tokens (table : Table Token) : Table Token :=
  table.map shift.token fun _ => rfl

def users (table : Table User) : Table User :=
  table.map shift.user fun _ => rfl

def database (db : Database) : Database :=
  { db with tokens := shift.tokens db.tokens, users := shift.users db.users }

variable {shift}

theorem token_consume (amount : ℤ) (row : Token) :
    shift.token ((Token.consume amount).apply row) =
      (Token.consume amount).apply (shift.token row) := by
  simp only [token, Token.consume]
  congr 1
  omega

theorem user_countRequest (amount : ℤ) (row : User) :
    shift.user ((User.countRequest amount).apply row) =
      (User.countRequest amount).apply (shift.user row) := by
  simp only [user, User.countRequest]
  congr 1
  · omega
  · omega

theorem updateOne_map {Row : Type} [Keyed Row ℤ] (table : Table Row) (view : Row → Row)
    (key_view : ∀ row, Keyed.key (view row) = Keyed.key row) {key : ℤ} {guard : Row → Bool}
    {change : RowUpdate Row} (err : ModelError)
    (commutes : ∀ row, view (change.apply row) = change.apply (view row))
    (guards : ∀ row, table.find? key = some row → guard (view row) = guard row) :
    updateOne ((table.map view key_view).updateWhere key guard change) err =
      (updateOne (table.updateWhere key guard change) err).map (·.map view key_view) := by
  rw [table.updateWhere_map view key_view commutes guards]
  simp only [updateOne]
  split
  · rfl
  · rfl

theorem chargeReservation_shifted (faults : ReserveFaults)
    (req : BillingOperationReserveRequest) (table : Table Token) :
    chargeReservation faults req (shift.tokens table) =
      (chargeReservation faults req table).map shift.tokens := by
  simp only [chargeReservation]
  split
  · split
    · rfl
    · exact updateOne_map table shift.token _ _ (token_consume _) fun _ _ => rfl
  · rfl

variable (nonneg : ∀ id, 0 ≤ shift.tokenUsed id)

include nonneg

theorem hasUsed_shifted {amount : ℤ} {row : Token} (used : amount ≤ row.usedQuota) :
    Token.hasUsed amount (shift.token row) = Token.hasUsed amount row := by
  have more := nonneg row.id
  have usedShifted : amount ≤ (shift.token row).usedQuota := by
    simp only [token]
    omega
  rw [Token.hasUsed, Token.hasUsed, decide_eq_true used, decide_eq_true usedShifted]

theorem adjustToken_shifted (faults : SettleFaults)
    (op : BillingOperation) (settlement : BillingOperationSettlement) (table : Table Token)
    (used : op.isPlayground = false → ∀ row, table.find? op.tokenId = some row →
      op.reservedQuota - settlement.actualQuota ≤ row.usedQuota) :
    adjustToken faults op settlement (shift.tokens table) =
      (adjustToken faults op settlement table).map shift.tokens := by
  simp only [adjustToken]
  split
  next charges =>
    simp only [Bool.and_eq_true, Bool.not_eq_true'] at charges
    split
    · rfl
    · split
      · exact updateOne_map table shift.token _ _ (token_consume _) fun _ _ => rfl
      · refine updateOne_map table shift.token _ _ (token_consume _) fun row found => ?_
        refine hasUsed_shifted nonneg ?_
        have covered := used charges.1 row found
        omega
  · rfl

theorem returnReservation_shifted
    (faults : RefundFaults) (op : BillingOperation) (table : Table Token)
    (used : op.isPlayground = false → ∀ row, table.find? op.tokenId = some row →
      op.reservedQuota ≤ row.usedQuota) :
    returnReservation faults op (shift.tokens table) =
      (returnReservation faults op table).map shift.tokens := by
  simp only [returnReservation]
  split
  next returns =>
    simp only [Bool.and_eq_true, Bool.not_eq_true'] at returns
    split
    · rfl
    · exact updateOne_map table shift.token _ _ (token_consume _) fun row found =>
        hasUsed_shifted nonneg (used returns.1 row found)
  · rfl

omit nonneg

theorem countUserUsage_shifted (faults : SettleFaults) (op : BillingOperation)
    (settlement : BillingOperationSettlement) (table : Table User) :
    countUserUsage faults op settlement (shift.users table) =
      (countUserUsage faults op settlement table).map shift.users := by
  simp only [countUserUsage]
  split
  · split
    · rfl
    · exact updateOne_map table shift.user _ _ (user_countRequest _) fun _ _ => rfl
  · rfl

/-! ## The transactions -/

/-- A reservation does the same to shifted counters. -/
theorem reserveTransaction_shifted (faults : ReserveFaults) (req : BillingOperationReserveRequest)
    (live : BillingOperationLookupCandidate) (db : Database) :
    reserveTransaction faults req live (shift.database db) =
      (reserveTransaction faults req live db).map
        fun reply => (reply.1, shift.database reply.2) := by
  simp only [reserveTransaction]
  have same : findBillingOperation (shift.database db) req.identity =
      findBillingOperation db req.identity := rfl
  rw [same]
  split
  · rfl
  · cases findBillingOperation db req.identity with
    | ok _ =>
      simp only [reserveExisting]
      have taken : ∀ op, (shift.database db).businessKeyTaken op =
        db.businessKeyTaken op := fun _ => rfl
      have ops : (shift.database db).operations = db.operations := rfl
      rw [taken, ops]
      split
      · rfl
      · split
        · rfl
        · split
          · rfl
          · split
            · rfl
            · split
              · rfl
              · rfl
    | error err =>
      cases err with
      | recordNotFound =>
        simp only [reserveNew]
        have charges : chargeReservation faults req (shift.database db).tokens =
            (chargeReservation faults req db.tokens).map shift.tokens :=
          chargeReservation_shifted faults req db.tokens
        have creates : createOperation faults req live (shift.database db) =
          createOperation faults req live db := rfl
        rw [charges, creates]
        cases chargeReservation faults req db.tokens with
        | error _ => rfl
        | ok _ =>
          cases createOperation faults req live db with
          | error _ | ok _ => rfl
      | _ => rfl

theorem reserveBillingOperation_shifted (faults : ReserveFaults)
    (req : BillingOperationReserveRequest) (db : Database) :
    reserveBillingOperation faults req (shift.database db) =
      ((reserveBillingOperation faults req db).1,
        shift.database (reserveBillingOperation faults req db).2) := by
  simp only [reserveBillingOperation]
  have reloads : ∀ err, reloadReservation faults req err (shift.database db) =
    reloadReservation faults req err db := fun _ => rfl
  simp only [reloads]
  split
  · rfl
  · split
    · rfl
    · split
      · rfl
      next live rest _ =>
        rw [reserveTransaction_shifted]
        cases reserveTransaction faults req live db with
        | error _ => rfl
        | ok _ =>
          simp only [Except.map]
          split
          · rfl
          · rfl

/-- The token of a reserved operation has used what the operation holds. -/
def Backs (tokens : Table Token) (op : BillingOperation) : Prop :=
  op.isPlayground = false → ∀ row, tokens.find? op.tokenId = some row →
    op.reservedQuota ≤ row.usedQuota

variable (nonneg : ∀ id, 0 ≤ shift.tokenUsed id)

include nonneg

/-- A settlement does the same to shifted counters. -/
theorem settleLocked_shifted (now : ℤ)
    (faults : SettleFaults) (fingerprint : String) (settlement : BillingOperationSettlement)
    (op : BillingOperation) (db : Database) (backs : op.state = .reserved → Backs db.tokens op) :
    settleLocked now faults fingerprint settlement op (shift.database db) =
      (settleLocked now faults fingerprint settlement op db).map
        fun reply => (reply.1, reply.2.1, shift.database reply.2.2) := by
  simp only [settleLocked]
  split
  · rfl
  · split
    · rfl
    next notSettled =>
      split
      · rfl
      next unpaid =>
        split
        · rfl
        next accepted =>
          split
          · rfl
          · have reserved : op.state = .reserved := by
              cases state : op.state with
              | reserved => rfl
              | settled => exact absurd state notSettled
              | refunded => exact absurd state unpaid
            have costs : 0 ≤ settlement.actualQuota := by
              simp only [BillingOperationSettlement.accepted, Bool.not_eq_true', Bool.not_eq_false,
                Bool.and_eq_true, decide_eq_true_eq] at accepted
              omega
            have adjusts : adjustToken faults op settlement (shift.database db).tokens =
                (adjustToken faults op settlement db.tokens).map shift.tokens := by
              refine adjustToken_shifted nonneg faults op settlement db.tokens ?_
              intro charged row found
              have held := backs reserved charged row found
              omega
            have counts : countUserUsage faults op settlement (shift.database db).users =
                (countUserUsage faults op settlement db.users).map shift.users :=
              countUserUsage_shifted faults op settlement db.users
            rw [adjusts, counts]
            cases adjustToken faults op settlement db.tokens with
            | error _ => rfl
            | ok _ =>
              cases countUserUsage faults op settlement db.users with
              | error _ => rfl
              | ok _ =>
                simp only [database, Except.map, bind, Except.bind]
                cases countChannelUsage faults op settlement db.channels with
                | error _ => rfl
                | ok _ =>
                  simp only
                  cases leaveReserved faults.casOperation op fingerprint settlement.freeze (.message
                        "billing operation settlement compare-and-swap failed")
                      db.operations with
                  | error _ => rfl
                  | ok _ =>
                    simp only
                    cases createOutbox faults op settlement db.outboxes with
                    | error _ => rfl
                    | ok _ =>
                      simp only
                      cases applyManagedContextOutcomeCheckpoint now faults.checkpoint
                          op.id settlement.outcomeCheckpoint db.outcomes with
                      | error _ | ok _ => rfl

theorem settleBillingOperation_shifted (now : ℤ) (faults : SettleFaults) (opId : ℤ)
    (fingerprint : String) (settlement : BillingOperationSettlement) (db : Database)
    (backs : ∀ op ∈ db.operations.rows, op.state = .reserved → Backs db.tokens op) :
    settleBillingOperation now faults opId fingerprint settlement (shift.database db) =
      ((settleBillingOperation now faults opId fingerprint settlement db).1, shift.database
          (settleBillingOperation now faults opId fingerprint settlement db).2) := by
  simp only [settleBillingOperation]
  have ops : (shift.database db).operations = db.operations := rfl
  rw [ops]
  split
  · rfl
  · split
    · rfl
    · cases found : db.operations.find? opId with
      | none => rfl
      | some op =>
        simp only
        rw [settleLocked_shifted nonneg now faults fingerprint settlement op db
          (backs op (Table.mem_of_find? found))]
        cases settleLocked now faults fingerprint settlement op db with
        | error _ => rfl
        | ok _ =>
          simp only [Except.map]
          split
          · rfl
          · rfl

theorem refundLocked_shifted (faults : RefundFaults) (fingerprint : String) (op : BillingOperation)
    (db : Database) (backs : op.state = .reserved → Backs db.tokens op) :
    refundLocked faults fingerprint op (shift.database db) =
      (refundLocked faults fingerprint op db).map
        fun reply => (reply.1, shift.database reply.2) := by
  simp only [refundLocked]
  split
  · rfl
  · split
    · rfl
    next stillReserved =>
      have reserved : op.state = .reserved := by
        cases state : op.state with
        | reserved => rfl
        | settled => exact absurd (.inl state) stillReserved
        | refunded => exact absurd (.inr state) stillReserved
      have returns : returnReservation faults op (shift.database db).tokens =
          (returnReservation faults op db.tokens).map shift.tokens :=
        returnReservation_shifted nonneg faults op db.tokens (backs reserved)
      rw [returns]
      cases returnReservation faults op db.tokens with
      | error _ => rfl
      | ok _ =>
        simp only [database, Except.map, bind, Except.bind]
        cases leaveReserved faults.casOperation op fingerprint markRefunded
            (.message "billing operation refund compare-and-swap failed") db.operations with
        | error _ | ok _ => rfl

theorem refundBillingOperation_shifted (faults : RefundFaults) (opId : ℤ) (fingerprint : String)
    (db : Database) (backs : ∀ op ∈ db.operations.rows, op.state = .reserved → Backs db.tokens op) :
    refundBillingOperation faults opId fingerprint (shift.database db) =
      ((refundBillingOperation faults opId fingerprint db).1,
        shift.database (refundBillingOperation faults opId fingerprint db).2) := by
  simp only [refundBillingOperation]
  have ops : (shift.database db).operations = db.operations := rfl
  rw [ops]
  split
  · rfl
  · split
    · rfl
    · cases found : db.operations.find? opId with
      | none => rfl
      | some op =>
        simp only
        rw [refundLocked_shifted nonneg faults fingerprint op db
          (backs op (Table.mem_of_find? found))]
        cases refundLocked faults fingerprint op db with
        | error _ => rfl
        | ok _ =>
          simp only [Except.map]
          split
          · rfl
          · rfl

theorem next_shifted (db : Database) (action : BillingAction)
    (backs : ∀ op ∈ db.operations.rows, op.state = .reserved → Backs db.tokens op) :
    (shift.database db).next action = shift.database (db.next action) := by
  cases action with
  | reserve _ _ =>
    simp only [Database.next, reserveBillingOperation_shifted]
  | settle now faults opId fingerprint settlement =>
    simp only [Database.next, settleBillingOperation_shifted nonneg now faults opId
      fingerprint settlement db backs]
  | refund faults opId fingerprint =>
    simp only [Database.next,
      refundBillingOperation_shifted nonneg faults opId fingerprint db backs]

end UsageShift

end NewApi.Model
