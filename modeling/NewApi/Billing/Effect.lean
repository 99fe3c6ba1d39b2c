import NewApi.Library.Fallible
import NewApi.Library.Transition
import NewApi.Model.BillingOperation

/-!
# What a billing call can do to the database

Any number of sessions call the three transactions in any order, with any arguments and any
faults: that is the machine `Database.next`.
-/

namespace NewApi.Model

open Relational Fallible Table

/-- The transactions of billing. -/
inductive BillingAction where
  | reserve (faults : ReserveFaults) (req : BillingOperationReserveRequest)
  | settle (now : ℤ) (faults : SettleFaults) (opId : ℤ) (fingerprint : String)
      (settlement : BillingOperationSettlement)
  | refund (faults : RefundFaults) (opId : ℤ) (fingerprint : String)

def Database.next (db : Database) : BillingAction → Database
  | .reserve faults req => (reserveBillingOperation faults req db).2
  | .settle now faults opId fingerprint settlement =>
    (settleBillingOperation now faults opId fingerprint settlement db).2
  | .refund faults opId fingerprint =>
    (refundBillingOperation faults opId fingerprint db).2

/-! ## The single statements -/

variable {err : ModelError} {req : BillingOperationReserveRequest}
  {tokens charged : Table Token} {op : BillingOperation}
  {settlement : BillingOperationSettlement} {fingerprint : String}
  {live : BillingOperationLookupCandidate} {db committed : Database}

theorem updateOne_eq_ok {Row : Type} [Keyed Row ℤ] {table updated : Table Row} {key : ℤ}
    {guard : Row → Bool} {change : RowUpdate Row}
    (done : updateOne (table.updateWhere key guard change) err = .ok updated) :
    ∃ row, table.find? key = some row ∧ guard row = true ∧ updated = table.modify key change := by
  unfold updateOne at done
  rw [guard_eq_ok, not_not, Except.ok.injEq] at done
  rcases done with ⟨hits, rfl⟩
  exact updateWhere_affected hits

theorem updateOne_of_find? {Row : Type} [Keyed Row ℤ] {table : Table Row} {key : ℤ} {row : Row}
    {guard : Row → Bool} {change : RowUpdate Row} {err : ModelError}
    (found : table.find? key = some row) (holds : guard row = true) :
    updateOne (table.updateWhere key guard change) err = .ok (table.modify key change) := by
  simp [updateOne, updateWhere_of_find? found holds]

/-- A token was charged an amount: nothing, or an existing token that can cover it. -/
def TokenCharged (tokenId amount : ℤ) (tokens charged : Table Token) : Prop :=
  (amount = 0 ∧ charged = tokens) ∨
    ∃ token, tokens.find? tokenId = some token ∧
      (amount ≤ 0 ∨ token.unlimitedQuota = true ∨ amount ≤ token.remainQuota) ∧
      charged = tokens.modify tokenId (Token.consume amount)

theorem chargeReservation_charged {faults : ReserveFaults} (nonneg : 0 ≤ req.reservedQuota)
    (done : chargeReservation faults req tokens = .ok charged) :
    TokenCharged req.tokenId
      (if req.isPlayground then 0 else req.reservedQuota) tokens charged := by
  unfold chargeReservation at done
  split at done
  next charges =>
    simp only [Bool.and_eq_true, Bool.not_eq_true', decide_eq_true_eq] at charges
    rw [guard_eq_ok] at done
    rcases updateOne_eq_ok done.2 with ⟨token, found, covered, rfl⟩
    right
    simp only [Token.covers, Bool.or_eq_true, decide_eq_true_eq] at covered
    rw [if_neg (by simp [charges.1])]
    exact ⟨token, found, .inr covered, rfl⟩
  next free =>
    left
    simp only [Except.ok.injEq] at done
    simp only [Bool.and_eq_true, Bool.not_eq_true', decide_eq_true_eq, not_and] at free
    refine ⟨?_, done.symm⟩
    cases playground : req.isPlayground with
    | true => rfl
    | false =>
      have := free playground
      simp only [Bool.false_eq_true, if_false]
      omega

theorem adjustToken_charged {faults : SettleFaults}
    (done : adjustToken faults op settlement tokens = .ok charged) :
    TokenCharged op.tokenId
      (if op.isPlayground then 0 else settlement.actualQuota - op.reservedQuota)
      tokens charged := by
  unfold adjustToken at done
  simp only at done
  split at done
  next charges =>
    simp only [Bool.and_eq_true, Bool.not_eq_true', decide_eq_true_eq] at charges
    right
    rw [guard_eq_ok] at done
    rw [if_neg (by simp [charges.1])]
    rcases done with ⟨_, done⟩
    split at done
    next =>
      rcases updateOne_eq_ok done with ⟨token, found, covered, rfl⟩
      simp only [Token.covers, Bool.or_eq_true, decide_eq_true_eq] at covered
      exact ⟨token, found, .inr covered, rfl⟩
    next =>
      rcases updateOne_eq_ok done with ⟨token, found, _, rfl⟩
      exact ⟨token, found, .inl (by omega), rfl⟩
  next free =>
    left
    simp only [Except.ok.injEq] at done
    simp only [Bool.and_eq_true, Bool.not_eq_true', decide_eq_true_eq, not_and, ne_eq,
      not_not] at free
    refine ⟨?_, done.symm⟩
    cases playground : op.isPlayground with
    | true => rfl
    | false => simpa using free playground

theorem returnReservation_charged {faults : RefundFaults} (nonneg : 0 ≤ op.reservedQuota)
    (done : returnReservation faults op tokens = .ok charged) :
    TokenCharged op.tokenId (if op.isPlayground then 0 else -op.reservedQuota) tokens charged := by
  unfold returnReservation at done
  split at done
  next returns =>
    simp only [Bool.and_eq_true, Bool.not_eq_true', decide_eq_true_eq] at returns
    rw [guard_eq_ok] at done
    rcases updateOne_eq_ok done.2 with ⟨token, found, _, rfl⟩
    right
    rw [if_neg (by simp [returns.1])]
    exact ⟨token, found, .inl (by omega), rfl⟩
  next free =>
    left
    simp only [Except.ok.injEq] at done
    simp only [Bool.and_eq_true, Bool.not_eq_true', decide_eq_true_eq, not_and] at free
    refine ⟨?_, done.symm⟩
    cases playground : op.isPlayground with
    | true => rfl
    | false =>
      have := free playground
      simp only [Bool.false_eq_true, if_false]
      omega

theorem countUserUsage_counted {faults : SettleFaults} {users counted : Table User}
    (done : countUserUsage faults op settlement users = .ok counted) :
    (settlement.countUsage = false ∧ counted = users) ∨
      (settlement.countUsage = true ∧ ∃ user, users.find? op.userId = some user ∧
        counted = users.modify op.userId (User.countRequest settlement.actualQuota)) := by
  unfold countUserUsage at done
  split at done
  next counts =>
    rw [guard_eq_ok] at done
    rcases updateOne_eq_ok done.2 with ⟨user, found, _, rfl⟩
    exact .inr ⟨counts, user, found, rfl⟩
  next skips =>
    simp only [Except.ok.injEq] at done
    exact .inl ⟨by simpa using skips, done.symm⟩

theorem countChannelUsage_counted {faults : SettleFaults} {chans counted : Table Channel}
    (done : countChannelUsage faults op settlement chans = .ok counted) :
    ((settlement.countUsage = false ∨ settlement.actualQuota = 0) ∧ counted = chans) ∨
      (settlement.countUsage = true ∧ ∃ chan, chans.find? op.channelId = some chan ∧
          counted = chans.modify op.channelId (Channel.countUsage settlement.actualQuota)) := by
  unfold countChannelUsage at done
  split at done
  next counts =>
    rw [guard_eq_ok] at done
    rcases done with ⟨_, done⟩
    split at done
    next zero =>
      rw [guard_eq_ok, Except.ok.injEq] at done
      exact .inl ⟨.inr zero, done.2.symm⟩
    next =>
      rcases updateOne_eq_ok done with ⟨chan, found, _, rfl⟩
      exact .inr ⟨counts, chan, found, rfl⟩
  next skips =>
    simp only [Except.ok.injEq] at done
    exact .inl ⟨.inl (by simpa using skips), done.symm⟩

theorem leaveReserved_eq_ok {fails : Bool} {change : RowUpdate BillingOperation}
    {ops updated : Table BillingOperation}
    (done : leaveReserved fails op fingerprint change err ops =
      .ok updated) : updated = ops.modify op.id change := by
  unfold leaveReserved at done
  rw [guard_eq_ok] at done
  rcases updateOne_eq_ok done.2 with ⟨_, _, _, updatedEq⟩
  exact updatedEq

theorem createOutbox_eq_ok {faults : SettleFaults}
    {outboxes updated : Table BillingOperationLogOutbox}
    (done : createOutbox faults op settlement outboxes = .ok updated) :
    updated = outboxes.insert (newOutbox op settlement) (key_newOutbox op settlement) := by
  unfold createOutbox at done
  rw [guard_eq_ok, Except.ok.injEq] at done
  exact done.2.symm

theorem createOperation_eq_ok {faults : ReserveFaults} {updated : Table BillingOperation}
    (done : createOperation faults req live db = .ok updated) :
    db.businessKeyTaken (newBillingOperation req live db.operations.nextKey) = false ∧
      updated = db.operations.insert (newBillingOperation req live)
        (key_newBillingOperation req live) := by
  unfold createOperation at done
  rw [guard_eq_ok, Except.ok.injEq] at done
  simp only [Bool.or_eq_true, not_or, Bool.not_eq_true] at done
  exact ⟨done.1.2, done.2.symm⟩

theorem reserveExisting_eq_ok {faults : ReserveFaults} {old : BillingOperation}
    (done : reserveExisting faults req live old db = .ok (op, committed)) :
    old.state ≠ .refunded ∧
      ((op = old ∧ committed = db) ∨
        (op = live.adopt.apply old ∧
          committed = { db with operations := db.operations.modify old.id live.adopt })) := by
  unfold reserveExisting at done
  rw [guard_eq_ok, guard_eq_ok] at done
  rcases done with ⟨_, unpaid, done⟩
  refine ⟨unpaid, ?_⟩
  split at done
  next =>
    simp only [Except.ok.injEq, Prod.mk.injEq] at done
    exact .inl ⟨done.1.symm, done.2.symm⟩
  next =>
    rw [guard_eq_ok] at done
    rcases done with ⟨_, done⟩
    split at done
    next => simp at done
    next updated =>
      rcases updateOne_eq_ok updated with ⟨_, _, _, rfl⟩
      simp only [Except.ok.injEq, Prod.mk.injEq] at done
      exact .inr ⟨done.1.symm, done.2.symm⟩

theorem reserveNew_eq_ok {faults : ReserveFaults} (nonneg : 0 ≤ req.reservedQuota)
    (done : reserveNew faults req live db = .ok (op, committed)) :
    op = newBillingOperation req live db.operations.nextKey ∧
      db.businessKeyTaken (newBillingOperation req live db.operations.nextKey) = false ∧
      ∃ tokens, TokenCharged req.tokenId
        (if req.isPlayground then 0 else req.reservedQuota) db.tokens tokens ∧
        committed =
          { db with
            tokens := tokens
            operations := db.operations.insert (newBillingOperation req live)
              (key_newBillingOperation req live) } := by
  unfold reserveNew at done
  rw [bind_eq_ok] at done
  rcases done with ⟨tokens, charges, done⟩
  rw [bind_eq_ok] at done
  rcases done with ⟨_, creates, done⟩
  rcases createOperation_eq_ok creates with ⟨free, rfl⟩
  simp only [pure, Except.pure, Except.ok.injEq, Prod.mk.injEq] at done
  exact ⟨done.1.symm, free, tokens, chargeReservation_charged nonneg charges, done.2.symm⟩

/-! ## The effect of a call -/

/-- What a transaction can do to the database. -/
inductive Effect (db : Database) : Database → Prop where
  | idle : Effect db db
  | migrate (old : BillingOperation) (live : BillingOperationLookupCandidate)
      (found : db.operations.find? old.id = some old) :
      Effect db { db with operations := db.operations.modify old.id live.adopt }
  | reserve (req : BillingOperationReserveRequest)
      (live : BillingOperationLookupCandidate) (tokens : Table Token)
      (nonneg : 0 ≤ req.reservedQuota)
      (charged : TokenCharged req.tokenId
        (if req.isPlayground then 0 else req.reservedQuota) db.tokens tokens) :
      Effect db
        { db with
          tokens := tokens
          operations := db.operations.insert (newBillingOperation req live)
            (key_newBillingOperation req live) }
  | settle (op : BillingOperation) (settlement : BillingOperationSettlement)
      (tokens : Table Token) (users : Table User) (chans : Table Channel)
      (outcomes : Table ManagedContextOutcome)
      (found : db.operations.find? op.id = some op)
      (reserved : op.state = .reserved)
      (charged : TokenCharged op.tokenId (if op.isPlayground then 0
          else settlement.actualQuota - op.reservedQuota) db.tokens tokens)
      (userCounted : (settlement.countUsage = false ∧ users = db.users) ∨
        (settlement.countUsage = true ∧ ∃ user, db.users.find? op.userId = some user ∧
          users = db.users.modify op.userId (User.countRequest settlement.actualQuota)))
      (channelCounted :
        ((settlement.countUsage = false ∨ settlement.actualQuota = 0) ∧
          chans = db.channels) ∨
        (settlement.countUsage = true ∧
          ∃ chan, db.channels.find? op.channelId = some chan ∧
            chans = db.channels.modify op.channelId (Channel.countUsage settlement.actualQuota))) :
      Effect db
        { tokens := tokens
          users := users
          channels := chans
          operations := db.operations.modify op.id settlement.freeze
          outboxes := db.outboxes.insert (newOutbox op settlement) (key_newOutbox op settlement)
          outcomes := outcomes }
  | refund (op : BillingOperation) (tokens : Table Token)
      (found : db.operations.find? op.id = some op)
      (reserved : op.state = .reserved)
      (charged : 0 ≤ op.reservedQuota → TokenCharged op.tokenId
        (if op.isPlayground then 0 else -op.reservedQuota) db.tokens tokens) :
      Effect db
        { db with
          tokens := tokens
          operations := db.operations.modify op.id markRefunded }

theorem findBillingOperation_selected {ident : BillingOperationIdentity}
    (found : findBillingOperation db ident = .ok op) :
    op ∈ db.operations.rows.filter ident.selects := by
  unfold findBillingOperation at found
  split at found
  next => simp at found
  next rowsEq =>
    rw [guard_eq_ok] at found
    rcases found with ⟨_, found⟩
    split at found
    next =>
      apply List.mem_of_mem_take (i := 2)
      rw [rowsEq]
      simp only [Except.ok.injEq] at found
      simp [found]
    next => simp at found
  next => simp at found

theorem findBillingOperation_stored {ident : BillingOperationIdentity}
    (found : findBillingOperation db ident = .ok op) :
    db.operations.find? op.id = some op :=
  find?_of_mem (List.mem_of_mem_filter (findBillingOperation_selected found))

theorem reserveTransaction_eq_ok {faults : ReserveFaults} (nonneg : 0 ≤ req.reservedQuota)
    (done : reserveTransaction faults req live db = .ok (op, committed)) :
    committed = db ∨
      (∃ old, db.operations.find? old.id = some old ∧
        committed = { db with operations := db.operations.modify old.id live.adopt }) ∨
      ∃ tokens, TokenCharged req.tokenId
        (if req.isPlayground then 0 else req.reservedQuota) db.tokens tokens ∧
        committed =
          { db with
            tokens := tokens
            operations := db.operations.insert (newBillingOperation req live)
              (key_newBillingOperation req live) } := by
  unfold reserveTransaction at done
  rw [guard_eq_ok] at done
  rcases done with ⟨_, done⟩
  split at done
  next old found =>
    rcases reserveExisting_eq_ok done with ⟨_, ⟨_, rfl⟩ | ⟨_, rfl⟩⟩
    · exact .inl rfl
    · exact .inr (.inl ⟨old, findBillingOperation_stored found, rfl⟩)
  next =>
    rcases reserveNew_eq_ok nonneg done with ⟨_, _, tokens, charged, rfl⟩
    exact .inr (.inr ⟨tokens, charged, rfl⟩)
  next => simp at done

theorem settleLocked_eq_ok {now : ℤ} {faults : SettleFaults} {filled : BillingOperation}
    {settledNow : Bool}
    (done : settleLocked now faults fingerprint settlement op db =
      .ok (filled, settledNow, committed)) :
    (op.state = .settled ∧ filled = op ∧ committed = db) ∨
      (op.state = .reserved ∧ filled = settlement.freeze.apply op ∧
        ∃ tokens users chans outcomes, adjustToken faults op settlement db.tokens = .ok tokens ∧
          countUserUsage faults op settlement db.users = .ok users ∧
          countChannelUsage faults op settlement db.channels = .ok chans ∧
          committed =
            { tokens := tokens
              users := users
              channels := chans
              operations := db.operations.modify op.id settlement.freeze
              outboxes := db.outboxes.insert (newOutbox op settlement) (key_newOutbox op settlement)
              outcomes := outcomes }) := by
  unfold settleLocked at done
  rw [guard_eq_ok] at done
  rcases done with ⟨_, done⟩
  split at done
  next isSettled =>
    simp only [Except.ok.injEq, Prod.mk.injEq] at done
    exact .inl ⟨isSettled, done.1.symm, done.2.2.symm⟩
  next notSettled =>
    rw [guard_eq_ok, guard_eq_ok, guard_eq_ok] at done
    rcases done with ⟨unpaid, _, _, done⟩
    have reserved : op.state = .reserved := by
      cases stateEq : op.state with
      | reserved => rfl
      | settled => exact absurd stateEq notSettled
      | refunded => exact absurd stateEq unpaid
    simp only [bind_eq_ok, pure, Except.pure, Except.ok.injEq, Prod.mk.injEq] at done
    rcases done with ⟨tokens, charges, users, countsUser, chans, counts,
      _, leaves, _, creates, outcomes, _, filledEq, _, rfl⟩
    rw [leaveReserved_eq_ok leaves, createOutbox_eq_ok creates]
    exact .inr ⟨reserved, filledEq.symm, tokens, users, chans, outcomes, charges, countsUser,
      counts, rfl⟩

theorem settleLocked_accepted {now : ℤ} {faults : SettleFaults}
    {reply : BillingOperation × Bool × Database}
    (done : settleLocked now faults fingerprint settlement op db = .ok reply)
    (reserved : op.state = .reserved) : settlement.accepted op = true := by
  unfold settleLocked at done
  rw [guard_eq_ok, if_neg (by simp [reserved]), guard_eq_ok, guard_eq_ok] at done
  simpa using done.2.2.1

theorem refundLocked_eq_ok {faults : RefundFaults} {filled : BillingOperation}
    (done : refundLocked faults fingerprint op db = .ok (filled, committed)) :
    (op.state ≠ .reserved ∧ filled = op ∧ committed = db) ∨
      (op.state = .reserved ∧ filled = markRefunded.apply op ∧
        ∃ tokens, returnReservation faults op db.tokens = .ok tokens ∧
          committed =
            { db with
              tokens := tokens
              operations := db.operations.modify op.id markRefunded }) := by
  unfold refundLocked at done
  rw [guard_eq_ok] at done
  rcases done with ⟨_, done⟩
  split at done
  next closed =>
    simp only [Except.ok.injEq, Prod.mk.injEq] at done
    refine .inl ⟨?_, done.1.symm, done.2.symm⟩
    rcases closed with isSettled | isRefunded
    · simp [isSettled]
    · simp [isRefunded]
  next stillReserved =>
    have reserved : op.state = .reserved := by
      cases stateEq : op.state with
      | reserved => rfl
      | settled => exact absurd (.inl stateEq) stillReserved
      | refunded => exact absurd (.inr stateEq) stillReserved
    simp only [bind_eq_ok, pure, Except.pure, Except.ok.injEq, Prod.mk.injEq] at done
    rcases done with ⟨tokens, returns, _, leaves, filledEq, rfl⟩
    rw [leaveReserved_eq_ok leaves]
    exact .inr ⟨reserved, filledEq.symm, tokens, returns, rfl⟩

theorem reservedQuota_nonneg (valid : ¬req.invalid = true) : 0 ≤ req.reservedQuota := by
  simp only [BillingOperationReserveRequest.invalid, Bool.or_eq_true, decide_eq_true_eq,
    not_or] at valid
  omega

/-- What each call can do to the tables, with the statements that have succeeded. -/
inductive Bills (db : Database) : BillingAction → Database → Prop where
  | idle (action : BillingAction) : Bills db action db
  | migrate (faults : ReserveFaults) (req : BillingOperationReserveRequest)
      (old : BillingOperation) (live : BillingOperationLookupCandidate)
      (found : db.operations.find? old.id = some old) :
      Bills db (.reserve faults req)
        { db with operations := db.operations.modify old.id live.adopt }
  | reserve (faults : ReserveFaults) (req : BillingOperationReserveRequest)
      (live : BillingOperationLookupCandidate) (tokens : Table Token)
      (identified : validateBillingOperationIdentity req.identity = .ok ())
      (nonneg : 0 ≤ req.reservedQuota)
      (charged : TokenCharged req.tokenId
        (if req.isPlayground then 0 else req.reservedQuota) db.tokens tokens) :
      Bills db (.reserve faults req)
        { db with
          tokens := tokens
          operations := db.operations.insert (newBillingOperation req live)
            (key_newBillingOperation req live) }
  | settle (now : ℤ) (faults : SettleFaults) (fingerprint : String)
      (op : BillingOperation) (settlement : BillingOperationSettlement)
      (tokens : Table Token) (users : Table User) (chans : Table Channel)
      (outcomes : Table ManagedContextOutcome)
      (found : db.operations.find? op.id = some op)
      (reserved : op.state = .reserved)
      (accepted : settlement.accepted op = true)
      (charges : adjustToken faults op settlement db.tokens = .ok tokens)
      (countsUser : countUserUsage faults op settlement db.users = .ok users)
      (countsChannel : countChannelUsage faults op settlement db.channels = .ok chans) :
      Bills db (.settle now faults op.id fingerprint settlement)
        { tokens := tokens
          users := users
          channels := chans
          operations := db.operations.modify op.id settlement.freeze
          outboxes := db.outboxes.insert (newOutbox op settlement) (key_newOutbox op settlement)
          outcomes := outcomes }
  | refund (faults : RefundFaults) (fingerprint : String) (op : BillingOperation)
      (tokens : Table Token)
      (found : db.operations.find? op.id = some op)
      (reserved : op.state = .reserved)
      (returns : returnReservation faults op db.tokens = .ok tokens) :
      Bills db (.refund faults op.id fingerprint)
        { db with
          tokens := tokens
          operations := db.operations.modify op.id markRefunded }

/-- What a transaction of billing does to the database. -/
theorem Database.next_bills (db : Database) (action : BillingAction) :
    Bills db action (db.next action) := by
  cases action with
  | reserve faults req =>
    simp only [Database.next, reserveBillingOperation]
    split
    next => exact Bills.idle _
    next identified =>
      split
      next => exact Bills.idle _
      next valid =>
        have nonneg := reservedQuota_nonneg valid
        split
        next => exact Bills.idle _
        next live _ _ =>
          split
          next done =>
            split
            next => exact Bills.idle _
            next =>
              rcases reserveTransaction_eq_ok nonneg done with
                rfl | ⟨old, found, rfl⟩ | ⟨tokens, charged, rfl⟩
              · exact Bills.idle _
              · exact Bills.migrate faults req old live found
              · exact Bills.reserve faults req live tokens identified nonneg charged
          next => exact Bills.idle _
  | settle now faults opId fingerprint settlement =>
    simp only [Database.next, settleBillingOperation]
    split
    next => exact Bills.idle _
    next =>
      split
      next => exact Bills.idle _
      next =>
        split
        next => exact Bills.idle _
        next op found =>
          have keyEq : op.id = opId := key_of_find? found
          subst keyEq
          split
          next => exact Bills.idle _
          next done =>
            split
            next => exact Bills.idle _
            next =>
              rcases settleLocked_eq_ok done with ⟨_, _, rfl⟩ |
                ⟨reserved, _, tokens, users, chans, outcomes, charges, countsUser, counts, rfl⟩
              · exact Bills.idle _
              · exact Bills.settle now faults fingerprint op settlement tokens users
                  chans outcomes found reserved (settleLocked_accepted done reserved) charges
                  countsUser counts
  | refund faults opId fingerprint =>
    simp only [Database.next, refundBillingOperation]
    split
    next => exact Bills.idle _
    next =>
      split
      next => exact Bills.idle _
      next =>
        split
        next => exact Bills.idle _
        next op found =>
          have keyEq : op.id = opId := key_of_find? found
          subst keyEq
          split
          next => exact Bills.idle _
          next done =>
            split
            next => exact Bills.idle _
            next =>
              rcases refundLocked_eq_ok done with ⟨_, _, rfl⟩ | ⟨reserved, _, tokens, returns, rfl⟩
              · exact Bills.idle _
              · exact Bills.refund faults fingerprint op tokens found reserved returns

theorem Database.next_effect (db : Database) (action : BillingAction) :
    Effect db (db.next action) := by
  have bills := db.next_bills action
  generalize db.next action = after at bills ⊢
  cases bills with
  | idle => exact Effect.idle
  | migrate _ _ old live found => exact Effect.migrate old live found
  | reserve _ req live tokens _ nonneg charged =>
    exact Effect.reserve req live tokens nonneg charged
  | settle now faults fingerprint op settlement tokens users chans outcomes found
      reserved accepted charges countsUser counts =>
      exact Effect.settle op settlement tokens users chans outcomes found reserved
        (adjustToken_charged charges) (countUserUsage_counted countsUser)
        (countChannelUsage_counted counts)
  | refund _ _ op tokens found reserved returns =>
    exact Effect.refund op tokens found reserved
      (fun nonneg => returnReservation_charged nonneg returns)

/-! ## A concrete database

One token, one user and one channel, and the calls that reserve and settle one request. -/

def sampleDatabase : Database where
  tokens := ⟨[⟨7, 100, 0, false⟩], by simp⟩
  users := ⟨[⟨3, 0, 0⟩], by simp⟩
  channels := ⟨[⟨5, 0⟩], by simp⟩
  operations := empty
  outboxes := empty
  outcomes := empty

def sampleRequest : BillingOperationReserveRequest where
  identity := ⟨[⟨"lookup", "owner", "conversation", "v1"⟩], 1, "main", "fingerprint"⟩
  userId := 3
  tokenId := 7
  channelId := 5
  reservedQuota := 30
  isPlayground := false
  pricingSnapshot := "x"

def sampleSettlement : BillingOperationSettlement where
  actualQuota := 40
  promptTokens := 6
  completionTokens := 4
  totalTokens := 10
  billingMode := "fixed"
  countUsage := true
  logUserId := 3
  logParams := ⟨5, 6, 4, "model", "token", 40, "", 7, 1, false, "default", "", none⟩
  outcomeCheckpoint := none

def sampleActions : List BillingAction :=
  [.reserve {} sampleRequest, .settle 0 {} 1 "fingerprint" sampleSettlement,
    .settle 0 {} 1 "fingerprint" sampleSettlement, .refund {} 1 "fingerprint"]

end NewApi.Model
