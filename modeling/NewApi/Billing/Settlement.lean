import NewApi.Billing.Effect
import NewApi.Library.Postings
import Mathlib.Algebra.Group.Prod

/-!
# Settlement happens once on every ledger

A settlement leaves the reserved state, writes one outbox row and moves the counters of the user
and of the channel, all in one transaction.
-/

namespace NewApi.Model

open Relational Tally Transition

def BillingOperation.counted (op : BillingOperation) : Bool :=
  op.state = .settled && op.countUsage

/-- The quota of the counted operations of a user. -/
def Database.userQuota (db : Database) (userId : ℤ) : ℤ :=
  db.operations.total fun op =>
    if op.userId = userId ∧ op.counted = true then op.actualQuota else 0

/-- The number of the counted operations of a user. -/
def Database.userRequests (db : Database) (userId : ℤ) : ℤ :=
  db.operations.total fun op =>
    if op.userId = userId ∧ op.counted = true then 1 else 0

def Database.channelQuota (db : Database) (channelId : ℤ) : ℤ :=
  db.operations.total fun op =>
    if op.channelId = channelId ∧ op.counted = true then op.actualQuota
    else 0

def outboxCount (outboxes : Table BillingOperationLogOutbox) (opId : ℤ) : ℕ :=
  outboxes.rows.countP fun box => box.billingOperationId = opId

/-- The columns that are frozen once an operation has left the reserved state. -/
def BillingOperation.frozenColumns (op : BillingOperation) :
    BillingOperationState × ℤ × ℤ × ℤ × ℤ × String × Bool :=
  (op.state, op.actualQuota, op.promptTokens, op.completionTokens,
    op.totalTokens, op.billingMode, op.countUsage)

/-! ## Failed calls -/

theorem settleBillingOperation_error (now : ℤ) (faults : SettleFaults) (opId : ℤ)
    (fingerprint : String) (settlement : BillingOperationSettlement) (db : Database)
    (fails : (settleBillingOperation now faults opId fingerprint settlement db).1.error ≠ none) :
    (settleBillingOperation now faults opId fingerprint settlement db).2 = db := by
  revert fails
  simp only [settleBillingOperation]
  repeat' split
  all_goals simp

theorem refundBillingOperation_error (faults : RefundFaults) (opId : ℤ) (fingerprint : String)
    (db : Database) (fails : (refundBillingOperation faults opId fingerprint db).1.error ≠ none) :
    (refundBillingOperation faults opId fingerprint db).2 = db := by
  revert fails
  simp only [refundBillingOperation]
  repeat' split
  all_goals simp

/-! ## Closed operations stay as they are -/

variable {ops : Table BillingOperation} {op : BillingOperation} {db after : Database} {key : ℤ}

theorem find?_modify_closed {moved : BillingOperation} (change : RowUpdate BillingOperation)
    (foundChanged : ops.find? moved.id = some moved) (held : moved.state = .reserved)
    (found : ops.find? op.id = some op) (closed : op.state ≠ .reserved) :
    (ops.modify moved.id change).find? op.id = some op := by
  have apart : op.id ≠ moved.id := by
    intro same
    rw [same, foundChanged, Option.some.injEq] at found
    exact closed (found ▸ held)
  rw [Table.find?_modify_ne ops apart]
  exact found

theorem Effect.closed_kept (effect : Effect db after) (found : db.operations.find? op.id = some op)
    (closed : op.state ≠ .reserved) :
    ∃ kept, after.operations.find? op.id = some kept ∧ kept.frozenColumns = op.frozenColumns := by
  cases effect with
  | idle => exact ⟨op, found, rfl⟩
  | migrate existing live _ =>
    by_cases same : op.id = existing.id
    · refine ⟨live.adopt.apply op, ?_, rfl⟩
      rw [← same, Table.find?_modify_self, found]
      rfl
    · refine ⟨op, ?_, rfl⟩
      rw [Table.find?_modify_ne _ same]
      exact found
  | reserve req live _ _ _ =>
    exact ⟨op, Table.find?_insert_old (key_newBillingOperation req live) found, rfl⟩
  | settle _ _ _ _ _ _ foundChanged held =>
    exact ⟨op, find?_modify_closed _ foundChanged held found closed, rfl⟩
  | refund _ _ foundChanged held =>
    exact ⟨op, find?_modify_closed _ foundChanged held found closed, rfl⟩

theorem closed_along_run {later : Database} (run : Reachable Database.next Unrestricted db later)
    (stored : op ∈ db.operations.rows) (closed : op.state ≠ .reserved) :
    ∃ kept, later.operations.find? op.id = some kept ∧ kept.frozenColumns = op.frozenColumns := by
  refine run.invariant (fun s => ∃ kept, s.operations.find? op.id = some kept ∧
      kept.frozenColumns = op.frozenColumns) ?_
    ⟨op, Table.find?_of_mem stored, rfl⟩
  rintro s action - ⟨kept, found, columnsEq⟩
  have keyEq : kept.id = op.id := Table.key_of_find? found
  have stateEq : kept.state = op.state := congrArg Prod.fst columnsEq
  have keptClosed : kept.state ≠ .reserved := by
    rw [stateEq]
    exact closed
  rw [← keyEq] at found ⊢
  rcases (s.next_effect action).closed_kept found keptClosed with ⟨after, foundAfter, afterEq⟩
  exact ⟨after, foundAfter, afterEq.trans columnsEq⟩

/-! ## One outbox row for each settled operation -/

/-- Every outbox row belongs to an operation, and exactly the settled operations have one. -/
structure OutboxInvariant (db : Database) : Prop where
  owned : ∀ box ∈ db.outboxes.rows, ∃ op ∈ db.operations.rows, op.id = box.billingOperationId
  counted : ∀ op ∈ db.operations.rows,
    outboxCount db.outboxes op.id = if op.state = .settled then 1 else 0

theorem outboxCount_insert {outboxes : Table BillingOperationLogOutbox}
    {settlement : BillingOperationSettlement} (opId : ℤ) :
    outboxCount (outboxes.insert (newOutbox op settlement) (key_newOutbox op settlement)) opId =
      outboxCount outboxes opId + if op.id = opId then 1 else 0 := by
  simp [Table.insert, outboxCount, newOutbox, List.countP_append, List.countP_singleton]

theorem exists_key_modify {opId : ℤ} {change : RowUpdate BillingOperation}
    (owner : ∃ op ∈ ops.rows, op.id = opId) :
    ∃ op ∈ (ops.modify key change).rows, op.id = opId := by
  rcases owner with ⟨op, stored, rfl⟩
  by_cases same : op.id = key
  · refine ⟨change.apply op, Table.mem_modify.mpr (.inl ⟨op, stored, same, rfl⟩),
      change.key_apply op⟩
  · exact ⟨op, Table.mem_modify.mpr (.inr ⟨stored, same⟩), rfl⟩

theorem outboxCounted_modify {outboxes : Table BillingOperationLogOutbox}
    {change : RowUpdate BillingOperation}
    (sameSettled : ∀ op ∈ ops.rows, op.id = key →
      ((change.apply op).state = .settled ↔ op.state = .settled))
    (counted : ∀ op ∈ ops.rows, outboxCount outboxes op.id = if op.state = .settled then 1 else 0) :
    ∀ op ∈ (ops.modify key change).rows,
      outboxCount outboxes op.id = if op.state = .settled then 1 else 0 := by
  intro op stored
  rcases Table.mem_modify.mp stored with ⟨old, prior, keyEq, rfl⟩ | ⟨prior, _⟩
  · have idEq : (change.apply old).id = old.id := change.key_apply old
    rw [idEq, counted old prior]
    simp only [sameSettled old prior keyEq]
  · exact counted op prior

theorem Effect.outboxInvariant (effect : Effect db after)
    (holds : OutboxInvariant db) : OutboxInvariant after := by
  rcases holds with ⟨owned, counted⟩
  cases effect with
  | idle => exact ⟨owned, counted⟩
  | migrate _ _ _ =>
    refine ⟨fun box stored => exists_key_modify (owned box stored), ?_⟩
    exact outboxCounted_modify (fun _ _ _ => Iff.rfl) counted
  | reserve _ _ _ _ _ =>
    refine ⟨?_, ?_⟩
    · intro box stored
      rcases owned box stored with ⟨op, operationStored, idEq⟩
      exact ⟨op, by simp [Table.mem_insert, operationStored], idEq⟩
    · intro op stored
      simp only [Table.mem_insert] at stored
      rcases stored with prior | rfl
      · exact counted op prior
      · -- The new key is above every stored one, so no outbox row can carry it.
        have unowned : outboxCount db.outboxes db.operations.nextKey = 0 := by
          simp only [outboxCount, List.countP_eq_zero, decide_eq_true_eq]
          intro box outboxStored _
          rcases owned box outboxStored with ⟨op, operationStored, _⟩
          have below := Table.key_lt_nextKey operationStored
          have keyEq : Keyed.key op = op.id := rfl
          omega
        simpa [newBillingOperation] using unowned
  | settle moved _ _ _ _ _ found held =>
    have changedStored := Table.mem_of_find? found
    refine ⟨?_, ?_⟩
    · intro box stored
      simp only [Table.mem_insert] at stored
      rcases stored with prior | rfl
      · exact exists_key_modify (owned box prior)
      · exact exists_key_modify ⟨moved, changedStored, rfl⟩
    · intro op stored
      rw [outboxCount_insert]
      rcases Table.mem_modify.mp stored with ⟨old, prior, keyEq, rfl⟩ | ⟨prior, keyNe⟩
      · have oldEq : old = moved := Table.eq_of_find? found prior keyEq
        subst oldEq
        have past := counted old prior
        simp only [held, reduceCtorEq, if_false] at past
        simp [BillingOperationSettlement.freeze, past]
      · have apart : moved.id ≠ op.id := fun same => keyNe same.symm
        rw [counted op prior]
        simp [apart]
  | refund moved _ found held =>
    refine ⟨fun box stored => exists_key_modify (owned box stored), ?_⟩
    refine outboxCounted_modify ?_ counted
    intro op stored keyEq
    have foundOperation := Table.find?_of_mem stored
    have keyEq : Keyed.key op = moved.id := keyEq
    rw [keyEq, found, Option.some.injEq] at foundOperation
    rw [← foundOperation, held]
    simp [markRefunded]

/-! ## The usage counters -/

/-- Counted operations post their usage to the account that a column selects. -/
def usagePostings {Row Amount : Type} [Zero Amount] (column : Row → Amount)
    (account : BillingOperation → ℤ) (usage : BillingOperation → Amount) :
    Postings Row BillingOperation ℤ Amount where
  column := column
  account := account
  quantity op := if op.counted then usage op else 0

def userPostings : Postings User BillingOperation ℤ (ℤ × ℤ) :=
  usagePostings (fun user => (user.usedQuota, user.requestCount)) BillingOperation.userId
    fun op => (op.actualQuota, 1)

def channelPostings : Postings Channel BillingOperation ℤ ℤ :=
  usagePostings Channel.usedQuota BillingOperation.channelId BillingOperation.actualQuota

section Usage

variable {Row Amount : Type} [AddCommGroup Amount] {column : Row → Amount}
  {account : BillingOperation → ℤ} {usage : BillingOperation → Amount}
  {ops : Table BillingOperation}

theorem posted_usage_reserve (req : BillingOperationReserveRequest)
    (live : BillingOperationLookupCandidate) (key : ℤ) :
    (usagePostings column account usage).posted (ops.insert (newBillingOperation req live)
          (key_newBillingOperation req live)) key =
      (usagePostings column account usage).posted ops key := by
  rw [Postings.posted_insert]
  simp [usagePostings, BillingOperation.counted, newBillingOperation]

theorem posted_usage_leave {op : BillingOperation} {change : RowUpdate BillingOperation}
    (found : ops.find? op.id = some op) (held : op.state = .reserved)
    (same : account (change.apply op) = account op) (key : ℤ) :
    (usagePostings column account usage).posted (ops.modify op.id change) key =
      (usagePostings column account usage).posted ops key +
        if key = account op then
          if (change.apply op).counted then usage (change.apply op) else 0
        else 0 := by
  rw [Postings.posted_modify found change same]
  have uncounted : op.counted = false := by
    simp [BillingOperation.counted, held]
  simp [usagePostings, uncounted]

theorem posted_usage_migrate {existing : BillingOperation}
    {live : BillingOperationLookupCandidate} (found : ops.find? existing.id = some existing)
    (same : account (live.adopt.apply existing) = account existing)
    (sameUsage : usage (live.adopt.apply existing) = usage existing) (key : ℤ) :
    (usagePostings column account usage).posted (ops.modify existing.id live.adopt) key =
      (usagePostings column account usage).posted ops key := by
  rw [Postings.posted_modify found live.adopt same]
  have sameCounted : (live.adopt.apply existing).counted = existing.counted := rfl
  simp [usagePostings, sameCounted, sameUsage]

theorem posted_usage_refund {op : BillingOperation} (found : ops.find? op.id = some op)
    (held : op.state = .reserved)
    (same : account (markRefunded.apply op) = account op) (key : ℤ) :
    (usagePostings column account usage).posted (ops.modify op.id markRefunded) key =
      (usagePostings column account usage).posted ops key := by
  rw [posted_usage_leave found held same]
  simp [BillingOperation.counted, markRefunded]

end Usage

def Unbounded {Amount : Type} (_ : ℤ) (_ _ : Amount) : Prop :=
  True

theorem counted_freeze {settlement : BillingOperationSettlement} :
    (settlement.freeze.apply op).counted = settlement.countUsage := by
  simp [BillingOperation.counted, BillingOperationSettlement.freeze]

theorem usage_idle {Row Amount : Type} [Keyed Row ℤ] [AddCommGroup Amount]
    {postings : Postings Row BillingOperation ℤ Amount} {rows : Table Row}
    {updated : Table BillingOperation}
    (samePosted : ∀ key, postings.posted updated key = postings.posted ops key) :
    Move Unbounded (postings.book rows ops) (postings.book rows updated) := by
  rw [Postings.book_congr samePosted]
  exact Move.idle _

theorem usage_post {Row Amount : Type} [Keyed Row ℤ] [AddCommGroup Amount]
    {postings : Postings Row BillingOperation ℤ Amount} {rows : Table Row} {row : Row}
    {updated : Table BillingOperation} {change : RowUpdate Row}
    {amount : Amount} (found : rows.find? key = some row)
    (adds : ∀ row, postings.column (change.apply row) = postings.column row + amount)
    (posts : ∀ other, postings.posted updated other =
      postings.posted ops other + if other = key then amount else 0) :
    Move Unbounded (postings.book rows ops) (postings.book (rows.modify key change) updated) := by
  have balanceEq : (postings.book rows ops).balance key = some (postings.column row) := by
    simp [Postings.book, found]
  exact Move.of_eq_post balanceEq trivial (Postings.book_modify adds posts)

theorem Effect.userMove (effect : Effect db after) :
    Move Unbounded (userPostings.book db.users db.operations)
      (userPostings.book after.users after.operations) := by
  cases effect with
  | idle => exact Move.idle _
  | migrate _ _ found =>
    exact usage_idle (posted_usage_migrate found (by rfl) (by rfl))
  | reserve req live _ _ _ =>
    exact usage_idle (posted_usage_reserve req live)
  | settle op settlement _ _ _ _ found held _ userCounted _ =>
      have posts : ∀ other, userPostings.posted
          (db.operations.modify op.id settlement.freeze) other =
          userPostings.posted db.operations other + if other = op.userId then
            if settlement.countUsage then (settlement.actualQuota, 1) else 0 else 0 := by
        intro _
        rw [userPostings, posted_usage_leave found held (by rfl), counted_freeze]
        rfl
      rcases userCounted with ⟨skips, rfl⟩ | ⟨counts, _, foundUser, rfl⟩
      · refine usage_idle ?_
        intro _
        simp [posts, skips]
      · simp only [counts, if_true] at posts
        exact usage_post foundUser (fun _ => rfl) posts
  | refund _ _ found held =>
    exact usage_idle (posted_usage_refund found held (by rfl))

theorem Effect.channelMove (effect : Effect db after) :
    Move Unbounded (channelPostings.book db.channels db.operations)
      (channelPostings.book after.channels after.operations) := by
  cases effect with
  | idle => exact Move.idle _
  | migrate _ _ found =>
    exact usage_idle (posted_usage_migrate found (by rfl) (by rfl))
  | reserve req live _ _ _ =>
    exact usage_idle (posted_usage_reserve req live)
  | settle op settlement _ _ _ _ found held _ _ channelCounted =>
      have posts : ∀ other, channelPostings.posted
          (db.operations.modify op.id settlement.freeze) other =
          channelPostings.posted db.operations other + if other = op.channelId then
            if settlement.countUsage then settlement.actualQuota else 0 else 0 := by
        intro _
        rw [channelPostings, posted_usage_leave found held (by rfl), counted_freeze]
        rfl
      rcases channelCounted with ⟨free, rfl⟩ | ⟨counts, _, foundChannel, rfl⟩
      · refine usage_idle ?_
        intro _
        rcases free with skips | zero
        · simp [posts, skips]
        · simp [posts, zero]
      · simp only [counts, if_true] at posts
        exact usage_post foundChannel (fun _ => rfl) posts
  | refund _ _ found held =>
    exact usage_idle (posted_usage_refund found held (by rfl))

theorem posted_userPostings (db : Database) (userId : ℤ) :
    userPostings.posted db.operations userId = (db.userQuota userId, db.userRequests userId) := by
  have splitPair : ∀ op : BillingOperation, (if op.userId = userId then
        if op.counted then (op.actualQuota, (1 : ℤ)) else 0 else 0) =
      (if op.userId = userId ∧ op.counted = true then op.actualQuota else 0,
        if op.userId = userId ∧ op.counted = true then 1 else 0) := by
    intro op
    by_cases chosen : op.userId = userId
    · cases op.counted with
      | true => simp [chosen]
      | false => simp [Prod.zero_eq_mk]
    · simp [chosen, Prod.zero_eq_mk]
  simp only [Postings.posted, userPostings, usagePostings, Database.userQuota,
    Database.userRequests, Table.total, splitPair]
  refine Prod.ext ?_ ?_
  · rw [← AddMonoidHom.coe_fst, map_list_sum, List.map_map]
    rfl
  · rw [← AddMonoidHom.coe_snd, map_list_sum, List.map_map]
    rfl

theorem posted_channelPostings (db : Database) (channelId : ℤ) :
    channelPostings.posted db.operations channelId = db.channelQuota channelId := by
  unfold Postings.posted Database.channelQuota Table.total
  congr 2
  funext op
  simp only [channelPostings, usagePostings]
  by_cases chosen : op.channelId = channelId
  · simp [chosen]
  · simp [chosen]

theorem user_along_run {init : Database} (fresh : init.operations.rows = [])
    (run : Reachable Database.next Unrestricted init db) {user : User}
    (stored : user ∈ init.users.rows) :
    ∃ now, db.users.find? user.id = some now ∧
      now.usedQuota = user.usedQuota + db.userQuota user.id ∧
      now.requestCount = user.requestCount + db.userRequests user.id := by
  have found : init.users.find? user.id = some user := Table.find?_of_mem stored
  have moves := Reachable.simulates
    (fun s : Database => userPostings.book s.users s.operations) (fun _ => True)
    run (fun _ _ _ _ => trivial) (fun s action _ _ => (s.next_effect action).userMove) trivial
  have startBalance : (userPostings.book init.users init.operations).balance user.id =
      some (user.usedQuota, user.requestCount) := by
    simp [Postings.book, found, userPostings, usagePostings]
  have nothingPosted : userPostings.posted init.operations user.id = 0 := by
    simp [Postings.posted, Table.total, fresh]
  have balanceNow := balance_of_moves moves startBalance
  simp only [Postings.book, nothingPosted, posted_userPostings, sub_zero,
    Option.map_eq_some_iff] at balanceNow
  rcases balanceNow with ⟨now, foundNow, columns⟩
  simp only [userPostings, usagePostings, Prod.mk_add_mk, Prod.mk.injEq] at columns
  exact ⟨now, foundNow, columns.1, columns.2⟩

theorem channel_along_run {init : Database} (fresh : init.operations.rows = [])
    (run : Reachable Database.next Unrestricted init db) {chan : Channel}
    (stored : chan ∈ init.channels.rows) :
    ∃ now, db.channels.find? chan.id = some now ∧
      now.usedQuota = chan.usedQuota + db.channelQuota chan.id := by
  have found : init.channels.find? chan.id = some chan := Table.find?_of_mem stored
  have moves := Reachable.simulates
    (fun s : Database => channelPostings.book s.channels s.operations)
    (fun _ => True) run (fun _ _ _ _ => trivial)
    (fun s action _ _ => (s.next_effect action).channelMove)
    trivial
  have startBalance : (channelPostings.book init.channels init.operations).balance
      chan.id = some chan.usedQuota := by
    simp [Postings.book, found, channelPostings, usagePostings]
  have nothingPosted : channelPostings.posted init.operations chan.id = 0 := by
    simp [Postings.posted, Table.total, fresh]
  have balanceNow := balance_of_moves moves startBalance
  simp only [Postings.book, nothingPosted, posted_channelPostings, sub_zero,
    Option.map_eq_some_iff] at balanceNow
  rcases balanceNow with ⟨now, foundNow, columns⟩
  exact ⟨now, foundNow, columns⟩

/-- Settling is exactly-once for every ledger, and a failed call changes nothing. -/
theorem settlement_exactly_once {init db : Database}
    (noOperations : init.operations.rows = []) (noOutboxes : init.outboxes.rows = [])
    (reached : Reachable Database.next Unrestricted init db) :
    (∀ later, Reachable Database.next Unrestricted db later →
      ∀ op ∈ db.operations.rows, op.state ≠ .reserved →
        ∃ kept, later.operations.find? op.id = some kept ∧
          kept.state = op.state ∧ kept.actualQuota = op.actualQuota ∧
          kept.promptTokens = op.promptTokens ∧
          kept.completionTokens = op.completionTokens ∧
          kept.totalTokens = op.totalTokens ∧
          kept.billingMode = op.billingMode) ∧
    (∀ op ∈ db.operations.rows,
      outboxCount db.outboxes op.id = if op.state = .settled then 1 else 0) ∧
    (∀ user ∈ init.users.rows, ∃ now, db.users.find? user.id = some now ∧
      now.usedQuota = user.usedQuota + db.userQuota user.id ∧
      now.requestCount = user.requestCount + db.userRequests user.id) ∧
    (∀ chan ∈ init.channels.rows, ∃ now, db.channels.find? chan.id = some now ∧
      now.usedQuota = chan.usedQuota + db.channelQuota chan.id) ∧
    (∀ now faults opId fingerprint settlement,
      (settleBillingOperation now faults opId fingerprint settlement db).1.error ≠ none →
      (settleBillingOperation now faults opId fingerprint settlement db).2 = db) ∧
    (∀ faults opId fingerprint, (refundBillingOperation faults opId fingerprint db).1.error ≠ none →
      (refundBillingOperation faults opId fingerprint db).2 = db) := by
  refine ⟨?_, ?_, ?_, ?_, ?_, ?_⟩
  · intro _ continued _ stored closed
    rcases closed_along_run continued stored closed with ⟨kept, found, columnsEq⟩
    simp only [BillingOperation.frozenColumns, Prod.mk.injEq] at columnsEq
    rcases columnsEq with ⟨stateEq, actualEq, promptEq, completionEq, totalEq, modeEq, _⟩
    exact ⟨kept, found, stateEq, actualEq, promptEq, completionEq, totalEq, modeEq⟩
  · have startInvariant : OutboxInvariant init := by
      refine ⟨?_, ?_⟩
      · simp [noOutboxes]
      · simp [noOperations]
    exact (reached.invariant OutboxInvariant
      (fun s action _ => (s.next_effect action).outboxInvariant) startInvariant).counted
  · intro _ stored
    exact user_along_run noOperations reached stored
  · intro _ stored
    exact channel_along_run noOperations reached stored
  · intro now faults opId fingerprint settlement
    exact settleBillingOperation_error now faults opId fingerprint settlement db
  · intro faults opId fingerprint
    exact refundBillingOperation_error faults opId fingerprint db

def settledSample : BillingOperation :=
  sampleSettlement.freeze.apply
    (newBillingOperation sampleRequest ⟨"lookup", "owner", "conversation", "v1"⟩ 1)

/-- After a reservation, two settlements and a refund, one settlement is on the ledgers. -/
theorem settlement_exactly_once_sample :
    outboxCount (sampleActions.foldl Database.next sampleDatabase).outboxes 1 = 1 ∧
      ∃ now, (sampleActions.foldl Database.next sampleDatabase).users.find? 3 = some now ∧
        now.usedQuota = 40 ∧ now.requestCount = 1 := by
  have once := settlement_exactly_once (by rfl) (by rfl)
    (Reachable.foldl Database.next sampleActions sampleDatabase)
  rcases once with ⟨_, counts, users, _⟩
  have settled : settledSample ∈
      (sampleActions.foldl Database.next sampleDatabase).operations.rows := by
    decide
  refine ⟨counts settledSample settled, ?_⟩
  rcases users ⟨3, 0, 0⟩ (by decide) with ⟨now, found, quotaEq, requestsEq⟩
  have quota : (sampleActions.foldl Database.next sampleDatabase).userQuota 3 = 40 := by decide
  have reqs : (sampleActions.foldl Database.next sampleDatabase).userRequests 3 = 1 := by
    decide
  simp only [quota] at quotaEq
  simp only [reqs] at requestsEq
  exact ⟨now, found, quotaEq, requestsEq⟩

end NewApi.Model
