import NewApi.Billing.Settlement
import NewApi.Billing.UsageShift
import NewApi.Quota.TokenSystem
import Mathlib.Algebra.Order.BigOperators.Group.List
import Mathlib.Algebra.Order.Group.Int

/-!
# Resetting the usage counters

`ResetUsageAccumulations` runs `batchUpdate` and then zeroes the usage counters of all tokens and
users in one transaction, between the direct calls, the other runs of `batchUpdate` and the
billing transactions.
-/

namespace NewApi.Quota

open NewApi.Model (BillingAction BillingOperation BillingOperationSettlement Database UsageShift)
open Relational Transition Table

/-- `used_quota = 0`. -/
def Token.resetUsage (token : Token) : Token :=
  { token with usedQuota := 0 }

/-- `used_quota = 0, request_count = 0`. -/
def resetUserUsage (user : Model.User) : Model.User :=
  { user with usedQuota := 0, requestCount := 0 }

/-- The steps of both ledgers, and the reset that `used_quota` is set to zero by. -/
inductive UsageAction where
  | quota (action : QuotaAction)
  | bill (action : BillingAction)
  /-- The transaction of a reset whose run of `batchUpdate` is over. -/
  | reset (flush : ℕ)

def TokenSystem.reservedIds (s : TokenSystem) : List ℤ :=
  (s.db.operations.rows.filter (·.state = .reserved)).map BillingOperation.id

namespace TokenSystem

def resetUsage (s : TokenSystem) : TokenSystem where
  quota := { s.quota with tokens := s.quota.tokens.map Token.resetUsage fun _ => rfl }
  db := { s.db with users := s.db.users.map resetUserUsage fun _ => rfl }

/-- The run of `batchUpdate` of a reset is over. -/
def Flushed (s : TokenSystem) (flush : ℕ) : Prop :=
  ∃ stage ∈ s.quota.flushes[flush]?, stage matches .finished
deriving Decidable

end TokenSystem

/-- The system, its twin without resets, and the operations that were reserved at a reset. -/
structure UsageTwin where
  (actual plain : TokenSystem)
  inFlight : List ℤ

namespace UsageTwin

/-- Both ledgers start from one state. -/
def start (s : TokenSystem) : UsageTwin where
  actual := s
  plain := s
  inFlight := []

def next (twin : UsageTwin) : UsageAction → UsageTwin
  | .quota action =>
    { twin with
      actual := { twin.actual with quota := twin.actual.quota.next action }
      plain := { twin.plain with quota := twin.plain.quota.next action } }
  | .bill action =>
    { twin with actual := twin.actual.bill action, plain := twin.plain.bill action }
  | .reset flush =>
    if twin.actual.Flushed flush then
      { twin with
        actual := twin.actual.resetUsage
        inFlight := twin.inFlight ++ twin.actual.reservedIds }
    else twin

end UsageTwin

/-- The direct calls, the steps of `batchUpdate` and the records of the other types. -/
def QuotaAction.Moves : QuotaAction → Prop
  | .increaseTokenQuota .. => True
  | .decreaseTokenQuota .. => True
  | action => action.Flushes

def heldQuota (op : BillingOperation) (id : ℤ) : ℤ :=
  if op.state = .reserved ∧ op.isPlayground = false ∧ op.tokenId = id then
    op.reservedQuota
  else 0

namespace TokenSystem

def held (s : TokenSystem) (id : ℤ) : ℤ :=
  s.db.operations.total (heldQuota · id)

end TokenSystem

namespace QuotaSystem

def credit (s : QuotaSystem) : QuotaAction → Option (ℤ × ℤ)
  | .increaseTokenQuota false id quota _ true => if quota < 0 then none else some (id, quota)
  | .write i .tokenQuota id _ true =>
    match s.flushes[i]? with
    | some (.writing stores) => ((stores .tokenQuota).lookup id).map fun val => (id, val)
    | _ => none
  | _ => none

end QuotaSystem

namespace UsageTwin

/-- The steps that both ledgers can take. -/
def Allowed (_ : UsageTwin) : UsageAction → Prop
  | .quota action => action.Moves
  | .bill _ => True
  | .reset _ => True

/-- A direct return leaves what the open operations hold in `used_quota`, and a reset finds
nothing held. -/
def Careful (twin : UsageTwin) (action : UsageAction) : Prop :=
  twin.Allowed action ∧
    match action with
    | .quota action =>
      ∀ credit ∈ twin.actual.quota.credit action, ∀ row ∈ twin.actual.quota.tokens.find? credit.1,
          credit.2 ≤ row.usedQuota - twin.actual.held credit.1
    | .bill _ => True
    | .reset _ =>
      ∀ op ∈ twin.actual.db.operations.rows, op.state = .reserved →
        op.isPlayground = false → op.reservedQuota = 0

end UsageTwin

/-- A refund of the operation succeeds. -/
def Refundable (db : Database) (op : BillingOperation) : Prop :=
  (Model.refundBillingOperation {} op.id op.fingerprint db).1 =
    ⟨some (Model.markRefunded.apply op), none⟩
deriving Decidable

def CanPay (db : Database) (op : BillingOperation)
    (settlement : BillingOperationSettlement) : Prop :=
  op.isPlayground = true ∨ settlement.actualQuota ≤ op.reservedQuota ∨
    ∃ token, db.tokens.find? op.tokenId = some token ∧
      Model.Token.covers (settlement.actualQuota - op.reservedQuota) token = true

/-- The settlement of the operation goes through whenever it is acceptable, its token can pay
and the counters that it adds to exist. -/
def Settleable (db : Database) (op : BillingOperation) : Prop :=
  ∀ now settlement, settlement.accepted op = true → CanPay db op settlement →
    settlement.outcomeCheckpoint = none →
    (settlement.countUsage = true → (db.users.find? op.userId).isSome ∧
      (db.channels.find? op.channelId).isSome) →
    (Model.settleBillingOperation now {} op.id op.fingerprint settlement db).1 =
      ⟨some (settlement.freeze.apply op), true, none⟩

namespace UsageTwin

/-- What a reset leaves alone: every token's remaining quota is that of the twin, the
operations that were reserved at a reset and still are can be closed, and no usage is
negative. -/
structure Undisturbed (twin : UsageTwin) : Prop where
  remains : ∀ id, (twin.actual.quota.tokens.find? id).map Token.remainQuota =
    (twin.plain.quota.tokens.find? id).map Token.remainQuota
  closable : ∀ op ∈ twin.actual.db.operations.rows, op.id ∈ twin.inFlight →
    op.state = .reserved →
      Refundable twin.actual.database op ∧ Settleable twin.actual.database op
  usage : ∀ row ∈ twin.actual.quota.tokens.rows, 0 ≤ row.usedQuota

end UsageTwin

/-! ## The invariant of the reset system -/

/-- The open operations are backed by their tokens: what they hold has been used. -/
structure Backed (s : TokenSystem) : Prop where
  valid : ∀ op ∈ s.db.operations.rows, 0 < op.id ∧
    Text.isBlank op.fingerprint = false ∧ 0 ≤ op.reservedQuota
  stored : ∀ op ∈ s.db.operations.rows, op.state = .reserved →
    op.isPlayground = false → 0 < op.reservedQuota →
      (s.quota.tokens.find? op.tokenId).isSome
  held : ∀ id, ∀ row ∈ s.quota.tokens.find? id, s.held id ≤ row.usedQuota
  outboxes : Model.OutboxInvariant s.database

namespace Backed

variable {s : TokenSystem}

variable {op : BillingOperation}

theorem heldQuota_nonneg (nonneg : 0 ≤ op.reservedQuota) (id : ℤ) : 0 ≤ heldQuota op id := by
  simp only [heldQuota]
  split
  · exact nonneg
  · exact le_rfl

theorem held_nonneg (backed : Backed s) (id : ℤ) : 0 ≤ s.held id := by
  apply List.sum_nonneg
  intro _ inMap
  rcases List.mem_map.mp inMap with ⟨op, stored, rfl⟩
  exact heldQuota_nonneg (backed.valid op stored).2.2 id

theorem reserved_le_held (backed : Backed s) (stored : op ∈ s.db.operations.rows)
    (reserved : op.state = .reserved) (charged : op.isPlayground = false) :
    op.reservedQuota ≤ s.held op.tokenId := by
  have holds : heldQuota op op.tokenId = op.reservedQuota := by
    simp only [heldQuota, reserved, charged, and_self, if_true]
  rw [← holds]
  apply List.single_le_sum
  · intro _ inMap
    rcases List.mem_map.mp inMap with ⟨other, others, rfl⟩
    exact heldQuota_nonneg (backed.valid other others).2.2 _
  · exact List.mem_map_of_mem stored

theorem backs (backed : Backed s)
    (stored : op ∈ s.db.operations.rows) (reserved : op.state = .reserved) :
    UsageShift.Backs s.database.tokens op := by
  intro charged _ found
  simp only [TokenSystem.database, find?_billed] at found
  rcases Option.map_eq_some_iff.mp found with ⟨token, isToken, rfl⟩
  exact le_trans (backed.reserved_le_held stored reserved charged)
    (backed.held op.tokenId token isToken)

theorem argumentsValid (backed : Backed s) (stored : op ∈ s.db.operations.rows) :
    Model.operationArgumentsInvalid op.id op.fingerprint = false := by
  rcases backed.valid op stored with ⟨pos, notBlank, _⟩
  simp only [Model.operationArgumentsInvalid, notBlank, Bool.or_false, decide_eq_false_iff_not,
    not_le]
  exact pos

theorem leaveReserved_ok (found : s.db.operations.find? op.id = some op)
    (reserved : op.state = .reserved) (change : RowUpdate BillingOperation)
    (err : Model.ModelError) :
    Model.leaveReserved false op op.fingerprint change err
      s.db.operations = .ok (s.db.operations.modify op.id change) := by
  simp only [Model.leaveReserved, Bool.false_eq_true, if_false]
  exact Model.updateOne_of_find? found (by simp [reserved])

theorem refundable (backed : Backed s)
    (inRows : op ∈ s.db.operations.rows) (reserved : op.state = .reserved) :
    Refundable s.database op := by
  have found : s.db.operations.find? op.id = some op :=
    find?_of_mem inRows
  have returns : ∃ tokens, Model.returnReservation {} op s.database.tokens = .ok tokens := by
    simp only [Model.returnReservation]
    split
    next charges =>
      simp only [Bool.and_eq_true, Bool.not_eq_true', decide_eq_true_eq] at charges
      rcases Option.isSome_iff_exists.mp
        (backed.stored op inRows reserved charges.1 charges.2) with ⟨token, isToken⟩
      have isRow : s.database.tokens.find? op.tokenId = some token.billing := by
        simp only [TokenSystem.database, find?_billed, isToken, Option.map_some]
      have used := backed.backs inRows reserved charges.1 _ isRow
      simp only [Bool.false_eq_true, if_false]
      exact ⟨_, Model.updateOne_of_find? isRow (decide_eq_true used)⟩
    · exact ⟨_, rfl⟩
  rcases returns with ⟨_, returns⟩
  have leaves := leaveReserved_ok found reserved Model.markRefunded
    (.message "billing operation refund compare-and-swap failed")
  have sameOperations : s.database.operations = s.db.operations := rfl
  simp only [Refundable, Model.refundBillingOperation, backed.argumentsValid inRows,
    Bool.false_eq_true, if_false, found, Model.refundLocked, ne_eq, not_true_eq_false,
    reserved, reduceCtorEq, or_self, returns, sameOperations, leaves]
  rfl

/-- A reserved operation that is backed can be settled. -/
theorem settleable (backed : Backed s)
    (inRows : op ∈ s.db.operations.rows) (reserved : op.state = .reserved) :
    Settleable s.database op := by
  intro _ settlement accepted canPay noCheckpoint counters
  have found : s.db.operations.find? op.id = some op :=
    find?_of_mem inRows
  have costs : 0 ≤ settlement.actualQuota := by
    simp only [BillingOperationSettlement.accepted, Bool.and_eq_true, decide_eq_true_eq] at accepted
    omega
  have adjusts : ∃ tokens, Model.adjustToken {} op settlement s.database.tokens = .ok tokens := by
    simp only [Model.adjustToken]
    split
    next charges =>
      simp only [Bool.and_eq_true, Bool.not_eq_true', decide_eq_true_eq] at charges
      simp only [Bool.false_eq_true, if_false]
      split
      next =>
        rcases canPay with playground | _ | ⟨token, isToken, covers⟩
        · rw [playground] at charges
          cases charges.1
        · omega
        · exact ⟨_, Model.updateOne_of_find? isToken covers⟩
      next =>
        have pos : 0 < op.reservedQuota := by
          have different := charges.2
          omega
        rcases Option.isSome_iff_exists.mp
          (backed.stored op inRows reserved charges.1 pos) with ⟨token, isToken⟩
        have isRow : s.database.tokens.find? op.tokenId = some token.billing := by
          simp only [TokenSystem.database, find?_billed, isToken, Option.map_some]
        have used := backed.backs inRows reserved charges.1 _ isRow
        refine ⟨_, Model.updateOne_of_find? isRow (decide_eq_true ?_)⟩
        omega
    · exact ⟨_, rfl⟩
  have countsUser : ∃ users, Model.countUserUsage {} op settlement s.database.users =
      .ok users := by
    simp only [Model.countUserUsage]
    split
    next counts =>
      rcases Option.isSome_iff_exists.mp (counters counts).1 with ⟨_, isUser⟩
      simp only [Bool.false_eq_true, if_false]
      exact ⟨_, Model.updateOne_of_find? isUser rfl⟩
    · exact ⟨_, rfl⟩
  have countsChannel : ∃ chans, Model.countChannelUsage {} op settlement s.database.channels =
        .ok chans := by
    simp only [Model.countChannelUsage]
    split
    next counts =>
      rcases Option.isSome_iff_exists.mp (counters counts).2 with ⟨_, isChannel⟩
      simp only [Bool.false_eq_true, if_false]
      split
      · rw [isChannel]
        exact ⟨_, rfl⟩
      · exact ⟨_, Model.updateOne_of_find? isChannel rfl⟩
    · exact ⟨_, rfl⟩
  have unsent : s.database.outboxes.rows.any (·.billingOperationId = op.id) =
      false := by
    have counted := backed.outboxes.counted op inRows
    rw [if_neg (by simp [reserved])] at counted
    simpa [Model.outboxCount, List.countP_eq_zero] using counted
  rcases adjusts with ⟨_, adjusts⟩
  rcases countsUser with ⟨_, countsUser⟩
  rcases countsChannel with ⟨_, countsChannel⟩
  have leaves := leaveReserved_ok found reserved settlement.freeze
    (.message "billing operation settlement compare-and-swap failed")
  have sameOperations : s.database.operations = s.db.operations := rfl
  simp only [Model.settleBillingOperation, backed.argumentsValid inRows,
    Bool.false_eq_true, if_false, found, Model.settleLocked, ne_eq, not_true_eq_false,
    reserved, reduceCtorEq, accepted, Bool.not_true, adjusts, countsUser, countsChannel,
    sameOperations, leaves, Model.createOutbox, Bool.false_or, unsent, noCheckpoint]
  rfl

end Backed

namespace QuotaSystem

variable {s : QuotaSystem} {action : QuotaAction}

/-- What a direct call or a step of `batchUpdate` does to the rows. -/
inductive Rewrites (s : QuotaSystem) (action : QuotaAction) : Tokens → Prop where
  | same : Rewrites s action s.tokens
  | takes (id quota now : ℤ) (nonneg : 0 ≤ quota) :
      Rewrites s action (s.tokens.modify id (Token.subQuota quota now))
  | returns (id quota now : ℤ) (credits : s.credit action = some (id, quota)) :
      Rewrites s action (s.tokens.modify id (Token.addQuota quota now))

theorem next_rewrites (moves : action.Moves) : Rewrites s action (s.next action).tokens := by
  cases action with
  | increaseTokenQuota batched id quota now done =>
    simp only [next, settle, increaseTokenQuota, increaseTokenQuotaRow]
    split
    · exact Rewrites.same
    next nonneg =>
      cases batched with
      | true => exact Rewrites.same
      | false =>
        cases done with
        | true => exact Rewrites.returns id quota now (by simp only [credit, if_neg nonneg])
        | false => exact Rewrites.same
  | decreaseTokenQuota batched id quota now done =>
    simp only [next, settle, decreaseTokenQuota, decreaseTokenQuotaRow]
    split
    · exact Rewrites.same
    next nonneg =>
      cases batched with
      | true => exact Rewrites.same
      | false =>
        cases done with
        | true => exact Rewrites.takes id quota now (not_lt.mp nonneg)
        | false => exact Rewrites.same
  | addNewRecord _ _ _ | batchUpdate => exact Rewrites.same
  | advance _ =>
    simp only [next]
    split
    · exact Rewrites.same
    · exact Rewrites.same
  | write _ _ id now done =>
    simp only [next]
    split
    next held =>
      simp only [writeKey]
      split
      · exact Rewrites.same
      next val found =>
        split
        next isToken =>
          subst isToken
          cases done with
          | true =>
            refine Rewrites.returns id val now ?_
            simp only [credit, held, found, Option.map_some]
          | false => exact Rewrites.same
        · exact Rewrites.same
    · exact Rewrites.same
  | finish _ =>
    simp only [next]
    split
    · split
      · exact Rewrites.same
      · exact Rewrites.same
    · exact Rewrites.same
  | updateTokenStatusOnly _ _ _ _ | disableModelLimits _ | update _ _ => exact moves.elim

end QuotaSystem

namespace Backed

variable {s : TokenSystem}

theorem isSome_modify {tokens : Tokens} {change : RowUpdate Token} {id : ℤ} (key : ℤ)
    (stored : (tokens.find? id).isSome) : ((tokens.modify key change).find? id).isSome := by
  by_cases same : id = key
  · subst same
    rw [find?_modify_self, Option.isSome_map]
    exact stored
  · rw [find?_modify_ne _ same]
    exact stored

theorem rewritten (backed : Backed s) (quota : QuotaSystem) {key : ℤ}
    {change : RowUpdate Token} (tokens : quota.tokens = s.quota.tokens.modify key change)
    (holds : ∀ row ∈ s.quota.tokens.find? key, s.held key ≤ (change.apply row).usedQuota) :
    Backed { s with quota } where
  valid := backed.valid
  stored := by
    intro op inRows reserved charged pos
    simp only [tokens]
    exact isSome_modify key (backed.stored op inRows reserved charged pos)
  held := by
    intro id row found
    simp only [tokens] at found
    by_cases same : id = key
    · subst same
      rw [find?_modify_self] at found
      rcases Option.map_eq_some_iff.mp found with ⟨old, oldFound, rfl⟩
      exact holds old oldFound
    · rw [find?_modify_ne _ same] at found
      exact backed.held id row found
  outboxes := ⟨backed.outboxes.owned, backed.outboxes.counted⟩

theorem same_tokens (backed : Backed s) (quota : QuotaSystem)
    (tokens : quota.tokens = s.quota.tokens) : Backed { s with quota } where
  valid := backed.valid
  stored := by
    rw [tokens]
    exact backed.stored
  held := by
    rw [tokens]
    exact backed.held
  outboxes := ⟨backed.outboxes.owned, backed.outboxes.counted⟩

theorem next (backed : Backed s) {action : QuotaAction} (moves : action.Moves)
    (leaves : ∀ credit ∈ s.quota.credit action, ∀ row ∈ s.quota.tokens.find? credit.1,
        credit.2 ≤ row.usedQuota - s.held credit.1) :
    Backed { s with quota := s.quota.next action } := by
  have edits : s.quota.Rewrites action (s.quota.next action).tokens :=
    QuotaSystem.next_rewrites moves
  generalize s.quota.next action = after at edits ⊢
  generalize isTokens : after.tokens = tokens at edits
  cases edits with
  | same => exact backed.same_tokens after isTokens
  | takes id _ _ _ =>
    refine backed.rewritten after isTokens ?_
    intro row found
    have past := backed.held id row found
    simp only [Token.subQuota]
    omega
  | returns id quota _ credits =>
    refine backed.rewritten after isTokens ?_
    intro row found
    have covered := leaves (id, quota) credits row found
    simp only [Token.addQuota]
    simp only at covered
    omega

/-- A stored operation is well formed, and its token is stored while it holds quota of it. -/
structure Sound (tokens : Tokens) (op : BillingOperation) : Prop where
  valid : 0 < op.id ∧ Text.isBlank op.fingerprint = false ∧
    0 ≤ op.reservedQuota
  stored : op.state = .reserved → op.isPlayground = false →
    0 < op.reservedQuota → (tokens.find? op.tokenId).isSome

theorem sound (backed : Backed s) {op : BillingOperation} (inRows : op ∈ s.db.operations.rows) :
    Sound s.quota.tokens op :=
  ⟨backed.valid op inRows, backed.stored op inRows⟩

theorem sound_modify {tokens : Tokens} {ops : Table BillingOperation} {key : ℤ}
    {change : RowUpdate BillingOperation} (sound : ∀ op ∈ ops.rows, Sound tokens op)
    (keeps : ∀ op, Sound tokens op → Sound tokens (change.apply op)) :
    ∀ op ∈ (ops.modify key change).rows, Sound tokens op := by
  intro op inRows
  rcases mem_modify.mp inRows with ⟨old, prior, _, rfl⟩ | ⟨prior, _⟩
  · exact keeps old (sound old prior)
  · exact sound op prior

theorem charged (backed : Backed s) {db : Database} {key amount : ℤ}
    (charge : Model.TokenCharged key amount (billed s.quota.tokens) db.tokens)
    (sound : ∀ op ∈ db.operations.rows, Sound s.quota.tokens op)
    (holds : ∀ id, db.operations.total (heldQuota · id) ≤
      s.held id + if id = key then amount else 0)
    (outboxes : Model.OutboxInvariant db) :
    Backed
      { quota := { s.quota with tokens := withBilled s.quota.tokens db.tokens }
        db := db } where
  valid := fun op inRows => (sound op inRows).valid
  stored := by
    intro op inRows reserved charges pos
    have past := (sound op inRows).stored reserved charges pos
    rcases withBilled_charged charge with ⟨_, same⟩ | ⟨token, _, _, moved⟩
    · simp only [same]
      exact past
    · simp only [moved]
      exact isSome_modify key past
  held := by
    intro id row found
    simp only [TokenSystem.held]
    have more := holds id
    rcases withBilled_charged charge with ⟨isZero, same⟩ | ⟨token, stored, _, moved⟩
    · simp only [same] at found
      have past := backed.held id row found
      rw [isZero, ite_self] at more
      omega
    · simp only [moved] at found
      by_cases isKey : id = key
      · subst isKey
        rw [find?_modify_self, stored] at found
        simp only [Option.map_some, Option.mem_def, Option.some.injEq] at found
        subst found
        have past := backed.held id token stored
        rw [if_pos rfl] at more
        simp only [Token.charge]
        omega
      · rw [find?_modify_ne _ isKey] at found
        have past := backed.held id row found
        rw [if_neg isKey] at more
        omega
  outboxes := ⟨outboxes.owned, outboxes.counted⟩

theorem bill (backed : Backed s) (action : BillingAction) : Backed (s.bill action) := by
  have outboxes := (s.database.next_effect action).outboxInvariant backed.outboxes
  have bills := s.database.next_bills action
  simp only [TokenSystem.bill]
  generalize s.database.next action = after at bills outboxes ⊢
  have free : Model.TokenCharged 0 0 (billed s.quota.tokens) (billed s.quota.tokens) :=
    .inl ⟨rfl, rfl⟩
  have unheld : ∀ id, s.held id ≤ s.held id + if id = 0 then 0 else 0 := by
    intro _
    rw [ite_self]
    omega
  have modified : ∀ {op : BillingOperation} (change : RowUpdate BillingOperation) (id : ℤ),
      s.db.operations.find? op.id = some op →
        (s.db.operations.modify op.id change).total (heldQuota · id) =
          s.held id + (heldQuota (change.apply op) id - heldQuota op id) :=
    fun change id found => total_modify found change (heldQuota · id)
  cases bills with
  | idle => exact backed.charged free (fun _ => backed.sound) unheld outboxes
  | migrate _ _ existing live found =>
    refine backed.charged free
      (sound_modify (fun _ => backed.sound) fun _ isSound => ⟨isSound.valid, isSound.stored⟩)
      ?_ outboxes
    intro id
    have same : heldQuota (live.adopt.apply existing) id = heldQuota existing id := rfl
    have held := modified live.adopt id found
    rw [same, sub_self, add_zero] at held
    rw [ite_self, add_zero]
    exact held.le
  | reserve _ req live _ identified nonneg charge =>
    refine backed.charged charge ?_ ?_ outboxes
    · intro _ inRows
      simp only [mem_insert] at inRows
      rcases inRows with old | rfl
      · exact backed.sound old
      · refine ⟨⟨nextKey_pos _, ?_, nonneg⟩, ?_⟩
        · simp only [Model.validateBillingOperationIdentity] at identified
          rw [Fallible.guard_eq_ok, Fallible.guard_eq_ok, Fallible.guard_eq_ok] at identified
          have fits := identified.2.2.1
          simp only [Text.fits, Bool.not_eq_true', Bool.not_eq_false, Bool.and_eq_true] at fits
          exact fits.1
        · intro _ charges pos
          have notPlayground : req.isPlayground = false := charges
          simp only [Model.newBillingOperation] at pos ⊢
          rw [notPlayground] at charge
          rcases withBilled_charged charge with ⟨isZero, _⟩ | ⟨_, stored, _, _⟩
          · simp only [Bool.false_eq_true, if_false] at isZero
            omega
          · rw [stored]
            rfl
    · intro id
      have inserted :
          (s.db.operations.insert (Model.newBillingOperation req live)
            (Model.key_newBillingOperation req live)).total (heldQuota · id) =
            s.db.operations.total (heldQuota · id) +
              heldQuota (Model.newBillingOperation req live s.db.operations.nextKey) id :=
        total_insert _
      have adds : heldQuota (Model.newBillingOperation req live s.db.operations.nextKey) id ≤
          if id = req.tokenId then
            (if req.isPlayground then 0 else req.reservedQuota) else 0 := by
        simp only [heldQuota, Model.newBillingOperation, true_and]
        cases req.isPlayground with
        | true => simp
        | false =>
          by_cases same : req.tokenId = id
          · simp [same]
          · simp [same, Ne.symm same]
      refine le_trans inserted.le ?_
      exact Int.add_le_add_left adds _
  | settle _ _ _ op settlement _ _ _ _ found reserved accepted charges _ _ =>
      have costs : 0 ≤ settlement.actualQuota := by
        simp only [BillingOperationSettlement.accepted, Bool.and_eq_true, decide_eq_true_eq]
          at accepted
        omega
      refine backed.charged (Model.adjustToken_charged charges)
        (sound_modify (fun _ => backed.sound) fun _ isSound =>
          ⟨isSound.valid, fun state => by cases state⟩) ?_ outboxes
      intro id
      refine le_trans (modified settlement.freeze id found).le ?_
      have closed : heldQuota (settlement.freeze.apply op) id = 0 := by
        simp [heldQuota, BillingOperationSettlement.freeze]
      rw [closed]
      simp only [heldQuota, reserved, true_and]
      cases op.isPlayground with
      | true => simp
      | false =>
        by_cases same : op.tokenId = id
        · simp only [same, and_self, if_true, Bool.false_eq_true, if_false]
          omega
        · simp [same, Ne.symm same]
  | refund _ _ op _ found reserved returns =>
    have nonneg := (backed.valid op (mem_of_find? found)).2.2
    refine backed.charged (Model.returnReservation_charged nonneg returns)
      (sound_modify (fun _ => backed.sound) fun _ isSound =>
        ⟨isSound.valid, fun state => by cases state⟩) ?_ outboxes
    intro id
    refine le_trans (modified Model.markRefunded id found).le ?_
    have closed : heldQuota (Model.markRefunded.apply op) id = 0 := by
      simp [heldQuota, Model.markRefunded]
    rw [closed]
    simp only [heldQuota, reserved, true_and]
    cases op.isPlayground with
    | true => simp
    | false =>
      by_cases same : op.tokenId = id
      · simp only [same, and_self, if_true, Bool.false_eq_true, if_false]
        omega
      · simp [same, Ne.symm same]

/-- A reset leaves everything backed once no operation holds quota. -/
theorem resetUsage (backed : Backed s) (idle : ∀ op ∈ s.db.operations.rows, op.state = .reserved →
      op.isPlayground = false → op.reservedQuota = 0) :
    Backed s.resetUsage where
  valid := backed.valid
  stored := by
    intro op inRows reserved charged _
    have none := idle op inRows reserved charged
    omega
  held := by
    intro id row found
    have none : s.held id = 0 := by
      apply List.sum_eq_zero
      intro _ inMap
      rcases List.mem_map.mp inMap with ⟨op, stored, rfl⟩
      simp only [heldQuota]
      split
      next holds => exact idle op stored holds.1 holds.2.1
      · rfl
    have viewed := s.quota.tokens.find?_map Token.resetUsage (fun _ => rfl) id
    have isReset : (s.quota.tokens.map Token.resetUsage fun _ => rfl).find? id = some row :=
      found
    rw [viewed] at isReset
    rcases Option.map_eq_some_iff.mp isReset with ⟨_, _, rfl⟩
    exact none.le
  outboxes := ⟨backed.outboxes.owned, backed.outboxes.counted⟩

end Backed

/-! ## The twin without resets -/

def Token.shifted (shift : UsageShift) (token : Token) : Token :=
  { token with usedQuota := token.usedQuota + shift.tokenUsed token.id }

def shiftedTokens (shift : UsageShift) (tokens : Tokens) : Tokens :=
  tokens.map (Token.shifted shift) fun _ => rfl

theorem shiftedTokens_modify {shift : UsageShift} {change : RowUpdate Token}
    (commutes : ∀ token, (change.apply token).shifted shift = change.apply (token.shifted shift))
    (tokens : Tokens) (key : ℤ) :
    shiftedTokens shift (tokens.modify key change) =
      (shiftedTokens shift tokens).modify key change :=
  tokens.map_modify (Token.shifted shift) (fun _ => rfl) commutes key

theorem shifted_addQuota (shift : UsageShift) (quota now : ℤ) (token : Token) :
    ((Token.addQuota quota now).apply token).shifted shift =
      (Token.addQuota quota now).apply (token.shifted shift) := by
  simp only [Token.shifted, Token.addQuota]
  congr 1
  omega

theorem shifted_subQuota (shift : UsageShift) (quota now : ℤ) (token : Token) :
    ((Token.subQuota quota now).apply token).shifted shift =
      (Token.subQuota quota now).apply (token.shifted shift) := by
  simp only [Token.shifted, Token.subQuota]
  congr 1
  omega

theorem billed_shifted (shift : UsageShift) (tokens : Tokens) :
    billed (shiftedTokens shift tokens) = shift.tokens (billed tokens) := by
  apply ext
  simp only [billed, shiftedTokens, UsageShift.tokens, map, List.map_map]
  rfl

theorem withBilled_shifted (shift : UsageShift) (tokens : Tokens) (after : Table Model.Token) :
    withBilled (shiftedTokens shift tokens) (shift.tokens after) =
      shiftedTokens shift (withBilled tokens after) := by
  apply ext
  simp only [withBilled, shiftedTokens, map, List.map_map]
  apply List.map_congr_left
  intro token _
  simp only [Function.comp_apply, Token.withBilling, Token.shifted]
  have viewed := after.find?_map shift.token (fun _ => rfl) token.id
  rw [UsageShift.tokens, viewed]
  cases found : after.find? token.id with
  | none => rfl
  | some row =>
    have isKey : row.id = token.id := key_of_find? found
    simp only [Option.map_some, UsageShift.token, isKey]

/-- Two systems that differ in their usage counters only, the second standing higher. -/
structure Twins (shift : UsageShift) (actual plain : TokenSystem) : Prop where
  nonneg : ∀ id, 0 ≤ shift.tokenUsed id
  tokens : plain.quota.tokens = shiftedTokens shift actual.quota.tokens
  stores : plain.quota.stores = actual.quota.stores
  flushes : plain.quota.flushes = actual.quota.flushes
  database : plain.database = shift.database actual.database

namespace Twins

variable {shift : UsageShift} {actual plain : TokenSystem}

variable (twins : Twins shift actual plain)

include twins

theorem database_of_quota {actualQuota plainQuota : QuotaSystem}
    (tokens : plainQuota.tokens = shiftedTokens shift actualQuota.tokens) :
    { plain with quota := plainQuota }.database =
      shift.database { actual with quota := actualQuota }.database := by
  have past := twins.database
  simp only [TokenSystem.database, UsageShift.database, Model.Database.mk.injEq] at past ⊢
  rcases past with ⟨_, users, chans, ops, outboxes, outcomes⟩
  refine ⟨?_, users, chans, ops, outboxes, outcomes⟩
  rw [tokens, billed_shifted]

theorem remains (id : ℤ) :
    (actual.quota.tokens.find? id).map Token.remainQuota =
      (plain.quota.tokens.find? id).map Token.remainQuota := by
  have viewed := actual.quota.tokens.find?_map (Token.shifted shift) (fun _ => rfl) id
  rw [twins.tokens, shiftedTokens, viewed, Option.map_map]
  rfl

theorem next {action : QuotaAction} (moves : action.Moves) :
    Twins shift { actual with quota := actual.quota.next action }
      { plain with quota := plain.quota.next action } := by
  suffices same : (plain.quota.next action).tokens =
      shiftedTokens shift (actual.quota.next action).tokens ∧
      (plain.quota.next action).stores = (actual.quota.next action).stores ∧
      (plain.quota.next action).flushes = (actual.quota.next action).flushes from
    ⟨twins.nonneg, same.1, same.2.1, same.2.2, twins.database_of_quota same.1⟩
  have adds := fun quota now id => shiftedTokens_modify (shifted_addQuota shift quota now)
    actual.quota.tokens id
  have takes := fun quota now id => shiftedTokens_modify (shifted_subQuota shift quota now)
    actual.quota.tokens id
  cases action with
  | increaseTokenQuota batched id quota now done =>
    simp only [QuotaSystem.next, QuotaSystem.settle, increaseTokenQuota,
      increaseTokenQuotaRow, twins.tokens, twins.stores, twins.flushes]
    split
    · exact ⟨rfl, rfl, trivial⟩
    · cases batched with
      | true => exact ⟨rfl, rfl, trivial⟩
      | false =>
        cases done with
        | true => exact ⟨(adds quota now id).symm, rfl, trivial⟩
        | false => exact ⟨rfl, rfl, trivial⟩
  | decreaseTokenQuota batched id quota now done =>
    simp only [QuotaSystem.next, QuotaSystem.settle, decreaseTokenQuota,
      decreaseTokenQuotaRow, twins.tokens, twins.stores, twins.flushes]
    split
    · exact ⟨rfl, rfl, trivial⟩
    · cases batched with
      | true => exact ⟨rfl, rfl, trivial⟩
      | false =>
        cases done with
        | true => exact ⟨(takes quota now id).symm, rfl, trivial⟩
        | false => exact ⟨rfl, rfl, trivial⟩
  | addNewRecord _ _ _ =>
    simp only [QuotaSystem.next, twins.tokens, twins.stores, twins.flushes, and_self]
  | batchUpdate =>
    simp only [QuotaSystem.next, twins.tokens, twins.stores, twins.flushes, and_self]
  | advance i =>
    simp only [QuotaSystem.next, twins.flushes]
    cases actual.quota.flushes[i]? with
    | none => exact ⟨twins.tokens, twins.stores, twins.flushes⟩
    | some flush =>
      have advances : plain.quota.advance flush = actual.quota.advance flush := by
        cases flush with
        | checking remaining =>
          cases remaining with
          | nil | cons _ _ => simp only [QuotaSystem.advance, twins.stores]
        | swapping _ remaining =>
          cases remaining with
          | nil | cons _ _ => simp only [QuotaSystem.advance, twins.stores]
        | writing _ | finished => simp only [QuotaSystem.advance, twins.stores]
      simp only [advances]
      exact ⟨twins.tokens, trivial, trivial⟩
  | write _ _ id now done =>
    simp only [QuotaSystem.next, twins.flushes]
    split
    next =>
      simp only [QuotaSystem.writeKey, twins.tokens]
      split
      · exact ⟨rfl, twins.stores, rfl⟩
      next val _ =>
        split
        · cases done with
          | true => exact ⟨(adds val now id).symm, twins.stores, rfl⟩
          | false => exact ⟨rfl, twins.stores, rfl⟩
        · exact ⟨rfl, twins.stores, rfl⟩
    · exact ⟨twins.tokens, twins.stores, twins.flushes⟩
  | finish _ =>
    simp only [QuotaSystem.next, twins.flushes]
    split
    · split
      · exact ⟨twins.tokens, twins.stores, rfl⟩
      · exact ⟨twins.tokens, twins.stores, twins.flushes⟩
    · exact ⟨twins.tokens, twins.stores, twins.flushes⟩
  | updateTokenStatusOnly _ _ _ _ | disableModelLimits _ | update _ _ => exact moves.elim

theorem bill (backed : Backed actual)
    (action : BillingAction) : Twins shift (actual.bill action) (plain.bill action) := by
  have same : plain.database.next action = shift.database (actual.database.next action) := by
    rw [twins.database]
    refine UsageShift.next_shifted twins.nonneg actual.database action ?_
    intro _ inRows reserved
    exact backed.backs inRows reserved
  have tokens : (plain.bill action).quota.tokens =
      shiftedTokens shift (actual.bill action).quota.tokens := by
    simp only [TokenSystem.bill, same, twins.tokens, UsageShift.database]
    exact withBilled_shifted shift actual.quota.tokens (actual.database.next action).tokens
  refine ⟨twins.nonneg, tokens, twins.stores, twins.flushes, ?_⟩
  have view : (plain.bill action).database =
      { plain.database.next action with
        tokens := billed (plain.bill action).quota.tokens } := rfl
  rw [view, tokens, billed_shifted, same]
  rfl

omit twins

def level : UsageShift where
  tokenUsed _ := 0
  userUsed _ := 0
  userRequests _ := 0

theorem refl (s : TokenSystem) : Twins level s s := by
  have token : level.token = id := by
    funext row
    simp only [UsageShift.token, level, add_zero, id_eq]
  have user : level.user = id := by
    funext row
    simp only [UsageShift.user, level, add_zero, id_eq]
  have row : Token.shifted level = id := by
    funext row
    simp only [Token.shifted, level, add_zero, id_eq]
  have tokens : s.quota.tokens = shiftedTokens level s.quota.tokens := by
    apply ext
    simp only [shiftedTokens, map, row, List.map_id]
  refine ⟨fun _ => le_rfl, tokens, rfl, rfl, ?_⟩
  simp only [UsageShift.database, UsageShift.tokens, UsageShift.users, map, token, user,
    List.map_id]

def grown (shift : UsageShift) (actual : TokenSystem) : UsageShift where
  tokenUsed id :=
    shift.tokenUsed id + ((actual.quota.tokens.find? id).map Token.usedQuota).getD 0
  userUsed id :=
    shift.userUsed id + ((actual.db.users.find? id).map Model.User.usedQuota).getD 0
  userRequests id :=
    shift.userRequests id + ((actual.db.users.find? id).map Model.User.requestCount).getD 0

/-- A reset of the actual ledger grows the shift. -/
theorem resetUsage (twins : Twins shift actual plain)
    (usage : ∀ id, ∀ row ∈ actual.quota.tokens.find? id, 0 ≤ row.usedQuota) :
    Twins (grown shift actual) actual.resetUsage plain := by
  have tokens : plain.quota.tokens =
      shiftedTokens (grown shift actual) actual.resetUsage.quota.tokens := by
    rw [twins.tokens]
    apply ext
    simp only [shiftedTokens, TokenSystem.resetUsage, map, List.map_map]
    apply List.map_congr_left
    intro token stored
    have found : actual.quota.tokens.find? token.id = some token := find?_of_mem stored
    simp only [Function.comp_apply, Token.shifted, Token.resetUsage, grown, found,
      Option.map_some, Option.getD_some]
    congr 1
    omega
  have users : plain.db.users = (grown shift actual).users actual.resetUsage.db.users := by
    have past : plain.db.users = shift.users actual.db.users := by
      have same := congrArg Model.Database.users twins.database
      exact same
    rw [past]
    apply ext
    simp only [UsageShift.users, TokenSystem.resetUsage, map, List.map_map]
    apply List.map_congr_left
    intro user stored
    have found : actual.db.users.find? user.id = some user := find?_of_mem stored
    simp only [Function.comp_apply, UsageShift.user, resetUserUsage, grown, found,
      Option.map_some, Option.getD_some]
    congr 1
    · omega
    · omega
  refine ⟨?_, tokens, twins.stores, twins.flushes, ?_⟩
  · intro id
    simp only [grown]
    have more := twins.nonneg id
    cases found : actual.quota.tokens.find? id with
    | none =>
      simp only [Option.map_none, Option.getD_none]
      omega
    | some row =>
      have used := usage id row found
      simp only [Option.map_some, Option.getD_some]
      omega
  · have past := twins.database
    simp only [TokenSystem.database, UsageShift.database, Model.Database.mk.injEq] at past ⊢
    rcases past with ⟨_, _, chans, ops, outboxes, outcomes⟩
    refine ⟨?_, users, chans, ops, outboxes, outcomes⟩
    rw [tokens, billed_shifted]

end Twins

namespace UsageTwin

/-- The plain system is the actual one up to the shifts by which resets and charges differ. -/
structure Invariant (twin : UsageTwin) : Prop where
  backed : Backed twin.actual
  twins : ∃ shift, Twins shift twin.actual twin.plain

theorem Invariant.next {twin : UsageTwin} (holds : twin.Invariant) {action : UsageAction}
    (care : twin.Careful action) : (twin.next action).Invariant := by
  rcases care with ⟨allowed, care⟩
  rcases holds.twins with ⟨shift, twins⟩
  cases action with
  | quota _ => exact ⟨holds.backed.next allowed care, shift, twins.next allowed⟩
  | bill action => exact ⟨holds.backed.bill action, shift, twins.bill holds.backed action⟩
  | reset _ =>
    simp only [UsageTwin.next]
    split
    · refine ⟨holds.backed.resetUsage care, _, twins.resetUsage ?_⟩
      intro id row found
      exact le_trans (holds.backed.held_nonneg id) (holds.backed.held id row found)
    · exact holds

end UsageTwin

/-- In every run whose direct returns leave the open reservations in `used_quota` and whose
resets find none open, the resets disturb nothing, and every reserved operation can still be
refunded and settled. -/
theorem usage_reset_undisturbed {s : TokenSystem} {twin : UsageTwin} (backed : Backed s)
    (reached : Reachable UsageTwin.next UsageTwin.Careful (UsageTwin.start s) twin) :
    twin.Undisturbed ∧ ∀ op ∈ twin.actual.db.operations.rows, op.state = .reserved →
        Refundable twin.actual.database op ∧ Settleable twin.actual.database op := by
  have unshifted := Twins.refl s
  have holds : twin.Invariant :=
    reached.invariant UsageTwin.Invariant (fun _ _ careful holds => holds.next careful)
      ⟨backed, _, unshifted⟩
  rcases holds.twins with ⟨_, twins⟩
  have closable : ∀ op ∈ twin.actual.db.operations.rows, op.state = .reserved →
      Refundable twin.actual.database op ∧ Settleable twin.actual.database op :=
    fun op inRows reserved =>
      ⟨holds.backed.refundable inRows reserved, holds.backed.settleable inRows reserved⟩
  refine ⟨⟨twins.remains, fun op inRows _ => closable op inRows, ?_⟩, closable⟩
  intro row stored
  exact le_trans (holds.backed.held_nonneg row.id)
    (holds.backed.held row.id row (find?_of_mem stored))

instance : DecidablePred QuotaAction.Moves
  | .increaseTokenQuota .. | .decreaseTokenQuota .. => .isTrue trivial
  | .addNewRecord type _ _ => inferInstanceAs (Decidable (type ≠ .tokenQuota))
  | .batchUpdate | .advance _ | .write .. | .finish _ => .isTrue trivial
  | .updateTokenStatusOnly .. | .disableModelLimits _ | .update .. => .isFalse id

instance (twin : UsageTwin) : DecidablePred twin.Allowed
  | .quota action => inferInstanceAs (Decidable action.Moves)
  | .bill _ | .reset _ => .isTrue trivial

instance (twin : UsageTwin) : DecidablePred twin.Careful
  | .quota action =>
    inferInstanceAs (Decidable (_ ∧ ∀ credit ∈ twin.actual.quota.credit action,
      ∀ row ∈ twin.actual.quota.tokens.find? credit.1,
        credit.2 ≤ row.usedQuota - twin.actual.held credit.1))
  | .bill _ => inferInstanceAs (Decidable (_ ∧ True))
  | .reset _ =>
    inferInstanceAs (Decidable (_ ∧ ∀ op ∈ twin.actual.db.operations.rows,
      op.state = .reserved → op.isPlayground = false →
        op.reservedQuota = 0))

def sampleUsageSystem : TokenSystem where
  quota := .start
    ⟨[{ id := 7, userId := 3, key := "k", status := 1, name := "t", accessedTime := 0,
        expiredTime := -1, remainQuota := 100, unlimitedQuota := false,
        modelLimitsEnabled := false, modelLimits := "", allowIps := none, usedQuota := 0,
        group := "", crossGroupRetry := false, allowContextCompaction := false,
        autoGroups := "" }], by decide⟩
  db := Model.sampleDatabase

theorem sampleUsageSystem_backed : Backed sampleUsageSystem where
  valid := fun _ inNone => absurd inNone List.not_mem_nil
  stored := fun _ inNone => absurd inNone List.not_mem_nil
  held := by
    intro _ _ found
    have inRows := mem_of_find? found
    rw [List.mem_singleton.mp inRows]
    exact le_rfl
  outboxes :=
    ⟨fun _ inNone => absurd inNone List.not_mem_nil, fun _ inNone => absurd inNone List.not_mem_nil⟩

def sampleReset : List UsageAction :=
  [.quota .batchUpdate] ++ List.replicate 6 (.quota (.advance 0)) ++ [.reset 0]

/-- A request is settled, then the usage is reset, then a direct call takes 20 and returns 5. -/
def settledBeforeReset : List UsageAction :=
  [.bill (.reserve {} Model.sampleRequest),
    .bill (.settle 0 {} 1 "fingerprint" Model.sampleSettlement)] ++ sampleReset ++
    [.quota (.decreaseTokenQuota false 7 20 5 true), .quota (.increaseTokenQuota false 7 5 6 true)]

theorem usage_reset_undisturbed_sample :
    (settledBeforeReset.foldl UsageTwin.next (UsageTwin.start sampleUsageSystem)).Undisturbed ∧
      ∀ op ∈ (settledBeforeReset.foldl UsageTwin.next
          (UsageTwin.start sampleUsageSystem)).actual.db.operations.rows, op.state = .reserved →
        Refundable (settledBeforeReset.foldl UsageTwin.next
            (UsageTwin.start sampleUsageSystem)).actual.database op ∧
          Settleable (settledBeforeReset.foldl UsageTwin.next
            (UsageTwin.start sampleUsageSystem)).actual.database op :=
  usage_reset_undisturbed sampleUsageSystem_backed
    (Reachable.of_run settledBeforeReset (UsageTwin.start sampleUsageSystem) (by decide))

def reservedBeforeReset : List UsageAction :=
  .bill (.reserve {} Model.sampleRequest) :: sampleReset

/-- After the reset the reservation can no longer be refunded. -/
theorem usage_reset_blocks_refund :
    ¬∀ (s : TokenSystem) (twin : UsageTwin), Backed s →
      Reachable UsageTwin.next UsageTwin.Allowed (UsageTwin.start s) twin → twin.Undisturbed := by
  intro undisturbed
  have run : Reachable UsageTwin.next UsageTwin.Allowed (UsageTwin.start sampleUsageSystem)
      (reservedBeforeReset.foldl UsageTwin.next (UsageTwin.start sampleUsageSystem)) :=
    Reachable.of_run reservedBeforeReset (UsageTwin.start sampleUsageSystem) (by decide)
  have blocked : ∃ op ∈ (reservedBeforeReset.foldl UsageTwin.next
      (UsageTwin.start sampleUsageSystem)).actual.db.operations.rows,
        (op.id ∈ (reservedBeforeReset.foldl UsageTwin.next
          (UsageTwin.start sampleUsageSystem)).inFlight ∧ op.state = .reserved) ∧
        ¬Refundable (reservedBeforeReset.foldl UsageTwin.next
          (UsageTwin.start sampleUsageSystem)).actual.database op := by
    decide
  rcases blocked with ⟨op, inRows, ⟨inFlight, reserved⟩, notRefundable⟩
  exact notRefundable
    ((undisturbed _ _ sampleUsageSystem_backed run).closable op inRows inFlight reserved).1

end NewApi.Quota
