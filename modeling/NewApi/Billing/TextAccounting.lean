import NewApi.Billing.TextSettlement

/-!
# Durable and direct settlement compared

The same request settled twice, in databases that are ready for it: once with a reserved operation
and once directly.
-/

namespace NewApi.Service

open NewApi.Dto NewApi.Types NewApi.Model Relational

/-! ## What a settlement did -/

/-- What a request has cost its token, and what it added to the counters and to the log. -/
structure Accounting where
  (tokenCharge userUsedQuota userRequestCount channelUsedQuota : ℤ)
  loggedQuotas : List ℤ

def column {Row : Type} [Keyed Row ℤ] (table : Table Row) (key : ℤ) (quantity : Row → ℤ) : ℤ :=
  ((table.find? key).map quantity).getD 0

/-- The books of a request whose reservation took `reserved` from the token. -/
def accounting (info : RelayInfo) (held : ℤ) (past after : Stores) : Accounting where
  tokenCharge := (if info.isPlayground then 0 else held) +
    (column after.db.tokens info.tokenId Token.usedQuota -
      column past.db.tokens info.tokenId Token.usedQuota)
  userUsedQuota := column after.db.users info.userId User.usedQuota -
    column past.db.users info.userId User.usedQuota
  userRequestCount := column after.db.users info.userId User.requestCount -
    column past.db.users info.userId User.requestCount
  channelUsedQuota := column after.db.channels info.channelId Model.Channel.usedQuota -
    column past.db.channels info.channelId Model.Channel.usedQuota
  loggedQuotas := (after.logs.rows.drop past.logs.rows.length).map Log.quota

/-- The books of a settlement at a quota that counts or does not count as usage. -/
def books (req : ConsumeRequest) (counted : Bool) : Accounting where
  tokenCharge := if req.relayInfo.isPlayground then 0 else req.summary.quota
  userUsedQuota := if counted then req.summary.quota else 0
  userRequestCount := if counted then 1 else 0
  channelUsedQuota := if counted then req.summary.quota else 0
  loggedQuotas := if req.logContext.logConsumeEnabled then [req.summary.quota] else []

theorem column_modify {Row : Type} [Keyed Row ℤ] {table : Table Row} {key : ℤ} {row : Row}
    (found : table.find? key = some row) (change : RowUpdate Row) (quantity : Row → ℤ) :
    column (table.modify key change) key quantity - column table key quantity =
      quantity (change.apply row) - quantity row := by
  simp [column, Table.find?_modify_self, found]

theorem column_modify_missing {Row : Type} [Keyed Row ℤ] {table : Table Row} {key : ℤ}
    (missing : table.find? key = none) (change : RowUpdate Row) (quantity : Row → ℤ) :
    column (table.modify key change) key quantity = column table key quantity := by
  simp [column, Table.find?_modify_self, missing]

theorem column_charged {tokenId amount : ℤ} {tokens charged : Table Token}
    (charges : TokenCharged tokenId amount tokens charged) :
    column charged tokenId Token.usedQuota - column tokens tokenId Token.usedQuota = amount := by
  rcases charges with ⟨rfl, rfl⟩ | ⟨_, found, _, rfl⟩
  · omega
  · rw [column_modify found]
    simp [Token.consume]

theorem drop_insert {logs : Table Log} {ctx : LogContext} {userId : ℤ}
    {params : RecordConsumeLogParams} :
    ((logs.insert (newLog ctx userId params) (key_newLog ctx userId params)).rows.drop
      logs.rows.length).map Log.quota = [params.quota] := by
  simp [Table.insert, newLog]

theorem column_counted {Row : Type} [Keyed Row ℤ] {table : Table Row} {key : ℤ} {row : Row}
    (found : table.find? key = some row) (counted : Bool) (change : RowUpdate Row)
    (quantity : Row → ℤ) {amount : ℤ} (adds : quantity (change.apply row) = quantity row + amount) :
    column (if counted then table.modify key change else table) key quantity -
      column table key quantity = if counted then amount else 0 := by
  cases counted with
  | false => simp
  | true =>
    have moved := column_modify found change quantity
    simp only [if_true]
    omega

/-! ## Direct settlement -/

/-- The rows whose counters a settlement raises are stored. -/
structure Countable (req : ConsumeRequest) (db : Database) : Prop where
  user : ∃ user, db.users.find? req.relayInfo.userId = some user
  channel : ∃ channel, db.channels.find? req.relayInfo.channelId = some channel

/-- A direct settlement is due: the session, if there is one, is open. -/
structure DirectReady (req : ConsumeRequest) (sess : Option BillingSession)
    (held : ℤ) (stores : Stores) : Prop extends Countable req stores.db where
  opened : ∀ open_ ∈ sess, open_.billingOperationId = 0 ∧ open_.settled = false ∧
    open_.preConsumedQuota = held ∧ open_.isPlayground = req.relayInfo.isPlayground
  unopened : sess = none → req.relayInfo.finalPreConsumedQuota = held

/-- The token can pay what the request still owes. -/
def DirectPays (req : ConsumeRequest) (held : ℤ) (db : Database) : Prop :=
  req.relayInfo.isPlayground = true ∨ req.summary.quota = held ∨
    ∃ token, db.tokens.find? req.relayInfo.tokenId = some token ∧
      (req.summary.quota < held ∨ req.relayInfo.tokenUnlimited = true ∨
        req.summary.quota - held ≤ token.remainQuota)

def directCharge (req : ConsumeRequest) (held : ℤ) (db : Database) : ℤ :=
  if req.relayInfo.isPlayground ∨
      (tokenOutcome req.relayInfo (req.summary.quota - held) db).isSome then
    0
  else
    req.summary.quota - held

theorem tokenOutcome_of_nonpos {info : RelayInfo} {quota : ℤ} {db : Database}
    (nonpos : quota ≤ 0) : tokenOutcome info quota db = none := by
  simp [tokenOutcome, nonpos]

theorem preConsumeTokenQuota_taken {out : Option ModelError} {quota : ℤ} (pos : 0 < quota) :
    (preConsumeTokenQuota false out quota 0).2 = if out.isSome then 0 else quota := by
  have nonneg : ¬quota < 0 := by omega
  cases out with
  | none | some _ => simp [preConsumeTokenQuota, nonneg]

theorem increaseTokenQuota_taken {quota : ℤ} (nonpos : quota ≤ 0) :
    (increaseTokenQuota none (-quota) 0).2 = quota := by
  have nonneg : ¬-quota < 0 := by omega
  rw [increaseTokenQuota, if_neg nonneg]
  simp

theorem postConsumeQuota_taken (req : ConsumeRequest) (held : ℤ) (db : Database) :
    (postConsumeQuota req.relayInfo (req.summary.quota - held) db).2 =
      directCharge req held db := by
  generalize deltaEq : req.summary.quota - held = delta
  cases playground : req.relayInfo.isPlayground with
  | true => simp [postConsumeQuota, directCharge, playground]
  | false =>
    simp only [postConsumeQuota, directCharge, playground, deltaEq, Bool.false_eq_true,
      if_false, false_or]
    by_cases more : 0 < delta
    · rw [if_pos more, preConsumeTokenQuota_taken more]
    · have nonpos : delta ≤ 0 := by omega
      rw [if_neg more, increaseTokenQuota_taken nonpos, tokenOutcome_of_nonpos nonpos]
      simp

theorem settle_taken {req : ConsumeRequest} {open_ : BillingSession} {held : ℤ}
    {db : Database} (direct : open_.billingOperationId = 0) (unsettled : open_.settled = false)
    (reservedEq : open_.preConsumedQuota = held)
    (samePlayground : open_.isPlayground = req.relayInfo.isPlayground) :
    (open_.settle (tokenOutcome req.relayInfo (req.summary.quota - held) db)
      req.summary.quota 0).taken = directCharge req held db := by
  simp only [BillingSession.settle, direct, unsettled, reservedEq, walletFundingSettle,
    BillingSession.adjustToken, samePlayground, directCharge, ne_eq, not_true_eq_false,
    if_false, Bool.false_eq_true, ite_self]
  generalize req.summary.quota - held = delta
  cases req.relayInfo.isPlayground with
  | true => split <;> simp
  | false =>
    simp only [Bool.false_eq_true, if_false, false_or]
    by_cases unchanged : delta = 0
    · simp [unchanged]
    · rw [if_neg unchanged]
      by_cases more : 0 < delta
      · simp only [if_pos more]
        exact preConsumeTokenQuota_taken more
      · have nonpos : delta ≤ 0 := by omega
        simp only [if_neg more, tokenOutcome_of_nonpos nonpos]
        simpa using increaseTokenQuota_taken nonpos

theorem settleBilling_db {req : ConsumeRequest} {sess : Option BillingSession} {held : ℤ}
    {stores : Stores} (ready : DirectReady req sess held stores) (db : Database) :
    (settleBilling req.relayInfo sess req.summary.quota db).2 =
      { db with
        tokens := db.tokens.modify req.relayInfo.tokenId
          (Token.consume (directCharge req held db)) } := by
  cases sess with
  | none =>
    have reservedEq := ready.unopened rfl
    have taken := postConsumeQuota_taken req held db
    simp only [settleBilling, reservedEq]
    by_cases unchanged : req.summary.quota - held = 0
    · simp [unchanged, directCharge, tokenOutcome]
    · rw [if_pos unchanged, taken]
  | some open_ =>
    rcases ready.opened open_ rfl with ⟨direct, unsettled, reservedEq, samePlayground⟩
    simp only [settleBilling, reservedEq, settle_taken direct unsettled reservedEq samePlayground]

theorem directCharge_eq {req : ConsumeRequest} {held : ℤ} {db : Database}
    (pays : DirectPays req held db) :
    directCharge req held db =
      if req.relayInfo.isPlayground then 0 else req.summary.quota - held := by
  cases playground : req.relayInfo.isPlayground with
  | true => simp [directCharge, playground]
  | false =>
    have covered :
        tokenOutcome req.relayInfo (req.summary.quota - held) db = none := by
      rcases pays with isPlayground | _ | ⟨token, found, _ | free | _⟩
      · simp [playground] at isPlayground
      · exact tokenOutcome_of_nonpos (by omega)
      · exact tokenOutcome_of_nonpos (by omega)
      · simp [tokenOutcome, found, free]
      · have fits : ¬token.remainQuota < req.summary.quota - held := by omega
        simp [tokenOutcome, found, fits]
    simp [directCharge, playground, covered]

theorem column_paid {req : ConsumeRequest} {held : ℤ} {db : Database}
    (pays : DirectPays req held db) :
    column (db.tokens.modify req.relayInfo.tokenId
        (Token.consume (directCharge req held db))) req.relayInfo.tokenId
        Token.usedQuota - column db.tokens req.relayInfo.tokenId Token.usedQuota =
      if req.relayInfo.isPlayground then 0 else req.summary.quota - held := by
  rw [directCharge_eq pays]
  cases found : db.tokens.find? req.relayInfo.tokenId with
  | some _ =>
    rw [column_modify found]
    simp [Token.consume]
  | none =>
    rw [column_modify_missing found]
    rcases pays with playground | unchanged | ⟨_, stored, _⟩
    · simp [playground]
    · simp [unchanged]
    · simp [found] at stored

theorem column_unpaid {req : ConsumeRequest} {held : ℤ} {db : Database}
    (unpaid : ¬DirectPays req held db) :
    req.relayInfo.isPlayground = false ∧ req.summary.quota ≠ held ∧
      column (db.tokens.modify req.relayInfo.tokenId
          (Token.consume (directCharge req held db))) req.relayInfo.tokenId
          Token.usedQuota = column db.tokens req.relayInfo.tokenId Token.usedQuota := by
  simp only [DirectPays, not_or, not_exists, not_and] at unpaid
  rcases unpaid with ⟨notPlayground, diff, short⟩
  refine ⟨by simpa using notPlayground, diff, ?_⟩
  cases found : db.tokens.find? req.relayInfo.tokenId with
  | none => exact column_modify_missing found _ _
  | some token =>
    rcases short token found with ⟨_, limited, _⟩
    have pos : ¬req.summary.quota - held ≤ 0 := by omega
    have fails : token.remainQuota < req.summary.quota - held := by omega
    have idle : directCharge req held db = 0 := by
      simp [directCharge, tokenOutcome, pos, found, limited, fails]
    simp [column, Table.find?_modify_self, found, idle, Token.consume]

theorem postTextConsumeDirect_stores {req : ConsumeRequest} {sess : Option BillingSession}
    {held : ℤ} {stores : Stores} (ready : DirectReady req sess held stores) :
    (postTextConsumeDirect req sess stores).stores =
      { db :=
          { stores.db with
            tokens := stores.db.tokens.modify req.relayInfo.tokenId
              (Token.consume (directCharge req held stores.db))
            users := if req.summary.hasBillableUsage then
                stores.db.users.modify req.relayInfo.userId (User.countRequest req.summary.quota)
              else stores.db.users
            channels := if req.summary.hasBillableUsage then
                stores.db.channels.modify req.relayInfo.channelId
                  (Channel.countUsage req.summary.quota)
              else stores.db.channels }
        logs := if req.logContext.logConsumeEnabled then
            stores.logs.insert (newLog req.logContext req.relayInfo.userId req.logParams)
              (key_newLog req.logContext req.relayInfo.userId req.logParams)
          else stores.logs } := by
  have logged : (recordConsumeLogResult false false req.logContext req.relayInfo.userId
      req.logParams stores.logs).2 =
        if req.logContext.logConsumeEnabled then
          stores.logs.insert (newLog req.logContext req.relayInfo.userId req.logParams)
            (key_newLog req.logContext req.relayInfo.userId req.logParams)
        else stores.logs := by
    cases enabled : req.logContext.logConsumeEnabled <;>
      simp [recordConsumeLogResult, recordInsert, enabled, operationLogged,
        ConsumeRequest.logParams]
  simp only [postTextConsumeDirect, TextConsumeResult.returns, settleBilling_db ready, logged]
  cases req.summary.hasBillableUsage <;> rfl

theorem direct_accounting {req : ConsumeRequest} {sess : Option BillingSession}
    {held : ℤ} {stores : Stores} (ready : DirectReady req sess held stores) :
    accounting req.relayInfo held stores (postTextConsumeDirect req sess stores).stores =
      { books req req.summary.hasBillableUsage with
        tokenCharge := (if req.relayInfo.isPlayground then 0 else held) +
          (column (stores.db.tokens.modify req.relayInfo.tokenId
              (Token.consume (directCharge req held stores.db)))
              req.relayInfo.tokenId Token.usedQuota -
            column stores.db.tokens req.relayInfo.tokenId Token.usedQuota) } := by
  rcases ready.user with ⟨_, userFound⟩
  rcases ready.channel with ⟨_, channelFound⟩
  rw [postTextConsumeDirect_stores ready]
  simp only [accounting, books, Accounting.mk.injEq, true_and]
  refine ⟨column_counted userFound _ _ _ rfl, column_counted userFound _ _ _ rfl,
    column_counted channelFound _ _ _ rfl, ?_⟩
  cases req.logContext.logConsumeEnabled with
  | false => simp
  | true => exact drop_insert

theorem direct_accounting_paid {req : ConsumeRequest} {sess : Option BillingSession}
    {held : ℤ} {stores : Stores} (ready : DirectReady req sess held stores)
    (pays : DirectPays req held stores.db) :
    accounting req.relayInfo held stores (postTextConsumeDirect req sess stores).stores =
      books req req.summary.hasBillableUsage := by
  rw [direct_accounting ready, column_paid pays]
  cases playground : req.relayInfo.isPlayground with
  | true | false => simp [books, playground]

/-! ## Durable settlement -/

/-- A durable settlement is due: the operation was reserved for this request, nothing was
delivered for it, and the checkpoint of the request applies. -/
structure DurableReady (now : ℤ) (req : ConsumeRequest) (op : BillingOperation)
    (stores : Stores) : Prop extends Countable req stores.db where
  owns : req.Owns op
  playground : op.isPlayground = req.relayInfo.isPlayground
  valid : operationArgumentsInvalid op.id op.fingerprint = false
  found : stores.db.operations.find? op.id = some op
  reserved : op.state = .reserved
  unsent : ∀ box ∈ stores.db.outboxes.rows, box.billingOperationId ≠ op.id
  unlogged : ¬Logged stores.logs op.id
  checkpoint : ∃ outcomes, applyManagedContextOutcomeCheckpoint now false op.id
    req.relayInfo.managedOutcomeCheckpoint stores.db.outcomes = .ok outcomes
  sql : req.logContext.usingClickHouse = false

/-- The token row passes the guard of the settlement's `UPDATE`. -/
def DurablePays (req : ConsumeRequest) (op : BillingOperation) (db : Database) :
    Prop :=
  req.relayInfo.isPlayground = true ∨ req.summary.quota = op.reservedQuota ∨
    ∃ token, db.tokens.find? req.relayInfo.tokenId = some token ∧
      (if req.summary.quota < op.reservedQuota then
        op.reservedQuota - req.summary.quota ≤ token.usedQuota
      else
        token.unlimitedQuota = true ∨
          req.summary.quota - op.reservedQuota ≤ token.remainQuota)

theorem settlement_actualQuota (req : ConsumeRequest) :
    req.settlement.actualQuota = req.summary.quota :=
  rfl

theorem adjustToken_ok_iff {now : ℤ} {req : ConsumeRequest} {op : BillingOperation}
    {stores : Stores} (ready : DurableReady now req op stores) :
    (∃ tokens, adjustToken {} op req.settlement stores.db.tokens = .ok tokens) ↔
      DurablePays req op stores.db := by
  have token := ready.owns.token
  by_cases isPlayground : req.relayInfo.isPlayground = true
  · simp [adjustToken, DurablePays, ready.playground, isPlayground]
  by_cases unchanged : req.summary.quota = op.reservedQuota
  · simp [adjustToken, DurablePays, ConsumeRequest.settlement, unchanged]
  have delta : req.summary.quota - op.reservedQuota ≠ 0 := by omega
  simp only [adjustToken, DurablePays, ConsumeRequest.settlement, ready.playground, isPlayground,
    token, Bool.not_false, delta, unchanged, ne_eq, not_false_eq_true, decide_true,
    Bool.and_self, if_true, Bool.false_eq_true, if_false, false_or]
  constructor
  · rintro ⟨_, done⟩
    split at done
    next =>
      rcases updateOne_eq_ok done with ⟨row, found, covers, _⟩
      refine ⟨row, found, ?_⟩
      rw [if_neg (by omega)]
      simpa [Token.covers] using covers
    next =>
      rcases updateOne_eq_ok done with ⟨row, found, used, _⟩
      refine ⟨row, found, ?_⟩
      rw [if_pos (by omega)]
      simpa [Token.hasUsed] using used
  · rintro ⟨_, found, guard⟩
    by_cases less : req.summary.quota < op.reservedQuota
    · rw [if_pos less] at guard
      rw [if_neg (by omega)]
      exact ⟨_, updateOne_of_find? found (by simpa [Token.hasUsed] using guard)⟩
    · rw [if_neg less] at guard
      rw [if_pos (by omega)]
      exact ⟨_, updateOne_of_find? found (by simpa [Token.covers] using guard)⟩

theorem countUserUsage_ok {now : ℤ} {req : ConsumeRequest} {op : BillingOperation}
    {stores : Stores} (ready : DurableReady now req op stores) :
    countUserUsage {} op req.settlement stores.db.users = .ok (if req.settlement.countUsage then
          stores.db.users.modify req.relayInfo.userId (User.countRequest req.summary.quota)
        else stores.db.users) := by
  rcases ready.user with ⟨user, found⟩
  have counts := @updateOne_of_find? User _ _ _ _ (fun _ => true)
    (User.countRequest req.summary.quota)
    (.message "billing operation user does not exist") found rfl
  cases counted : req.settlement.countUsage with
  | false => simp [countUserUsage, counted]
  | true =>
    simpa [countUserUsage, counted, ready.owns.user, settlement_actualQuota] using counts

theorem countChannelUsage_ok {now : ℤ} {req : ConsumeRequest} {op : BillingOperation}
    {stores : Stores} (ready : DurableReady now req op stores) :
    countChannelUsage {} op req.settlement stores.db.channels =
      .ok (if req.settlement.countUsage && req.summary.quota ≠ 0 then
          stores.db.channels.modify req.relayInfo.channelId (Channel.countUsage req.summary.quota)
        else stores.db.channels) := by
  rcases ready.channel with ⟨chan, found⟩
  have counts := @updateOne_of_find? Model.Channel _ _ _ _ (fun _ => true)
    (Channel.countUsage req.summary.quota)
    (.message "billing operation channel does not exist") found rfl
  cases counted : req.settlement.countUsage with
  | false => simp [countChannelUsage, counted]
  | true =>
    by_cases free : req.summary.quota = 0
    · simp [countChannelUsage, counted, ready.owns.channel, found, settlement_actualQuota, free]
    · simpa [countChannelUsage, counted, ready.owns.channel, settlement_actualQuota, free]
        using counts

theorem settleLocked_ready {now : ℤ} {req : ConsumeRequest} {op : BillingOperation}
    {stores : Stores} (ready : DurableReady now req op stores) :
    (∃ reply, settleLocked now {} op.fingerprint req.settlement op stores.db = .ok reply) ↔
      req.settlement.accepted op = true ∧ DurablePays req op stores.db := by
  rw [← adjustToken_ok_iff ready]
  simp only [settleLocked, ne_eq, not_true_eq_false, if_false, ready.reserved, reduceCtorEq]
  cases accepted : req.settlement.accepted op with
  | false => simp
  | true =>
    have leaves : ∃ ops, leaveReserved false op op.fingerprint req.settlement.freeze
        (.message "billing operation settlement compare-and-swap failed")
        stores.db.operations = .ok ops :=
      ⟨_, updateOne_of_find? ready.found (by simp [ready.reserved])⟩
    have free : ¬(false || stores.db.outboxes.rows.any (·.billingOperationId = op.id)) = true := by
      simpa using ready.unsent
    have creates : ∃ outboxes, createOutbox {} op req.settlement
        stores.db.outboxes = .ok outboxes :=
      ⟨_, if_neg free⟩
    rcases leaves with ⟨_, leaves⟩
    rcases creates with ⟨_, creates⟩
    rcases ready.checkpoint with ⟨outcomes, checkpoint⟩
    have checkpointed : applyManagedContextOutcomeCheckpoint now false op.id
        req.settlement.outcomeCheckpoint stores.db.outcomes = .ok outcomes := checkpoint
    simp only [Bool.not_true, Bool.false_eq_true, if_false, countUserUsage_ok ready,
      countChannelUsage_ok ready, Fallible.bind_eq_ok, leaves, creates, checkpointed]
    constructor
    · rintro ⟨_, tokens, charges, _⟩
      exact ⟨trivial, tokens, charges⟩
    · rintro ⟨_, tokens, charges⟩
      exact ⟨_, tokens, charges, _, rfl, _, rfl, _, rfl, _, rfl, _, rfl, rfl⟩

theorem deliver_fresh {ctx : LogContext} {op : BillingOperation}
    {settlement : BillingOperationSettlement} {db : Database} {logs : Table Log}
    {outboxes : Table BillingOperationLogOutbox}
    (unsent : ∀ box ∈ outboxes.rows, box.billingOperationId ≠ op.id)
    (unlogged : ¬Logged logs op.id) (sql : ctx.usingClickHouse = false)
    (inserted : db.outboxes =
      outboxes.insert (newOutbox op settlement) (key_newOutbox op settlement)) :
    ∃ after params, params.quota = settlement.logParams.quota ∧
      (deliverBillingOperationConsumeLog ctx op.id ⟨db, logs⟩).1 = ⟨{ db with outboxes := after },
          if ctx.logConsumeEnabled then
            logs.insert (newLog ctx settlement.logUserId params)
              (key_newLog ctx settlement.logUserId params)
          else logs⟩ := by
  obtain ⟨box, outboxEq⟩ : ∃ box, box = newOutbox op settlement outboxes.nextKey :=
    ⟨_, rfl⟩
  have undelivered : box.delivered = false := by rw [outboxEq]; rfl
  have reads : db.outboxes.rows.find? (fun row => row.billingOperationId = op.id) = some box := by
    rw [inserted]
    simp only [Table.insert, List.find?_append]
    rw [List.find?_eq_none.mpr (by simpa using unsent)]
    simp [outboxEq, newOutbox]
  have stored : db.outboxes.find? box.id = some box := by
    rw [inserted, outboxEq]
    exact Table.find?_insert_new _
  have free : operationLogged box.params logs = false := by
    simp only [Logged, not_exists, not_and] at unlogged
    simpa [operationLogged, BillingOperationLogOutbox.params, outboxEq, newOutbox] using unlogged
  have reading : (DeliveryCall.reading op.id).proceed false ctx ⟨db, logs⟩ =
      (⟨db, logs⟩, .goesOn (.recording box)) := by
    simp [DeliveryCall.proceed, reads, undelivered]
  have recording : (DeliveryCall.recording box).proceed false ctx ⟨db, logs⟩ =
      (⟨db, if ctx.logConsumeEnabled then
          logs.insert (newLog ctx settlement.logUserId box.params)
            (key_newLog ctx settlement.logUserId box.params)
        else logs⟩, .goesOn (.acknowledging box ctx.logConsumeEnabled)) := by
    cases enabled : ctx.logConsumeEnabled with
    | false => simp [DeliveryCall.proceed, recordInsert, sql, enabled, DeliveryCall.afterRecord]
    | true =>
      have user : box.payload.userId = settlement.logUserId := by rw [outboxEq]; rfl
      simp [DeliveryCall.proceed, recordInsert, sql, enabled, free, user, DeliveryCall.afterRecord]
  have acknowledging : ∀ logs recorded,
      (DeliveryCall.acknowledging box recorded).proceed false ctx ⟨db, logs⟩ =
        (⟨{ db with
            outboxes := db.outboxes.modify box.id
              (BillingOperationLogOutbox.acknowledge recorded) }, logs⟩,
          .returns (.ok recorded)) := by
    intro _ _
    simp only [DeliveryCall.proceed, Bool.false_eq_true, if_false]
    rw [Table.updateWhere_of_find? stored (by simp [undelivered])]
    rfl
  refine ⟨db.outboxes.modify box.id
    (BillingOperationLogOutbox.acknowledge ctx.logConsumeEnabled), box.params,
    by rw [outboxEq]; rfl, ?_⟩
  simp only [deliverBillingOperationConsumeLog, DeliveryCall.remaining, DeliveryCall.run, reading,
    recording, acknowledging]

section Durable

variable {now : ℤ} {req : ConsumeRequest} {op : BillingOperation} {stores : Stores}

variable (ready : DurableReady now req op stores)

include ready

theorem DurableReady.unsettled :
    op.id ≠ 0 ∧ getBillingOperationFrozenResult false op.id op.fingerprint stores.db =
        .ok none := by
  refine ⟨?_, by simp [getBillingOperationFrozenResult, ready.found, ready.reserved]⟩
  have args := ready.valid
  simp only [operationArgumentsInvalid, Bool.or_eq_false_iff, decide_eq_false_iff_not] at args
  omega

theorem durable_refused (refused : ¬(req.settlement.accepted op = true ∧
      DurablePays req op stores.db)) :
    (postTextConsumeDurable now req op.id op.fingerprint stores).stores = stores := by
  rcases ready.unsettled with ⟨valid, unsettled⟩
  rw [← settleLocked_ready ready, not_exists] at refused
  cases settles : settleLocked now {} op.fingerprint req.settlement op stores.db with
  | ok reply => exact absurd settles (refused reply)
  | error _ =>
    simp [postTextConsumeDurable, valid, unsettled, settleTextBillingOperation,
      settleBillingOperation, ready.valid, ready.found, settles, TextConsumeResult.returns]

theorem durable_delivers {filled : BillingOperation} {settledNow : Bool} {committed : Database}
    (settles : settleLocked now {} op.fingerprint req.settlement op stores.db =
      .ok (filled, settledNow, committed)) :
    (postTextConsumeDurable now req op.id op.fingerprint stores).stores =
      (deliverBillingOperationConsumeLog req.logContext op.id ⟨committed, stores.logs⟩).1 := by
  rcases ready.unsettled with ⟨valid, unsettled⟩
  simp only [postTextConsumeDurable, valid, if_false, unsettled, settleTextBillingOperation,
    settleBillingOperation, ready.valid, ready.found, settles, Bool.false_eq_true]
  split <;> rfl

theorem durable_accounting (settles : req.settlement.accepted op = true ∧
      DurablePays req op stores.db) :
    accounting req.relayInfo op.reservedQuota stores
        (postTextConsumeDurable now req op.id op.fingerprint stores).stores =
      books req req.settlement.countUsage := by
  rcases (settleLocked_ready ready).mpr settles with ⟨⟨_, _, committed⟩, locked⟩
  rcases settleLocked_eq_ok locked with ⟨settled, _⟩ |
    ⟨_, _, tokens, users, chans, outcomes, charges, countsUser, counts, committedEq⟩
  · simp [ready.reserved] at settled
  have outboxesEq : committed.outboxes = stores.db.outboxes.insert
      (newOutbox op req.settlement) (key_newOutbox op req.settlement) := by
    rw [committedEq]
  rcases deliver_fresh ready.unsent ready.unlogged ready.sql outboxesEq with
    ⟨outboxes, params, quotaEq, delivered⟩
  rw [countUserUsage_ok ready, Except.ok.injEq] at countsUser
  rw [countChannelUsage_ok ready, Except.ok.injEq] at counts
  have charged := column_charged (adjustToken_charged charges)
  rcases ready.user with ⟨_, userFound⟩
  rcases ready.channel with ⟨_, channelFound⟩
  rw [durable_delivers ready locked, delivered]
  simp only [accounting, books, committedEq, ← countsUser, ← counts, Accounting.mk.injEq]
  refine ⟨?_, column_counted userFound _ _ _ rfl, column_counted userFound _ _ _ rfl, ?_, ?_⟩
  · rw [ready.owns.token, ready.playground, settlement_actualQuota] at charged
    rw [charged]
    split <;> omega
  · have counted := column_counted channelFound
      (req.settlement.countUsage && decide (req.summary.quota ≠ 0))
      (Channel.countUsage req.summary.quota) Model.Channel.usedQuota rfl
    rw [counted]
    by_cases free : req.summary.quota = 0
    · simp [free]
    · simp [free]
  · cases req.logContext.logConsumeEnabled with
    | false => simp
    | true =>
      have logged := @drop_insert stores.logs req.logContext req.settlement.logUserId params
      rw [quotaEq] at logged
      exact logged

end Durable

/-! ## The two settlements compared -/

namespace ConsumeRequest

def toolSurcharge (req : ConsumeRequest) : ℚ :=
  (calculateTextToolCallSurcharge req.settings req.ctx req.relayInfo
    req.relayInfo.priceData.groupRatioInfo.groupRatio).2

theorem summary_hasBillableUsage (req : ConsumeRequest) :
    req.summary.hasBillableUsage = true ↔
      0 < intSum req.billedUsage.promptTokens req.billedUsage.completionTokens ∨
        req.toolSurcharge ≠ 0 := by
  have surcharge : req.summary.toolCallSurchargeQuota = req.toolSurcharge := by
    rw [summary, settledSummary_eq]
    rfl
  simp [TextQuotaSummary.hasBillableUsage, req.summary_totalTokens, surcharge]

theorem unbillable_quota_pos_iff {req : ConsumeRequest}
    (unbillable : req.summary.hasBillableUsage = false) :
    0 < req.summary.quota ↔ 1 / 2 ≤ req.exactPrice := by
  have unpriced : (calculateTextQuotaSummary req.settings req.ctx req.relayInfo
      req.usage).hasBillableUsage = false := by
    rw [summary, settledSummary_eq] at unbillable
    exact unbillable
  simp only [summary, settledSummary, exactPrice]
  cases tiered : tieredSettlement req.settings req.relayInfo req.usage
      (calculateTextQuotaSummary req.settings req.ctx req.relayInfo
        req.usage).isClaudeUsageSemantic with
  | none =>
    have idle : (calculateTextQuotaSummary req.settings req.ctx req.relayInfo
        req.usage).quota = 0 := by
      have unfinished : (unpricedSummary req.settings req.ctx req.relayInfo
        req.usage).hasBillableUsage = false := unpriced
      simp [calculateTextQuotaSummary, TextQuotaSummary.finalQuota, unfinished]
    simp only [idle, unpriced, Bool.false_eq_true, if_false]
    norm_num
  | some reply =>
    rcases reply with ⟨_, _⟩
    unfold tieredSettlement at tiered
    split at tiered
    next => simp at tiered
    next => exact (quota_signs (composeTieredTextQuota_rounds _ tiered)).2

theorem countUsage_iff (req : ConsumeRequest) :
    req.settlement.countUsage = true ↔
      intSum req.billedUsage.promptTokens req.billedUsage.completionTokens ≠ 0 := by
  have total := req.summary_totalTokens
  simp only [settlement, total, decide_eq_true_eq]

end ConsumeRequest

/-- The two settlements leave the same books, and a quota that is not zero was added to the
counters of the user and of the channel. -/
def AccountsAlike (now : ℤ) (req : ConsumeRequest) (sess : Option BillingSession)
    (held : ℤ) (direct : Stores) (op : BillingOperation) (durable : Stores) : Prop :=
  let charged := accounting req.relayInfo held direct (postTextConsumeDirect req sess direct).stores
  accounting req.relayInfo op.reservedQuota durable
      (postTextConsumeDurable now req op.id op.fingerprint durable).stores =
    charged ∧
  (req.summary.quota ≠ 0 →
    charged.userUsedQuota = req.summary.quota ∧
      charged.channelUsedQuota = req.summary.quota)

/-- Usage whose two settlements can agree: the durable one is accepted, and without tokens
there is nothing to charge. -/
structure ConsumeRequest.Comparable (req : ConsumeRequest) : Prop where
  fits : req.billedUsage.totalFits = true
  kept : req.removedTokens = 0
  price : -(1 / 2) < req.exactPrice
  empty : req.billedUsage.promptTokens + req.billedUsage.completionTokens = 0 →
    req.toolSurcharge = 0 ∧ req.exactPrice < 1 / 2

section Compared

variable {now held : ℤ} {req : ConsumeRequest} {sess : Option BillingSession}
  {direct durable : Stores} {op : BillingOperation}

theorem ConsumeRequest.Comparable.accepted (alike : req.Comparable)
    (owns : req.Owns op) : req.settlement.accepted op = true := by
  have ints : req.RemovesInts := by
    rw [ConsumeRequest.RemovesInts, alike.kept]
    norm_num
  rw [ConsumeRequest.accepted_iff owns ints, ← not_lt, req.quota_neg_iff, not_le]
  exact ⟨alike.price, alike.fits, alike.kept⟩

theorem accountsAlike_of_comparable (directReady : DirectReady req sess held direct)
    (durableReady : DurableReady now req op durable) (alike : req.Comparable)
    (directPays : DirectPays req held direct.db) (durablePays : DurablePays req op durable.db) :
    AccountsAlike now req sess held direct op durable := by
  have accepted := alike.accepted durableReady.owns
  obtain ⟨⟨prompt, completion⟩, fits⟩ : ((0 ≤ req.billedUsage.promptTokens ∧
      0 ≤ req.billedUsage.completionTokens) ∧
      req.billedUsage.promptTokens + req.billedUsage.completionTokens < 2 ^ 63) := by
    simpa [Usage.totalFits] using alike.fits
  have total := intSum_of_small (by omega) fits
  have billable := req.summary_hasBillableUsage
  have counts := req.countUsage_iff
  rw [total] at billable counts
  simp only [AccountsAlike, durable_accounting durableReady ⟨accepted, durablePays⟩,
    direct_accounting_paid directReady directPays]
  by_cases empty : req.billedUsage.promptTokens + req.billedUsage.completionTokens = 0
  · rcases alike.empty empty with ⟨free, _⟩
    have unbillable : req.summary.hasBillableUsage = false := by
      simp [← Bool.not_eq_true, billable, empty, free]
    have uncounted : req.settlement.countUsage = false := by
      simp [← Bool.not_eq_true, counts, empty]
    have pos := ConsumeRequest.unbillable_quota_pos_iff unbillable
    have neg := req.quota_neg_iff
    have price := alike.price
    refine ⟨by rw [unbillable, uncounted], ?_⟩
    intro charged
    rcases lt_or_gt_of_ne charged with below | above
    · have := neg.mp below
      linarith
    · have := pos.mp above
      linarith
  · have isBillable : req.summary.hasBillableUsage = true := billable.mpr (.inl (by omega))
    have counted : req.settlement.countUsage = true := counts.mpr empty
    rw [isBillable, counted]
    exact ⟨rfl, fun _ => ⟨rfl, rfl⟩⟩

/-- What equal accounts say about the request. -/
theorem comparable_of_accountsAlike (directReady : DirectReady req sess held direct)
    (durableReady : DurableReady now req op durable) (ints : req.RemovesInts)
    (logging : req.logContext.logConsumeEnabled = true)
    (alike : AccountsAlike now req sess held direct op durable) :
    req.Comparable ∧ DirectPays req held direct.db ∧ DurablePays req op durable.db := by
  rcases alike with ⟨same, counters⟩
  -- A refused durable settlement logs nothing, and the direct one always logs its quota.
  have settles : req.settlement.accepted op = true ∧
      DurablePays req op durable.db := by
    by_contra refused
    rw [durable_refused durableReady refused, direct_accounting directReady] at same
    have logs := congrArg Accounting.loggedQuotas same
    simp [accounting, books, logging] at logs
  rw [durable_accounting durableReady settles] at same
  have pays : DirectPays req held direct.db := by
    by_contra unpaid
    rcases column_unpaid unpaid with ⟨playground, _, unchanged⟩
    rw [direct_accounting directReady] at same
    have charges := congrArg Accounting.tokenCharge same
    simp only [books, playground, Bool.false_eq_true, if_false, unchanged] at charges
    omega
  rw [direct_accounting_paid directReady pays] at same counters
  rcases (ConsumeRequest.accepted_iff durableReady.owns ints).mp settles.1 with
    ⟨nonneg, fits, kept⟩
  obtain ⟨⟨prompt, completion⟩, small⟩ : ((0 ≤ req.billedUsage.promptTokens ∧
      0 ≤ req.billedUsage.completionTokens) ∧
      req.billedUsage.promptTokens + req.billedUsage.completionTokens < 2 ^ 63) := by
    simpa [Usage.totalFits] using fits
  have total := intSum_of_small (by omega) small
  refine ⟨⟨fits, kept, ?_, ?_⟩, pays, settles.2⟩
  · rwa [← not_lt, req.quota_neg_iff, not_le] at nonneg
  · intro empty
    have uncounted : req.settlement.countUsage = false := by
      simp [← Bool.not_eq_true, req.countUsage_iff, total, empty]
    have unbillable : req.summary.hasBillableUsage = false := by
      have reqs := congrArg Accounting.userRequestCount same
      cases billable : req.summary.hasBillableUsage with
      | false => rfl
      | true => simp [books, uncounted, billable] at reqs
    refine ⟨?_, ?_⟩
    · have billable := req.summary_hasBillableUsage
      simpa [unbillable, total, empty] using billable
    · by_contra large
      have pos := (ConsumeRequest.unbillable_quota_pos_iff unbillable).mpr (by linarith)
      have counted := (counters (by omega)).1
      simp only [books, unbillable, Bool.false_eq_true, if_false] at counted
      omega

end Compared

/-- A durable and a direct settlement of one request account alike exactly when the durable
one is accepted, the token pays in both, and a request without tokens has no tool surcharge
and no tiered price that rounds to something. -/
theorem text_accounting_alike_iff (now held : ℤ) (req : ConsumeRequest)
    (sess : Option BillingSession) (direct durable : Stores) (op : BillingOperation)
    (directReady : DirectReady req sess held direct)
    (durableReady : DurableReady now req op durable) (ints : req.RemovesInts) :
    (req.Comparable → DirectPays req held direct.db → DurablePays req op durable.db →
      AccountsAlike now req sess held direct op durable) ∧
    (req.logContext.logConsumeEnabled = true →
      (AccountsAlike now req sess held direct op durable ↔
        req.Comparable ∧ DirectPays req held direct.db ∧ DurablePays req op durable.db)) := by
  refine ⟨accountsAlike_of_comparable directReady durableReady, ?_⟩
  intro logging
  constructor
  · exact comparable_of_accountsAlike directReady durableReady ints logging
  · rintro ⟨comparable, directPays, durablePays⟩
    exact accountsAlike_of_comparable directReady durableReady comparable directPays durablePays

/-! ## A surcharge without tokens -/

def sampleStores : Stores :=
  ⟨(reserveBillingOperation {} sampleRequest sampleDatabase).2, Table.empty⟩

def sampleOpenSession : BillingSession :=
  { isPlayground := false, preConsumedQuota := 30, tokenConsumed := 30 }

theorem sample_countable (searches : ℤ) (reported : Option UpstreamUsage) :
    Countable (sampleConsume 14 searches reported) sampleStores.db := by
  have user : sampleStores.db.users.find? 3 = some ⟨3, 0, 0⟩ := by decide
  have chan : sampleStores.db.channels.find? 5 = some ⟨5, 0⟩ := by decide
  exact ⟨⟨_, user⟩, ⟨_, chan⟩⟩

theorem sample_directReady (searches : ℤ) (reported : Option UpstreamUsage) :
    DirectReady (sampleConsume 14 searches reported) (some sampleOpenSession) 30 sampleStores where
  toCountable := sample_countable searches reported
  opened := by simp [sampleOpenSession, sampleConsume, sampleRelayInfo]
  unopened := by simp

theorem sample_durableReady (searches : ℤ) (reported : Option UpstreamUsage) :
    DurableReady 0 (sampleConsume 14 searches reported) sampleOperation sampleStores where
  toCountable := sample_countable searches reported
  owns := ⟨rfl, rfl, rfl⟩
  playground := rfl
  valid := by decide
  found := by decide
  reserved := rfl
  unsent := by decide
  unlogged := by simp [Logged, sampleStores, Table.empty]
  checkpoint := ⟨_, rfl⟩
  sql := rfl

theorem text_accounting_alike_iff_sample :
    AccountsAlike 0 (sampleConsume 14 0 (some sampleUsage)) (some sampleOpenSession) 30 sampleStores
      sampleOperation sampleStores := by
  refine ((text_accounting_alike_iff 0 30 _ _ _ _ _ (sample_directReady 0 (some sampleUsage))
    (sample_durableReady 0 (some sampleUsage)) (by
      unfold ConsumeRequest.RemovesInts
      decide +kernel)).2 rfl).mpr ⟨?_, ?_, ?_⟩
  · exact ⟨by decide +kernel, by decide +kernel, by decide +kernel, by decide +kernel⟩
  · exact .inr (.inr ⟨⟨7, 70, 30, false⟩, by decide +kernel, .inl (by decide +kernel)⟩)
  · exact .inr (.inr ⟨⟨7, 70, 30, false⟩, by decide +kernel, by decide +kernel⟩)

/-- One web search and no tokens: the direct settlement counts the request, the durable one
charges it without counting it. -/
theorem surcharge_counted_once :
    ¬∀ (now held : ℤ) (req : ConsumeRequest) (sess : Option BillingSession)
      (direct durable : Stores) (op : BillingOperation),
      DirectReady req sess held direct → DurableReady now req op durable →
      req.ReportNonNegative → req.RemovesInts → req.PricesNonneg →
      req.logContext.logConsumeEnabled = true →
        AccountsAlike now req sess held direct op durable := by
  intro alike
  have accounts := alike 0 30 (sampleConsume 14 1 (some {})) (some sampleOpenSession) sampleStores
    sampleStores sampleOperation (sample_directReady 1 (some {})) (sample_durableReady 1 (some {}))
    (by
      intro _ reported
      simp only [sampleConsume, Option.mem_def, Option.some.injEq] at reported
      rw [← reported]
      exact ⟨by constructor <;> decide, by simp⟩)
    (by
      unfold ConsumeRequest.RemovesInts
      decide +kernel)
    ⟨by decide, by decide, by decide,
      by simp [sampleConsume, sampleRelayInfo], by simp [sampleConsume, sampleSettings]⟩ rfl
  have counted := congrArg Accounting.userRequestCount accounts.1
  revert counted
  decide +kernel

end NewApi.Service
