import NewApi.Billing.Ledger
import NewApi.Library.Concurrent
import NewApi.Quota.TokenSystem
import NewApi.Service.BillingSession

/-!
# Requests on one limited token

A request without a durable operation reads its token, compares, and takes the quota in a later
statement. Whether `BatchUpdateEnabled` is on is chosen for each call.
-/

namespace NewApi.Quota

open Concurrent Transition Relational Table Concurrent.Program
open NewApi.Model (BillingAction BillingOperation ModelError TokenCharged)
open NewApi.Service (BillingSession TrustInputs)

/-- A request that is billed through a session, and the number of its turns. -/
structure DirectRequest where
  tokenId : ℤ
  tokenKey : String
  isPlayground : Bool
  trust : TrustInputs
  quota : ℤ
  turns : ℕ

/-- The calls on a session. -/
inductive SessionStep where
  | reserve (targetQuota : ℤ)
  | settle (actualQuota : ℤ)
  | refund

/-- What a request asks of the outside: its next step and the statements on its token. -/
inductive TokenCall where
  | nextStep (held : ℤ)
  | getTokenById (id : ℤ)
  | getTokenByKey (key : String)
  | increaseTokenQuota (id quota : ℤ)
  | decreaseTokenQuota (id quota : ℤ)

/-- What the session of a call has reserved, when the next call on it is chosen. -/
def TokenCall.reserved : TokenCall → Option ℤ
  | nextStep held => some held
  | _ => none

def TokenCall.takesFrom : TokenCall → Option ℤ
  | decreaseTokenQuota id _ => some id
  | _ => none

def SessionStep.cost : SessionStep → Option ℤ
  | settle actualQuota => some actualQuota
  | _ => none

abbrev TokenCall.Answer : TokenCall → Type
  | nextStep _ => SessionStep
  | getTokenById _ => Except ModelError Token
  | getTokenByKey _ => Except ModelError Token
  | increaseTokenQuota _ _ => Option ModelError
  | decreaseTokenQuota _ _ => Option ModelError

/-- What the surroundings choose for a call: the next call on the session, the cached token,
`BatchUpdateEnabled`, the clock and whether the database answers. -/
structure TokenChoice where
  step : SessionStep := .refund
  cached : Option Token := none
  batched : Bool := false
  now : ℤ := 0
  succeeds : Bool := true

abbrev TokenProgram := Program TokenCall TokenCall.Answer

section Programs

variable (formatQuota : ℤ → String) (req : DirectRequest)

/-- The token that `PreConsumeTokenQuota` compares with. -/
def readToken : TokenProgram (Except ModelError Token) :=
  if 0 < req.tokenId then ask (TokenCall.getTokenById req.tokenId)
  else ask (TokenCall.getTokenByKey req.tokenKey)

def quotaNotEnoughMessage (remainQuota quota : ℤ) : String :=
  "token quota is not enough, token remain quota: " ++ formatQuota remainQuota ++
    ", need quota: " ++ formatQuota quota

def preConsumeTokenQuota (quota : ℤ) : TokenProgram (Option ModelError) :=
  if quota < 0 then
    pure (some (.message quotaNegativeMessage))
  else if req.isPlayground then
    pure none
  else do
    match ← readToken req with
    | .error err => pure (some err)
    | .ok token =>
      if !req.trust.tokenUnlimited && token.remainQuota < quota then
        pure (some (.message (quotaNotEnoughMessage formatQuota token.remainQuota quota)))
      else
        ask (TokenCall.decreaseTokenQuota req.tokenId quota)

/-- The token call of `preConsume`. -/
def preConsumeToken : TokenProgram (Option ModelError) :=
  let effectiveQuota := if req.trust.shouldTrust req.quota then 0 else req.quota
  if 0 < effectiveQuota then preConsumeTokenQuota formatQuota req effectiveQuota
  else pure none

def preConsume (sess : BillingSession) :
    TokenProgram (BillingSession × Option ModelError) := do
  let out ← preConsumeToken formatQuota req
  let result := sess.preConsume req.trust out none req.quota 0
  pure (result.session, result.error)

/-- The token call of `Reserve`. -/
def reserveToken (sess : BillingSession) (targetQuota : ℤ) :
    TokenProgram (Option ModelError) :=
  if sess.settled || sess.refunded || sess.trusted ||
      targetQuota ≤ sess.preConsumedQuota || sess.isPlayground then
    pure none
  else
    preConsumeTokenQuota formatQuota req (targetQuota - sess.preConsumedQuota)

def reserve (sess : BillingSession) (targetQuota : ℤ) : TokenProgram BillingSession := do
  let out ← reserveToken formatQuota req sess targetQuota
  pure (sess.reserve out targetQuota 0).session

/-- The token call of `Settle`. -/
def settleToken (sess : BillingSession) (actualQuota : ℤ) :
    TokenProgram (Option ModelError) :=
  let delta := actualQuota - sess.preConsumedQuota
  if sess.settled || delta = 0 || sess.isPlayground then pure none
  else if 0 < delta then preConsumeTokenQuota formatQuota req delta
  else ask (TokenCall.increaseTokenQuota req.tokenId (-delta))

def settle (sess : BillingSession) (actualQuota : ℤ) : TokenProgram BillingSession := do
  let out ← settleToken formatQuota req sess actualQuota
  pure (sess.settle out actualQuota 0).session

/-- `RefundSync`. -/
def refund (sess : BillingSession) : TokenProgram BillingSession :=
  match sess.beginRefund with
  | (begun, .ok (some op)) =>
    if op.refundToken then do
      let out ← ask (TokenCall.increaseTokenQuota req.tokenId op.tokenQuota)
      pure (begun.finishRefund (op.execute out 0).1).1
    else
      pure (begun.finishRefund (op.execute none 0).1).1
  | (begun, _) => pure begun

def runSession : ℕ → BillingSession → TokenProgram Unit
  | 0, _ => pure ()
  | turns + 1, sess => do
      match ← ask (TokenCall.nextStep sess.preConsumedQuota) with
      | .reserve targetQuota =>
        let held ← reserve formatQuota req sess targetQuota
        runSession turns held
      | .settle actualQuota =>
        let settled ← settle formatQuota req sess actualQuota
        runSession turns settled
      | .refund =>
        let refunded ← refund req sess
        runSession turns refunded

/-- `NewBillingSession` and the calls on the session. -/
def runRequest : TokenProgram Unit := do
  let opened ← preConsume formatQuota req { isPlayground := req.isPlayground }
  match opened.2 with
  | some _ => pure ()
  | none => runSession formatQuota req req.turns opened.1

end Programs

/-- An amount that was taken, and the balance that it was taken from. -/
structure Withdrawal where
  (amount balance : ℤ)

/-- The token system, the balances that requests have read, and what was taken since. -/
structure TokenTraffic where
  system : TokenSystem
  reads : ℕ → ℤ
  withdrawals : List Withdrawal

/-- What happens beside the requests: flushes and durable billing. -/
inductive TokenEvent where
  | flush (action : QuotaAction)
  | bill (action : BillingAction)

namespace TokenTraffic

def withQuota (s : TokenTraffic) (quota : QuotaSystem) : TokenTraffic :=
  { s with system := { s.system with quota } }

def noteRead (s : TokenTraffic) (t : ℕ) (read : Except ModelError Token) :
    Except ModelError Token × TokenTraffic :=
  match read with
  | .ok token =>
    (read, { s with reads := Function.update s.reads t token.remainQuota })
  | .error _ => (read, s)

def perform (t : ℕ) :
    (call : TokenCall) → TokenChoice → TokenTraffic → call.Answer × TokenTraffic
  | .nextStep _, pick, s => (pick.step, s)
  | .getTokenById id, pick, s =>
    s.noteRead t (if pick.succeeds then getTokenById s.system.quota.tokens id else .error .database)
  | .getTokenByKey key, pick, s =>
    s.noteRead t (match pick.cached with
      | some token => .ok token
      | none =>
        if pick.succeeds then
          match s.system.quota.tokens.rows.find? (·.key = key) with
          | some token => .ok token
          | none => .error .recordNotFound
        else .error .database)
  | .increaseTokenQuota id quota, pick, s =>
    let result := increaseTokenQuota s.system.quota.tokens s.system.quota.stores
      pick.batched id quota pick.now pick.succeeds
    (result.2.2, s.withQuota (s.system.quota.settle id quota result))
  | .decreaseTokenQuota id quota, pick, s =>
    let result := decreaseTokenQuota s.system.quota.tokens s.system.quota.stores
      pick.batched id quota pick.now pick.succeeds
    (result.2.2,
      { s.withQuota (s.system.quota.settle id (-quota) result) with
        withdrawals :=
          if result.2.2 = none then
            s.withdrawals ++ [⟨quota, s.system.quota.balance id⟩]
          else s.withdrawals })

def occur (event : TokenEvent) (s : TokenTraffic) : TokenTraffic :=
  match event with
  | .flush action => s.withQuota (s.system.quota.next action)
  | .bill action => { s with system := s.system.bill action }

/-- A direct settlement costs at most what its session has reserved. -/
def CallAllowed (_ : ℕ) (call : TokenCall) (pick : TokenChoice) (_ : TokenTraffic) : Prop :=
  call.reserved.all fun held => pick.step.cost.all (· ≤ held)
deriving Decidable

/-- Only flushes and billing calls happen, and a durable settlement costs at most what its
operation has reserved. -/
def EventAllowed (event : TokenEvent) (s : TokenTraffic) : Prop :=
  match event with
  | .flush action => action.Flushes
  | .bill (.settle _ _ opId _ settlement) =>
    ∀ op ∈ s.system.db.operations.find? opId, settlement.actualQuota ≤ op.reservedQuota
  | .bill (.reserve _ _) => True
  | .bill (.refund _ _ _) => True

/-- The quota that a direct call has compared with is still there when it takes its quota. -/
def CallCareful (t : ℕ) (call : TokenCall) (pick : TokenChoice) (s : TokenTraffic) :
    Prop :=
  CallAllowed t call pick s ∧
    ∀ id ∈ call.takesFrom, s.reads t ≤ s.system.quota.balance id

/-- The row that a durable reservation compares with does not show more than the balance, and
no failed flush drops a credit. -/
def EventCareful (tokenId : ℤ) (event : TokenEvent) (s : TokenTraffic) : Prop :=
  EventAllowed event s ∧
    match event with
    | .flush action => ¬s.system.quota.DropsCredit tokenId action
    | .bill (.reserve _ req) =>
      req.tokenId = tokenId → req.isPlayground = false → 0 < req.reservedQuota →
        0 ≤ s.system.quota.pending tokenId
    | .bill (.settle _ _ _ _ _) => True
    | .bill (.refund _ _ _) => True

instance (t : ℕ) (call : TokenCall) (pick : TokenChoice) (s : TokenTraffic) :
    Decidable (CallCareful t call pick s) :=
  inferInstanceAs (Decidable (_ ∧ ∀ id ∈ call.takesFrom, _ ≤ _))

instance (event : TokenEvent) (s : TokenTraffic) : Decidable (EventAllowed event s) :=
  match event with
  | .flush action => inferInstanceAs (Decidable action.Flushes)
  | .bill (.settle _ _ opId _ settlement) =>
    inferInstanceAs (Decidable (∀ op ∈ s.system.db.operations.find? opId,
      settlement.actualQuota ≤ op.reservedQuota))
  | .bill (.reserve _ _) => .isTrue trivial
  | .bill (.refund _ _ _) => .isTrue trivial

instance (tokenId : ℤ) (event : TokenEvent) (s : TokenTraffic) :
    Decidable (EventCareful tokenId event s) :=
  match event with
  | .flush _ => inferInstanceAs (Decidable (_ ∧ ¬_))
  | .bill (.reserve _ req) =>
    inferInstanceAs (Decidable (True ∧ (req.tokenId = tokenId →
      req.isPlayground = false → 0 < req.reservedQuota →
        0 ≤ s.system.quota.pending tokenId)))
  | .bill (.settle now faults opId fingerprint settlement) =>
    inferInstanceAs (Decidable
      (EventAllowed (.bill (.settle now faults opId fingerprint settlement)) s ∧
        True))
  | .bill (.refund _ _ _) => inferInstanceAs (Decidable (True ∧ True))

end TokenTraffic

abbrev TokenPool := Pool TokenTraffic TokenCall TokenCall.Answer Unit

namespace TokenPool

def start (formatQuota : ℤ → String) (reqs : ℕ → DirectRequest) (sys : TokenSystem) :
    TokenPool where
  state := { system := sys, reads := fun _ => 0, withdrawals := [] }
  threads t := runRequest formatQuota (reqs t)

def step : TokenPool → Action TokenChoice TokenEvent → TokenPool :=
  Pool.step TokenTraffic.perform TokenTraffic.occur

/-- The steps of requests and of what happens beside them. -/
def Allowed : TokenPool → Action TokenChoice TokenEvent → Prop :=
  Pool.Allowed TokenTraffic.CallAllowed TokenTraffic.EventAllowed

/-- Nothing is taken on the strength of a quota that is not there any more. -/
def Careful (tokenId : ℤ) : TokenPool → Action TokenChoice TokenEvent → Prop :=
  Pool.Allowed TokenTraffic.CallCareful (TokenTraffic.EventCareful tokenId)

instance (pool : TokenPool) (action : Action TokenChoice TokenEvent) :
    Decidable (pool.Allowed action) :=
  Pool.decidableAllowed TokenTraffic.CallAllowed TokenTraffic.EventAllowed pool action

instance (tokenId : ℤ) (pool : TokenPool) (action : Action TokenChoice TokenEvent) :
    Decidable (Careful tokenId pool action) :=
  Pool.decidableAllowed TokenTraffic.CallCareful (TokenTraffic.EventCareful tokenId) pool action

end TokenPool

/-- A limited token with a balance, and reservations that are none below zero. -/
structure Solvent (tokenId : ℤ) (sys : TokenSystem) : Prop where
  flushes : ∀ flush ∈ sys.quota.flushes, QuotaSystem.FlushSound flush
  limited : (sys.quota.tokens.find? tokenId).map Token.unlimitedQuota = some false
  balance : 0 ≤ sys.quota.balance tokenId
  reservedNonneg : ∀ op ∈ sys.db.operations.rows, 0 ≤ op.reservedQuota

namespace Solvent

variable {tokenId : ℤ} {sys : TokenSystem}

variable (solvent : Solvent tokenId sys)

include solvent

theorem stored : ∃ row, sys.quota.tokens.find? tokenId = some row := by
  rcases Option.map_eq_some_iff.mp solvent.limited with ⟨row, found, _⟩
  exact ⟨row, found⟩

theorem next {action : QuotaAction}
    (flushes : action.Flushes) (keeps : ¬sys.quota.DropsCredit tokenId action) :
    Solvent tokenId { sys with quota := sys.quota.next action } where
  flushes := QuotaSystem.flushes_next solvent.flushes flushes
  limited := by
    rw [QuotaSystem.next_unlimited flushes]
    exact solvent.limited
  balance := by
    rcases solvent.stored with ⟨_, found⟩
    exact le_trans solvent.balance (QuotaSystem.balance_le_next solvent.flushes flushes keeps found)
  reservedNonneg := solvent.reservedNonneg

theorem charged {key amount : ℤ} {db : Model.Database}
    (charge : TokenCharged key amount (billed sys.quota.tokens) db.tokens)
    (covers : key = tokenId → amount ≤ 0 ∨ amount ≤ sys.quota.balance tokenId)
    (reservedNonneg : ∀ op ∈ db.operations.rows, 0 ≤ op.reservedQuota) :
    Solvent tokenId
      { quota := { sys.quota with tokens := withBilled sys.quota.tokens db.tokens }
        db := db } where
  flushes := solvent.flushes
  limited := by
    rw [(QuotaSystem.balance_charged charge tokenId).2]
    exact solvent.limited
  balance := by
    rw [(QuotaSystem.balance_charged charge tokenId).1]
    have past := solvent.balance
    split
    next same =>
      rcases covers same.symm with _ | _
      · omega
      · omega
    · omega
  reservedNonneg := reservedNonneg

theorem bill {action : BillingAction} (settles : ∀ now faults opId fingerprint settlement,
      action = .settle now faults opId fingerprint settlement →
        ∀ op ∈ sys.db.operations.find? opId, settlement.actualQuota ≤ op.reservedQuota)
    (reserves : ∀ faults req, action = .reserve faults req →
      req.tokenId = tokenId → req.isPlayground = false → 0 < req.reservedQuota →
        0 ≤ sys.quota.pending tokenId) :
    Solvent tokenId (sys.bill action) := by
  have bills := sys.database.next_bills action
  simp only [TokenSystem.bill]
  generalize sys.database.next action = after at bills ⊢
  have uncharged : TokenCharged tokenId 0 (billed sys.quota.tokens) (billed sys.quota.tokens) :=
    .inl ⟨rfl, rfl⟩
  cases bills with
  | idle =>
    exact solvent.charged uncharged (fun _ => .inl le_rfl) solvent.reservedNonneg
  | migrate _ _ _ _ _ =>
    exact solvent.charged uncharged (fun _ => .inl le_rfl)
      (Model.reservedNonneg_modify (fun _ => rfl) solvent.reservedNonneg)
  | reserve faults req _ _ _ nonneg charge =>
    refine solvent.charged charge ?_ ?_
    · rintro rfl
      cases playground : req.isPlayground with
      | true => exact .inl le_rfl
      | false =>
        simp only [playground, Bool.false_eq_true, if_false] at charge
        rcases QuotaSystem.le_remain_of_charged charge solvent.limited with free | _
        · exact .inl free
        · by_cases pos : 0 < req.reservedQuota
          · right
            have none := reserves faults req rfl rfl playground pos
            simp only [QuotaSystem.balance]
            simp only [Bool.false_eq_true, if_false]
            omega
          · exact .inl (not_lt.mp pos)
    · intro op isRow
      simp only [mem_insert] at isRow
      rcases isRow with old | rfl
      · exact solvent.reservedNonneg op old
      · exact nonneg
  | settle now faults fingerprint op settlement _ _ _ _ found _ _ charges _ _ =>
      have atMost := settles now faults op.id fingerprint settlement rfl op found
      refine solvent.charged (Model.adjustToken_charged charges) (fun _ => .inl ?_)
        (Model.reservedNonneg_modify (fun _ => rfl) solvent.reservedNonneg)
      split
      · exact le_rfl
      · omega
  | refund _ _ op _ found _ returns =>
    have nonneg := solvent.reservedNonneg op (mem_of_find? found)
    refine solvent.charged (Model.returnReservation_charged nonneg returns) (fun _ => .inl ?_)
      (Model.reservedNonneg_modify (fun _ => rfl) solvent.reservedNonneg)
    split
    · exact le_rfl
    · omega

theorem settle {key delta : ℤ} {result : Tokens × BatchStores × Option ModelError}
    (posts : QuotaSystem.Posts { sys.quota with accepted := sys.quota.pending } key delta result)
    (free : (result.1.find? tokenId).map Token.unlimitedQuota =
      (sys.quota.tokens.find? tokenId).map Token.unlimitedQuota)
    (covers : key = tokenId → result.2.2 = none → 0 ≤ sys.quota.balance tokenId + delta) :
    Solvent tokenId { sys with quota := sys.quota.settle key delta result } where
  flushes := solvent.flushes
  limited := free.trans solvent.limited
  balance := by
    rcases solvent.stored with ⟨_, found⟩
    have past := solvent.balance
    simp only [QuotaSystem.balance_settle solvent.flushes posts found]
    split
    next takes => exact covers takes.1.symm takes.2
    · omega
  reservedNonneg := solvent.reservedNonneg

end Solvent

/-- What holds between the calls: the token is solvent, and so was each quota taken. -/
structure Covered (tokenId : ℤ) (s : TokenTraffic) : Prop where
  solvent : Solvent tokenId s.system
  withdrawals : ∀ withdrawal ∈ s.withdrawals, withdrawal.amount ≤ withdrawal.balance

namespace TokenTraffic

variable {tokenId : ℤ} {s later : TokenTraffic} {t : ℕ}

def SameRead (t : ℕ) (s later : TokenTraffic) : Prop :=
  later.reads t = s.reads t

theorem SameRead.refl (t : ℕ) (s : TokenTraffic) : SameRead t s s :=
  rfl

theorem SameRead.trans {first two third : TokenTraffic}
    (past : SameRead t first two) (after : SameRead t two third) :
    SameRead t first third :=
  Eq.trans after past

def HasRead (t : ℕ) : TokenCall → TokenTraffic → Prop
  | .decreaseTokenQuota _ quota, s => quota ≤ s.reads t
  | _, _ => True

theorem noteRead_system (s : TokenTraffic) (t : ℕ) (read : Except ModelError Token) :
    (s.noteRead t read).2.system = s.system ∧ (s.noteRead t read).2.withdrawals = s.withdrawals ∧
      ∀ other, other ≠ t → SameRead other s (s.noteRead t read).2 := by
  cases read with
  | ok _ =>
    exact ⟨rfl, rfl, fun _ apart => Function.update_of_ne apart _ _⟩
  | error _ => exact ⟨rfl, rfl, fun _ _ => rfl⟩

theorem covered_perform (covered : Covered tokenId s) {call : TokenCall}
    {pick : TokenChoice} (hasRead : HasRead t call s) (care : CallCareful t call pick s) :
    Covered tokenId (perform t call pick s).2 ∧
      ∀ other, other ≠ t → SameRead other s (perform t call pick s).2 := by
  have noted : ∀ read, Covered tokenId (s.noteRead t read).2 ∧
      ∀ other, other ≠ t → SameRead other s (s.noteRead t read).2 := by
    intro read
    rcases noteRead_system s t read with ⟨sys, withdrawals, same⟩
    refine ⟨⟨?_, ?_⟩, same⟩
    · rw [sys]
      exact covered.solvent
    · rw [withdrawals]
      exact covered.withdrawals
  cases call with
  | nextStep _ => exact ⟨covered, fun _ _ => rfl⟩
  | getTokenById _ | getTokenByKey _ => exact noted _
  | increaseTokenQuota id quota =>
    refine ⟨⟨?_, covered.withdrawals⟩, fun _ _ => rfl⟩
    refine covered.solvent.settle (QuotaSystem.increaseTokenQuota_posts _ pick.batched id quota
      pick.now pick.succeeds) (QuotaSystem.increaseTokenQuota_unlimited _ _ _ _ _ _ _ _) ?_
    intro _ accepted
    have nonneg : 0 ≤ quota := by
      by_contra neg
      simp [increaseTokenQuota, not_le.mp neg] at accepted
    have past := covered.solvent.balance
    omega
  | decreaseTokenQuota id quota =>
    have enough : quota ≤ s.system.quota.balance id := le_trans hasRead (care.2 id rfl)
    refine ⟨⟨?_, ?_⟩, fun _ _ => rfl⟩
    · refine covered.solvent.settle
        (QuotaSystem.decreaseTokenQuota_posts _ pick.batched id quota pick.now pick.succeeds)
        (QuotaSystem.decreaseTokenQuota_unlimited _ _ _ _ _ _ _ _) ?_
      rintro rfl _
      omega
    · intro withdrawal inWithdrawals
      simp only [perform] at inWithdrawals
      split at inWithdrawals
      · rcases List.mem_append.mp inWithdrawals with old | new
        · exact covered.withdrawals withdrawal old
        · rw [List.mem_singleton.mp new]
          exact enough
      · exact covered.withdrawals withdrawal inWithdrawals

theorem covered_occur (covered : Covered tokenId s) {event : TokenEvent}
    (care : EventCareful tokenId event s) :
    Covered tokenId (occur event s) ∧ ∀ other, SameRead other s (occur event s) := by
  rcases care with ⟨allowed, care⟩
  cases event with
  | flush _ =>
    exact ⟨⟨covered.solvent.next allowed care, covered.withdrawals⟩, fun _ => rfl⟩
  | bill _ =>
    refine ⟨⟨covered.solvent.bill ?_ ?_, covered.withdrawals⟩, fun _ => rfl⟩
    · rintro _ faults _ _ _ rfl
      exact allowed
    · rintro _ _ rfl
      exact care

end TokenTraffic

section Requests

variable {formatQuota : ℤ → String} {req : DirectRequest} {t : ℕ}

/-- A program takes no more than it has read, whatever the others do. -/
abbrev TakesRead {Result : Type} (t : ℕ) (program : TokenProgram Result)
    (s : TokenTraffic) : Prop :=
  Keeps TokenTraffic.perform (TokenTraffic.SameRead t) (TokenTraffic.CallCareful t)
    (TokenTraffic.HasRead t) t (fun _ _ => True) program s

theorem takesRead_pure {Result : Type} (result : Result) (s : TokenTraffic) :
    TakesRead t (pure result) s :=
  fun _ _ => trivial

theorem takesRead_ask {call : TokenCall}
    (calm : ∀ s, TokenTraffic.HasRead t call s) (s : TokenTraffic) :
    TakesRead t (ask call) s :=
  fun later _ => ⟨calm later, fun _ _ _ _ => trivial⟩

theorem takesRead_bind {First Second : Type} {first : TokenProgram First}
    {rest : First → TokenProgram Second} {s : TokenTraffic} (takes : TakesRead t first s)
    (goes : ∀ val later, TakesRead t (rest val) later) :
    TakesRead t (first >>= rest) s := by
  refine Keeps.bind (TokenTraffic.SameRead.refl t) ?_
  exact Keeps.mono takes fun val later _ => goes val later

variable (limited : req.trust.tokenUnlimited = false)

include limited

theorem takesRead_preConsumeTokenQuota (quota : ℤ) (s : TokenTraffic) :
    TakesRead t (preConsumeTokenQuota formatQuota req quota) s := by
  simp only [preConsumeTokenQuota]
  split
  · exact takesRead_pure _ s
  · split
    · exact takesRead_pure _ s
    · refine Keeps.bind (TokenTraffic.SameRead.refl t) ?_
      have compares : ∀ (read : Except ModelError Token) (after : TokenTraffic),
          (∀ token, read = .ok token → after.reads t = token.remainQuota) →
          TakesRead t (match read with
            | .error err => pure (some err)
            | .ok token =>
              if (!req.trust.tokenUnlimited && decide (token.remainQuota < quota)) = true then
                pure (some (.message (quotaNotEnoughMessage formatQuota token.remainQuota quota)))
              else
                ask (TokenCall.decreaseTokenQuota req.tokenId quota)) after := by
        intro read after shows
        cases read with
        | error _ => exact takesRead_pure _ after
        | ok token =>
          simp only [limited, Bool.not_false, Bool.true_and, decide_eq_true_eq]
          split
          · exact takesRead_pure _ after
          next enough =>
            intro _ same
            refine ⟨?_, fun _ _ _ _ => trivial⟩
            simp only [TokenTraffic.HasRead]
            rw [same, shows token rfl]
            exact not_lt.mp enough
      have noted : ∀ (read : Except ModelError Token) (now : TokenTraffic) (token : Token),
          (now.noteRead t read).1 = .ok token →
            (now.noteRead t read).2.reads t = token.remainQuota := by
        intro read _ _ isToken
        cases read with
        | error _ => cases isToken
        | ok _ =>
          cases isToken
          exact Function.update_self _ _ _
      simp only [readToken]
      split
      · intro later _
        refine ⟨trivial, ?_⟩
        intro pick _ final same
        refine compares _ final ?_
        intro token isToken
        rw [same]
        exact noted _ later token isToken
      · intro later _
        refine ⟨trivial, ?_⟩
        intro pick _ final same
        refine compares _ final ?_
        intro token isToken
        rw [same]
        exact noted _ later token isToken

theorem takesRead_runSession (turns : ℕ) (sess : BillingSession) (s : TokenTraffic) :
    TakesRead t (runSession formatQuota req turns sess) s := by
  induction turns generalizing sess s with
  | zero => exact takesRead_pure _ s
  | succ _ ih =>
    refine takesRead_bind (takesRead_ask (fun _ => by trivial) s) ?_
    intro step later
    cases step with
    | reserve _ =>
      refine takesRead_bind (takesRead_bind ?_ fun _ => takesRead_pure _)
        fun val final => ih val final
      simp only [reserveToken]
      split
      · exact takesRead_pure _ later
      · exact takesRead_preConsumeTokenQuota limited _ later
    | settle _ =>
      refine takesRead_bind (takesRead_bind ?_ fun _ => takesRead_pure _)
        fun val final => ih val final
      simp only [settleToken]
      split
      · exact takesRead_pure _ later
      · split
        · exact takesRead_preConsumeTokenQuota limited _ later
        · exact takesRead_ask (fun _ => by trivial) later
    | refund =>
      refine takesRead_bind ?_ fun val final => ih val final
      simp only [refund]
      split
      · split
        · exact takesRead_bind (takesRead_ask (fun _ => by trivial) later) fun _ => takesRead_pure _
        · exact takesRead_pure _ later
      · exact takesRead_pure _ later

theorem takesRead_runRequest (s : TokenTraffic) : TakesRead t (runRequest formatQuota req) s := by
  refine takesRead_bind (takesRead_bind ?_ fun _ => takesRead_pure _) ?_
  · rw [preConsumeToken]
    by_cases takes : 0 < if req.trust.shouldTrust req.quota then 0 else req.quota
    · rw [if_pos takes]
      exact takesRead_preConsumeTokenQuota limited _ s
    · rw [if_neg takes]
      exact takesRead_pure _ s
  · intro opened later
    cases opened.2 with
    | some _ => exact takesRead_pure _ later
    | none => exact takesRead_runSession limited _ _ later

end Requests

/-- In every run of requests that each bill the limited token, with careful steps, the token's
balance is never negative, and each quota that was taken was covered by the balance. -/
theorem limited_token_not_overdrawn (formatQuota : ℤ → String) {tokenId : ℤ}
    {reqs : ℕ → DirectRequest} {sys : TokenSystem} {pool : TokenPool}
    (limited : ∀ t, (reqs t).trust.tokenUnlimited = false) (solvent : Solvent tokenId sys)
    (reached : Reachable TokenPool.step (TokenPool.Careful tokenId)
      (TokenPool.start formatQuota reqs sys) pool) :
    0 ≤ pool.state.system.quota.balance tokenId ∧
      ∀ withdrawal ∈ pool.state.withdrawals, withdrawal.amount ≤ withdrawal.balance := by
  have start : (TokenPool.start formatQuota reqs sys).Holding TokenTraffic.perform
      (Covered tokenId) TokenTraffic.SameRead TokenTraffic.CallCareful TokenTraffic.HasRead
      (fun _ _ _ => True) :=
    ⟨⟨solvent, fun _ inNone => absurd inNone List.not_mem_nil⟩,
      fun t => takesRead_runRequest (limited t) _⟩
  have holding := Pool.holding_reachable reached TokenTraffic.SameRead.refl
    (fun _ _ _ _ => TokenTraffic.SameRead.trans)
    (fun _ _ _ _ covered hasRead careful =>
      TokenTraffic.covered_perform covered hasRead careful)
    (fun _ _ covered careful => TokenTraffic.covered_occur covered careful) start
  exact ⟨holding.state.solvent.balance, holding.state.withdrawals⟩

def sampleRequests (_ : ℕ) : DirectRequest where
  tokenId := 1
  tokenKey := "k"
  isPlayground := false
  trust := { forcePreConsume := false, trustQuota := 0, tokenUnlimited := false, tokenQuota := 100 }
  quota := 80
  turns := 1

def sampleTokenSystem : TokenSystem where
  quota := .start QuotaSystem.chargedTokens
  db :=
    { tokens := empty, users := empty, channels := empty
      operations := empty, outboxes := empty, outcomes := empty }

theorem sampleTokenSystem_solvent : Solvent 1 sampleTokenSystem where
  flushes := fun _ inNone => absurd inNone List.not_mem_nil
  limited := by decide
  balance := by decide
  reservedNonneg := fun _ inNone => absurd inNone List.not_mem_nil

def sampleTraffic : List (Action TokenChoice TokenEvent) :=
  [.perform 0 {}, .perform 0 { batched := true }, .occur (.flush .batchUpdate)] ++
    List.replicate 8 (.occur (.flush (.advance 0))) ++
    [.occur (.flush (.write 0 .tokenQuota 1 9 true)), .occur (.flush (.finish 0)),
      .perform 0 { step := .settle 30 }, .perform 0 {}]

theorem limited_token_not_overdrawn_sample :
    0 ≤ (sampleTraffic.foldl TokenPool.step
        (TokenPool.start toString sampleRequests sampleTokenSystem)).state.system.quota.balance 1 ∧
      ∀ withdrawal ∈ (sampleTraffic.foldl TokenPool.step
          (TokenPool.start toString sampleRequests sampleTokenSystem)).state.withdrawals,
        withdrawal.amount ≤ withdrawal.balance :=
  limited_token_not_overdrawn toString (fun _ => rfl) sampleTokenSystem_solvent
    (Reachable.of_run sampleTraffic _ (by decide))

def racingTraffic : List (Action TokenChoice TokenEvent) :=
  [.perform 0 {}, .perform 1 {}, .perform 0 {}, .perform 1 {}]

/-- Two requests overdraw the token. -/
theorem limited_token_overdrawn :
    ¬∀ (reqs : ℕ → DirectRequest) (sys : TokenSystem) (pool : TokenPool),
      (∀ t, (reqs t).trust.tokenUnlimited = false) → Solvent 1 sys →
      Reachable TokenPool.step TokenPool.Allowed (TokenPool.start toString reqs sys) pool →
        0 ≤ pool.state.system.quota.balance 1 ∧
          ∀ withdrawal ∈ pool.state.withdrawals, withdrawal.amount ≤ withdrawal.balance := by
  intro covered
  have run : Reachable TokenPool.step TokenPool.Allowed
      (TokenPool.start toString sampleRequests sampleTokenSystem)
      (racingTraffic.foldl TokenPool.step
        (TokenPool.start toString sampleRequests sampleTokenSystem)) :=
    Reachable.of_run racingTraffic _ (by decide)
  have overdrawn : (racingTraffic.foldl TokenPool.step
      (TokenPool.start toString sampleRequests sampleTokenSystem)).state.system.quota.balance 1 =
        -60 := by
    decide
  have solvent := (covered _ _ _ (fun _ => rfl) sampleTokenSystem_solvent run).1
  omega

end NewApi.Quota
