import NewApi.Library.Concurrent
import NewApi.Library.Text
import Mathlib.Algebra.Order.Ring.Int

/-!
# One-time authentication flows

`model/auth_flow.go` as programs of statements, with the transactions of the callers. What a
transaction writes is pending until it commits, and nobody else sees it. It locks the row that
it consumes and the token hash that it inserts: a statement of another client that needs one of
them waits. A read takes no lock, as on SQLite. Times are in nanoseconds.
-/

namespace NewApi.Auth

open Concurrent (Program)

/-- The errors of a flow. -/
inductive AuthFlowError where
  | invalid
  | expired
  | consumed
  | database
  | action

/-- A row of `auth_flows`. -/
structure AuthFlow where
  id : ℤ
  (tokenHash purpose provider intent : String)
  userId : ℤ
  (sessionId payload : String)
  expiresAt : ℤ
  consumedAt : Option ℤ

/-- What a flow is created from. -/
structure AuthFlowCreate where
  (purpose provider intent : String)
  userId : ℤ
  (sessionId payload : String)
  expiresAt : ℤ

/-- What a flow is looked up by beside its token. -/
structure AuthFlowMatch where
  (purpose provider intent : String)
  userId : ℤ
  sessionId : String

def authFlowDefaultCleanupRetention : ℤ := 24 * 60 * 60 * 1000000000

/-- `time.Time{}`. -/
def zeroTime : ℤ := -62135596800 * 1000000000

/-- The columns that `applyAuthFlowMatch` compares besides the token hash. -/
def AuthFlowMatch.Accepts (wanted : AuthFlowMatch) (flow : AuthFlow) : Prop :=
  flow.purpose = wanted.purpose ∧
    (wanted.provider ≠ "" → flow.provider = wanted.provider) ∧
    (wanted.intent ≠ "" → flow.intent = wanted.intent) ∧
    (wanted.userId ≠ 0 → flow.userId = wanted.userId) ∧
    (wanted.sessionId ≠ "" → flow.sessionId = wanted.sessionId)
deriving Decidable

def AuthFlow.unconsumed (flow : AuthFlow) : AuthFlow :=
  { flow with consumedAt := none }

/-! ## The database -/

/-- The writes of a transaction before its end. -/
inductive FlowWrite where
  | consume (id now : ℤ)
  | insert (flow : AuthFlow) (purpose assertion : String)
  | effect (label : String)

/-- A call of `ConsumeAuthFlowWithAction` that returned its flow. -/
structure Consumption where
  thread : ℕ
  token : String
  wanted : AuthFlowMatch
  flow : AuthFlow

/-- The clock, the flows, the effects of actions, and the transactions that are open. -/
structure AuthFlowSystem where
  now : ℤ
  flows : List AuthFlow
  nextId : ℤ
  effects : List (ℕ × String)
  pending : List (ℕ × FlowWrite)
  /-- The flows that `CreateAuthFlow` has stored. -/
  created : List AuthFlow
  consumptions : List Consumption
  /-- The rows of the committed claims, each with its purpose and assertion. -/
  claims : List (AuthFlow × String × String)

namespace AuthFlowSystem

/-- No flow has been created. -/
def start (now : ℤ) : AuthFlowSystem where
  now := now
  flows := []
  nextId := 1
  effects := []
  pending := []
  created := []
  consumptions := []
  claims := []

def writesOf (s : AuthFlowSystem) (t : ℕ) : List FlowWrite :=
  (s.pending.filter (·.1 = t)).map (·.2)

def effectsOf (s : AuthFlowSystem) (t : ℕ) : List String :=
  (s.effects.filter (·.1 = t)).map (·.2)

end AuthFlowSystem

def FlowWrite.inserted? : FlowWrite → Option AuthFlow
  | .insert flow _ _ => some flow
  | _ => none

def FlowWrite.claimed? : FlowWrite → Option (AuthFlow × String × String)
  | .insert flow purpose assertion => some (flow, purpose, assertion)
  | _ => none

def FlowWrite.consumed? : FlowWrite → Option ℤ
  | .consume id _ => some id
  | _ => none

def FlowWrite.effect? : FlowWrite → Option String
  | .effect label => some label
  | _ => none

/-- `consumed_at = now` where the id is the given one. -/
def markConsumed (id now : ℤ) (flows : List AuthFlow) : List AuthFlow :=
  flows.map fun flow => if flow.id = id then { flow with consumedAt := some now } else flow

def FlowWrite.apply (flows : List AuthFlow) : FlowWrite → List AuthFlow
  | .consume id now => markConsumed id now flows
  | .insert flow _ _ => flows ++ [flow]
  | .effect _ => flows

/-- A row that `DeleteExpiredAuthFlows` deletes. -/
def AuthFlow.stale (cutoff : ℤ) (flow : AuthFlow) : Bool :=
  flow.expiresAt < cutoff || flow.consumedAt.any (· < cutoff)

/-! ## Statements -/

/-- The statements of a flow, one at a time. -/
inductive AuthFlowCall where
  | now
  /-- `applyAuthFlowMatch(...).First`. -/
  | firstFlow (token : String) (wanted : AuthFlowMatch)
  /-- The conditional update of `consumed_at`. -/
  | consume (id now : ℤ)
  | claim (flow : AuthFlow) (purpose assertion : String)
  | write (label : String)
  | commit (token : String) (wanted : AuthFlowMatch) (flow : Option AuthFlow)
  | rollback
  | create (flow : AuthFlow)
  | deleteExpired (cutoff : ℤ)

abbrev AuthFlowCall.Answer : AuthFlowCall → Type
  | .now => ℤ
  | .firstFlow _ _ => Except AuthFlowError (Option AuthFlow)
  | .consume _ _ => Except AuthFlowError ℕ
  | .claim _ _ _ => Except AuthFlowError ℕ
  | .write _ => Except AuthFlowError Unit
  | .commit _ _ _ => Except AuthFlowError Unit
  | .rollback => Unit
  | .create _ => Except AuthFlowError Unit
  | .deleteExpired _ => Except AuthFlowError Unit

section

variable (hash : String → String)

namespace AuthFlowSystem

def Waits (s : AuthFlowSystem) (t : ℕ) : AuthFlowCall → Prop
  | .consume id _ =>
    ∃ write ∈ s.pending, write.1 ≠ t ∧ write.2.consumed? = some id
  | .claim flow _ _ | .create flow =>
    ∃ write ∈ s.pending, write.1 ≠ t ∧
      ∃ inserted ∈ write.2.inserted?, inserted.tokenHash = flow.tokenHash
  | .deleteExpired cutoff =>
    ∃ write ∈ s.pending, ∃ id ∈ write.2.consumed?,
      ∃ flow ∈ s.flows, flow.id = id ∧ flow.stale cutoff = true
  | .now | .firstFlow _ _ | .write _ | .commit _ _ _ | .rollback => False

instance (s : AuthFlowSystem) (t : ℕ) (call : AuthFlowCall) :
    Decidable (s.Waits t call) := by
  cases call with
  | consume _ _ => exact inferInstanceAs (Decidable (∃ write ∈ _, _ ∧ _))
  | claim _ _ _ => exact inferInstanceAs (Decidable (∃ write ∈ _, _ ∧ ∃ inserted ∈ _, _))
  | create _ => exact inferInstanceAs (Decidable (∃ write ∈ _, _ ∧ ∃ inserted ∈ _, _))
  | deleteExpired _ =>
    exact inferInstanceAs (Decidable (∃ write ∈ _, ∃ id ∈ _, ∃ flow ∈ _, _ ∧ _))
  | _ => exact inferInstanceAs (Decidable False)

/-- The row that the conditional update of `consumed_at` changes. -/
def consumable (s : AuthFlowSystem) (id now : ℤ) : Option AuthFlow :=
  s.flows.find? fun flow => flow.id = id ∧ flow.consumedAt = none ∧ now < flow.expiresAt

/-- The token hash is taken by a committed row or by a row of the same transaction. -/
def Conflicts (s : AuthFlowSystem) (t : ℕ) (tokenHash : String) : Prop :=
  tokenHash ∈ s.flows.map AuthFlow.tokenHash ∨
    tokenHash ∈ ((s.writesOf t).filterMap FlowWrite.inserted?).map AuthFlow.tokenHash

instance (s : AuthFlowSystem) (t : ℕ) (tokenHash : String) :
    Decidable (s.Conflicts t tokenHash) :=
  inferInstanceAs (Decidable (_ ∨ _))

def writing (s : AuthFlowSystem) (t : ℕ) (write : FlowWrite) : AuthFlowSystem :=
  { s with pending := s.pending ++ [(t, write)] }

def inserting (s : AuthFlowSystem) (t : ℕ) (flow : AuthFlow)
    (purpose assertion : String) : AuthFlowSystem :=
  { s with
    pending := s.pending ++ [(t, .insert { flow with id := s.nextId } purpose assertion)]
    nextId := s.nextId + 1 }

def closed (s : AuthFlowSystem) (t : ℕ) : AuthFlowSystem :=
  { s with pending := s.pending.filter (·.1 ≠ t) }

def committed (s : AuthFlowSystem) (t : ℕ) (spend : Option Consumption) :
    AuthFlowSystem :=
  { s.closed t with
    flows := (s.writesOf t).foldl FlowWrite.apply s.flows
    effects := s.effects ++ ((s.writesOf t).filterMap FlowWrite.effect?).map fun label => (t, label)
    consumptions := s.consumptions ++ spend.toList
    claims := s.claims ++ (s.writesOf t).filterMap FlowWrite.claimed? }

def execute (t : ℕ) (call : AuthFlowCall) (s : AuthFlowSystem) :
    call.Answer × AuthFlowSystem :=
  match call with
  | .now => (s.now, s)
  | .firstFlow token wanted =>
    (.ok (s.flows.find? fun flow =>
      flow.tokenHash = hash token ∧ wanted.Accepts flow), s)
  | .consume id now =>
    if (s.consumable id now).isSome then (.ok 1, s.writing t (.consume id now))
    else (.ok 0, s)
  | .claim flow purpose assertion =>
    if s.Conflicts t flow.tokenHash then (.ok 0, s)
    else
      (.ok 1, s.inserting t flow purpose assertion)
  | .write label => (.ok (), s.writing t (.effect label))
  | .commit token wanted flow =>
    (.ok (), s.committed t (flow.map fun flow => ⟨t, token, wanted, flow⟩))
  | .rollback => ((), s.closed t)
  | .create flow =>
    if flow.tokenHash ∈ s.flows.map AuthFlow.tokenHash then (.error .database, s)
    else
      (.ok (), { s with
        flows := s.flows ++ [{ flow with id := s.nextId }]
        nextId := s.nextId + 1
        created := s.created ++ [{ flow with id := s.nextId }] })
  | .deleteExpired cutoff =>
    (.ok (), { s with flows := s.flows.filter fun flow => !flow.stale cutoff })

def fail (t : ℕ) (call : AuthFlowCall) (s : AuthFlowSystem) :
    call.Answer × AuthFlowSystem :=
  match call with
  | .now => (s.now, s)
  | .rollback => ((), s.closed t)
  | .commit _ _ _ => (.error .database, s.closed t)
  | .firstFlow _ _ => (.error .database, s)
  | .consume _ _ => (.error .database, s)
  | .claim _ _ _ => (.error .database, s)
  | .write _ => (.error .database, s)
  | .create _ => (.error .database, s)
  | .deleteExpired _ => (.error .database, s)

def perform (t : ℕ) (call : AuthFlowCall) (done : Bool) (s : AuthFlowSystem) :
    call.Answer × AuthFlowSystem :=
  if done then s.execute hash t call else s.fail t call

def elapse (nanos : ℕ) (s : AuthFlowSystem) : AuthFlowSystem :=
  { s with now := s.now + nanos }

end AuthFlowSystem

/-! ## The programs -/

abbrev AuthFlowProgram := Program AuthFlowCall AuthFlowCall.Answer

def askFlow (call : AuthFlowCall) : AuthFlowProgram call.Answer :=
  Program.ask call

def createAuthFlow (input : AuthFlowCreate) (token : String) :
    AuthFlowProgram (Except AuthFlowError String) := do
  let now ← askFlow .now
  if Text.isBlank input.purpose || input.expiresAt = zeroTime || !(now < input.expiresAt) then
    pure (.error .invalid)
  else
    let stored ← askFlow (.create {
      id := 0
      tokenHash := hash token
      purpose := input.purpose
      provider := input.provider
      intent := input.intent
      userId := input.userId
      sessionId := input.sessionId
      payload := input.payload
      expiresAt := input.expiresAt
      consumedAt := none })
    match stored with
    | .error err => pure (.error err)
    | .ok _ => pure (.ok token)

def claimedFlow (purpose assertion : String) (expiresAt now : ℤ) : AuthFlow where
  id := 0
  tokenHash := hash ("external:" ++ purpose ++ ":" ++ assertion)
  purpose := purpose
  provider := ""
  intent := ""
  userId := 0
  sessionId := ""
  payload := ""
  expiresAt := expiresAt
  consumedAt := some now

def claimExternalAuthAssertionWithTx (purpose assertion : String) (expiresAt : ℤ) :
    AuthFlowProgram (Except AuthFlowError Unit) := do
  let purpose := Text.trimSpace purpose
  let assertion := Text.trimSpace assertion
  let now ← askFlow .now
  if purpose = "" || assertion = "" || !(now < expiresAt) then pure (.error .invalid)
  else
    let created ← askFlow
      (.claim (claimedFlow hash purpose assertion expiresAt now) purpose assertion)
    match created with
    | .error err => pure (.error err)
    | .ok rows =>
      if rows ≠ 1 then pure (.error .consumed) else pure (.ok ())

/-- The steps of the action that a consumed flow runs. -/
inductive ActionStep where
  | claim (purpose assertion : String) (expiresAt : ℤ)
  | write (label : String)
  | fail

def ActionStep.effect? : ActionStep → Option String
  | .write label => some label
  | _ => none

def ActionStep.run : ActionStep → AuthFlowProgram (Except AuthFlowError Unit)
  | .claim purpose assertion expiresAt =>
    claimExternalAuthAssertionWithTx hash purpose assertion expiresAt
  | .write label => askFlow (.write label)
  | .fail => pure (.error .action)

def runSteps : List ActionStep → AuthFlowProgram (Except AuthFlowError Unit)
  | [] => pure (.ok ())
  | step :: steps => do
      let result ← step.run hash
      match result with
      | .error err => pure (.error err)
      | .ok _ => runSteps steps

def transaction {Result : Type} (token : String) (wanted : AuthFlowMatch)
    (returned : Result → Option AuthFlow)
    (body : AuthFlowProgram (Except AuthFlowError Result)) :
    AuthFlowProgram (Except AuthFlowError Result) := do
  let out ← body
  match out with
  | .error err =>
    let _ ← askFlow .rollback
    pure (.error err)
  | .ok result =>
    let ended ← askFlow (.commit token wanted (returned result))
    match ended with
    | .error err => pure (.error err)
    | .ok _ => pure (.ok result)

/-- The transaction of `ConsumeAuthFlowWithAction` from the unconsumed flow on that it found. -/
def consumeFound (action : AuthFlow → List ActionStep) (flow : AuthFlow) :
    AuthFlowProgram (Except AuthFlowError AuthFlow) := do
  let now ← askFlow .now
  if now < flow.expiresAt then
    let updated ← askFlow (.consume flow.id now)
    match updated with
    | .error err => pure (.error err)
    | .ok rows =>
      if rows ≠ 1 then pure (.error .consumed)
      else
        let consumed := { flow with consumedAt := some now }
        let acted ← runSteps hash (action consumed)
        match acted with
        | .error err => pure (.error err)
        | .ok _ => pure (.ok consumed)
  else pure (.error .expired)

/-- The transaction of `ConsumeAuthFlowWithAction`. -/
def consumeInTransaction (token : String) (wanted : AuthFlowMatch)
    (action : AuthFlow → List ActionStep) : AuthFlowProgram (Except AuthFlowError AuthFlow) := do
  let found ← askFlow (.firstFlow token wanted)
  match found with
  | .error err => pure (.error err)
  | .ok none => pure (.error .invalid)
  | .ok (some flow) =>
    if flow.consumedAt.isSome then pure (.error .consumed)
    else consumeFound hash action flow

def consumeAuthFlowWithAction (token : String) (wanted : AuthFlowMatch)
    (action : AuthFlow → List ActionStep) : AuthFlowProgram (Except AuthFlowError AuthFlow) :=
  if token = "" || wanted.purpose = "" then pure (.error .invalid)
  else transaction token wanted some (consumeInTransaction hash token wanted action)

/-- A transaction of a caller that claims assertions, such as `ClaimExternalAuthAssertion`. -/
def callerTransaction (steps : List ActionStep) : AuthFlowProgram (Except AuthFlowError Unit) :=
  transaction "" ⟨"", "", "", 0, ""⟩ (fun _ => none) (runSteps hash steps)

def deleteExpiredAuthFlows : AuthFlowProgram (Except AuthFlowError Unit) := do
  let now ← askFlow .now
  askFlow (.deleteExpired (now - authFlowDefaultCleanupRetention))

/-- The calls of clients on flows. -/
inductive FlowJob where
  | create (input : AuthFlowCreate) (token : String)
  | consume (token : String) (wanted : AuthFlowMatch) (action : AuthFlow → List ActionStep)
  | transact (steps : List ActionStep)
  | cleanup

def FlowJob.run : FlowJob → AuthFlowProgram Unit
  | .create input token => do
      let _ ← createAuthFlow hash input token
      pure ()
  | .consume token wanted action => do
      let _ ← consumeAuthFlowWithAction hash token wanted action
      pure ()
  | .transact steps => do
      let _ ← callerTransaction hash steps
      pure ()
  | .cleanup => do
      let _ ← deleteExpiredAuthFlows
      pure ()

end

end NewApi.Auth
