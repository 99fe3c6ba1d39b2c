import NewApi.Billing.Settlement
import NewApi.Model.ConsumeLog

/-!
# The consume log is delivered once

Any number of `DeliverBillingOperationConsumeLog` and `frozenTextSettlement` calls run next to
each other and next to the billing transactions.
-/

namespace NewApi.Model

open Relational Transition
open NewApi.Model renaming BillingOperationLogOutbox → LogOutbox

/-! ## The machine -/

/-- The two databases, the calls in flight, and what finished calls have reported. -/
structure DeliveryState where
  stores : Stores
  calls : List DeliveryCall
  answers : List (ℤ × Bool)

/-- The steps of deliveries. -/
inductive DeliveryAction where
  | deliver (operationId : ℤ)
  /-- `frozenTextSettlement` is called; it delivers what is not delivered yet. -/
  | frozenText (readFails : Bool) (operationId : ℤ) (fingerprint : String)
  | advance (i : ℕ) (fails : Bool) (ctx : LogContext)
  | crash (i : ℕ)
  | other (action : BillingAction)

namespace DeliveryState

def report (s : DeliveryState) (operationId : ℤ) : Except ModelError Bool → DeliveryState
  | .ok recorded => { s with answers := (operationId, recorded) :: s.answers }
  | .error _ => s

def next (s : DeliveryState) : DeliveryAction → DeliveryState
  | .deliver operationId => { s with calls := .reading operationId :: s.calls }
  | .frozenText readFails operationId fingerprint =>
    match getBillingOperationFrozenResult readFails operationId fingerprint s.stores.db with
    | .ok (some frozen) =>
      if frozen.logDelivered then
        s.report operationId (.ok frozen.logRecorded)
      else
        { s with calls := .reading operationId :: s.calls }
    | _ => s
  | .advance i fails ctx =>
    match s.calls[i]? with
    | none => s
    | some call =>
      match call.proceed fails ctx s.stores with
      | (stores, .goesOn rest) =>
        { s with stores := stores, calls := s.calls.set i rest }
      | (stores, .returns reply) =>
        DeliveryState.report { s with stores := stores, calls := s.calls.eraseIdx i }
          call.operationId reply
  | .crash i => { s with calls := s.calls.eraseIdx i }
  | .other action =>
    { s with stores := { s.stores with db := s.stores.db.next action } }

end DeliveryState

def logCount (logs : Table Log) (operationId : ℤ) : ℕ :=
  logs.rows.countP fun log => log.billingOperationId = some operationId

/-! ## Outbox rows keep their payload -/

/-- The row at a later time. -/
structure SameOutbox (row ver : LogOutbox) : Prop where
  id : ver.id = row.id
  operation : ver.billingOperationId = row.billingOperationId
  payload : ver.payload = row.payload

theorem SameOutbox.refl (row : LogOutbox) : SameOutbox row row :=
  ⟨rfl, rfl, rfl⟩

theorem SameOutbox.trans {row ver later : LogOutbox}
    (first : SameOutbox row ver) (two : SameOutbox ver later) :
    SameOutbox row later :=
  ⟨two.id.trans first.id, two.operation.trans first.operation, two.payload.trans first.payload⟩

theorem SameOutbox.params {row ver : LogOutbox}
    (same : SameOutbox row ver) : ver.params = row.params := by
  simp [LogOutbox.params, same.operation, same.payload]

def Stored (outboxes : Table LogOutbox) (row : LogOutbox) :
    Prop :=
  ∃ ver ∈ outboxes.rows, SameOutbox row ver

/-- What every step does to the two databases: no outbox row and no log is lost, and a
delivered row is not touched. -/
structure Stores.Extends (before after : Stores) : Prop where
  outboxes : ∀ row ∈ before.db.outboxes.rows, Stored after.db.outboxes row
  delivered : ∀ row ∈ before.db.outboxes.rows, row.delivered = true →
    row ∈ after.db.outboxes.rows
  logs : ∀ log ∈ before.logs.rows, log ∈ after.logs.rows

namespace Stores.Extends

theorem refl (stores : Stores) : stores.Extends stores :=
  ⟨fun row stored => ⟨row, stored, SameOutbox.refl row⟩, fun _ stored _ => stored,
    fun _ stored => stored⟩

theorem stored {before after : Stores} (extends_ : before.Extends after)
    {row : LogOutbox} (stored : Stored before.db.outboxes row) :
    Stored after.db.outboxes row := by
  rcases stored with ⟨ver, versionStored, same⟩
  rcases extends_.outboxes ver versionStored with ⟨later, laterStored, sameLater⟩
  exact ⟨later, laterStored, same.trans sameLater⟩

theorem logged {before after : Stores} (extends_ : before.Extends after) {opId : ℤ}
    (logged : Logged before.logs opId) : Logged after.logs opId := by
  rcases logged with ⟨log, stored, idEq⟩
  exact ⟨log, extends_.logs log stored, idEq⟩

end Stores.Extends

theorem Effect.outboxes_cases {db after : Database} (effect : Effect db after) :
    after.outboxes = db.outboxes ∨ ∃ op settlement,
      after.outboxes = db.outboxes.insert (newOutbox op settlement)
        (key_newOutbox op settlement) := by
  cases effect with
  | idle | migrate _ _ _ | reserve _ _ _ _ _ => exact .inl rfl
  | settle op settlement _ _ _ _ _ _ _ _ _ => exact .inr ⟨op, settlement, rfl⟩
  | refund _ _ _ _ _ => exact .inl rfl

theorem extends_of_effect {stores : Stores} {after : Database} (effect : Effect stores.db after) :
    stores.Extends { stores with db := after } := by
  have kept : ∀ row ∈ stores.db.outboxes.rows, row ∈ after.outboxes.rows := by
    intro _ stored
    rcases effect.outboxes_cases with sameRows | ⟨_, _, insertEq⟩
    · rw [sameRows]
      exact stored
    · rw [insertEq, Table.mem_insert]
      exact .inl stored
  exact ⟨fun row stored => ⟨row, kept row stored, SameOutbox.refl row⟩,
    fun row stored _ => kept row stored, fun _ stored => stored⟩

/-! ## Calls in flight -/

def DeliveryCall.Sound (stores : Stores) : DeliveryCall → Prop
  | .reading _ => True
  | .recording box => Stored stores.db.outboxes box
  | .comparing box => Stored stores.db.outboxes box
  | .acknowledging box recorded =>
    Stored stores.db.outboxes box ∧
      (recorded = true → Logged stores.logs box.billingOperationId)
  | .rereading box =>
    ∃ ver ∈ stores.db.outboxes.rows, SameOutbox box ver ∧ ver.delivered = true

theorem DeliveryCall.Sound.kept {before after : Stores} (extends_ : before.Extends after)
    {call : DeliveryCall} (sound : call.Sound before) : call.Sound after := by
  cases call with
  | reading _ => trivial
  | recording _ | comparing _ => exact extends_.stored sound
  | acknowledging _ _ =>
    exact ⟨extends_.stored sound.1, fun isRecorded => extends_.logged (sound.2 isRecorded)⟩
  | rereading _ =>
    rcases sound with ⟨ver, stored, same, given⟩
    exact ⟨ver, extends_.delivered ver stored given, same, given⟩

theorem Stored.find? {outboxes : Table LogOutbox} {box : LogOutbox} (stored : Stored outboxes box) :
    ∃ ver, outboxes.find? box.id = some ver ∧ SameOutbox box ver := by
  rcases stored with ⟨ver, versionStored, same⟩
  exact ⟨ver, same.id ▸ Table.find?_of_mem versionStored, same⟩

theorem Stored.version {outboxes : Table LogOutbox}
    {box row : LogOutbox} (stored : Stored outboxes box)
    (found : outboxes.find? box.id = some row) : SameOutbox box row := by
  rcases stored.find? with ⟨_, versionFound, same⟩
  rw [found, Option.some.injEq] at versionFound
  rw [versionFound]
  exact same

theorem logged_insert {ctx : LogContext} {userId opId : ℤ} {params : RecordConsumeLogParams}
    {logs : Table Log} (opEq : params.billingOperationId = some opId) :
    Logged (logs.insert (newLog ctx userId params) (key_newLog ctx userId params))
      opId :=
  ⟨newLog ctx userId params logs.nextKey, by simp [Table.insert], opEq⟩

theorem Statement.extends_ {ctx : LogContext} {stores after : Stores} {call : DeliveryCall}
    {progress : Progress} (stmt : Statement ctx stores call after progress) :
    stores.Extends after := by
  cases stmt with
  | inserted _ _ =>
    refine ⟨fun row stored => ⟨row, stored, SameOutbox.refl row⟩, fun _ stored _ => stored, ?_⟩
    intro _ logStored
    simp only [Table.mem_insert]
    exact .inl logStored
  | acknowledged box _ recorded found unsent =>
    refine ⟨?_, ?_, fun _ logStored => logStored⟩
    · intro old prior
      by_cases same : old.id = box.id
      · exact ⟨(LogOutbox.acknowledge recorded).apply old,
          Table.mem_modify.mpr (.inl ⟨old, prior, same, rfl⟩), ⟨rfl, rfl, rfl⟩⟩
      · exact ⟨old, Table.mem_modify.mpr (.inr ⟨prior, same⟩), SameOutbox.refl old⟩
    · intro old prior oldDelivered
      have apart : old.id ≠ box.id := by
        intro same
        have oldFound : stores.db.outboxes.find? box.id = some old :=
          same ▸ Table.find?_of_mem prior
        rw [found, Option.some.injEq] at oldFound
        rw [← oldFound, unsent] at oldDelivered
        exact Bool.noConfusion oldDelivered
      exact Table.mem_modify.mpr (.inr ⟨prior, apart⟩)
  | _ => exact Stores.Extends.refl stores

theorem Statement.sound {ctx : LogContext} {stores after : Stores}
    {call rest : DeliveryCall} (stmt : Statement ctx stores call after (.goesOn rest))
    (sound : call.Sound stores) : rest.Sound after := by
  have extends_ := stmt.extends_
  cases stmt with
  | pending box stored => exact ⟨box, stored, SameOutbox.refl box⟩
  | disabled _ _ => exact ⟨sound, by simp⟩
  | ignored _ => exact sound
  | inserted _ _ => exact ⟨extends_.stored sound, fun _ => logged_insert rfl⟩
  | agreed _ logged => exact ⟨sound, fun _ => logged⟩
  | tooLate _ _ delivered =>
    rcases sound.1.find? with ⟨ver, found, same⟩
    exact ⟨ver, Table.mem_of_find? found, same, delivered ver found⟩

/-! ## The databases stay consistent -/

/-- An operation has one log at most, and one if a delivery was acknowledged with it. -/
structure Stores.Consistent (stores : Stores) : Prop where
  outboxes : OutboxInvariant stores.db
  acknowledged : ∀ row ∈ stores.db.outboxes.rows, row.delivered = true →
    row.recordCreated = true → Logged stores.logs row.billingOperationId
  single : ∀ operationId, logCount stores.logs operationId ≤ 1
  agreeing : ∀ log ∈ stores.logs.rows, ∀ operationId, log.billingOperationId = some operationId →
    ∃ row ∈ stores.db.outboxes.rows, row.billingOperationId = operationId ∧
      log.agrees row.payload.userId row.params = true

theorem outboxInvariant_acknowledge {db : Database} {id : ℤ} {recorded : Bool}
    (invariant : OutboxInvariant db) :
    OutboxInvariant
      { db with
        outboxes := db.outboxes.modify id (LogOutbox.acknowledge recorded) } := by
  refine ⟨?_, ?_⟩
  · intro box stored
    rcases Table.mem_modify.mp stored with ⟨old, prior, -, rfl⟩ | ⟨prior, -⟩
    · exact invariant.owned old prior
    · exact invariant.owned box prior
  · intro op stored
    rw [← invariant.counted op stored]
    simp only [outboxCount, Table.modify, List.countP_map]
    apply List.countP_congr
    intro box _
    by_cases chosen : Keyed.key box = id
    · simp [chosen, LogOutbox.acknowledge]
    · simp [chosen]

theorem logCount_insert {ctx : LogContext} {userId opId : ℤ}
    {params : RecordConsumeLogParams} {logs : Table Log} :
    logCount (logs.insert (newLog ctx userId params) (key_newLog ctx userId params)) opId =
      logCount logs opId +
        if params.billingOperationId = some opId then 1 else 0 := by
  simp [Table.insert, logCount, newLog, List.countP_append, List.countP_singleton]

theorem logCount_of_free {params : RecordConsumeLogParams} {logs : Table Log} {opId : ℤ}
    (opEq : params.billingOperationId = some opId)
    (free : operationLogged params logs = false) : logCount logs opId = 0 := by
  simp only [operationLogged, opEq, Option.isSome_some, Bool.true_and,
    List.any_eq_false, decide_eq_true_eq] at free
  simp only [logCount, List.countP_eq_zero, decide_eq_true_eq]
  exact free

theorem newLog_agrees (ctx : LogContext) (userId : ℤ) (params : RecordConsumeLogParams)
    (id : ℤ) : (newLog ctx userId params id).agrees userId params = true := by
  simp [Log.agrees, newLog]

theorem agreeing_kept {before after : Stores} (extends_ : before.Extends after) {log : Log}
    {opId : ℤ}
    (agrees : ∃ row ∈ before.db.outboxes.rows, row.billingOperationId = opId ∧
      log.agrees row.payload.userId row.params = true) :
    ∃ row ∈ after.db.outboxes.rows, row.billingOperationId = opId ∧
      log.agrees row.payload.userId row.params = true := by
  rcases agrees with ⟨row, stored, opEq, agrees⟩
  rcases extends_.outboxes row stored with ⟨ver, versionStored, same⟩
  refine ⟨ver, versionStored, same.operation.trans opEq, ?_⟩
  rw [same.payload, same.params]
  exact agrees

theorem Stores.Consistent.insert {stores : Stores} (valid : stores.Consistent) {ctx : LogContext}
    {box : LogOutbox} (stored : Stored stores.db.outboxes box)
    (free : operationLogged box.params stores.logs = false) :
    Stores.Consistent
      { stores with
        logs := stores.logs.insert (newLog ctx box.payload.userId box.params)
          (key_newLog ctx box.payload.userId box.params) } := by
  have stmt : Statement ctx stores (.recording box) _ _ := .inserted box free
  have extends_ := stmt.extends_
  refine ⟨valid.outboxes, ?_, ?_, ?_⟩
  · intro row rowStored given isRecorded
    exact extends_.logged (valid.acknowledged row rowStored given isRecorded)
  · intro opId
    have bound := valid.single opId
    simp only [logCount_insert]
    by_cases same : box.params.billingOperationId = some opId
    · have none := logCount_of_free same free
      simp only [same, if_true]
      omega
    · simp only [same, if_false]
      omega
  · intro log logStored opId opEq
    simp only [Table.mem_insert] at logStored
    rcases logStored with prior | rfl
    · exact valid.agreeing log prior opId opEq
    · rcases stored with ⟨ver, versionStored, same⟩
      simp only [newLog, LogOutbox.params, Option.some.injEq] at opEq
      refine ⟨ver, versionStored, same.operation.trans opEq, ?_⟩
      rw [same.payload, same.params]
      exact newLog_agrees _ _ _ _

theorem Statement.consistent {ctx : LogContext} {stores after : Stores}
    {call : DeliveryCall} {progress : Progress}
    (stmt : Statement ctx stores call after progress) (sound : call.Sound stores)
    (valid : stores.Consistent) : after.Consistent := by
  have extends_ := stmt.extends_
  cases stmt with
  | inserted _ free => exact valid.insert sound free
  | acknowledged _ _ _ _ _ =>
    refine ⟨outboxInvariant_acknowledge valid.outboxes, ?_, valid.single, ?_⟩
    · intro ver versionStored given isRecorded
      rcases Table.mem_modify.mp versionStored with
        ⟨old, prior, keyEq, rfl⟩ | ⟨prior, -⟩
      · have same := sound.1.version (keyEq ▸ Table.find?_of_mem prior)
        have logged := sound.2 isRecorded
        rw [← same.operation] at logged
        exact logged
      · exact valid.acknowledged ver prior given isRecorded
    · intro log logStored opId opEq
      exact agreeing_kept extends_ (valid.agreeing log logStored opId opEq)
  | _ => exact valid

theorem Stores.Consistent.effect {stores : Stores} {after : Database}
    (valid : stores.Consistent) (effect : Effect stores.db after) :
    Stores.Consistent { stores with db := after } := by
  have extends_ := extends_of_effect effect
  refine ⟨effect.outboxInvariant valid.outboxes, ?_, valid.single, ?_⟩
  · intro row stored given isRecorded
    rcases effect.outboxes_cases with sameRows | ⟨_, _, insertEq⟩
    · exact valid.acknowledged row (sameRows ▸ stored) given isRecorded
    · simp only [insertEq, Table.mem_insert] at stored
      rcases stored with prior | rfl
      · exact valid.acknowledged row prior given isRecorded
      · simp [newOutbox] at given
  · intro log logStored opId opEq
    exact agreeing_kept extends_ (valid.agreeing log logStored opId opEq)

/-! ## Runs -/

namespace DeliveryState

/-- The stores are consistent, and the calls in flight belong to them. -/
structure Invariant (s : DeliveryState) : Prop where
  stores : s.stores.Consistent
  calls : ∀ call ∈ s.calls, call.Sound s.stores

@[simp]
theorem report_stores (s : DeliveryState) (opId : ℤ)
    (reply : Except ModelError Bool) : (s.report opId reply).stores = s.stores := by
  cases reply <;> rfl

@[simp]
theorem report_calls (s : DeliveryState) (opId : ℤ)
    (reply : Except ModelError Bool) : (s.report opId reply).calls = s.calls := by
  cases reply <;> rfl

theorem Invariant.start {s : DeliveryState} (invariant : s.Invariant) (opId : ℤ) :
    DeliveryState.Invariant { s with calls := .reading opId :: s.calls } := by
  refine ⟨invariant.stores, ?_⟩
  intro call inCalls
  rcases List.mem_cons.mp inCalls with rfl | isIn
  · trivial
  · exact invariant.calls call isIn

/-- A step only adds to the stores, and keeps them consistent. -/
theorem next_extends {s : DeliveryState} (invariant : s.Invariant) (action : DeliveryAction) :
    s.stores.Extends (s.next action).stores ∧ (s.next action).Invariant := by
  cases action with
  | deliver opId => exact ⟨Stores.Extends.refl _, invariant.start opId⟩
  | frozenText _ opId _ =>
    simp only [next]
    split
    · split
      · refine ⟨?_, ?_, ?_⟩
        · simpa using Stores.Extends.refl _
        · simpa using invariant.stores
        · simpa using invariant.calls
      · exact ⟨Stores.Extends.refl _, invariant.start opId⟩
    · exact ⟨Stores.Extends.refl _, invariant⟩
  | advance _ fails ctx =>
    simp only [next]
    split
    next => exact ⟨Stores.Extends.refl _, invariant⟩
    next call found =>
      have sound := invariant.calls call (List.mem_of_getElem? found)
      have stmt := call.proceed_statement fails ctx s.stores
      split
      next steps =>
        rw [steps] at stmt
        have extends_ := stmt.extends_
        refine ⟨extends_, stmt.consistent sound invariant.stores, ?_⟩
        intro other inCalls
        rcases List.mem_or_eq_of_mem_set inCalls with inOld | rfl
        · exact (invariant.calls other inOld).kept extends_
        · exact stmt.sound sound
      next steps =>
        rw [steps] at stmt
        have extends_ := stmt.extends_
        refine ⟨by simpa using extends_, ?_, ?_⟩
        · simpa using stmt.consistent sound invariant.stores
        · intro other inCalls
          simp only [report_calls] at inCalls
          simp only [report_stores]
          exact (invariant.calls other (List.mem_of_mem_eraseIdx inCalls)).kept extends_
  | crash _ =>
    refine ⟨Stores.Extends.refl _, invariant.stores, ?_⟩
    intro call inCalls
    exact invariant.calls call (List.mem_of_mem_eraseIdx inCalls)
  | other action =>
    have effect := s.stores.db.next_effect action
    refine ⟨extends_of_effect effect, invariant.stores.effect effect, ?_⟩
    intro call inCalls
    exact (invariant.calls call inCalls).kept (extends_of_effect effect)

end DeliveryState

/-! ## What a retry reports -/

/-- The calls for the operation that reach the insert run with consume logging enabled. -/
def DeliveryState.loggingOn (operationId : ℤ) (s : DeliveryState) : DeliveryAction → Bool
  | .advance i _ ctx =>
    match s.calls[i]? with
    | some (.recording box) =>
      box.billingOperationId ≠ operationId || ctx.logConsumeEnabled
    | _ => true
  | _ => true

/-- The log is there, nobody has acknowledged it, and no call is about to acknowledge that
there is none. -/
structure Unacknowledged (operationId : ℤ) (s : DeliveryState) : Prop where
  logged : Logged s.stores.logs operationId
  rows : ∀ row ∈ s.stores.db.outboxes.rows, row.billingOperationId = operationId →
    row.delivered = false
  calls : ∀ box, .acknowledging box false ∈ s.calls →
    box.billingOperationId ≠ operationId

/-- From such a state on, everything about the operation says that the log was recorded. -/
structure Reported (operationId : ℤ) (past : List (ℤ × Bool)) (s : DeliveryState) :
    Prop where
  logged : Logged s.stores.logs operationId
  rows : ∀ row ∈ s.stores.db.outboxes.rows, row.billingOperationId = operationId →
    row.delivered = true → row.recordCreated = true
  calls : ∀ box, .acknowledging box false ∈ s.calls →
    box.billingOperationId ≠ operationId
  answers : ∀ reply ∈ s.answers, reply.1 = operationId →
    reply ∈ past ∨ reply.2 = true

theorem frozenResult_outbox {readFails : Bool} {opId : ℤ} {fingerprint : String}
    {db : Database} {frozen : BillingOperationFrozenResult}
    (done : getBillingOperationFrozenResult readFails opId fingerprint db =
      .ok (some frozen)) :
    ∃ box ∈ db.outboxes.rows, box.billingOperationId = opId ∧
      frozen.logDelivered = box.delivered ∧ frozen.logRecorded = box.recordCreated := by
  simp only [getBillingOperationFrozenResult, Fallible.guard_eq_ok] at done
  rcases done with ⟨_, done⟩
  split at done
  next => simp at done
  next op _ =>
    rw [Fallible.guard_eq_ok] at done
    rcases done with ⟨_, done⟩
    split at done
    next => simp at done
    next =>
      split at done
      next => simp at done
      next box found =>
        simp only [Except.ok.injEq, Option.some.injEq] at done
        refine ⟨box, List.mem_of_find?_eq_some found, ?_, ?_, ?_⟩
        · simpa using List.find?_some found
        · rw [← done]
        · rw [← done]

theorem Reported.report {opId goal : ℤ} {past : List (ℤ × Bool)}
    {s : DeliveryState} (reported : Reported opId past s)
    {reply : Except ModelError Bool} (pos : goal = opId → reply ≠ .ok false) :
    Reported opId past (s.report goal reply) := by
  cases reply with
  | error _ => exact reported
  | ok recorded =>
    refine ⟨reported.logged, reported.rows, reported.calls, ?_⟩
    intro reply inAnswers targetEq
    rcases List.mem_cons.mp inAnswers with rfl | inOld
    · right
      cases recorded with
      | false => exact absurd rfl (pos targetEq)
      | true => rfl
    · exact reported.answers reply inOld targetEq

theorem Statement.reported_rows {opId : ℤ} {ctx : LogContext}
    {stores after : Stores} {call : DeliveryCall} {progress : Progress}
    (stmt : Statement ctx stores call after progress) (sound : call.Sound stores)
    (pos : ∀ box, call = .acknowledging box false →
      box.billingOperationId ≠ opId)
    (rows : ∀ row ∈ stores.db.outboxes.rows, row.billingOperationId = opId →
      row.delivered = true → row.recordCreated = true) :
    ∀ row ∈ after.db.outboxes.rows, row.billingOperationId = opId →
      row.delivered = true → row.recordCreated = true := by
  cases stmt with
  | acknowledged box _ recorded _ _ =>
    intro row stored opEq given
    rcases Table.mem_modify.mp stored with ⟨_, prior, keyEq, rfl⟩ | ⟨prior, -⟩
    · have same := sound.1.version (keyEq ▸ Table.find?_of_mem prior)
      cases recorded with
      | true => rfl
      | false => exact absurd (same.operation.symm.trans opEq) (pos box rfl)
    · exact rows row prior opEq given
  | _ => exact rows

theorem Statement.positive {opId : ℤ} {ctx : LogContext} {stores after : Stores}
    {call rest : DeliveryCall} (stmt : Statement ctx stores call after (.goesOn rest))
    (enabled : ∀ box, call = .recording box → box.billingOperationId = opId →
      ctx.logConsumeEnabled = true) :
    ∀ box, rest = .acknowledging box false → box.billingOperationId ≠ opId := by
  intro _ restEq opEq
  cases stmt with
  | disabled box off =>
    simp only [DeliveryCall.acknowledging.injEq, and_true] at restEq
    rw [enabled box rfl (restEq ▸ opEq)] at off
    exact Bool.noConfusion off
  | _ => simp at restEq

theorem Statement.answer {opId : ℤ} {ctx : LogContext} {stores after : Stores}
    {call : DeliveryCall} {reply : Except ModelError Bool}
    (stmt : Statement ctx stores call after (.returns reply)) (sound : call.Sound stores)
    (pos : ∀ box, call = .acknowledging box false →
      box.billingOperationId ≠ opId)
    (rows : ∀ row ∈ stores.db.outboxes.rows, row.billingOperationId = opId →
      row.delivered = true → row.recordCreated = true) :
    call.operationId = opId → reply ≠ .ok false := by
  intro opEq denies
  cases stmt with
  | refused _ _ => simp at denies
  | alreadyDelivered box stored given =>
    simp [rows box stored opEq given] at denies
  | acknowledged box _ _ _ _ =>
    simp only [Except.ok.injEq] at denies
    exact pos box (by rw [denies]) opEq
  | reread box _ found =>
    rcases sound with ⟨ver, stored, same, given⟩
    have versionFound : stores.db.outboxes.find? box.id = some ver :=
      same.id ▸ Table.find?_of_mem stored
    rw [found, Option.some.injEq] at versionFound
    simp [versionFound, rows ver stored (same.operation.trans opEq) given] at denies

/-- A step of the deliveries keeps what is reported of an operation. -/
theorem Reported.next {opId : ℤ} {past : List (ℤ × Bool)} {s : DeliveryState}
    (reported : Reported opId past s) (invariant : s.Invariant)
    {action : DeliveryAction} (enabled : s.loggingOn opId action = true) :
    Reported opId past (s.next action) := by
  have logged := (DeliveryState.next_extends invariant action).1.logged reported.logged
  cases action with
  | deliver _ =>
    refine ⟨logged, reported.rows, ?_, reported.answers⟩
    intro box inCalls
    exact reported.calls box (by simpa [DeliveryState.next] using inCalls)
  | frozenText _ _ _ =>
    simp only [DeliveryState.next]
    split
    next read =>
      rcases frozenResult_outbox read with ⟨box, stored, targetEq, deliveredEq, recordedEq⟩
      split
      next given =>
        apply reported.report
        rintro rfl
        rw [recordedEq, reported.rows box stored targetEq (deliveredEq ▸ given)]
        simp
      next =>
        refine ⟨reported.logged, reported.rows, ?_, reported.answers⟩
        intro denying inCalls
        exact reported.calls denying (by simpa using inCalls)
    next => exact reported
  | advance i fails ctx =>
    cases found : s.calls[i]? with
    | none => simpa [DeliveryState.next, found] using reported
    | some call =>
      have inCalls := List.mem_of_getElem? found
      have sound := invariant.calls call inCalls
      have pos : ∀ box, call = .acknowledging box false →
          box.billingOperationId ≠ opId := by
        rintro box rfl
        exact reported.calls box inCalls
      have stmt := call.proceed_statement fails ctx s.stores
      have rows := stmt.reported_rows sound pos reported.rows
      rcases proceeds : call.proceed fails ctx s.stores with ⟨_, progress⟩
      rw [proceeds] at stmt rows
      cases progress with
      | goesOn _ =>
        simp only [DeliveryState.next, found, proceeds] at logged ⊢
        refine ⟨logged, rows, ?_, reported.answers⟩
        intro box inSet
        rcases List.mem_or_eq_of_mem_set inSet with inOld | restEq
        · exact reported.calls box inOld
        · refine stmt.positive ?_ box restEq.symm
          rintro _ rfl opEq
          simpa [DeliveryState.loggingOn, found, opEq] using enabled
      | returns _ =>
        simp only [DeliveryState.next, found, proceeds] at logged ⊢
        apply Reported.report
        · refine ⟨by simpa using logged, rows, ?_, reported.answers⟩
          intro box inErased
          exact reported.calls box (List.mem_of_mem_eraseIdx inErased)
        · exact stmt.answer sound pos reported.rows
  | crash _ =>
    refine ⟨logged, reported.rows, ?_, reported.answers⟩
    intro box inErased
    exact reported.calls box (List.mem_of_mem_eraseIdx inErased)
  | other action =>
    refine ⟨logged, ?_, reported.calls, reported.answers⟩
    intro row stored opEq given
    rcases (s.stores.db.next_effect action).outboxes_cases with
      sameRows | ⟨op, settlement, insertEq⟩
    · simp only [DeliveryState.next, sameRows] at stored
      exact reported.rows row stored opEq given
    · simp only [DeliveryState.next, insertEq, Table.mem_insert] at stored
      rcases stored with prior | rfl
      · exact reported.rows row prior opEq given
      · simp [newOutbox] at given

/-! ## A retry gets through -/

theorem outbox_unique {db : Database} (invariant : OutboxInvariant db)
    {left right : LogOutbox} (leftStored : left ∈ db.outboxes.rows)
    (rightStored : right ∈ db.outboxes.rows)
    (same : left.billingOperationId = right.billingOperationId) : left = right := by
  rcases invariant.owned left leftStored with ⟨op, stored, idEq⟩
  have counted := invariant.counted op stored
  have bound : outboxCount db.outboxes op.id ≤ 1 := by
    rw [counted]
    split <;> simp
  rw [outboxCount, List.countP_eq_length_filter] at bound
  have leftIn : left ∈ db.outboxes.rows.filter (·.billingOperationId = op.id) := by
    simp [leftStored, idEq]
  have rightIn : right ∈ db.outboxes.rows.filter (·.billingOperationId = op.id) := by
    simp [rightStored, idEq, same]
  rcases filtered : db.outboxes.rows.filter (·.billingOperationId = op.id) with
    _ | ⟨only, _ | ⟨two, rest⟩⟩
  · simp [filtered] at leftIn
  · simp only [filtered, List.mem_singleton] at leftIn rightIn
    rw [leftIn, rightIn]
  · simp [filtered] at bound

/-- A delivery of what is not acknowledged succeeds once logging is on. -/
theorem deliver_unacknowledged {s : DeliveryState} {opId : ℤ} (invariant : s.Invariant)
    (pending : Unacknowledged opId s) {ctx : LogContext}
    (enabled : ctx.logConsumeEnabled = true) (notClickHouse : ctx.usingClickHouse = false) :
    (deliverBillingOperationConsumeLog ctx opId s.stores).2 = .ok true := by
  rcases invariant.stores with ⟨outboxes, _, _, agreeing⟩
  rcases pending.logged with ⟨log, logStored, logEq⟩
  rcases agreeing log logStored opId logEq with ⟨row, stored, opEq, _⟩
  have unsent := pending.rows row stored opEq
  have read : s.stores.db.outboxes.rows.find?
      (fun row => row.billingOperationId = opId) = some row := by
    cases found : s.stores.db.outboxes.rows.find? (fun row => row.billingOperationId = opId) with
    | none =>
      rw [List.find?_eq_none] at found
      exact absurd (by simpa using opEq) (found row stored)
    | some _ =>
      rw [Option.some.injEq]
      refine outbox_unique outboxes (List.mem_of_find?_eq_some found) stored ?_
      rw [opEq]
      simpa using List.find?_some found
  have paramsEq : row.params.billingOperationId = some opId := by
    simp [LogOutbox.params, opEq]
  have taken : operationLogged row.params s.stores.logs = true := by
    simp only [operationLogged, paramsEq, Option.isSome_some, Bool.true_and, List.any_eq_true]
    exact ⟨log, logStored, by simpa using logEq⟩
  have compared : recordCompare false row.payload.userId row.params s.stores.logs = .ok true := by
    simp only [recordCompare, Bool.false_eq_true, if_false, paramsEq]
    cases found : s.stores.logs.rows.find? (fun log => log.billingOperationId = some opId) with
    | none =>
      rw [List.find?_eq_none] at found
      exact absurd (by simpa using logEq) (found log logStored)
    | some existing =>
      have existingEq : existing.billingOperationId = some opId := by
        simpa using List.find?_some found
      rcases agreeing existing (List.mem_of_find?_eq_some found) opId existingEq with
        ⟨other, others, otherEq, agrees⟩
      have same := outbox_unique outboxes others stored (otherEq.trans opEq.symm)
      simp [same ▸ agrees]
  have acknowledged : s.stores.db.outboxes.updateWhere row.id (fun row => !row.delivered)
      (LogOutbox.acknowledge true) = ⟨_, 1⟩ :=
    Table.updateWhere_of_find? (Table.find?_of_mem stored) (by simp [unsent])
  simp only [deliverBillingOperationConsumeLog, DeliveryCall.remaining, DeliveryCall.run,
    DeliveryCall.proceed, read, unsent, recordInsert, paramsEq, notClickHouse, enabled, taken,
    compared, DeliveryCall.afterRecord, Bool.false_eq_true, if_false, Bool.and_false,
    Bool.not_true, if_true, acknowledged]
  rfl

/-! ## Delivery over whole runs -/

/-- Nothing was billed yet. -/
structure DeliveryState.Fresh (s : DeliveryState) : Prop where
  noOperations : s.stores.db.operations.rows = []
  noOutboxes : s.stores.db.outboxes.rows = []
  noLogs : ∀ log ∈ s.stores.logs.rows, log.billingOperationId = none
  idle : s.calls = []

theorem DeliveryState.Fresh.invariant {s : DeliveryState} (fresh : s.Fresh) :
    s.Invariant := by
  refine ⟨⟨⟨?_, ?_⟩, ?_, ?_, ?_⟩, ?_⟩
  · simp [fresh.noOutboxes]
  · simp [fresh.noOperations]
  · simp [fresh.noOutboxes]
  · intro opId
    have unlogged : logCount s.stores.logs opId = 0 := by
      simp only [logCount, List.countP_eq_zero, decide_eq_true_eq]
      intro log stored
      simp [fresh.noLogs log stored]
    omega
  · intro log stored _ opEq
    rw [fresh.noLogs log stored] at opEq
    simp at opEq
  · simp [fresh.idle]

theorem DeliveryState.Invariant.reachable {allowed : DeliveryState → DeliveryAction → Prop}
    {s later : DeliveryState} (invariant : s.Invariant)
    (run : Reachable DeliveryState.next allowed s later) : later.Invariant :=
  run.invariant DeliveryState.Invariant
    (fun _ action _ holds => (DeliveryState.next_extends holds action).2) invariant

theorem DeliveryState.Invariant.delivered_kept {allowed : DeliveryState → DeliveryAction → Prop}
    {s later : DeliveryState} (invariant : s.Invariant)
    (run : Reachable DeliveryState.next allowed s later)
    {row : LogOutbox} (stored : row ∈ s.stores.db.outboxes.rows)
    (given : row.delivered = true) : row ∈ later.stores.db.outboxes.rows := by
  have kept := run.invariant
    (fun current => current.Invariant ∧ row ∈ current.stores.db.outboxes.rows)
    (fun current action _ holds => ?_) ⟨invariant, stored⟩
  · exact kept.2
  · have extended := DeliveryState.next_extends holds.1 action
    exact ⟨extended.2, extended.1.delivered row holds.2 given⟩

theorem Unacknowledged.reported {opId : ℤ} {s later : DeliveryState}
    (pending : Unacknowledged opId s) (invariant : s.Invariant)
    (run : Reachable DeliveryState.next
      (fun current action => current.loggingOn opId action = true) s later) :
    Reported opId s.answers later := by
  have start : Reported opId s.answers s := by
    refine ⟨pending.logged, ?_, pending.calls, fun reply inAnswers _ => .inl inAnswers⟩
    intro row stored opEq given
    rw [pending.rows row stored opEq] at given
    exact Bool.noConfusion given
  have kept := run.invariant (fun current => current.Invariant ∧ Reported opId s.answers current)
    (fun current action enabled holds => ?_) ⟨invariant, start⟩
  · exact kept.2
  · exact ⟨(DeliveryState.next_extends holds.1 action).2, holds.2.next holds.1 enabled⟩

/-- In every run of deliveries, crashes and billing transactions: an operation has at most
one log, a delivered outbox row stays as it is, and it claims a record only if the log is
there. Once the log is there without an acknowledgement, an undisturbed retry with consume
logging enabled reports it, and so does every call as long as logging stays enabled. -/
theorem consume_log_delivered_once {init middle goal : DeliveryState} (fresh : init.Fresh)
    (first : Reachable DeliveryState.next Unrestricted init middle)
    (two : Reachable DeliveryState.next Unrestricted middle goal) (operationId : ℤ) :
    logCount goal.stores.logs operationId ≤ 1 ∧
    (∀ row ∈ middle.stores.db.outboxes.rows, row.billingOperationId = operationId →
      row.delivered = true → row ∈ goal.stores.db.outboxes.rows) ∧
    (∀ row ∈ goal.stores.db.outboxes.rows, row.billingOperationId = operationId →
      row.delivered = true → row.recordCreated = true → Logged goal.stores.logs operationId) ∧
    (Unacknowledged operationId middle → (∀ ctx : LogContext, ctx.logConsumeEnabled = true →
        ctx.usingClickHouse = false →
        (deliverBillingOperationConsumeLog ctx operationId middle.stores).2 = .ok true) ∧
      (Reachable DeliveryState.next
          (fun s action => s.loggingOn operationId action = true) middle goal →
        (∀ row ∈ goal.stores.db.outboxes.rows, row.billingOperationId = operationId →
          row.delivered = true → row.recordCreated = true) ∧
        ∀ reply ∈ goal.answers, reply.1 = operationId →
          reply ∈ middle.answers ∨ reply.2 = true)) := by
  have middleInvariant := fresh.invariant.reachable first
  have targetInvariant := middleInvariant.reachable two
  refine ⟨targetInvariant.stores.single operationId, ?_, ?_, ?_⟩
  · intro row stored _ isDelivered
    exact middleInvariant.delivered_kept two stored isDelivered
  · rintro row stored rfl isDelivered isRecorded
    exact targetInvariant.stores.acknowledged row stored isDelivered isRecorded
  · intro pending
    refine ⟨?_, ?_⟩
    · intro _ enabled notClickHouse
      exact deliver_unacknowledged middleInvariant pending enabled notClickHouse
    · intro enabledRun
      have reported := pending.reported middleInvariant enabledRun
      exact ⟨reported.rows, reported.answers⟩

/-! ## A crash between insert and acknowledgement -/

def sampleDelivery : DeliveryState :=
  ⟨⟨sampleDatabase, Table.empty⟩, [], []⟩

def sampleContext (logConsumeEnabled : Bool) : LogContext :=
  ⟨logConsumeEnabled, false, "user", "request", "upstream", 0, ""⟩

def sampleCrash : List DeliveryAction :=
  [.other (.reserve {} sampleRequest), .other (.settle 0 {} 1 "fingerprint" sampleSettlement),
    .deliver 1, .advance 0 false (sampleContext true), .advance 0 false (sampleContext true),
    .crash 0]

def sampleRetry (logConsumeEnabled : Bool) : List DeliveryAction :=
  [.frozenText false 1 "fingerprint", .advance 0 false (sampleContext logConsumeEnabled),
    .advance 0 false (sampleContext logConsumeEnabled),
    .advance 0 false (sampleContext logConsumeEnabled),
    .advance 0 false (sampleContext logConsumeEnabled)]

theorem sampleDelivery_fresh : sampleDelivery.Fresh :=
  ⟨rfl, rfl, by simp [sampleDelivery, Table.empty], rfl⟩

theorem sampleCrash_unacknowledged :
    Unacknowledged 1 (sampleCrash.foldl DeliveryState.next sampleDelivery) where
  logged := by
    unfold Logged
    decide
  rows := by decide
  calls := by
    have noCalls : (sampleCrash.foldl DeliveryState.next sampleDelivery).calls = [] := by
      decide
    simp [noCalls]

theorem consume_log_delivered_once_sample :
    ((sampleRetry true).foldl DeliveryState.next
      (sampleCrash.foldl DeliveryState.next sampleDelivery)).answers = [(1, true)] ∧
    logCount ((sampleRetry true).foldl DeliveryState.next
      (sampleCrash.foldl DeliveryState.next sampleDelivery)).stores.logs 1 ≤ 1 ∧
    ∀ row ∈ ((sampleRetry true).foldl DeliveryState.next
      (sampleCrash.foldl DeliveryState.next sampleDelivery)).stores.db.outboxes.rows,
      row.billingOperationId = 1 → row.delivered = true → row.recordCreated = true := by
  have retried : RunAllowed DeliveryState.next (fun s action => s.loggingOn 1 action = true)
      (sampleCrash.foldl DeliveryState.next sampleDelivery) (sampleRetry true) := by
    decide
  have once := consume_log_delivered_once sampleDelivery_fresh
    (Reachable.foldl DeliveryState.next sampleCrash sampleDelivery)
    (Reachable.foldl DeliveryState.next (sampleRetry true) _) 1
  refine ⟨by decide, once.1, ?_⟩
  exact ((once.2.2.2 sampleCrash_unacknowledged).2 (Reachable.of_run _ _ retried)).1

/-- When consume logging is switched off before the retry, the retry acknowledges the row
without a record although the log is there. -/
theorem retry_denies_existing_log :
    ¬∀ (init middle goal : DeliveryState) (operationId : ℤ), init.Fresh →
      Reachable DeliveryState.next Unrestricted init middle → Unacknowledged operationId middle →
      Reachable DeliveryState.next Unrestricted middle goal →
      ∀ reply ∈ goal.answers, reply.1 = operationId →
        reply ∈ middle.answers ∨ reply.2 = true := by
  intro reports
  have answered := reports sampleDelivery (sampleCrash.foldl DeliveryState.next sampleDelivery)
    ((sampleRetry false).foldl DeliveryState.next
      (sampleCrash.foldl DeliveryState.next sampleDelivery)) 1
    sampleDelivery_fresh (Reachable.foldl DeliveryState.next sampleCrash sampleDelivery)
    sampleCrash_unacknowledged (Reachable.foldl DeliveryState.next (sampleRetry false) _)
    (1, false) (by decide) rfl
  revert answered
  decide

end NewApi.Model
