import NewApi.ContextConsensus.CompactionChild

/-!
# The money of the compaction child

Whatever its dependencies do, the child moves its money in order and at most once, and leaves
nothing reserved without saying so.
-/

namespace NewApi.ContextConsensus

/-- The calls that move the quota of a child, and its run. -/
inductive ChildMove where
  | preconsume
  | run
  | settle
  | refund
deriving DecidableEq

namespace ChildCall

def move : ChildCall → Option ChildMove
  | preconsumed _ _ => some .preconsume
  | ran _ => some .run
  | settled _ _ => some .settle
  | refunded _ _ => some .refund
  | recorded _ => none

end ChildCall

section Money

variable {World Failure Summary : Type}
  (dependencies : CompactionChildDependencies World Failure Summary)

/-- Nothing needs a refund after it was settled or refunded, and recording moves no money. -/
structure CompactionChildDependencies.ConsistentRefunds : Prop where
  settled : ∀ slip output world, (dependencies.settleCompactionChild slip output world).2.2 = none →
      dependencies.needsRefund slip (dependencies.settleCompactionChild slip output world).1 = false
  refunded : ∀ slip world, (dependencies.refundCompactionChild slip world).2 = none →
    dependencies.needsRefund slip (dependencies.refundCompactionChild slip world).1 = false
  recorded : ∀ slip record world,
    dependencies.needsRefund slip (dependencies.recordCompactionChild record world).1 =
      dependencies.needsRefund slip world

/-- The failure is reported as a billable execution that could not be settled. -/
def ExecuteAnswer.ReportsUnsettled (reply : ExecuteAnswer World Failure Summary)
    (slip : CompactionBillingReceipt) : Prop :=
  .settled slip false ∈ reply.executor.calls ∧
    reply.result.billableExecutionFailure = true ∧
    reply.result.state = .settlementFailed ∧
    reply.result.resultCode = "billable_execution_settle_failed" ∧ reply.error ≠ none

/-- The money calls are made at most once each and in order, success is a settled and recorded
child, a settled child is not refunded, and what still needs a refund was refused one or is
reported. -/
structure ExecuteAnswer.Accounted (reply : ExecuteAnswer World Failure Summary) : Prop where
  inOrder : (reply.executor.calls.filterMap ChildCall.move).Sublist
    [.preconsume, .run, .settle, .refund]
  succeeded : reply.result.succeeded = true →
    (∃ slip, .settled slip true ∈ reply.executor.calls) ∧
      .recorded true ∈ reply.executor.calls
  unrefunded : ∀ slip, .settled slip true ∈ reply.executor.calls →
    ∀ other succeeded, .refunded other succeeded ∉ reply.executor.calls
  released : ∀ slip succeeded, .preconsumed (some slip) succeeded ∈ reply.executor.calls →
    dependencies.needsRefund slip reply.executor.world = true →
      .refunded slip false ∈ reply.executor.calls ∨ reply.ReportsUnsettled slip
  started : reply.executor.started = true

/-- A started executor that has made the moves, none of them a settlement that succeeded, and
reserved at most the receipt. -/
structure CompactionChildExecutor.Reached (exec : CompactionChildExecutor World)
    (moves : List ChildMove) (slip : Option CompactionBillingReceipt) : Prop where
  moves : exec.calls.filterMap ChildCall.move = moves
  unsettled : ∀ settled, .settled settled true ∉ exec.calls
  reserved : ∀ reserved succeeded, .preconsumed (some reserved) succeeded ∈ exec.calls →
    slip = some reserved
  started : exec.started = true

variable {dependencies} {exec : CompactionChildExecutor World} {world : World}
  {moves : List ChildMove} {slip : Option CompactionBillingReceipt}
  {req : CompactionChildRequest} {result : CompactionChildResult Summary}
  {reserved : CompactionBillingReceipt} {output : CompactionExecutionOutput Summary}

namespace CompactionChildExecutor

@[simp]
theorem setState_world (s : CompactionChildState) :
    (exec.setState s).world = exec.world :=
  rfl

theorem Reached.setState (run : exec.Reached moves slip) (s : CompactionChildState) :
    (exec.setState s).Reached moves slip :=
  ⟨run.moves, run.unsettled, run.reserved, run.started⟩

theorem Reached.inWorld (run : exec.Reached moves slip) (world : World) :
    { exec with world := world : CompactionChildExecutor World }.Reached moves slip :=
  ⟨run.moves, run.unsettled, run.reserved, run.started⟩

theorem mem_called {call other : ChildCall} :
    other ∈ (exec.called world call).calls ↔ other ∈ exec.calls ∨ other = call := by
  simp [called]

theorem Reached.called (run : exec.Reached moves slip) (world : World)
    (call : ChildCall) (unsettled : ∀ settled, call ≠ .settled settled true)
    (unreserved : ∀ reserved succeeded, call ≠ .preconsumed (some reserved) succeeded) :
    (exec.called world call).Reached (moves ++ call.move.toList) slip where
  moves := by
    simp only [CompactionChildExecutor.called, List.filterMap_append, run.moves]
    cases call <;> rfl
  unsettled := by
    intro settled mem
    rcases mem_called.mp mem with past | same
    · exact run.unsettled settled past
    · exact unsettled settled same.symm
  reserved := by
    intro reserved succeeded mem
    rcases mem_called.mp mem with past | same
    · exact run.reserved reserved succeeded past
    · exact absurd same.symm (unreserved reserved succeeded)
  started := run.started

theorem Reached.preconsumed (run : exec.Reached [] none) (world : World)
    (slip : Option CompactionBillingReceipt) (succeeded : Bool) :
    (exec.called world (.preconsumed slip succeeded)).Reached [.preconsume] slip where
  moves := by
    simp only [CompactionChildExecutor.called, List.filterMap_append, run.moves]
    rfl
  unsettled := by
    intro settled mem
    rcases mem_called.mp mem with past | same
    · exact run.unsettled settled past
    · cases same
  reserved := by
    intro reserved made mem
    rcases mem_called.mp mem with past | same
    · exact absurd (run.reserved reserved made past) (by simp)
    · cases same
      rfl
  started := run.started

theorem Reached.unrefunded (run : exec.Reached moves slip) (none : .refund ∉ moves)
    (other : CompactionBillingReceipt) (succeeded : Bool) :
    .refunded other succeeded ∉ exec.calls := by
  intro mem
  apply none
  rw [← run.moves]
  exact List.mem_filterMap.mpr ⟨_, mem, rfl⟩

/-! ## Exits -/

variable (dependencies req result)

theorem refundIfNeeded_cases (exec : CompactionChildExecutor World)
    (slip : Option CompactionBillingReceipt) :
    ((exec.refundIfNeeded dependencies slip).1 = exec ∧
        ∀ reserved, slip = some reserved →
          dependencies.needsRefund reserved exec.world = false) ∨
      ∃ reserved, slip = some reserved ∧ (exec.refundIfNeeded dependencies slip).1 =
          (exec.setState .refunding).called
            (dependencies.refundCompactionChild reserved exec.world).1 (.refunded reserved
              (dependencies.refundCompactionChild reserved exec.world).2.isNone) := by
  cases slip with
  | none => exact .inl ⟨rfl, (by simp)⟩
  | some reserved =>
    by_cases needs : dependencies.needsRefund reserved exec.world = false
    · left
      refine ⟨by simp only [refundIfNeeded, needs, if_true], ?_⟩
      rintro _ ⟨⟩
      exact needs
    · right
      refine ⟨reserved, rfl, ?_⟩
      simp only [refundIfNeeded, if_neg needs]
      split <;> rfl

theorem fail_executor (exec : CompactionChildExecutor World)
    (slip : Option CompactionBillingReceipt) (code : String)
    (cause : Option (ExecutionError Failure)) :
    ∃ s record succeeded, (exec.fail dependencies req result code slip cause).executor =
        ((exec.refundIfNeeded dependencies slip).1.setState s).called
          (dependencies.recordCompactionChild record
            (exec.refundIfNeeded dependencies slip).1.world).1 (.recorded succeeded) :=
  ⟨_, _, _, rfl⟩

variable {dependencies}

variable (sound : dependencies.ConsistentRefunds)

include sound

theorem fail_accounted
    (run : exec.Reached moves slip) (order : moves.Sublist [.preconsume, .run, .settle])
    (code : String) (cause : Option (ExecutionError Failure)) :
    (exec.fail dependencies req result code slip cause).Accounted dependencies := by
  rcases fail_executor dependencies req result exec slip code cause with
    ⟨s, record, succeeded, runs⟩
  rcases refundIfNeeded_cases dependencies exec slip with
    ⟨same, unneeded⟩ | ⟨reserved, rfl, refunded⟩
  · rw [same] at runs
    have after := (run.setState s).called
      (dependencies.recordCompactionChild record exec.world).1 (.recorded succeeded)
      (by simp) (by simp)
    constructor
    · rw [runs, after.moves]
      exact (List.append_nil moves).symm ▸ order.trans (by decide)
    · rintro ⟨⟩
    · intro settled mem
      rw [runs] at mem
      exact absurd mem (after.unsettled settled)
    · intro reserved made mem needs
      rw [runs] at mem needs
      have isReceipt := after.reserved reserved made mem
      change dependencies.needsRefund reserved
        (dependencies.recordCompactionChild record exec.world).1 = true at needs
      rw [sound.recorded, unneeded reserved isReceipt] at needs
      cases needs
    · rw [runs]
      exact after.started
  · rw [refunded] at runs
    have after := (((run.setState .refunding).called
      (dependencies.refundCompactionChild reserved exec.world).1
      (.refunded reserved (dependencies.refundCompactionChild reserved exec.world).2.isNone)
      (by simp) (by simp)).setState s).called (dependencies.recordCompactionChild record
          (dependencies.refundCompactionChild reserved exec.world).1).1
        (.recorded succeeded) (by simp) (by simp)
    constructor
    · rw [runs]
      refine after.moves ▸ ?_
      exact (List.append_nil (moves ++ [ChildMove.refund])).symm ▸
        order.append (List.Sublist.refl [ChildMove.refund])
    · rintro ⟨⟩
    · intro settled mem
      rw [runs] at mem
      exact absurd mem (after.unsettled settled)
    · intro other made mem needs
      rw [runs] at mem needs
      have isReceipt := after.reserved other made mem
      cases isReceipt
      change dependencies.needsRefund reserved (dependencies.recordCompactionChild record
        (dependencies.refundCompactionChild reserved exec.world).1).1 = true at needs
      rw [sound.recorded] at needs
      cases failed : (dependencies.refundCompactionChild reserved exec.world).2 with
      | none =>
        rw [sound.refunded reserved exec.world failed] at needs
        cases needs
      | some _ =>
        left
        rw [runs]
        simp [CompactionChildExecutor.called, setState, failed]
    · rw [runs]
      exact after.started

variable (run : exec.Reached [.preconsume, .run] (some reserved))

include run in
theorem settled_accounted
    (settled : (dependencies.settleCompactionChild reserved output exec.world).2.2 = none)
    {reply : ExecuteAnswer World Failure Summary} (record : CompactionAuditRecord)
    (recorded : Bool)
    (isCalls : reply.executor.calls = exec.calls ++ [.settled reserved true, .recorded recorded])
    (isWorld : reply.executor.world = (dependencies.recordCompactionChild record
      (dependencies.settleCompactionChild reserved output exec.world).1).1)
    (isStarted : reply.executor.started = exec.started)
    (success : reply.result.succeeded = true → recorded = true) :
    reply.Accounted dependencies where
  inOrder := by
    rw [isCalls, List.filterMap_append, run.moves]
    change [ChildMove.preconsume, .run, .settle].Sublist _
    decide
  succeeded := by
    intro succeeded
    rw [isCalls]
    refine ⟨⟨reserved, by simp⟩, ?_⟩
    rw [success succeeded]
    simp
  unrefunded := by
    intro slip _ other made mem
    have none := run.unrefunded (by decide) other made
    rw [isCalls] at mem
    simp [none] at mem
  released := by
    intro slip made mem needs
    rw [isCalls] at mem
    have isReserved := run.reserved slip made (by simpa using mem)
    cases isReserved
    rw [isWorld, sound.recorded, sound.settled reserved output exec.world settled] at needs
    cases needs
  started := isStarted.trans run.started

include run in
theorem billable_accounted (err : Failure) :
    (exec.finishBillableExecutionFailure dependencies req result reserved output
      err).Accounted dependencies := by
  cases settled : (dependencies.settleCompactionChild reserved output exec.world).2.2 with
  | none =>
    simp only [finishBillableExecutionFailure, settle, setState, CompactionChildExecutor.called,
      record, settled]
    split
    next audit =>
      exact settled_accounted sound run settled _ false (by simp [audit]) rfl rfl (by simp)
    next audit =>
      exact settled_accounted sound run settled _ true (by simp [audit]) rfl rfl (by simp)
  | some _ =>
    have after := fun recorded => (run.called exec.world (.settled reserved false)
      (by simp) (by simp)).called exec.world (.recorded recorded) (by simp) (by simp)
    simp only [finishBillableExecutionFailure, settle, setState_world, settled]
    constructor
    · refine (after _).moves ▸ ?_
      change [ChildMove.preconsume, .run, .settle].Sublist _
      decide
    · simp
    · exact fun slip mem => absurd mem ((after _).unsettled slip)
    · intro slip made mem _
      have isReserved := (after _).reserved slip made mem
      cases isReserved
      right
      refine ⟨?_, rfl, rfl, rfl, ?_⟩
      · simp [record, CompactionChildExecutor.called, setState]
      · simp [joinErrors]
    · exact run.started

include run in
theorem finish_accounted :
    (exec.finish dependencies req result reserved output).Accounted dependencies := by
  cases settled : (dependencies.settleCompactionChild reserved output exec.world).2.2 with
  | none =>
    simp only [finish, settle, setState, CompactionChildExecutor.called, record, settled]
    split
    next audit =>
      exact settled_accounted sound run settled _ false (by simp [audit]) rfl rfl (by simp)
    next audit =>
      exact settled_accounted sound run settled _ true (by simp [audit]) rfl rfl fun _ => rfl
  | some err =>
    have after : (((exec.setState .executed).setState .settling).called
        (dependencies.settleCompactionChild reserved output exec.world).1
        (.settled reserved false)).Reached [.preconsume, .run, .settle] (some reserved) :=
      ((run.setState .executed).setState .settling).called _ _ (by simp) (by simp)
    have failed := fail_accounted req
      { result with
        settledQuota :=
          (dependencies.settleCompactionChild reserved output exec.world).2.1 }
      sound after (by decide) "settle_failed" (some (.given err))
    simp only [finish, settle, setState_world, settled]
    exact failed

theorem runChild_accounted (run : exec.Reached [.preconsume] (some reserved))
    (desc : CompactionChildDescriptor) (prepared : PreparedCompactionChild) :
    (exec.runChild dependencies req result desc prepared reserved).Accounted
      dependencies := by
  have after : ∀ succeeded, ((exec.setState .executing).called
      (dependencies.executeCompactionChild desc prepared exec.world).1
      (.ran succeeded)).Reached [.preconsume, .run] (some reserved) :=
    fun _ => (run.setState .executing).called _ _ (by simp) (by simp)
  simp only [runChild]
  split
  · split
    · split
      · exact fail_accounted req _ sound (after _) (by decide) _ _
      · exact billable_accounted req _ sound (after _) _
    · exact fail_accounted req _ sound (after _) (by decide) _ _
  · split
    · exact fail_accounted req _ sound (after _) (by decide) _ _
    · exact finish_accounted req _ sound (after _)

theorem preconsume_accounted (run : exec.Reached [] none)
    (desc : CompactionChildDescriptor) (prepared : PreparedCompactionChild) :
    (exec.preconsume dependencies req result desc prepared).Accounted dependencies := by
  have after : ∀ slip succeeded,
      (dependencies.preconsumeCompactionChild desc prepared exec.world).2.1 = slip →
        ((exec.setState .preconsuming).called
          (dependencies.preconsumeCompactionChild desc prepared exec.world).1
          (.preconsumed (dependencies.preconsumeCompactionChild desc prepared
            exec.world).2.1 succeeded)).Reached [.preconsume] slip := by
    rintro _ _ rfl
    exact (run.setState .preconsuming).preconsumed _ _ _
  simp only [preconsume]
  split
  · exact fail_accounted req _ sound (after _ _ rfl) (by decide) _ _
  · split
    next missing =>
      exact fail_accounted req _ sound (after _ _ missing) (by decide) _ _
    next given =>
      split
      · exact fail_accounted req _ sound (after _ _ given) (by decide) _ _
      · exact runChild_accounted req _ sound ((after _ _ given).setState .preconsumed)
          _ _

theorem prepare_accounted (run : exec.Reached [] none) (desc : CompactionChildDescriptor) :
    (exec.prepare dependencies req result desc).Accounted dependencies := by
  have after := (run.setState .preparing).inWorld
    (dependencies.prepareCompactionChild desc exec.world).1
  simp only [prepare]
  split
  · exact fail_accounted req _ sound after (by decide) _ _
  · split
    · exact fail_accounted req _ sound after (by decide) _ _
    · exact preconsume_accounted req _ sound (after.setState .prepared) _ _

theorem identify_accounted (run : exec.Reached [] none) :
    (exec.identify dependencies req result).Accounted dependencies := by
  have after := run.inWorld (dependencies.newChildRequestID req.parentRequestID exec.world).1
  simp only [identify]
  split
  · exact fail_accounted req _ sound after (by decide) _ _
  · split
    · exact fail_accounted req _ sound after (by decide) _ _
    · exact prepare_accounted req _ sound after _

end CompactionChildExecutor

/-- The child accounts for its money whatever the dependencies do, and a second `Execute` does
nothing. -/
theorem execute_accounted (dependencies : CompactionChildDependencies World Failure Summary)
    (sound : dependencies.ConsistentRefunds) (toLower : String → String) (world : World)
    (req : CompactionChildRequest) :
    ((newCompactionChildExecutor world).execute dependencies toLower req).Accounted
        dependencies ∧ ∀ exec : CompactionChildExecutor World, exec.started = true →
        ∀ again : CompactionChildRequest,
          (exec.execute dependencies toLower again).executor = exec ∧
            (exec.execute dependencies toLower again).result.succeeded = false ∧
            (exec.execute dependencies toLower again).error ≠ none := by
  constructor
  · have reached : { newCompactionChildExecutor world with started := true }.Reached [] none :=
      ⟨rfl, by rintro _ ⟨⟩, by rintro _ _ ⟨⟩, rfl⟩
    simp only [CompactionChildExecutor.execute]
    rw [if_neg (by simp [newCompactionChildExecutor])]
    split
    · exact CompactionChildExecutor.fail_accounted req _ sound reached (by decide) _ _
    · exact CompactionChildExecutor.identify_accounted req _ sound reached
  · intro _ started _
    simp only [CompactionChildExecutor.execute, started, if_true]
    exact ⟨trivial, trivial, (by simp)⟩

end Money

/-- Dependencies that always succeed. The world is whether a reservation needs a refund. -/
def childDependencies : CompactionChildDependencies Bool String String where
  newChildRequestID _ reserved := (reserved, "child", none)
  prepareCompactionChild _ reserved := (reserved, ⟨"preparation", "digest"⟩, none)
  preconsumeCompactionChild _ _ _ := (true, some ⟨"billing", 10⟩, none)
  needsRefund _ reserved := reserved
  settleCompactionChild _ _ _ := (false, 7, none)
  refundCompactionChild _ _ := (false, none)
  executeCompactionChild _ _ reserved := (reserved, ⟨"summary", "digest", ⟨5, 2⟩⟩, none)
  recordCompactionChild _ reserved := (reserved, none)
  asBillable _ := none

def childRequest : CompactionChildRequest :=
  ⟨"parent", "gpt-5", "v1", "source", 100⟩

theorem execute_accounted_child :
    ((newCompactionChildExecutor false).execute childDependencies id childRequest).Accounted
        childDependencies ∧ ((newCompactionChildExecutor false).execute childDependencies id
        childRequest).result.succeeded = true :=
  ⟨(execute_accounted childDependencies ⟨fun _ _ _ _ => rfl, fun _ _ _ => rfl, fun _ _ _ => rfl⟩ id
    false childRequest).1, by decide⟩

end NewApi.ContextConsensus
