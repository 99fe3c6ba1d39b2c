import NewApi.Library.Decimal
import NewApi.Library.StableSort
import Mathlib.Data.List.Infix

/-!
# The tool graph

`ValidateToolGraph` of `tool_graph.go`: calls open exchanges, results complete them, by the
identity of the call or by the name of the function, and every event that fits nowhere is an
issue.
-/

namespace NewApi.ContextConsensus

/-- The kinds of events in a transcript. -/
inductive ToolEventKind where
  | call
  | result
  | unsupported
deriving DecidableEq

/-- A call of a tool or its result, in the order of the transcript. -/
structure ToolEvent where
  kind : ToolEventKind
  protocol : String
  (sequence parallelGroup : ℤ)
  (callID functionName payloadDigest : String)
  (opaqueStatePresent matchByName : Bool)

/-- What a result is matched by. -/
inductive ToolIdentityMode where
  | stableID
  | functionName
deriving DecidableEq

/-- How far an exchange has come. -/
inductive ToolExchangeStatus where
  | pending
  | completed
  | failed
deriving DecidableEq

/-- A call with its result. -/
structure ToolExchange where
  protocol : String
  sequence : ℤ
  resultSequence : Option ℤ
  groupIndex : ℕ
  (callID functionName argumentsDigest resultDigest : String)
  status : ToolExchangeStatus
  (rawCallPresent rawResultPresent opaqueStatePresent : Bool)
deriving DecidableEq

/-- The calls of one container with their results. -/
structure ToolGraphGroup where
  protocol : String
  (callContainerSequence callSequenceStart callSequenceEnd : ℤ)
  (resultSequenceStart resultSequenceEnd : Option ℤ)
  exchangeIndexes : List ℕ
  status : ToolExchangeStatus
  identityMode : ToolIdentityMode

/-- The exchanges and groups of a transcript. -/
structure ToolGraph where
  exchanges : List ToolExchange
  groups : List ToolGraphGroup
  ambiguousFunctionNames : List String

/-- A reason why a transcript is no graph. -/
structure ValidationIssue where
  (code path message : String)
deriving DecidableEq

namespace ToolEvent

variable (event : ToolEvent)

def path : String :=
  "tool_event[" ++ Decimal.formatInt event.sequence ++ "]"

def identityMode : ToolIdentityMode :=
  if event.matchByName then .functionName else .stableID

end ToolEvent

/-- `fmt.Sprintf("%s:%d", protocol, group)`. -/
def containerKey (protocol : String) (group : ℤ) : String :=
  protocol ++ ":" ++ Decimal.formatInt group

def ToolEvent.containerKey (event : ToolEvent) : String :=
  ContextConsensus.containerKey event.protocol event.parallelGroup

/-- The local variables of `ValidateToolGraph`. -/
structure GraphState where
  exchanges : List ToolExchange
  groups : List ToolGraphGroup
  issues : List ValidationIssue
  callIndexByID : String → Option ℕ
  pendingByFunctionName : String → List ℕ
  ambiguousFunctionNames : List String
  groupIndexByCallContainer : String → Option ℕ
  groupIndexByResultContainer : String → Option ℕ
  failedGroups : List ℕ

def GraphState.start : GraphState :=
  ⟨[], [], [], fun _ => none, fun _ => [], [], fun _ => none, fun _ => none, []⟩

/-- What is done with an event. -/
inductive GraphVerdict where
  | refused (code message : String) (groups : List ℕ)
  | opened (old : Option ℕ)
  | matched (exchangeIndex : ℕ)

namespace GraphState

variable (s : GraphState) (event : ToolEvent)

/-- `graph.Exchanges[index].GroupIndex`. -/
def groupOf (i : ℕ) : Option ℕ :=
  s.exchanges[i]?.map ToolExchange.groupIndex

def groupsOf (indexes : List ℕ) : Option (List ℕ) :=
  indexes.mapM s.groupOf

/-! ### The checks of an event -/

def duplicateCall : Option ℕ :=
  if event.callID ≠ "" then s.callIndexByID event.callID else none

def judgeCall : Option GraphVerdict :=
  if Text.isBlank event.callID ∧ ¬event.matchByName then
    some (.refused "missing_tool_call_id" "tool call ID is required" [])
  else if event.matchByName ∧ Text.isBlank event.functionName then
    some (.refused "missing_tool_function_name"
      "tool function name is required for name-based matching" [])
  else
    match s.duplicateCall event with
    | some duplicate =>
      (s.groupOf duplicate).map fun groupIndex =>
        .refused "duplicate_tool_call_id" "tool call ID must be unique" [groupIndex]
    | none =>
      match s.groupIndexByCallContainer event.containerKey with
      | none => some (.opened none)
      | some groupIndex =>
        s.groups[groupIndex]?.map fun group =>
          if group.identityMode ≠ event.identityMode then
            .refused "tool_group_identity_mode_mismatch"
              "tool calls in one group must use the same identity mode" [groupIndex]
          else .opened (some groupIndex)

def answeredCall : Option ℕ :=
  if event.matchByName then
    match s.pendingByFunctionName event.functionName with
    | [exchangeIndex] => some exchangeIndex
    | _ => s.callIndexByID event.callID
  else s.callIndexByID event.callID

def judgeResult : Option GraphVerdict :=
  if event.matchByName ∧ 1 < (s.pendingByFunctionName event.functionName).length then
    (s.groupsOf (s.pendingByFunctionName event.functionName)).map fun groups =>
      .refused "ambiguous_tool_result"
        "tool result cannot be assigned to one of multiple same-name calls" groups
  else
    match s.answeredCall event with
    | none => some (.refused "orphan_tool_result" "tool result has no matching call" [])
    | some exchangeIndex =>
      s.exchanges[exchangeIndex]?.map fun turn =>
        if turn.rawResultPresent then
          .refused "duplicate_tool_result" "tool call has more than one result" [turn.groupIndex]
        else if event.protocol ≠ turn.protocol then
          .refused "tool_result_protocol_mismatch"
            "tool result protocol does not match its call" [turn.groupIndex]
        else if event.sequence ≤ turn.sequence then
          .refused "tool_result_order_invalid" "tool result must occur after its call"
            [turn.groupIndex]
        else
          match s.groupIndexByResultContainer event.containerKey with
          | none => .matched exchangeIndex
          | some inherited =>
            if inherited ≠ turn.groupIndex then
              .refused "tool_result_group_mismatch"
                "one result container cannot close calls from different call groups"
                [inherited, turn.groupIndex]
            else .matched exchangeIndex

def judge : Option GraphVerdict :=
  match event.kind with
  | .call => s.judgeCall event
  | .result => s.judgeResult event
  | .unsupported =>
    some (.refused "unknown_tool_event" "tool event kind is not supported" [])

/-! ### The bookkeeping of an event -/

def refuse (code message : String) (groups : List ℕ) : GraphState :=
  { s with
    issues := s.issues ++ [⟨code, event.path, message⟩]
    failedGroups := s.failedGroups ++ groups }

def newGroup : ToolGraphGroup where
  protocol := event.protocol
  callContainerSequence := event.parallelGroup
  callSequenceStart := event.sequence
  callSequenceEnd := event.sequence
  resultSequenceStart := none
  resultSequenceEnd := none
  exchangeIndexes := []
  status := .pending
  identityMode := event.identityMode

/-- The group of a call, which starts or widens with it: the state and the index. -/
def enterGroup : Option ℕ → GraphState × ℕ
  | none =>
    ({ s with
        groups := s.groups ++ [newGroup event]
        groupIndexByCallContainer := Function.update s.groupIndexByCallContainer
          event.containerKey (some s.groups.length) },
      s.groups.length)
  | some groupIndex =>
    ({ s with
        groups := s.groups.modify groupIndex fun group =>
          { group with
            callSequenceStart := min group.callSequenceStart event.sequence
            callSequenceEnd := max group.callSequenceEnd event.sequence } },
      groupIndex)

def newExchange (groupIndex : ℕ) : ToolExchange where
  protocol := event.protocol
  sequence := event.sequence
  resultSequence := none
  groupIndex := groupIndex
  callID := event.callID
  functionName := event.functionName
  argumentsDigest := event.payloadDigest
  resultDigest := ""
  status := .pending
  rawCallPresent := true
  rawResultPresent := false
  opaqueStatePresent := event.opaqueStatePresent

def appendExchange (groupIndex : ℕ) : GraphState :=
  { s with
    exchanges := s.exchanges ++ [newExchange event groupIndex]
    groups := s.groups.modify groupIndex fun group =>
      { group with exchangeIndexes := group.exchangeIndexes ++ [s.exchanges.length] }
    callIndexByID :=
      if event.callID ≠ "" then
        Function.update s.callIndexByID event.callID (some s.exchanges.length)
      else s.callIndexByID }

def await (exchangeIndex : ℕ) : Option GraphState :=
  let pending := s.pendingByFunctionName event.functionName ++ [exchangeIndex]
  let waiting :=
    { s with
      pendingByFunctionName :=
        Function.update s.pendingByFunctionName event.functionName pending }
  if 1 < pending.length then
    (waiting.groupsOf pending).map fun groups =>
      { waiting with
        ambiguousFunctionNames := waiting.ambiguousFunctionNames.insert event.functionName
        failedGroups := waiting.failedGroups ++ groups }
  else some waiting

def openExchange (old : Option ℕ) : Option GraphState :=
  let entered := s.enterGroup event old
  let opened := entered.1.appendExchange event entered.2
  if event.matchByName then opened.await event s.exchanges.length else some opened

def answered (turn : ToolExchange) : ToolExchange :=
  { turn with
    resultDigest := event.payloadDigest
    resultSequence := some event.sequence
    rawResultPresent := true
    status := .completed
    opaqueStatePresent := turn.opaqueStatePresent || event.opaqueStatePresent }

def closing (group : ToolGraphGroup) : ToolGraphGroup :=
  { group with
    resultSequenceStart := some (match group.resultSequenceStart with
      | none => event.sequence
      | some start => min start event.sequence)
    resultSequenceEnd := some (match group.resultSequenceEnd with
      | none => event.sequence
      | some last => max last event.sequence) }

/-- `pending[1:]`, which needs an element. -/
def takePending : Option (String → List ℕ) :=
  if event.matchByName then
    match s.pendingByFunctionName event.functionName with
    | [] => none
    | _ :: rest => some (Function.update s.pendingByFunctionName event.functionName rest)
  else some s.pendingByFunctionName

def complete (exchangeIndex : ℕ) : Option GraphState := do
  let turn ← s.exchanges[exchangeIndex]?
  let pending ← s.takePending event
  let _ ← s.groups[turn.groupIndex]?
  return { s with
    exchanges := s.exchanges.modify exchangeIndex (answered event)
    groups := s.groups.modify turn.groupIndex (closing event)
    pendingByFunctionName := pending
    groupIndexByResultContainer := Function.update s.groupIndexByResultContainer
      event.containerKey (some turn.groupIndex) }

def perform : GraphVerdict → Option GraphState
  | .refused code message groups => some (s.refuse event code message groups)
  | .opened old => s.openExchange event old
  | .matched exchangeIndex => s.complete event exchangeIndex

end GraphState

/-! ## The loop -/

/-- What was done with an event. -/
inductive Handled where
  | refused (code : String)
  | opened (exchangeIndex : ℕ)
  | matched (exchangeIndex : ℕ)
deriving DecidableEq

/-- An event and what was done with it. -/
structure GraphNote where
  event : ToolEvent
  handled : Handled

namespace GraphState

def handled (s : GraphState) : GraphVerdict → Handled
  | .refused code _ _ => .refused code
  | .opened _ => .opened s.exchanges.length
  | .matched exchangeIndex => .matched exchangeIndex

def processEvent (s : GraphState) (event : ToolEvent) : Option (GraphState × GraphNote) := do
  let verdict ← s.judge event
  let next ← s.perform event verdict
  return (next, ⟨event, s.handled verdict⟩)

def processEvents : GraphState → List GraphNote → List ToolEvent →
    Option (GraphState × List GraphNote)
  | s, notes, [] => some (s, notes)
  | s, notes, event :: rest =>
    (s.processEvent event).bind fun processed =>
      processEvents processed.1 (notes ++ [processed.2]) rest

/-! ## The end -/

variable (s : GraphState)

def missingResults : List ValidationIssue :=
  (s.exchanges.zipIdx.filter fun entry => entry.1.status = .pending).map fun entry =>
    ⟨"missing_tool_result", "tool_exchange[" ++ Decimal.format entry.2 ++ "]",
      "tool call is not closed by a result"⟩

def precedes (left right : ℕ) : Bool :=
  match s.exchanges[left]?, s.exchanges[right]? with
  | some leftExchange, some rightExchange =>
    if leftExchange.sequence ≠ rightExchange.sequence then
      leftExchange.sequence < rightExchange.sequence
    else left < right
  | _, _ => false

def finishGroup (groupIndex : ℕ) (group : ToolGraphGroup) : ToolGraphGroup :=
  let ordered := StableSort.sliceStable s.precedes group.exchangeIndexes
  { group with
    exchangeIndexes := ordered
    status :=
      if groupIndex ∈ s.failedGroups then .failed
      else if ordered.all fun exchangeIndex =>
          s.exchanges[exchangeIndex]?.any fun turn => turn.status = .completed then
        .completed
      else .pending }

def finish : ToolGraph × List ValidationIssue :=
  (⟨s.exchanges, s.groups.mapIdx s.finishGroup, s.ambiguousFunctionNames.mergeSort (· ≤ ·)⟩,
    s.issues ++ s.missingResults)

end GraphState

def validateToolGraph (events : List ToolEvent) : Option (ToolGraph × List ValidationIssue) :=
  (GraphState.start.processEvents [] events).map fun processed => processed.1.finish

def transcript (events : List ToolEvent) : Option (List GraphNote) :=
  (GraphState.start.processEvents [] events).map Prod.snd

end NewApi.ContextConsensus
