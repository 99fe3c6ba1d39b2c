import NewApi.ContextConsensus.ToolGraph
import Mathlib.Data.List.Range

/-!
# The bookkeeping of the tool graph

What holds of the state and the notes after every event: each exchange stands in the group of its
container, is completed exactly when one result was matched to it, and is found by its identity.
-/

namespace NewApi.ContextConsensus

/-! ## Reading the notes -/

namespace GraphNote

def opening (note : GraphNote) : Option ToolEvent :=
  match note.handled with
  | .opened _ => some note.event
  | _ => none

def matchedIndex (note : GraphNote) : Option ℕ :=
  match note.handled with
  | .matched exchangeIndex => some exchangeIndex
  | _ => none

/-- The event was refused. -/
def Refused (note : GraphNote) : Prop :=
  ∃ code, note.handled = .refused code

end GraphNote

/-- The calls that opened an exchange, in the order of the exchanges. -/
def openedEvents (notes : List GraphNote) : List ToolEvent :=
  notes.filterMap GraphNote.opening

def matchedIndexes (notes : List GraphNote) : List ℕ :=
  notes.filterMap GraphNote.matchedIndex

def resultsOf (notes : List GraphNote) (exchangeIndex : ℕ) : List ToolEvent :=
  (notes.filter fun note => note.handled = .matched exchangeIndex).map GraphNote.event

section Notes

variable {notes : List GraphNote} {note : GraphNote}

theorem openedEvents_append (note : GraphNote) :
    openedEvents (notes ++ [note]) = openedEvents notes ++ note.opening.toList := by
  rw [openedEvents, List.filterMap_append]
  cases opened : note.opening with
  | none | some _ => simp [openedEvents, opened]

theorem matchedIndexes_append (note : GraphNote) :
    matchedIndexes (notes ++ [note]) = matchedIndexes notes ++ note.matchedIndex.toList := by
  rw [matchedIndexes, List.filterMap_append]
  cases matched : note.matchedIndex with
  | none | some _ => simp [matchedIndexes, matched]

theorem mem_matchedIndexes {index : ℕ} :
    index ∈ matchedIndexes notes ↔
      ∃ note ∈ notes, note.handled = .matched index := by
  simp only [matchedIndexes, List.mem_filterMap]
  refine exists_congr fun note => and_congr_right fun _ => ?_
  unfold GraphNote.matchedIndex
  split
  next handled => simp [handled]
  next other => simpa using other index

theorem length_resultsOf (notes : List GraphNote) (index : ℕ) :
    (resultsOf notes index).length = (matchedIndexes notes).count index := by
  rw [resultsOf, List.length_map, ← List.countP_eq_length_filter, List.count,
    matchedIndexes, List.countP_filterMap]
  apply List.countP_congr
  intro note _
  unfold GraphNote.matchedIndex
  split
  next handled => simp [handled]
  next other => simpa using other index

end Notes

/-! ## The invariant -/

/-- The exchange was opened by the call. -/
structure OpenedBy (groups : List ToolGraphGroup) (call : ToolEvent) (turn : ToolExchange) :
    Prop where
  protocol : turn.protocol = call.protocol
  sequence : turn.sequence = call.sequence
  callID : turn.callID = call.callID
  functionName : turn.functionName = call.functionName
  isCall : call.kind = .call
  named : call.matchByName = true ∨ Text.isBlank call.callID = false
  group : ∃ group, groups[turn.groupIndex]? = some group ∧ group.protocol = call.protocol ∧
    group.callContainerSequence = call.parallelGroup

/-- What holds between the transcript and the graph. -/
structure Sound (notes : List GraphNote) (s : GraphState) : Prop where
  length : (openedEvents notes).length = s.exchanges.length
  opened : ∀ (i : ℕ) call turn, (openedEvents notes)[i]? = some call →
    s.exchanges[i]? = some turn → OpenedBy s.groups call turn
  members : ∀ (groupIndex : ℕ) group, s.groups[groupIndex]? = some group → ∀ i,
    i ∈ group.exchangeIndexes ↔
      ∃ turn, s.exchanges[i]? = some turn ∧ turn.groupIndex = groupIndex
  containers : ∀ key groupIndex, s.groupIndexByCallContainer key = some groupIndex ↔
    ∃ group, s.groups[groupIndex]? = some group ∧
      containerKey group.protocol group.callContainerSequence = key
  matchedOnce : (matchedIndexes notes).Nodup
  matched : ∀ note ∈ notes, ∀ i, note.handled = .matched i →
    ∃ turn, s.exchanges[i]? = some turn ∧
      note.event.protocol = turn.protocol ∧ turn.sequence < note.event.sequence ∧
      note.event.kind = .result
  present : ∀ (i : ℕ) turn, s.exchanges[i]? = some turn →
    (turn.rawResultPresent = true ↔ i ∈ matchedIndexes notes) ∧
      turn.status = if turn.rawResultPresent then .completed else .pending
  ids : ∀ id i, s.callIndexByID id = some i ↔
    id ≠ "" ∧ ∃ turn, s.exchanges[i]? = some turn ∧ turn.callID = id
  pending : ∀ name, ∀ i ∈ s.pendingByFunctionName name, i < s.exchanges.length
  results : ∀ key groupIndex, s.groupIndexByResultContainer key = some groupIndex ↔
    ∃ note ∈ notes, ∃ i turn, note.handled = .matched i ∧
      note.event.containerKey = key ∧ s.exchanges[i]? = some turn ∧
        turn.groupIndex = groupIndex
  issues : s.issues = [] ↔ ∀ note ∈ notes, ¬note.Refused

theorem Sound.start : Sound [] .start where
  length := rfl
  opened _ _ _ found := by simp [openedEvents] at found
  members _ _ found := by simp [GraphState.start] at found
  containers key groupIndex := by simp [GraphState.start]
  matchedOnce := List.nodup_nil
  matched _ noted := absurd noted List.not_mem_nil
  present _ _ found := by simp [GraphState.start] at found
  ids id i := by simp [GraphState.start]
  pending _ _ waiting := absurd waiting List.not_mem_nil
  results key groupIndex := by simp [GraphState.start]
  issues := by simp [GraphState.start]

theorem containerKey_inj {left right : String} {leftGroup rightGroup : ℤ} :
    containerKey left leftGroup = containerKey right rightGroup ↔
      left = right ∧ leftGroup = rightGroup := by
  constructor
  · intro same
    have lists := congrArg String.toList same
    simp only [containerKey, String.toList_append, List.append_assoc] at lists
    have clean : ∀ n : ℤ, ':' ∉ (Decimal.formatInt n).toList := by
      intro _ occurs
      rcases Decimal.mem_formatInt occurs with sign | digit
      · revert sign
        decide
      · revert digit
        decide
    rcases Text.cut_last (clean leftGroup) (clean rightGroup) lists with ⟨protocol, group⟩
    exact ⟨String.toList_injective protocol,
      Decimal.formatInt_injective (String.toList_injective group)⟩
  · rintro ⟨rfl, rfl⟩
    rfl

/-! ## The checks of an event -/

/-- What the verdict on an event says about the graph. -/
inductive Judged (s : GraphState) (event : ToolEvent) : GraphVerdict → Prop
  | unsupported (message : String) (kind : event.kind = .unsupported) :
      Judged s event (.refused "unknown_tool_event" message [])
  | missingID (message : String) (kind : event.kind = .call)
      (blank : Text.isBlank event.callID = true) (byID : event.matchByName = false) :
      Judged s event (.refused "missing_tool_call_id" message [])
  | missingName (message : String) (kind : event.kind = .call)
      (byName : event.matchByName = true) :
      Judged s event (.refused "missing_tool_function_name" message [])
  | duplicate (message : String) (i : ℕ) (turn : ToolExchange)
      (kind : event.kind = .call) (set : event.callID ≠ "")
      (found : s.exchanges[i]? = some turn) (same : turn.callID = event.callID) :
      Judged s event (.refused "duplicate_tool_call_id" message [turn.groupIndex])
  | mode (message : String) (groupIndex : ℕ) (group : ToolGraphGroup)
      (kind : event.kind = .call)
      (fresh : ∀ (i : ℕ) turn, s.exchanges[i]? = some turn →
        event.callID ≠ "" → turn.callID ≠ event.callID)
      (found : s.groups[groupIndex]? = some group)
      (same : containerKey group.protocol group.callContainerSequence = event.containerKey) :
      Judged s event (.refused "tool_group_identity_mode_mismatch" message [groupIndex])
  | opens (existing : Option ℕ) (kind : event.kind = .call)
      (named : event.matchByName = true ∨ Text.isBlank event.callID = false)
      (fresh : ∀ (i : ℕ) turn, s.exchanges[i]? = some turn →
        event.callID ≠ "" → turn.callID ≠ event.callID)
      (container : s.groupIndexByCallContainer event.containerKey = existing) :
      Judged s event (.opened existing)
  | ambiguous (message : String) (groups : List ℕ) (kind : event.kind = .result)
      (byName : event.matchByName = true)
      (several : 1 < (s.pendingByFunctionName event.functionName).length)
      (owners : s.groupsOf (s.pendingByFunctionName event.functionName) = some groups) :
      Judged s event (.refused "ambiguous_tool_result" message groups)
  | orphan (message : String) (kind : event.kind = .result)
      (single : ¬(event.matchByName = true ∧
        1 < (s.pendingByFunctionName event.functionName).length))
      (unknown : s.answeredCall event = none) :
      Judged s event (.refused "orphan_tool_result" message [])
  | conflict (code message : String) (i : ℕ) (turn : ToolExchange)
      (kind : event.kind = .result)
      (single : ¬(event.matchByName = true ∧
        1 < (s.pendingByFunctionName event.functionName).length))
      (gives : s.answeredCall event = some i)
      (found : s.exchanges[i]? = some turn)
      (codes : code ≠ "tool_group_identity_mode_mismatch" ∧ code ≠ "tool_result_group_mismatch") :
      Judged s event (.refused code message [turn.groupIndex])
  | container (message : String) (i inherited : ℕ) (turn : ToolExchange)
      (kind : event.kind = .result)
      (single : ¬(event.matchByName = true ∧
        1 < (s.pendingByFunctionName event.functionName).length))
      (gives : s.answeredCall event = some i)
      (found : s.exchanges[i]? = some turn)
      (taken : s.groupIndexByResultContainer event.containerKey = some inherited) :
      Judged s event (.refused "tool_result_group_mismatch" message [inherited, turn.groupIndex])
  | matches_ (i : ℕ) (turn : ToolExchange) (kind : event.kind = .result)
      (single : ¬(event.matchByName = true ∧
        1 < (s.pendingByFunctionName event.functionName).length))
      (gives : s.answeredCall event = some i)
      (found : s.exchanges[i]? = some turn)
      (unanswered : turn.rawResultPresent = false)
      (protocol : event.protocol = turn.protocol)
      (later : turn.sequence < event.sequence)
      (joined : ∀ inherited, s.groupIndexByResultContainer event.containerKey =
        some inherited → inherited = turn.groupIndex) :
      Judged s event (.matched i)

def ToolEvent.ResultPlain (event : ToolEvent) : Prop :=
  event.kind = .result → event.matchByName = true → event.callID = ""

section Judge

variable {notes : List GraphNote} {s : GraphState} {event : ToolEvent}

theorem Sound.found_of_lt {i : ℕ} (bounded : i < s.exchanges.length) :
    ∃ turn, s.exchanges[i]? = some turn :=
  ⟨_, List.getElem?_eq_getElem bounded⟩

theorem groupsOf_some {indexes : List ℕ} (bounded : ∀ i ∈ indexes, i < s.exchanges.length) :
    ∃ groups, s.groupsOf indexes = some groups ∧
      ∀ groupIndex, groupIndex ∈ groups ↔ ∃ i ∈ indexes, ∃ turn,
        s.exchanges[i]? = some turn ∧ turn.groupIndex = groupIndex := by
  induction indexes with
  | nil => exact ⟨[], rfl, by simp⟩
  | cons i _ ih =>
    rcases ih fun other isIn => bounded other (List.mem_cons_of_mem _ isIn)
      with ⟨groups, computed, iff⟩
    rcases Sound.found_of_lt (bounded i (List.mem_cons_self ..)) with ⟨turn, found⟩
    refine ⟨turn.groupIndex :: groups, ?_, ?_⟩
    · simp only [GraphState.groupsOf] at computed ⊢
      simp [List.mapM_cons, GraphState.groupOf, found, computed]
    · intro _
      rw [List.mem_cons, iff]
      constructor
      · rintro (rfl | ⟨other, isIn, facts⟩)
        · exact ⟨i, List.mem_cons_self .., turn, found, rfl⟩
        · exact ⟨other, List.mem_cons_of_mem _ isIn, facts⟩
      · rintro ⟨other, inIndexes, owner, atOwner, same⟩
        rcases List.mem_cons.mp inIndexes with rfl | isIn
        · rw [found] at atOwner
          cases atOwner
          exact .inl same.symm
        · exact .inr ⟨other, isIn, owner, atOwner, same⟩

variable (sound : Sound notes s)

include sound

theorem Sound.judgeCall (kind : event.kind = .call) :
    ∃ verdict, s.judgeCall event = some verdict ∧ Judged s event verdict := by
  unfold GraphState.judgeCall
  split
  next missing =>
    simp only [Bool.not_eq_true] at missing
    exact ⟨_, rfl, .missingID _ kind missing.1 missing.2⟩
  next identified =>
    split
    next missing => exact ⟨_, rfl, .missingName _ kind missing.1⟩
    next =>
      have named : event.matchByName = true ∨ Text.isBlank event.callID = false := by
        by_cases byName : event.matchByName = true
        · exact .inl byName
        · right
          by_contra blank
          exact identified ⟨by simpa using blank, byName⟩
      cases known : s.duplicateCall event with
      | some i =>
        unfold GraphState.duplicateCall at known
        split at known
        next set =>
          rcases (sound.ids _ _).mp known with ⟨_, turn, found, same⟩
          simp only [GraphState.groupOf, found, Option.map_some]
          exact ⟨_, rfl, .duplicate _ i turn kind set found same⟩
        next => cases known
      | none =>
        have fresh : ∀ (i : ℕ) turn, s.exchanges[i]? = some turn →
            event.callID ≠ "" → turn.callID ≠ event.callID := by
          intro i turn found set same
          have known' := (sound.ids event.callID i).mpr ⟨set, turn, found, same⟩
          simp [GraphState.duplicateCall, set, known'] at known
        cases container : s.groupIndexByCallContainer event.containerKey with
        | none => exact ⟨_, rfl, .opens none kind named fresh container⟩
        | some groupIndex =>
          rcases (sound.containers _ _).mp container with ⟨group, found, same⟩
          simp only [found, Option.map_some]
          split
          · exact ⟨_, rfl, .mode _ groupIndex group kind fresh found same⟩
          · exact ⟨_, rfl, .opens (some groupIndex) kind named fresh container⟩

theorem Sound.answered {i : ℕ} (gives : s.answeredCall event = some i) :
    ∃ turn, s.exchanges[i]? = some turn := by
  have byID : s.callIndexByID event.callID = some i →
      ∃ turn, s.exchanges[i]? = some turn := by
    intro known
    rcases (sound.ids _ _).mp known with ⟨_, turn, found, _⟩
    exact ⟨turn, found⟩
  unfold GraphState.answeredCall at gives
  split at gives
  · split at gives
    next pending =>
      cases gives
      apply Sound.found_of_lt
      apply sound.pending event.functionName
      rw [pending]
      exact List.mem_singleton_self _
    next => exact byID gives
  · exact byID gives

/-- A result is refused or matched, and never faults. -/
theorem Sound.judgeResult (kind : event.kind = .result) :
    ∃ verdict, s.judgeResult event = some verdict ∧ Judged s event verdict := by
  unfold GraphState.judgeResult
  split
  next many =>
    rcases groupsOf_some (sound.pending event.functionName) with ⟨groups, computed, _⟩
    simp only [computed, Option.map_some]
    exact ⟨_, rfl, .ambiguous _ groups kind many.1 many.2 computed⟩
  next single =>
    cases gives : s.answeredCall event with
    | none => exact ⟨_, rfl, .orphan _ kind single gives⟩
    | some i =>
      rcases sound.answered gives with ⟨turn, found⟩
      simp only [found, Option.map_some]
      split
      · exact ⟨_, rfl, .conflict _ _ i turn kind single gives found (by decide)⟩
      next unanswered =>
        split
        · exact ⟨_, rfl, .conflict _ _ i turn kind single gives found (by decide)⟩
        next protocol =>
          split
          · exact ⟨_, rfl, .conflict _ _ i turn kind single gives found (by decide)⟩
          next early =>
            have matches_ : (∀ inherited, s.groupIndexByResultContainer event.containerKey =
                some inherited → inherited = turn.groupIndex) →
                Judged s event (.matched i) :=
              .matches_ i turn kind single gives found (by simpa using unanswered)
                (by simpa using protocol) (not_le.mp early)
            cases taken : s.groupIndexByResultContainer event.containerKey with
            | none =>
              refine ⟨_, rfl, matches_ ?_⟩
              intro _ other
              rw [taken] at other
              cases other
            | some inherited =>
              simp only
              split
              · exact ⟨_, rfl, .container _ i inherited turn kind single gives found taken⟩
              next same =>
                refine ⟨_, rfl, matches_ ?_⟩
                intro _ known
                rw [taken] at known
                cases known
                exact not_not.mp same

theorem Sound.judge (event : ToolEvent) :
    ∃ verdict, s.judge event = some verdict ∧ Judged s event verdict := by
  unfold GraphState.judge
  cases kind : event.kind with
  | call => exact sound.judgeCall kind
  | result => exact sound.judgeResult kind
  | unsupported => exact ⟨_, rfl, .unsupported _ kind⟩

end Judge

/-! ## The bookkeeping of an event -/

section Perform

variable {notes : List GraphNote} {s : GraphState} {event : ToolEvent}

theorem unrefused_append {note : GraphNote} (accepted : ¬note.Refused) :
    (∀ other ∈ notes, ¬other.Refused) ↔ ∀ other ∈ notes ++ [note], ¬other.Refused := by
  constructor
  · intro none_ other noted
    rcases List.mem_append.mp noted with past | new
    · exact none_ other past
    · rw [List.mem_singleton.mp new]
      exact accepted
  · intro none_ other noted
    exact none_ other (List.mem_append_left _ noted)

theorem Sound.refuse (sound : Sound notes s) (code message : String) (groups : List ℕ) :
    Sound (notes ++ [⟨event, .refused code⟩]) (s.refuse event code message groups) where
  length := by
    rw [openedEvents_append]
    simpa [GraphNote.opening, GraphState.refuse] using sound.length
  opened i call turn found stored := by
    rw [openedEvents_append] at found
    exact sound.opened i call turn (by simpa [GraphNote.opening] using found) stored
  members := sound.members
  containers := sound.containers
  matchedOnce := by
    rw [matchedIndexes_append]
    simpa [GraphNote.matchedIndex] using sound.matchedOnce
  matched note noted i handled := by
    rcases List.mem_append.mp noted with past | new
    · exact sound.matched note past i handled
    · rw [List.mem_singleton.mp new] at handled
      cases handled
  present i turn stored := by
    rw [matchedIndexes_append]
    simpa [GraphNote.matchedIndex] using sound.present i turn stored
  ids := sound.ids
  pending := sound.pending
  results key groupIndex := by
    rw [GraphState.refuse, sound.results]
    constructor
    · rintro ⟨note, noted, facts⟩
      exact ⟨note, List.mem_append_left _ noted, facts⟩
    · rintro ⟨note, noted, i, turn, handled, facts⟩
      rcases List.mem_append.mp noted with past | new
      · exact ⟨note, past, i, turn, handled, facts⟩
      · rw [List.mem_singleton.mp new] at handled
        cases handled
  issues := by
    constructor
    · intro empty
      simp [GraphState.refuse] at empty
    · intro none_
      exact absurd ⟨code, rfl⟩ (none_ ⟨event, .refused code⟩ (by simp))

/-- A call joins a group of its container: what the new exchange and the groups are. -/
structure Joins (s next : GraphState) (event : ToolEvent) (groupIndex : ℕ) : Prop where
  exchanges : next.exchanges = s.exchanges ++ [GraphState.newExchange event groupIndex]
  group : ∃ group, next.groups[groupIndex]? = some group ∧ group.protocol = event.protocol ∧
    group.callContainerSequence = event.parallelGroup ∧
    ∀ i, i ∈ group.exchangeIndexes ↔ i = s.exchanges.length ∨
      ∃ old, s.groups[groupIndex]? = some old ∧ i ∈ old.exchangeIndexes
  kept : ∀ old, s.groups[groupIndex]? = some old →
    old.protocol = event.protocol ∧ old.callContainerSequence = event.parallelGroup
  others : ∀ other, other ≠ groupIndex → next.groups[other]? = s.groups[other]?
  containers : ∀ key, next.groupIndexByCallContainer key =
    if key = event.containerKey then some groupIndex else s.groupIndexByCallContainer key
  ids : next.callIndexByID =
    if event.callID ≠ "" then
      Function.update s.callIndexByID event.callID (some s.exchanges.length)
    else s.callIndexByID
  results : next.groupIndexByResultContainer = s.groupIndexByResultContainer
  issues : next.issues = s.issues

/-- A call joins the group of its container, or opens one. -/
theorem Sound.joins (sound : Sound notes s) {existing : Option ℕ}
    (container : s.groupIndexByCallContainer event.containerKey = existing) :
    Joins s ((s.enterGroup event existing).1.appendExchange event
      (s.enterGroup event existing).2) event (s.enterGroup event existing).2 := by
  cases existing with
  | none =>
    refine ⟨rfl, ?_, ?_, ?_, ?_, rfl, rfl, rfl⟩
    · refine ⟨_, by simp [GraphState.enterGroup, GraphState.appendExchange]; rfl, rfl, rfl, ?_⟩
      intro _
      simp [GraphState.newGroup, GraphState.enterGroup]
    · intro _ found
      simp [GraphState.enterGroup] at found
    · intro other differ
      simp only [GraphState.enterGroup, GraphState.appendExchange] at differ ⊢
      rw [List.getElem?_modify_ne _ _ (Ne.symm differ)]
      rcases Nat.lt_or_ge other s.groups.length with inside | out
      · exact List.getElem?_append_left inside
      · have beyond : s.groups.length + 1 ≤ other := by omega
        rw [List.getElem?_eq_none out, List.getElem?_eq_none (by simpa using beyond)]
    · intro _
      simp [GraphState.enterGroup, GraphState.appendExchange, Function.update_apply]
  | some groupIndex =>
    rcases (sound.containers _ _).mp container with ⟨old, found, same⟩
    rcases containerKey_inj.mp same with ⟨protocol, sequence⟩
    have placed : ((s.enterGroup event (some groupIndex)).1.appendExchange event
        groupIndex).groups[groupIndex]? =
        some { old with
          callSequenceStart := min old.callSequenceStart event.sequence
          callSequenceEnd := max old.callSequenceEnd event.sequence
          exchangeIndexes := old.exchangeIndexes ++ [s.exchanges.length] } := by
      simp [GraphState.enterGroup, GraphState.appendExchange, found]
    refine ⟨rfl, ⟨_, placed, protocol, sequence, ?_⟩, ?_, ?_, ?_, rfl, rfl, rfl⟩
    · intro _
      simp [GraphState.enterGroup, found, or_comm]
    · intro _ otherFound
      simp only [GraphState.enterGroup, found, Option.some.injEq] at otherFound
      subst otherFound
      exact ⟨protocol, sequence⟩
    · intro _ differ
      simp only [GraphState.enterGroup, GraphState.appendExchange] at differ ⊢
      rw [List.getElem?_modify_ne _ _ (Ne.symm differ),
        List.getElem?_modify_ne _ _ (Ne.symm differ)]
    · intro _
      simp only [GraphState.enterGroup, GraphState.appendExchange]
      split
      next isKey => rw [isKey, container]
      next => rfl

/-- A call that is told apart from the others opens an exchange. -/
theorem Sound.opens (sound : Sound notes s) {next : GraphState} {groupIndex : ℕ}
    (kind : event.kind = .call)
    (named : event.matchByName = true ∨ Text.isBlank event.callID = false)
    (fresh : ∀ (i : ℕ) turn, s.exchanges[i]? = some turn →
      event.callID ≠ "" → turn.callID ≠ event.callID)
    (container : ∀ other, s.groupIndexByCallContainer event.containerKey = some other →
      other = groupIndex) (joins : Joins s next event groupIndex)
    (pending : ∀ name, ∀ i ∈ next.pendingByFunctionName name, i < next.exchanges.length) :
    Sound (notes ++ [⟨event, .opened s.exchanges.length⟩]) next := by
  have stored : ∀ (i : ℕ) turn, next.exchanges[i]? = some turn ↔
      s.exchanges[i]? = some turn ∨
        (i = s.exchanges.length ∧
          turn = GraphState.newExchange event groupIndex) := by
    intro _ _
    rw [joins.exchanges, List.getElem?_append]
    split
    next =>
      constructor
      · exact .inl
      · rintro (found | ⟨atEnd, _⟩)
        · exact found
        · omega
    next out =>
      rw [List.getElem?_eq_none (not_lt.mp out)]
      rw [List.getElem?_singleton]
      constructor
      · intro found
        split at found
        next =>
          right
          refine ⟨by omega, (Option.some.inj found).symm⟩
        next => cases found
      · rintro (found | ⟨rfl, rfl⟩)
        · cases found
        · simp
  have unmatched : s.exchanges.length ∉ matchedIndexes notes := by
    intro matched
    rcases mem_matchedIndexes.mp matched with ⟨note, noted, handled⟩
    rcases sound.matched note noted _ handled with ⟨turn, found, _⟩
    simp at found
  have kept : ∀ (other : ℕ) old, s.groups[other]? = some old →
      ∃ group, next.groups[other]? = some group ∧ group.protocol = old.protocol ∧
        group.callContainerSequence = old.callContainerSequence := by
    intro other old found
    by_cases same : other = groupIndex
    · subst same
      rcases joins.group with ⟨group, placed, protocol, sequence, _⟩
      rcases joins.kept old found with ⟨oldProtocol, oldSequence⟩
      exact ⟨group, placed, protocol.trans oldProtocol.symm, sequence.trans oldSequence.symm⟩
    · exact ⟨old, (joins.others other same).trans found, rfl, rfl⟩
  refine ⟨?_, ?_, ?_, ?_, ?_, ?_, ?_, ?_, pending, ?_, ?_⟩
  · rw [openedEvents_append, joins.exchanges]
    simpa [GraphNote.opening] using sound.length
  · intro i call turn found inNext
    rw [openedEvents_append, List.getElem?_append] at found
    rcases (stored i turn).mp inNext with old | ⟨rfl, rfl⟩
    · have inside : i < (openedEvents notes).length := by
        rw [sound.length]
        exact (List.getElem?_eq_some_iff.mp old).1
      rw [if_pos inside] at found
      rcases sound.opened i call turn found old with
        ⟨protocol, sequence, callID, functionName, isCall, hasName, group, placed, facts⟩
      rcases kept _ group placed with ⟨newGroup, newLocated, newProtocol, newSequence⟩
      exact ⟨protocol, sequence, callID, functionName, isCall, hasName, newGroup, newLocated,
        newProtocol.trans facts.1, newSequence.trans facts.2⟩
    · rw [sound.length] at found
      simp only [lt_self_iff_false, if_false, Nat.sub_self, GraphNote.opening,
        Option.toList_some, List.getElem?_cons_zero, Option.some.injEq] at found
      subst found
      rcases joins.group with ⟨group, placed, protocol, sequence, _⟩
      exact ⟨rfl, rfl, rfl, rfl, kind, named, group, placed, protocol, sequence⟩
  · intro other group placed i
    by_cases same : other = groupIndex
    · subst same
      rcases joins.group with ⟨joined, joinedLocated, _, _, members⟩
      rw [joinedLocated] at placed
      cases placed
      rw [members]
      constructor
      · rintro (rfl | ⟨old, oldAt, inOld⟩)
        · exact ⟨_, (stored _ _).mpr (.inr ⟨rfl, rfl⟩), rfl⟩
        · rcases (sound.members _ old oldAt i).mp inOld with ⟨turn, found, owner⟩
          exact ⟨turn, (stored _ _).mpr (.inl found), owner⟩
      · rintro ⟨turn, found, owner⟩
        rcases (stored _ _).mp found with old | ⟨atEnd, _⟩
        · right
          have inside : i < (openedEvents notes).length := by
            rw [sound.length]
            exact (List.getElem?_eq_some_iff.mp old).1
          rcases sound.opened i _ turn (List.getElem?_eq_getElem inside) old with
            ⟨_, _, _, _, _, _, oldGroup, oldAt, _⟩
          rw [owner] at oldAt
          exact ⟨oldGroup, oldAt, (sound.members _ oldGroup oldAt i).mpr ⟨turn, old, owner⟩⟩
        · exact .inl atEnd
    · rw [joins.others other same] at placed
      rw [sound.members other group placed]
      constructor
      · rintro ⟨turn, found, owner⟩
        exact ⟨turn, (stored _ _).mpr (.inl found), owner⟩
      · rintro ⟨turn, found, owner⟩
        rcases (stored _ _).mp found with old | ⟨_, rfl⟩
        · exact ⟨turn, old, owner⟩
        · exact absurd owner.symm same
  · intro key other
    rw [joins.containers]
    split
    next isKey =>
      subst isKey
      rcases joins.group with ⟨group, placed, protocol, sequence, _⟩
      constructor
      · intro same
        cases same
        refine ⟨group, placed, ?_⟩
        rw [protocol, sequence]
        rfl
      · rintro ⟨found, foundLocated, same⟩
        by_contra differ
        have apart : other ≠ groupIndex := fun equal => differ (by rw [equal])
        rw [joins.others other apart] at foundLocated
        exact apart (container other ((sound.containers _ _).mpr ⟨found, foundLocated, same⟩))
    next otherKey =>
      have notOwn : ∀ group, next.groups[groupIndex]? = some group →
          containerKey group.protocol group.callContainerSequence ≠ key := by
        intro _ placed same
        rcases joins.group with ⟨_, joinedLocated, protocol, sequence, _⟩
        rw [joinedLocated] at placed
        cases placed
        rw [protocol, sequence] at same
        exact otherKey same.symm
      rw [sound.containers]
      constructor
      · rintro ⟨group, placed, same⟩
        have apart : other ≠ groupIndex := by
          rintro rfl
          rcases joins.kept group placed with ⟨protocol, sequence⟩
          rw [protocol, sequence] at same
          exact otherKey same.symm
        exact ⟨group, (joins.others other apart).trans placed, same⟩
      · rintro ⟨group, placed, same⟩
        have apart : other ≠ groupIndex := by
          rintro rfl
          exact notOwn group placed same
        exact ⟨group, (joins.others other apart).symm.trans placed, same⟩
  · rw [matchedIndexes_append]
    simpa [GraphNote.matchedIndex] using sound.matchedOnce
  · intro note noted i handled
    rcases List.mem_append.mp noted with past | new
    · rcases sound.matched note past i handled with ⟨turn, found, facts⟩
      exact ⟨turn, (stored _ _).mpr (.inl found), facts⟩
    · rw [List.mem_singleton.mp new] at handled
      cases handled
  · intro i turn found
    rw [matchedIndexes_append]
    simp only [GraphNote.matchedIndex, Option.toList_none, List.append_nil]
    rcases (stored _ _).mp found with old | ⟨rfl, rfl⟩
    · exact sound.present i turn old
    · simp [GraphState.newExchange, unmatched]
  · intro _ i
    rw [joins.ids]
    by_cases set : event.callID ≠ ""
    · rw [if_pos set, Function.update_apply]
      split
      next isID =>
        subst isID
        constructor
        · intro same
          cases same
          exact ⟨set, _, (stored _ _).mpr (.inr ⟨rfl, rfl⟩), rfl⟩
        · rintro ⟨_, turn, found, same⟩
          rcases (stored _ _).mp found with old | ⟨rfl, _⟩
          · exact absurd same (fresh i turn old set)
          · rfl
      next otherID =>
        rw [sound.ids]
        refine and_congr_right fun _ => ?_
        constructor
        · rintro ⟨turn, found, same⟩
          exact ⟨turn, (stored _ _).mpr (.inl found), same⟩
        · rintro ⟨turn, found, same⟩
          rcases (stored _ _).mp found with old | ⟨_, rfl⟩
          · exact ⟨turn, old, same⟩
          · exact absurd same.symm otherID
    · rw [if_neg set, sound.ids]
      refine and_congr_right fun filled => ?_
      constructor
      · rintro ⟨turn, found, same⟩
        exact ⟨turn, (stored _ _).mpr (.inl found), same⟩
      · rintro ⟨turn, found, same⟩
        rcases (stored _ _).mp found with old | ⟨_, rfl⟩
        · exact ⟨turn, old, same⟩
        · exact absurd (same.symm.trans (not_not.mp set)) filled
  · intro _ _
    rw [joins.results, sound.results]
    constructor
    · rintro ⟨note, noted, i, turn, handled, same, found, owner⟩
      exact ⟨note, List.mem_append_left _ noted, i, turn, handled, same,
        (stored _ _).mpr (.inl found), owner⟩
    · rintro ⟨note, noted, i, turn, handled, same, found, owner⟩
      rcases List.mem_append.mp noted with past | new
      · rcases (stored _ _).mp found with old | ⟨rfl, _⟩
        · exact ⟨note, past, i, turn, handled, same, old, owner⟩
        · exact absurd (mem_matchedIndexes.mpr ⟨note, past, handled⟩) unmatched
      · rw [List.mem_singleton.mp new] at handled
        cases handled
  · rw [joins.issues, sound.issues]
    exact unrefused_append (by rintro ⟨_, handled⟩; cases handled)

theorem Sound.withPending {other : GraphState} (sound : Sound notes s)
    (exchanges : other.exchanges = s.exchanges) (groups : other.groups = s.groups)
    (containers : other.groupIndexByCallContainer = s.groupIndexByCallContainer)
    (ids : other.callIndexByID = s.callIndexByID)
    (results : other.groupIndexByResultContainer = s.groupIndexByResultContainer)
    (issues : other.issues = s.issues)
    (pending : ∀ name, ∀ i ∈ other.pendingByFunctionName name,
      i < s.exchanges.length) : Sound notes other := by
  rcases sound with ⟨length, opened, members, stores, once, matched, present, known, _, closed,
    empty⟩
  rw [← exchanges] at length opened members matched present known closed pending
  rw [← groups] at opened members stores
  rw [← containers] at stores
  rw [← ids] at known
  rw [← results] at closed
  rw [← issues] at empty
  exact ⟨length, opened, members, stores, once, matched, present, known, pending, closed, empty⟩

theorem await_cases {i : ℕ} (bounded : ∀ other ∈ s.pendingByFunctionName
      event.functionName ++ [i], other < s.exchanges.length) :
    ∃ next, s.await event i = some next ∧ next.exchanges = s.exchanges ∧
      next.groups = s.groups ∧ next.groupIndexByCallContainer = s.groupIndexByCallContainer ∧
      next.callIndexByID = s.callIndexByID ∧
      next.groupIndexByResultContainer = s.groupIndexByResultContainer ∧ next.issues = s.issues ∧
      next.pendingByFunctionName = Function.update s.pendingByFunctionName
        event.functionName (s.pendingByFunctionName event.functionName ++ [i]) ∧
      ∀ groupIndex, groupIndex ∈ next.failedGroups ↔ groupIndex ∈ s.failedGroups ∨
        (1 < (s.pendingByFunctionName event.functionName ++ [i]).length ∧
          ∃ other ∈ s.pendingByFunctionName event.functionName ++ [i], ∃ turn,
            s.exchanges[other]? = some turn ∧ turn.groupIndex = groupIndex) := by
  rcases groupsOf_some bounded with ⟨groups, computed, iff⟩
  simp only [GraphState.await]
  split
  next many =>
    have owners : GraphState.groupsOf { s with
        pendingByFunctionName := Function.update s.pendingByFunctionName
          event.functionName (s.pendingByFunctionName event.functionName ++ [i]) }
        (s.pendingByFunctionName event.functionName ++ [i]) = some groups := computed
    rw [owners, Option.map_some]
    refine ⟨_, rfl, ?_⟩
    simp only [List.mem_append, iff, many, true_and, and_self, implies_true]
  next single =>
    refine ⟨_, rfl, rfl, rfl, rfl, rfl, rfl, rfl, rfl, ?_⟩
    intro _
    simp only [single, false_and, or_false]

/-- The graph after a call. -/
structure Opens (s next : GraphState) (event : ToolEvent) (groupIndex : ℕ) : Prop where
  joins : Joins s next event groupIndex
  pending : next.pendingByFunctionName =
    if event.matchByName then
      Function.update s.pendingByFunctionName event.functionName
        (s.pendingByFunctionName event.functionName ++ [s.exchanges.length])
    else s.pendingByFunctionName
  failed : ∀ other, other ∈ next.failedGroups ↔ other ∈ s.failedGroups ∨
    (event.matchByName = true ∧
      1 < (s.pendingByFunctionName event.functionName ++ [s.exchanges.length]).length ∧
      ∃ i ∈ s.pendingByFunctionName event.functionName ++ [s.exchanges.length],
        ∃ turn, next.exchanges[i]? = some turn ∧ turn.groupIndex = other)

/-- The exchange that a call opens keeps the graph sound. -/
theorem Sound.openExchange (sound : Sound notes s) {existing : Option ℕ} (kind : event.kind = .call)
    (named : event.matchByName = true ∨ Text.isBlank event.callID = false)
    (fresh : ∀ (i : ℕ) turn, s.exchanges[i]? = some turn →
      event.callID ≠ "" → turn.callID ≠ event.callID)
    (container : s.groupIndexByCallContainer event.containerKey = existing) :
    ∃ next groupIndex, s.openExchange event existing = some next ∧ Opens s next event groupIndex ∧
      Sound (notes ++ [⟨event, .opened s.exchanges.length⟩]) next := by
  have joins := sound.joins container
  have kept : ((s.enterGroup event existing).1.appendExchange event
      (s.enterGroup event existing).2).pendingByFunctionName =
        s.pendingByFunctionName := by
    cases existing <;> rfl
  have failedKept : ((s.enterGroup event existing).1.appendExchange event
      (s.enterGroup event existing).2).failedGroups = s.failedGroups := by
    cases existing <;> rfl
  have same : ∀ other, s.groupIndexByCallContainer event.containerKey = some other →
      other = (s.enterGroup event existing).2 := by
    intro _ known
    rw [container] at known
    subst known
    rfl
  simp only [GraphState.openExchange]
  generalize (s.enterGroup event existing).1.appendExchange event
    (s.enterGroup event existing).2 = opened at joins kept failedKept ⊢
  generalize (s.enterGroup event existing).2 = groupIndex at joins same
  have longer : opened.exchanges.length = s.exchanges.length + 1 := by
    rw [joins.exchanges]
    simp
  have bounded : ∀ name, ∀ i ∈ s.pendingByFunctionName name ++ [s.exchanges.length],
      i < opened.exchanges.length := by
    intro name i queued
    rw [longer]
    rcases List.mem_append.mp queued with before | new
    · exact (sound.pending name i before).trans (Nat.lt_succ_self _)
    · rw [List.mem_singleton.mp new]
      exact Nat.lt_succ_self _
  have still : ∀ name, ∀ i ∈ opened.pendingByFunctionName name, i < opened.exchanges.length := by
    intro name i queued
    rw [kept] at queued
    exact bounded name i (List.mem_append_left _ queued)
  have soundOpened := sound.opens kind named fresh same joins still
  split
  next byName =>
    have known := bounded event.functionName
    rw [← kept] at known
    rcases await_cases known with
      ⟨next, awaited, exchanges, groups, containers, ids, results, issues, pending, failed⟩
    refine ⟨next, groupIndex, awaited, ⟨⟨?_, ?_, joins.kept, ?_, ?_, ?_, ?_, ?_⟩, ?_, ?_⟩, ?_⟩
    · rw [exchanges]
      exact joins.exchanges
    · rw [groups]
      exact joins.group
    · rw [groups]
      exact joins.others
    · rw [containers]
      exact joins.containers
    · rw [ids]
      exact joins.ids
    · rw [results]
      exact joins.results
    · rw [issues]
      exact joins.issues
    · rw [if_pos byName, pending, kept]
    · intro _
      rw [failed, failedKept, kept, exchanges]
      simp only [byName, true_and]
    · apply soundOpened.withPending exchanges groups containers ids results issues
      intro name i queued
      rw [pending, kept, Function.update_apply] at queued
      split at queued
      · exact bounded event.functionName i queued
      · exact bounded name i (List.mem_append_left _ queued)
  next byID =>
    refine ⟨opened, groupIndex, rfl, ⟨joins, ?_, ?_⟩, soundOpened⟩
    · rw [if_neg byID, kept]
    · intro _
      rw [failedKept]
      simp only [byID, Bool.false_eq_true, false_and, or_false]

/-- The graph after a result. -/
structure Completes (s next : GraphState) (event : ToolEvent) (i : ℕ)
    (turn : ToolExchange) : Prop where
  exchanges : next.exchanges = s.exchanges.modify i (GraphState.answered event)
  groups : next.groups = s.groups.modify turn.groupIndex (GraphState.closing event)
  pending : next.pendingByFunctionName =
    if event.matchByName then
      Function.update s.pendingByFunctionName event.functionName []
    else s.pendingByFunctionName
  only : event.matchByName = true → s.pendingByFunctionName event.functionName = [i]
  failed : next.failedGroups = s.failedGroups

theorem getElem?_answered {Entry : Type} (entries : List Entry) (i : ℕ)
    (change : Entry → Entry) (other : ℕ) (entry : Entry) :
    (entries.modify i change)[other]? = some entry ↔
      ∃ old, entries[other]? = some old ∧ entry = if other = i then change old else old := by
  rw [List.getElem?_modify]
  cases entries[other]? with
  | none => simp
  | some _ => simp [eq_comm]

theorem owners_answered (exchanges : List ToolExchange) (i : ℕ) (event : ToolEvent)
    (other owner : ℕ) :
    (∃ moved, (exchanges.modify i (GraphState.answered event))[other]? = some moved ∧
        moved.groupIndex = owner) ↔
      ∃ old, exchanges[other]? = some old ∧ old.groupIndex = owner := by
  constructor
  · rintro ⟨_, inNext, same⟩
    rcases (getElem?_answered _ _ _ _ _).mp inNext with ⟨old, oldFound, rfl⟩
    refine ⟨old, oldFound, ?_⟩
    split at same
    · exact same
    · exact same
  · rintro ⟨old, oldFound, same⟩
    refine ⟨_, (getElem?_answered _ _ _ _ _).mpr ⟨old, oldFound, rfl⟩, ?_⟩
    split
    · exact same
    · exact same

theorem Sound.found_groups (sound : Sound notes s) {i : ℕ} {turn : ToolExchange}
    (found : s.exchanges[i]? = some turn) :
    ∃ group, s.groups[turn.groupIndex]? = some group := by
  have inside : i < (openedEvents notes).length := by
    rw [sound.length]
    exact (List.getElem?_eq_some_iff.mp found).1
  rcases (sound.opened i _ turn (List.getElem?_eq_getElem inside) found).group with
    ⟨group, placed, _⟩
  exact ⟨group, placed⟩

/-- A result completes the exchange that it answers, and the graph stays sound. -/
theorem Sound.complete (sound : Sound notes s) {i : ℕ} {turn : ToolExchange}
    (plain : event.ResultPlain) (kind : event.kind = .result)
    (gives : s.answeredCall event = some i) (found : s.exchanges[i]? = some turn)
    (unanswered : turn.rawResultPresent = false)
    (protocol : event.protocol = turn.protocol) (later : turn.sequence < event.sequence)
    (joined : ∀ inherited, s.groupIndexByResultContainer event.containerKey =
      some inherited → inherited = turn.groupIndex) :
    ∃ next, s.complete event i = some next ∧ Completes s next event i turn ∧
      Sound (notes ++ [⟨event, .matched i⟩]) next := by
  have only : event.matchByName = true →
      s.pendingByFunctionName event.functionName = [i] := by
    intro byName
    have unknown : s.callIndexByID event.callID = none := by
      rw [plain kind byName]
      by_contra known
      rcases Option.ne_none_iff_exists'.mp known with ⟨other, known⟩
      exact ((sound.ids _ _).mp known).1 rfl
    simp only [GraphState.answeredCall, byName, if_true] at gives
    split at gives
    next pending =>
      cases gives
      exact pending
    next =>
      rw [unknown] at gives
      cases gives
  have taken : s.takePending event = some (if event.matchByName then
      Function.update s.pendingByFunctionName event.functionName []
    else s.pendingByFunctionName) := by
    unfold GraphState.takePending
    split
    next byName => rw [only byName]
    next => rfl
  rcases sound.found_groups found with ⟨_, placed⟩
  have completed : s.complete event i = some
      { s with
        exchanges := s.exchanges.modify i (GraphState.answered event)
        groups := s.groups.modify turn.groupIndex (GraphState.closing event)
        pendingByFunctionName := if event.matchByName then
            Function.update s.pendingByFunctionName event.functionName []
          else s.pendingByFunctionName
        groupIndexByResultContainer := Function.update s.groupIndexByResultContainer
          event.containerKey (some turn.groupIndex) } := by
    simp [GraphState.complete, found, taken, placed]
  refine ⟨_, completed, ⟨rfl, rfl, rfl, only, rfl⟩, ?_⟩
  have fresh : i ∉ matchedIndexes notes := by
    intro matched
    have present := ((sound.present i turn found).1).mpr matched
    rw [unanswered] at present
    cases present
  have stored := getElem?_answered s.exchanges i (GraphState.answered event)
  have grouped := getElem?_answered s.groups turn.groupIndex (GraphState.closing event)
  refine ⟨?_, ?_, ?_, ?_, ?_, ?_, ?_, ?_, ?_, ?_, ?_⟩
  · rw [openedEvents_append]
    simpa [GraphNote.opening] using sound.length
  · intro other call moved opened inNext
    rw [openedEvents_append] at opened
    simp only [GraphNote.opening, Option.toList_none, List.append_nil] at opened
    rcases (stored other moved).mp inNext with ⟨old, oldFound, rfl⟩
    rcases sound.opened other call old opened oldFound with
      ⟨oldProtocol, sequence, callID, functionName, isCall, named, oldGroup, oldAt, facts⟩
    have unmoved : ∀ field : ToolExchange → String,
        field (GraphState.answered event old) = field old →
          field (if other = i then GraphState.answered event old else old) = field old := by
      intro _ same
      split
      · exact same
      · rfl
    have owner : (if other = i then GraphState.answered event old else old).groupIndex =
        old.groupIndex := by
      split <;> rfl
    have order : (if other = i then GraphState.answered event old else old).sequence =
        old.sequence := by
      split <;> rfl
    refine ⟨(unmoved ToolExchange.protocol rfl).trans oldProtocol, order.trans sequence,
      (unmoved ToolExchange.callID rfl).trans callID,
      (unmoved ToolExchange.functionName rfl).trans functionName, isCall, named, ?_⟩
    rw [owner]
    refine ⟨_, (grouped _ _).mpr ⟨oldGroup, oldAt, rfl⟩, ?_⟩
    split
    · exact facts
    · exact facts
  · intro groupIndex moved inNext _
    rcases (grouped groupIndex moved).mp inNext with ⟨old, oldAt, rfl⟩
    have members : (if groupIndex = turn.groupIndex then GraphState.closing event old
        else old).exchangeIndexes = old.exchangeIndexes := by
      split <;> rfl
    rw [members, sound.members groupIndex old oldAt]
    constructor
    · rintro ⟨owned, ownedFound, owner⟩
      refine ⟨_, (stored _ _).mpr ⟨owned, ownedFound, rfl⟩, ?_⟩
      split
      · exact owner
      · exact owner
    · rintro ⟨_, changedFound, owner⟩
      rcases (stored _ _).mp changedFound with ⟨owned, ownedFound, rfl⟩
      refine ⟨owned, ownedFound, ?_⟩
      split at owner
      · exact owner
      · exact owner
  · intro _ _
    rw [sound.containers]
    constructor
    · rintro ⟨old, oldAt, same⟩
      refine ⟨_, (grouped _ _).mpr ⟨old, oldAt, rfl⟩, ?_⟩
      split
      · exact same
      · exact same
    · rintro ⟨moved, inNext, same⟩
      rcases (grouped _ _).mp inNext with ⟨old, oldAt, rfl⟩
      refine ⟨old, oldAt, ?_⟩
      split at same
      · exact same
      · exact same
  · rw [matchedIndexes_append]
    simp only [GraphNote.matchedIndex, Option.toList_some]
    rw [List.nodup_append]
    refine ⟨sound.matchedOnce, List.nodup_singleton _, ?_⟩
    rintro other inMatched _ isNew rfl
    rw [List.mem_singleton.mp isNew] at inMatched
    exact fresh inMatched
  · intro note noted other handled
    rcases List.mem_append.mp noted with past | new
    · rcases sound.matched note past other handled with
        ⟨old, oldFound, sameProtocol, before, isResult⟩
      refine ⟨_, (stored _ _).mpr ⟨old, oldFound, rfl⟩, ?_⟩
      split
      · exact ⟨sameProtocol, before, isResult⟩
      · exact ⟨sameProtocol, before, isResult⟩
    · rw [List.mem_singleton.mp new] at handled ⊢
      cases handled
      refine ⟨_, (stored _ _).mpr ⟨turn, found, rfl⟩, ?_⟩
      rw [if_pos rfl]
      exact ⟨protocol, later, kind⟩
  · intro other _ inNext
    rw [matchedIndexes_append]
    simp only [GraphNote.matchedIndex, Option.toList_some, List.mem_append, List.mem_singleton]
    rcases (stored _ _).mp inNext with ⟨old, oldFound, rfl⟩
    split
    next same => simp [GraphState.answered, same]
    next differ =>
      simp only [differ, or_false]
      exact sound.present other old oldFound
  · intro _ _
    rw [sound.ids]
    refine and_congr_right fun _ => ?_
    constructor
    · rintro ⟨old, oldFound, same⟩
      refine ⟨_, (stored _ _).mpr ⟨old, oldFound, rfl⟩, ?_⟩
      split
      · exact same
      · exact same
    · rintro ⟨moved, inNext, same⟩
      rcases (stored _ _).mp inNext with ⟨old, oldFound, rfl⟩
      refine ⟨old, oldFound, ?_⟩
      split at same
      · exact same
      · exact same
  · intro name other queued
    rw [List.length_modify]
    dsimp only at queued
    split at queued
    · rw [Function.update_apply] at queued
      split at queued
      · cases queued
      · exact sound.pending name other queued
    · exact sound.pending name other queued
  · intro key groupIndex
    have owners := owners_answered s.exchanges i event
    simp only [Function.update_apply]
    constructor
    · intro known
      split at known
      next isKey =>
        rcases (owners i turn.groupIndex).mpr ⟨turn, found, rfl⟩ with
          ⟨moved, inNext, owner⟩
        exact ⟨⟨event, .matched i⟩, by simp, i, moved, rfl, isKey.symm, inNext,
          owner.trans (Option.some.inj known)⟩
      next =>
        rcases (sound.results _ _).mp known with
          ⟨note, noted, other, old, handled, same, oldFound, owner⟩
        rcases (owners other groupIndex).mpr ⟨old, oldFound, owner⟩ with
          ⟨moved, inNext, changedOwner⟩
        exact ⟨note, List.mem_append_left _ noted, other, moved, handled, same, inNext,
          changedOwner⟩
    · rintro ⟨note, noted, other, moved, handled, same, inNext, owner⟩
      rcases (owners other groupIndex).mp ⟨moved, inNext, owner⟩ with ⟨old, oldFound, oldOwner⟩
      rcases List.mem_append.mp noted with past | new
      · have known := (sound.results key groupIndex).mpr
          ⟨note, past, other, old, handled, same, oldFound, oldOwner⟩
        split
        next isKey =>
          rw [isKey] at known
          rw [joined groupIndex known]
        next => exact known
      · rw [List.mem_singleton.mp new] at handled same
        cases handled
        rw [if_pos same.symm]
        rw [found] at oldFound
        cases oldFound
        rw [oldOwner]
  · rw [sound.issues]
    exact unrefused_append (by rintro ⟨_, handled⟩; cases handled)

/-- What an event does to the graph. -/
inductive GraphSteps (s : GraphState) (event : ToolEvent) : GraphState → GraphNote → Prop
  | refused (code message : String) (groups : List ℕ)
      (judged : Judged s event (.refused code message groups)) :
      GraphSteps s event (s.refuse event code message groups) ⟨event, .refused code⟩
  | opened (existing : Option ℕ) (next : GraphState) (groupIndex : ℕ)
      (judged : Judged s event (.opened existing))
      (opens : Opens s next event groupIndex) :
      GraphSteps s event next ⟨event, .opened s.exchanges.length⟩
  | matched (i : ℕ) (next : GraphState) (turn : ToolExchange)
      (judged : Judged s event (.matched i))
      (found : s.exchanges[i]? = some turn)
      (completes : Completes s next event i turn) :
      GraphSteps s event next ⟨event, .matched i⟩

theorem Sound.processEvent (sound : Sound notes s) (plain : event.ResultPlain) :
    ∃ next note, s.processEvent event = some (next, note) ∧ note.event = event ∧
      GraphSteps s event next note ∧ Sound (notes ++ [note]) next := by
  rcases sound.judge event with ⟨verdict, decided, judged⟩
  cases verdict with
  | refused code message groups =>
    refine ⟨s.refuse event code message groups, ⟨event, .refused code⟩, ?_, rfl,
      .refused code message groups judged, sound.refuse code message groups⟩
    simp [GraphState.processEvent, decided, GraphState.perform, GraphState.handled]
  | opened existing =>
    cases judged with
    | opens _ kind named fresh container =>
      rcases sound.openExchange kind named fresh container with
        ⟨next, groupIndex, opened, opens, soundNext⟩
      refine ⟨next, ⟨event, .opened s.exchanges.length⟩, ?_, rfl,
        .opened existing next groupIndex (.opens existing kind named fresh container) opens,
        soundNext⟩
      simp [GraphState.processEvent, decided, GraphState.perform, GraphState.handled, opened]
  | matched i =>
    cases judged with
    | matches_ _ turn kind single gives found unanswered protocol later joined =>
      rcases sound.complete plain kind gives found unanswered protocol later joined with
        ⟨next, completed, ends, soundNext⟩
      refine ⟨next, ⟨event, .matched i⟩, ?_, rfl,
        .matched i next turn (.matches_ i turn kind single gives found
          unanswered protocol later joined) found ends, soundNext⟩
      simp [GraphState.processEvent, decided, GraphState.perform, GraphState.handled, completed]

end Perform

end NewApi.ContextConsensus
