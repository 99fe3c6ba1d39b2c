import NewApi.ContextConsensus.ToolGraphSound

/-!
# The tool graph accounts for every event

A run never panics, groups the exchanges by container and completes those that got exactly one
result.
-/

namespace NewApi.ContextConsensus

def waiting (notes : List GraphNote) (name : String) : List ℕ :=
  (List.range (openedEvents notes).length).filter fun i =>
    ((openedEvents notes)[i]?.any fun call =>
      call.matchByName && call.functionName = name) && i ∉ matchedIndexes notes

/-- The event names the exchange: by its identity, or by the name it waits for. -/
def NamedBy (before : List GraphNote) (event : ToolEvent) (i : ℕ) (call : ToolEvent) : Prop :=
  match event.kind with
  | .call => event.callID ≠ "" ∧ call.callID = event.callID
  | .result =>
    if event.matchByName then i ∈ waiting before event.functionName
    else event.callID ≠ "" ∧ call.callID = event.callID
  | .unsupported => False

/-- An issue concerns the exchanges that its event names; a mismatch of modes, those of its
container; a mismatch of groups, those that a result of its container has completed. -/
def Concerns (before : List GraphNote) (note : GraphNote) (i : ℕ) : Prop :=
  ∃ code, note.handled = .refused code ∧ ∃ call, (openedEvents before)[i]? = some call ∧
    (NamedBy before note.event i call ∨
      (code = "tool_group_identity_mode_mismatch" ∧
        call.containerKey = note.event.containerKey) ∨
      (code = "tool_result_group_mismatch" ∧ ∃ past ∈ before, past.handled = .matched i ∧
          past.event.containerKey = note.event.containerKey))

/-- Some event is about the exchange. -/
def Concerned (notes : List GraphNote) (i : ℕ) : Prop :=
  ∃ before note after, notes = before ++ note :: after ∧ Concerns before note i

def Stalled (notes : List GraphNote) (i : ℕ) : Prop :=
  ∃ name, 1 < (waiting notes name).length ∧ i ∈ waiting notes name

/-- Two calls of the name waited at one time. -/
def EverAmbiguous (notes : List GraphNote) (name : String) : Prop :=
  ∃ before, before <+: notes ∧ 1 < (waiting before name).length

/-- A call that is matched by its name has no identifier. -/
def ToolEvent.CallPlain (event : ToolEvent) : Prop :=
  event.kind = .call → event.matchByName = true → event.callID = ""

/-! ## The waiting exchanges -/

section Waiting

variable {notes : List GraphNote} {s : GraphState} {event : ToolEvent} {i : ℕ} {name : String}

theorem mem_waiting : i ∈ waiting notes name ↔
    ∃ call, (openedEvents notes)[i]? = some call ∧ call.matchByName = true ∧
      call.functionName = name ∧ i ∉ matchedIndexes notes := by
  simp only [waiting, List.mem_filter, List.mem_range, Bool.and_eq_true, decide_eq_true_eq,
    Option.any_eq_true]
  constructor
  · rintro ⟨_, ⟨call, found, byName, same⟩, unmatched⟩
    exact ⟨call, found, byName, same, unmatched⟩
  · rintro ⟨call, found, byName, same, unmatched⟩
    exact ⟨(List.getElem?_eq_some_iff.mp found).1, ⟨call, found, byName, same⟩, unmatched⟩

theorem waiting_refused (code : String) :
    waiting (notes ++ [⟨event, .refused code⟩]) name = waiting notes name := by
  simp [waiting, openedEvents_append, matchedIndexes_append, GraphNote.opening,
    GraphNote.matchedIndex]

theorem waiting_opened (unmatched : (openedEvents notes).length ∉ matchedIndexes notes) :
    waiting (notes ++ [⟨event, .opened i⟩]) name = waiting notes name ++
        if event.matchByName = true ∧ event.functionName = name then
          [(openedEvents notes).length] else [] := by
  simp only [waiting, openedEvents_append, matchedIndexes_append, GraphNote.opening,
    GraphNote.matchedIndex, Option.toList_some, Option.toList_none, List.append_nil,
    List.length_append, List.length_singleton, List.range_succ, List.filter_append]
  congr 1
  · apply List.filter_congr
    intro _ inRange
    rw [List.getElem?_append_left (List.mem_range.mp inRange)]
  · simp [List.filter_singleton, unmatched]

theorem waiting_matched :
    waiting (notes ++ [⟨event, .matched i⟩]) name =
      (waiting notes name).filter fun other => other ≠ i := by
  simp only [waiting, openedEvents_append, matchedIndexes_append, GraphNote.opening,
    GraphNote.matchedIndex, Option.toList_some, Option.toList_none, List.append_nil,
    List.filter_filter]
  apply List.filter_congr
  intro other _
  simp only [List.mem_append, List.mem_singleton, not_or, Bool.decide_and]
  cases (openedEvents notes)[other]?.any fun call =>
    call.matchByName && call.functionName = name
  · simp
  · simp [Bool.and_comm]

end Waiting

/-! ## The failed groups -/

/-- What holds besides when calls that are matched by name carry no identity. -/
structure Plain (notes : List GraphNote) (s : GraphState) : Prop where
  nameless : ∀ call ∈ openedEvents notes, call.matchByName = true → call.callID = ""
  pending : ∀ name, s.pendingByFunctionName name = waiting notes name
  lasting : ∀ name, EverAmbiguous notes name → 1 < (waiting notes name).length
  inhabited : ∀ (groupIndex : ℕ) group, s.groups[groupIndex]? = some group →
    ∃ i : ℕ, ∃ turn, s.exchanges[i]? = some turn ∧
      turn.groupIndex = groupIndex
  failed : ∀ groupIndex, groupIndex ∈ s.failedGroups ↔
    ∃ i : ℕ, ∃ turn, s.exchanges[i]? = some turn ∧
      turn.groupIndex = groupIndex ∧ (Concerned notes i ∨ Stalled notes i)

theorem Plain.start : Plain [] .start where
  nameless _ opened := absurd opened List.not_mem_nil
  pending _ := rfl
  lasting name ambiguous := by
    rcases ambiguous with ⟨_, isPrefix, many⟩
    rw [List.prefix_nil.mp isPrefix] at many
    cases many
  inhabited _ _ found := by simp [GraphState.start] at found
  failed groupIndex := by simp [GraphState.start]

section Concerned

variable {notes : List GraphNote} {note : GraphNote} {i : ℕ}

theorem concerned_append :
    Concerned (notes ++ [note]) i ↔ Concerned notes i ∨ Concerns notes note i := by
  constructor
  · rintro ⟨before, other, after, split_, concerns⟩
    rcases List.eq_nil_or_concat after with rfl | ⟨inner, last, rfl⟩
    · rcases List.append_inj' split_ rfl with ⟨rfl, same⟩
      cases same
      exact .inr concerns
    · have sides : notes ++ [note] = (before ++ other :: inner) ++ [last] := by
        rw [split_]
        simp
      rcases List.append_inj' sides rfl with ⟨rfl, _⟩
      exact .inl ⟨before, other, inner, rfl, concerns⟩
  · rintro (⟨before, other, after, rfl, concerns⟩ | concerns)
    · exact ⟨before, other, after ++ [note], by simp, concerns⟩
    · exact ⟨notes, note, [], rfl, concerns⟩

theorem not_concerns (accepted : ¬note.Refused) : ¬Concerns notes note i := by
  rintro ⟨code, handled, _⟩
  exact accepted ⟨code, handled⟩

theorem everAmbiguous_append {name : String} :
    EverAmbiguous (notes ++ [note]) name ↔
      EverAmbiguous notes name ∨ 1 < (waiting (notes ++ [note]) name).length := by
  constructor
  · rintro ⟨before, isPrefix, many⟩
    rcases List.prefix_concat_iff.mp isPrefix with whole | inside
    · rw [whole] at many
      exact .inr many
    · exact .inl ⟨before, inside, many⟩
  · rintro (⟨before, isPrefix, many⟩ | many)
    · exact ⟨before, isPrefix.trans (List.prefix_append _ _), many⟩
    · exact ⟨_, List.prefix_refl _, many⟩

end Concerned

section GraphSteps

variable {notes : List GraphNote} {s : GraphState} {event : ToolEvent}

theorem Sound.call (sound : Sound notes s) {i : ℕ} {turn : ToolExchange}
    (found : s.exchanges[i]? = some turn) :
    ∃ call, (openedEvents notes)[i]? = some call ∧ OpenedBy s.groups call turn := by
  have inside : i < (openedEvents notes).length := by
    rw [sound.length]
    exact (List.getElem?_eq_some_iff.mp found).1
  exact ⟨_, List.getElem?_eq_getElem inside,
    sound.opened i _ turn (List.getElem?_eq_getElem inside) found⟩

theorem Sound.exchange (sound : Sound notes s) {i : ℕ} {call : ToolEvent}
    (opened : (openedEvents notes)[i]? = some call) :
    ∃ turn, s.exchanges[i]? = some turn ∧ OpenedBy s.groups call turn := by
  have inside : i < s.exchanges.length := by
    rw [← sound.length]
    exact (List.getElem?_eq_some_iff.mp opened).1
  exact ⟨_, List.getElem?_eq_getElem inside,
    sound.opened i call _ opened (List.getElem?_eq_getElem inside)⟩

theorem Sound.known_iff (sound : Sound notes s) {id : String} {i : ℕ} :
    s.callIndexByID id = some i ↔
      ∃ call, (openedEvents notes)[i]? = some call ∧ id ≠ "" ∧ call.callID = id := by
  rw [sound.ids]
  constructor
  · rintro ⟨set, turn, found, same⟩
    rcases sound.call found with ⟨call, opened, by_⟩
    exact ⟨call, opened, set, by_.callID.symm.trans same⟩
  · rintro ⟨_, opened, set, same⟩
    rcases sound.exchange opened with ⟨turn, found, by_⟩
    exact ⟨set, turn, found, by_.callID.trans same⟩

theorem Plain.namedBy_iff (plain : Plain notes s) (sound : Sound notes s)
    (resultPlain : event.ResultPlain) (kind : event.kind = .result)
    (single : ¬(event.matchByName = true ∧ 1 < (s.pendingByFunctionName event.functionName).length))
    (i : ℕ) :
    (∃ call, (openedEvents notes)[i]? = some call ∧ NamedBy notes event i call) ↔
      s.answeredCall event = some i := by
  simp only [NamedBy, kind, GraphState.answeredCall]
  by_cases byName : event.matchByName = true
  · simp only [byName, if_true]
    have unknown : s.callIndexByID event.callID = none := by
      rw [resultPlain kind byName]
      by_contra known
      rcases Option.ne_none_iff_exists'.mp known with ⟨_, known⟩
      exact ((sound.ids _ _).mp known).1 rfl
    have few : (waiting notes event.functionName).length ≤ 1 := by
      rw [← plain.pending]
      exact not_lt.mp fun many => single ⟨byName, many⟩
    have isOpened : i ∈ waiting notes event.functionName →
        ∃ call, (openedEvents notes)[i]? = some call := by
      intro waits
      rcases mem_waiting.mp waits with ⟨call, opened, _⟩
      exact ⟨call, opened⟩
    rw [plain.pending]
    cases waits : waiting notes event.functionName with
    | nil => simp [unknown]
    | cons only rest =>
      have alone : rest = [] := by
        rw [waits] at few
        simpa using few
      subst alone
      rw [waits] at isOpened
      simp only [List.mem_singleton, Option.some.injEq]
      constructor
      · rintro ⟨_, _, same⟩
        exact same.symm
      · intro same
        rcases isOpened (by simp [same]) with ⟨call, opened⟩
        exact ⟨call, opened, same.symm⟩
  · simp only [byName, Bool.false_eq_true, if_false]
    exact sound.known_iff.symm

/-- A refusal blames the groups of the exchanges that the event is about, and no others. -/
theorem Plain.refused_groups (plain : Plain notes s) (sound : Sound notes s)
    (resultPlain : event.ResultPlain) (callPlain : event.CallPlain) {code message : String}
    {groups : List ℕ} (judged : Judged s event (.refused code message groups)) (groupIndex : ℕ) :
    groupIndex ∈ groups ↔
      ∃ i : ℕ, ∃ turn, s.exchanges[i]? = some turn ∧
        turn.groupIndex = groupIndex ∧ Concerns notes ⟨event, .refused code⟩ i := by
  -- The issue names what its event names, as long as it is about no container.
  have plainCode : code ≠ "tool_group_identity_mode_mismatch" →
      code ≠ "tool_result_group_mismatch" → ∀ i, Concerns notes ⟨event, .refused code⟩ i ↔
          ∃ call, (openedEvents notes)[i]? = some call ∧ NamedBy notes event i call := by
    intro notMode notContainer _
    constructor
    · rintro ⟨other, handled, call, opened, named | ⟨isMode, _⟩ | ⟨isContainer, _⟩⟩
      · exact ⟨call, opened, named⟩
      · cases handled
        exact absurd isMode notMode
      · cases handled
        exact absurd isContainer notContainer
    · rintro ⟨call, opened, named⟩
      exact ⟨code, rfl, call, opened, .inl named⟩
  have idle : code ≠ "tool_group_identity_mode_mismatch" →
      code ≠ "tool_result_group_mismatch" →
      (∀ (i : ℕ) call, (openedEvents notes)[i]? = some call →
        ¬NamedBy notes event i call) →
        (groupIndex ∈ ([] : List ℕ) ↔
          ∃ i : ℕ, ∃ turn, s.exchanges[i]? = some turn ∧
            turn.groupIndex = groupIndex ∧
              Concerns notes ⟨event, .refused code⟩ i) := by
    intro notMode notContainer unnamed
    constructor
    · intro never
      cases never
    · rintro ⟨i, _, _, _, concerns⟩
      rcases (plainCode notMode notContainer i).mp concerns with ⟨call, opened, named⟩
      exact absurd named (unnamed i call opened)
  cases judged with
  | unsupported _ kind =>
    apply idle (by decide) (by decide)
    intro i call _ named
    simp [NamedBy, kind] at named
  | missingID _ kind blank _ =>
    apply idle (by decide) (by decide)
    intro _ call opened named
    simp only [NamedBy, kind] at named
    rcases sound.exchange opened with ⟨turn, _, by_⟩
    rcases by_.named with byName | filled
    · exact named.1 (named.2.symm.trans (plain.nameless call (List.mem_of_getElem? opened) byName))
    · rw [named.2, blank] at filled
      cases filled
  | missingName _ kind byName =>
    apply idle (by decide) (by decide)
    intro i call _ named
    simp only [NamedBy, kind] at named
    exact named.1 (callPlain kind byName)
  | duplicate _ i turn kind set found same =>
    rw [List.mem_singleton]
    constructor
    · rintro rfl
      refine ⟨i, turn, found, rfl, (plainCode (by decide) (by decide) i).mpr ?_⟩
      rcases sound.call found with ⟨call, opened, by_⟩
      refine ⟨call, opened, ?_⟩
      simp only [NamedBy, kind]
      exact ⟨set, by_.callID.symm.trans same⟩
    · rintro ⟨other, owner, atOwner, rfl, concerns⟩
      rcases (plainCode (by decide) (by decide) other).mp concerns with ⟨call, opened, named⟩
      simp only [NamedBy, kind] at named
      have known := sound.known_iff.mpr ⟨call, opened, named⟩
      rw [(sound.ids _ _).mpr ⟨set, turn, found, same⟩] at known
      cases known
      rw [found] at atOwner
      cases atOwner
      rfl
  | mode _ group_ group kind fresh found same =>
    rw [List.mem_singleton]
    constructor
    · rintro rfl
      rcases plain.inhabited _ group found with ⟨i, turn, stored, owner⟩
      rcases sound.call stored with ⟨call, opened, by_⟩
      refine ⟨i, turn, stored, owner, _, rfl, call, opened, .inr (.inl ⟨rfl, ?_⟩)⟩
      rcases by_.group with ⟨house, placed, protocol, sequence⟩
      rw [owner, found] at placed
      cases placed
      rw [← same, protocol, sequence]
      rfl
    · rintro ⟨i, turn, stored, rfl, other, handled, call, opened,
        named | ⟨_, container⟩ | ⟨isContainer, _⟩⟩
      · simp only [NamedBy, kind] at named
        rcases sound.exchange opened with ⟨owner, atOwner, by_⟩
        exact absurd (by_.callID.trans named.2) (fresh i owner atOwner named.1)
      · rcases sound.exchange opened with ⟨owner, atOwner, by_⟩
        rw [stored] at atOwner
        cases atOwner
        rcases by_.group with ⟨house, placed, protocol, sequence⟩
        have mine := (sound.containers event.containerKey turn.groupIndex).mpr
          ⟨house, placed, by rw [protocol, sequence]; exact container⟩
        have given := (sound.containers event.containerKey group_).mpr ⟨group, found, same⟩
        rw [mine] at given
        exact Option.some.inj given
      · cases handled
        exact absurd isContainer (by decide)
  | ambiguous _ _ kind byName _ owners =>
    rcases groupsOf_some (sound.pending event.functionName) with ⟨_, same, iff⟩
    rw [owners] at same
    cases same
    rw [iff]
    constructor
    · rintro ⟨i, queued, turn, found, owner⟩
      refine ⟨i, turn, found, owner, (plainCode (by decide) (by decide) i).mpr ?_⟩
      rcases sound.call found with ⟨call, opened, _⟩
      refine ⟨call, opened, ?_⟩
      simp only [NamedBy, kind, byName, if_true]
      rw [← plain.pending]
      exact queued
    · rintro ⟨i, turn, found, owner, concerns⟩
      rcases (plainCode (by decide) (by decide) i).mp concerns with ⟨call, opened, named⟩
      simp only [NamedBy, kind, byName, if_true] at named
      refine ⟨i, ?_, turn, found, owner⟩
      rw [plain.pending]
      exact named
  | orphan _ kind single unknown =>
    apply idle (by decide) (by decide)
    intro i call opened named
    have gives := (plain.namedBy_iff sound resultPlain kind single i).mp ⟨call, opened, named⟩
    rw [unknown] at gives
    cases gives
  | conflict _ _ i turn kind single gives found codes =>
    rw [List.mem_singleton]
    constructor
    · rintro rfl
      exact ⟨i, turn, found, rfl, (plainCode codes.1 codes.2 i).mpr
        ((plain.namedBy_iff sound resultPlain kind single i).mpr gives)⟩
    · rintro ⟨other, owner, atOwner, rfl, concerns⟩
      have named := (plain.namedBy_iff sound resultPlain kind single other).mp
        ((plainCode codes.1 codes.2 other).mp concerns)
      rw [gives] at named
      cases named
      rw [found] at atOwner
      cases atOwner
      rfl
  | container _ i _ turn kind single gives found taken =>
    rw [List.mem_cons, List.mem_singleton]
    constructor
    · rintro (rfl | rfl)
      · rcases (sound.results _ _).mp taken with
          ⟨note, noted, other, owner, handled, same, atOwner, ownerGroup⟩
        rcases sound.call atOwner with ⟨call, opened, _⟩
        exact ⟨other, owner, atOwner, ownerGroup, _, rfl, call, opened,
          .inr (.inr ⟨rfl, note, noted, handled, same⟩)⟩
      · rcases (plain.namedBy_iff sound resultPlain kind single i).mpr gives with
          ⟨call, opened, named⟩
        exact ⟨i, turn, found, rfl, _, rfl, call, opened, .inl named⟩
    · rintro ⟨other, owner, atOwner, rfl, _, handled, call, opened,
        named | ⟨isMode, _⟩ | ⟨_, note, noted, matched, same⟩⟩
      · have answersToo := (plain.namedBy_iff sound resultPlain kind single other).mp
          ⟨call, opened, named⟩
        rw [gives] at answersToo
        cases answersToo
        rw [found] at atOwner
        cases atOwner
        exact .inr rfl
      · cases handled
        exact absurd isMode (by decide)
      · have known := (sound.results event.containerKey owner.groupIndex).mpr
          ⟨note, noted, other, owner, matched, same, atOwner, rfl⟩
        rw [taken] at known
        exact .inl (Option.some.inj known).symm

theorem Plain.refuse (plain : Plain notes s) (sound : Sound notes s)
    (resultPlain : event.ResultPlain) (callPlain : event.CallPlain) {code message : String}
    {groups : List ℕ} (judged : Judged s event (.refused code message groups)) :
    Plain (notes ++ [⟨event, .refused code⟩]) (s.refuse event code message groups) where
  nameless call opened := by
    rw [openedEvents_append] at opened
    exact plain.nameless call (by simpa [GraphNote.opening] using opened)
  pending name := by
    rw [waiting_refused]
    exact plain.pending name
  lasting name ambiguous := by
    rw [everAmbiguous_append, waiting_refused] at ambiguous
    rw [waiting_refused]
    rcases ambiguous with past | many
    · exact plain.lasting name past
    · exact many
  inhabited := plain.inhabited
  failed groupIndex := by
    simp only [GraphState.refuse, List.mem_append, plain.failed, plain.refused_groups sound
      resultPlain callPlain judged, concerned_append, Stalled, waiting_refused]
    constructor
    · rintro (⟨i, turn, found, owner, concerned | stalled⟩ | ⟨i, turn, found, owner, concerns⟩)
      · exact ⟨i, turn, found, owner, .inl (.inl concerned)⟩
      · exact ⟨i, turn, found, owner, .inr stalled⟩
      · exact ⟨i, turn, found, owner, .inl (.inr concerns)⟩
    · rintro ⟨i, turn, found, owner, (concerned | concerns) | stalled⟩
      · exact .inl ⟨i, turn, found, owner, .inl concerned⟩
      · exact .inr ⟨i, turn, found, owner, concerns⟩
      · exact .inl ⟨i, turn, found, owner, .inr stalled⟩

theorem Sound.unmatched (sound : Sound notes s) :
    (openedEvents notes).length ∉ matchedIndexes notes := by
  intro matched
  rcases mem_matchedIndexes.mp matched with ⟨note, noted, handled⟩
  rcases sound.matched note noted _ handled with ⟨_, found, _⟩
  rw [sound.length] at found
  simp at found

theorem lt_of_mem_waiting {name : String} {i : ℕ} (waits : i ∈ waiting notes name) :
    i < (openedEvents notes).length := by
  rcases mem_waiting.mp waits with ⟨_, opened, _⟩
  exact (List.getElem?_eq_some_iff.mp opened).1

/-- An opened exchange keeps the accounts of the transcript. -/
theorem Plain.openExchange (plain : Plain notes s) (sound : Sound notes s)
    (callPlain : event.CallPlain) {existing : Option ℕ} {next : GraphState} {groupIndex : ℕ}
    (judged : Judged s event (.opened existing)) (opens : Opens s next event groupIndex) :
    Plain (notes ++ [⟨event, .opened s.exchanges.length⟩]) next := by
  have kind : event.kind = .call := by
    cases judged with
    | opens _ kind _ _ _ => exact kind
  have waits : ∀ name, waiting (notes ++ [⟨event, .opened s.exchanges.length⟩]) name =
      waiting notes name ++ if event.matchByName = true ∧ event.functionName = name then
        [s.exchanges.length] else [] := by
    intro _
    rw [← sound.length]
    exact waiting_opened sound.unmatched
  have accepted : ¬GraphNote.Refused ⟨event, .opened s.exchanges.length⟩ := by
    rintro ⟨code, handled⟩
    cases handled
  have old : ∀ (i : ℕ) turn, i < s.exchanges.length →
      (next.exchanges[i]? = some turn ↔ s.exchanges[i]? = some turn) := by
    intro _ _ inside
    rw [opens.joins.exchanges, List.getElem?_append_left inside]
  have concernedInside : ∀ i, Concerned notes i → i < s.exchanges.length := by
    rintro i ⟨before, _, _, rfl, _, _, call, opened, _⟩
    rw [← sound.length]
    have inside := (List.getElem?_eq_some_iff.mp opened).1
    simp only [openedEvents, List.filterMap_append, List.length_append] at inside ⊢
    omega
  refine ⟨?_, ?_, ?_, ?_, ?_⟩
  · intro call opened
    rw [openedEvents_append] at opened
    rcases List.mem_append.mp opened with past | new
    · exact plain.nameless call past
    · simp only [GraphNote.opening, Option.toList_some, List.mem_singleton] at new
      subst new
      exact callPlain kind
  · intro name
    rw [waits, opens.pending]
    by_cases byName : event.matchByName = true
    · rw [if_pos byName, Function.update_apply]
      by_cases same : name = event.functionName
      · rw [if_pos same, if_pos ⟨byName, same.symm⟩, same, plain.pending]
      · rw [if_neg same, if_neg fun both => same both.2.symm, List.append_nil, plain.pending]
    · rw [if_neg byName, if_neg fun both => byName both.1, List.append_nil, plain.pending]
  · intro name ambiguous
    rw [everAmbiguous_append] at ambiguous
    rcases ambiguous with past | many
    · rw [waits, List.length_append]
      have before := plain.lasting name past
      omega
    · exact many
  · intro other group placed
    by_cases same : other = groupIndex
    · refine ⟨s.exchanges.length, GraphState.newExchange event groupIndex, ?_, same.symm⟩
      rw [opens.joins.exchanges]
      simp
    · rw [opens.joins.others other same] at placed
      rcases plain.inhabited other group placed with ⟨i, turn, found, owner⟩
      exact ⟨i, turn, (old i turn (List.getElem?_eq_some_iff.mp found).1).mpr found, owner⟩
  · intro _
    rw [opens.failed, plain.failed]
    constructor
    · rintro (⟨i, turn, found, owner, concerned | ⟨name, many, waiting_⟩⟩ |
        ⟨byName, many, i, queued, turn, found, owner⟩)
      · exact ⟨i, turn, (old i turn (List.getElem?_eq_some_iff.mp found).1).mpr found, owner,
          .inl (concerned_append.mpr (.inl concerned))⟩
      · refine ⟨i, turn, (old i turn
          (List.getElem?_eq_some_iff.mp found).1).mpr found, owner, .inr ⟨name, ?_, ?_⟩⟩
        · rw [waits, List.length_append]
          omega
        · rw [waits]
          exact List.mem_append_left _ waiting_
      · have grown : waiting (notes ++ [⟨event, .opened s.exchanges.length⟩]) event.functionName =
              s.pendingByFunctionName event.functionName ++ [s.exchanges.length] := by
          rw [waits, if_pos ⟨byName, rfl⟩, plain.pending]
        refine ⟨i, turn, found, owner, .inr ⟨event.functionName, ?_, ?_⟩⟩
        · rw [grown]
          exact many
        · rw [grown]
          exact queued
    · rintro ⟨i, turn, found, owner, concerned | ⟨name, many, waiting_⟩⟩
      · rcases concerned_append.mp concerned with past | new
        · exact .inl ⟨i, turn, (old i turn (concernedInside i past)).mp found, owner, .inl past⟩
        · exact absurd new (not_concerns accepted)
      · rw [waits] at many waiting_
        by_cases mine : event.matchByName = true ∧ event.functionName = name
        · rw [if_pos mine, ← mine.2, ← plain.pending] at many waiting_
          exact .inr ⟨mine.1, many, i, waiting_, turn, found, owner⟩
        · rw [if_neg mine, List.append_nil] at many waiting_
          have inside := lt_of_mem_waiting waiting_
          rw [sound.length] at inside
          exact .inl ⟨i, turn, (old i turn inside).mp found, owner, .inr ⟨name, many, waiting_⟩⟩

theorem Plain.waits_alone (plain : Plain notes s) (sound : Sound notes s) {i : ℕ}
    {turn : ToolExchange} {next : GraphState} (gives : s.answeredCall event = some i)
    (ends : Completes s next event i turn) {name : String} (waits : i ∈ waiting notes name) :
    waiting notes name = [i] ∧ event.matchByName = true ∧ name = event.functionName := by
  rcases mem_waiting.mp waits with ⟨call, opened, byName, same, _⟩
  by_cases named : event.matchByName = true
  · have only := ends.only named
    rw [plain.pending] at only
    have inOwn : i ∈ waiting notes event.functionName := by
      rw [only]
      exact List.mem_singleton_self _
    rcases mem_waiting.mp inOwn with ⟨other, otherOpened, _, otherSame, _⟩
    rw [opened] at otherOpened
    cases otherOpened
    rw [← same, otherSame]
    exact ⟨only, named, rfl⟩
  · simp only [GraphState.answeredCall, named, Bool.false_eq_true, if_false] at gives
    rcases sound.known_iff.mp gives with ⟨_, otherOpened, set, id⟩
    rw [opened] at otherOpened
    cases otherOpened
    exact absurd (id.symm.trans (plain.nameless call (List.mem_of_getElem? opened) byName)) set

/-- A completed exchange keeps the accounts of the transcript. -/
theorem Plain.complete (plain : Plain notes s) (sound : Sound notes s) {i : ℕ}
    {turn : ToolExchange} {next : GraphState} (judged : Judged s event (.matched i))
    (ends : Completes s next event i turn) :
    Plain (notes ++ [⟨event, .matched i⟩]) next := by
  have gives : s.answeredCall event = some i := by
    cases judged with
    | matches_ _ _ _ _ gives _ _ _ _ _ =>
      exact gives
  have accepted : ¬GraphNote.Refused ⟨event, .matched i⟩ := by
    rintro ⟨_, handled⟩
    cases handled
  have waits : ∀ name, 1 < (waiting notes name).length →
      waiting (notes ++ [⟨event, .matched i⟩]) name = waiting notes name := by
    intro _ many
    rw [waiting_matched]
    apply List.filter_eq_self.mpr
    intro _ inWaiting
    rw [decide_eq_true_eq]
    rintro rfl
    rw [(plain.waits_alone sound gives ends inWaiting).1] at many
    simp at many
  have fewer : ∀ name, (waiting (notes ++ [⟨event, .matched i⟩]) name).length ≤
      (waiting notes name).length := by
    intro _
    rw [waiting_matched]
    exact List.length_filter_le _ _
  have owners : ∀ (other : ℕ) owner, (∃ moved, next.exchanges[other]? = some moved ∧
      moved.groupIndex = owner) ↔
        ∃ old, s.exchanges[other]? = some old ∧ old.groupIndex = owner := by
    rw [ends.exchanges]
    exact owners_answered s.exchanges i event
  refine ⟨?_, ?_, ?_, ?_, ?_⟩
  · intro call opened
    rw [openedEvents_append] at opened
    exact plain.nameless call (by simpa [GraphNote.opening] using opened)
  · intro name
    rw [ends.pending, waiting_matched]
    by_cases inWaiting : i ∈ waiting notes name
    · rcases plain.waits_alone sound gives ends inWaiting with ⟨alone, byName, rfl⟩
      rw [if_pos byName, Function.update_self, alone]
      simp
    · have kept : ((waiting notes name).filter fun other => other ≠ i) = waiting notes name := by
        apply List.filter_eq_self.mpr
        intro _ inOther
        rw [decide_eq_true_eq]
        rintro rfl
        exact inWaiting inOther
      rw [kept, ← plain.pending]
      split
      next byName =>
        apply Function.update_of_ne
        rintro rfl
        apply inWaiting
        rw [← plain.pending, ends.only byName]
        exact List.mem_singleton_self _
      next => rfl
  · intro name ambiguous
    rw [everAmbiguous_append] at ambiguous
    rcases ambiguous with past | many
    · rw [waits name (plain.lasting name past)]
      exact plain.lasting name past
    · exact many
  · intro groupIndex _ placed
    rw [ends.groups] at placed
    rcases (getElem?_answered _ _ _ _ _).mp placed with ⟨old, oldAt, _⟩
    rcases plain.inhabited groupIndex old oldAt with ⟨other, owned, found, owner⟩
    rcases (owners other groupIndex).mpr ⟨owned, found, owner⟩ with ⟨moved, inNext, same⟩
    exact ⟨other, moved, inNext, same⟩
  · intro groupIndex
    rw [ends.failed, plain.failed]
    have stalled : ∀ other, Stalled (notes ++ [⟨event, .matched i⟩]) other ↔
        Stalled notes other := by
      intro _
      constructor
      · rintro ⟨name, many, inWaiting⟩
        have before := lt_of_lt_of_le many (fewer name)
        rw [waits name before] at inWaiting
        exact ⟨name, before, inWaiting⟩
      · rintro ⟨name, many, inWaiting⟩
        refine ⟨name, ?_, ?_⟩
        · rw [waits name many]
          exact many
        · rw [waits name many]
          exact inWaiting
    have concerned : ∀ other, Concerned (notes ++ [⟨event, .matched i⟩]) other ↔
        Concerned notes other := by
      intro _
      rw [concerned_append]
      exact or_iff_left (not_concerns accepted)
    simp only [stalled, concerned]
    constructor
    · rintro ⟨other, owned, found, owner, why⟩
      rcases (owners other groupIndex).mpr ⟨owned, found, owner⟩ with ⟨moved, inNext, same⟩
      exact ⟨other, moved, inNext, same, why⟩
    · rintro ⟨other, moved, inNext, same, why⟩
      rcases (owners other groupIndex).mp ⟨moved, inNext, same⟩ with ⟨owned, found, owner⟩
      exact ⟨other, owned, found, owner, why⟩

end GraphSteps

/-! ## The run -/

section Run

variable {notes : List GraphNote} {s : GraphState}

theorem Plain.step (plain : Plain notes s) (sound : Sound notes s) {event : ToolEvent}
    (resultPlain : event.ResultPlain) (callPlain : event.CallPlain) {next : GraphState}
    {note : GraphNote} (steps : GraphSteps s event next note) : Plain (notes ++ [note]) next := by
  cases steps with
  | refused _ _ _ judged =>
    exact plain.refuse sound resultPlain callPlain judged
  | opened _ _ _ judged opens =>
    exact plain.openExchange sound callPlain judged opens
  | matched _ _ _ judged _ ends =>
    exact plain.complete sound judged ends

theorem Sound.processEvents (sound : Sound notes s) (events : List ToolEvent)
    (results : ∀ event ∈ events, event.ResultPlain) :
    ∃ final finalNotes, s.processEvents notes events = some (final, finalNotes) ∧
      finalNotes.map GraphNote.event = notes.map GraphNote.event ++ events ∧
      Sound finalNotes final ∧
      ((∀ event ∈ events, event.CallPlain) → Plain notes s → Plain finalNotes final) := by
  induction events generalizing notes s with
  | nil => exact ⟨s, notes, rfl, by simp, sound, fun _ plain => plain⟩
  | cons event _ ih =>
    have resultPlain := results event (List.mem_cons_self ..)
    rcases sound.processEvent resultPlain with ⟨_, _, processed, same, steps, soundNext⟩
    rcases ih soundNext fun other isIn =>
        results other (List.mem_cons_of_mem _ isIn) with
      ⟨final, finalNotes, ran, events_, soundFinal, plainFinal⟩
    refine ⟨final, finalNotes, ?_, ?_, soundFinal, ?_⟩
    · simp only [GraphState.processEvents, processed, Option.bind_some]
      exact ran
    · rw [events_]
      simp [same]
    · intro calls plain
      apply plainFinal fun other isIn => calls other (List.mem_cons_of_mem _ isIn)
      exact plain.step sound resultPlain (calls event (List.mem_cons_self ..)) steps

theorem mem_finishGroup {groupIndex : ℕ} {group : ToolGraphGroup} {i : ℕ} :
    i ∈ (s.finishGroup groupIndex group).exchangeIndexes ↔
      i ∈ group.exchangeIndexes := by
  simp only [GraphState.finishGroup, StableSort.sliceStable]
  exact List.mem_insertionSort _

theorem finishGroup_completed {groupIndex : ℕ} {group : ToolGraphGroup} :
    (s.finishGroup groupIndex group).status = .completed ↔
      groupIndex ∉ s.failedGroups ∧ ∀ i ∈ group.exchangeIndexes,
        ∃ turn, s.exchanges[i]? = some turn ∧ turn.status = .completed := by
  have sorted : ((StableSort.sliceStable s.precedes group.exchangeIndexes).all
      fun i => s.exchanges[i]?.any fun turn => turn.status = .completed) =
        true ↔ ∀ i ∈ group.exchangeIndexes,
          ∃ turn, s.exchanges[i]? = some turn ∧ turn.status = .completed := by
    simp only [List.all_eq_true, Option.any_eq_true, decide_eq_true_eq, StableSort.sliceStable,
      List.mem_insertionSort]
  simp only [GraphState.finishGroup]
  split
  next failed => simp [failed]
  next intact =>
    simp only [intact, not_false_eq_true, true_and, ← sorted]
    split
    next all => simp [all]
    next some_ => simp [some_]

theorem missingResults_eq_nil : s.missingResults = [] ↔
    ∀ (i : ℕ) turn, s.exchanges[i]? = some turn → turn.status ≠ .pending := by
  simp only [GraphState.missingResults, List.map_eq_nil_iff, List.filter_eq_nil_iff,
    decide_eq_true_eq]
  constructor
  · intro none_ i turn found
    apply none_ (turn, i)
    rw [List.mem_zipIdx_iff_getElem?]
    exact found
  · rintro none_ ⟨turn, i⟩ inList
    rw [List.mem_zipIdx_iff_getElem?] at inList
    exact none_ i turn inList

theorem Sound.completed_iff (sound : Sound notes s) {i : ℕ} {turn : ToolExchange}
    (found : s.exchanges[i]? = some turn) :
    turn.status = .completed ↔ ∃ result, resultsOf notes i = [result] ∧
      result.kind = .result ∧ turn.sequence < result.sequence ∧
      result.protocol = turn.protocol := by
  rcases sound.present i turn found with ⟨present, status⟩
  have answered : turn.status = .completed ↔ i ∈ matchedIndexes notes := by
    rw [← present, status]
    split
    next is => simp [is]
    next is => simp [is]
  rw [answered]
  constructor
  · intro matched
    have one : (resultsOf notes i).length = 1 := by
      rw [length_resultsOf]
      exact List.count_eq_one_of_mem sound.matchedOnce matched
    rcases List.length_eq_one_iff.mp one with ⟨result, only⟩
    have isResult : result ∈ resultsOf notes i := by
      rw [only]
      exact List.mem_singleton_self _
    rcases List.mem_map.mp isResult with ⟨note, noted, rfl⟩
    rcases List.mem_filter.mp noted with ⟨inLog, handled⟩
    rcases sound.matched note inLog i (by simpa using handled) with
      ⟨other, otherFound, protocol, later, kind⟩
    rw [found] at otherFound
    cases otherFound
    exact ⟨note.event, only, kind, later, protocol⟩
  · rintro ⟨_, only, _⟩
    have one : (matchedIndexes notes).count i = 1 := by
      rw [← length_resultsOf, only]
      rfl
    exact List.count_pos_iff.mp (by omega)

end Run

/-- The graph of every list of events in which a result that is matched by name carries no
identity, and its issues. -/
theorem validateToolGraph_accounts (events : List ToolEvent)
    (results : ∀ event ∈ events, event.ResultPlain) :
    ∃ graph issues notes, validateToolGraph events = some (graph, issues) ∧
      transcript events = some notes ∧ notes.map GraphNote.event = events ∧
      (∀ (i : ℕ) turn, graph.exchanges[i]? = some turn →
        ∃! groupIndex : ℕ, ∃ group, graph.groups[groupIndex]? = some group ∧
          i ∈ group.exchangeIndexes) ∧
      (∀ (groupIndex : ℕ) group, graph.groups[groupIndex]? = some group →
        ∀ i ∈ group.exchangeIndexes, ∃ call turn,
          (openedEvents notes)[i]? = some call ∧ graph.exchanges[i]? = some turn ∧
            turn.protocol = group.protocol ∧ call.protocol = group.protocol ∧
              call.parallelGroup = group.callContainerSequence) ∧
      (∀ (i : ℕ) turn, graph.exchanges[i]? = some turn →
        (turn.status = .completed ↔ ∃ result, resultsOf notes i = [result] ∧
          result.kind = .result ∧ turn.sequence < result.sequence ∧
          result.protocol = turn.protocol)) ∧
      (∀ note ∈ notes, ∀ left right, note.handled = .matched left →
        note.handled = .matched right → left = right) ∧
      ((∀ event ∈ events, event.CallPlain) →
        (∀ (groupIndex : ℕ) group, graph.groups[groupIndex]? = some group →
          (group.status = .completed ↔
            (∀ i ∈ group.exchangeIndexes, ∃ turn,
              graph.exchanges[i]? = some turn ∧ turn.status = .completed) ∧
              ∀ i ∈ group.exchangeIndexes, ¬Concerned notes i)) ∧
        (issues = [] ↔ (∀ note ∈ notes, ¬note.Refused) ∧
          (∀ (i : ℕ) turn, graph.exchanges[i]? = some turn →
            ∃ result, resultsOf notes i = [result]) ∧
          ∀ name, ¬EverAmbiguous notes name)) := by
  rcases Sound.start.processEvents events results with
    ⟨final, notes, ran, eventsOf, sound, plainFinal⟩
  have grouped : ∀ (groupIndex : ℕ) group, final.finish.1.groups[groupIndex]? = some group →
      ∃ old, final.groups[groupIndex]? = some old ∧
        final.finishGroup groupIndex old = group := by
    intro _ _ found
    simp only [GraphState.finish, List.getElem?_mapIdx, Option.map_eq_some_iff] at found
    exact found
  refine ⟨final.finish.1, final.finish.2, notes, ?_, ?_, eventsOf, ?_, ?_, ?_, ?_, ?_⟩
  · simp [validateToolGraph, ran]
  · simp [transcript, ran]
  · intro i turn found
    rcases sound.found_groups found with ⟨group, located⟩
    refine ⟨turn.groupIndex, ⟨final.finishGroup turn.groupIndex group, ?_, ?_⟩, ?_⟩
    · simp [GraphState.finish, located]
    · exact mem_finishGroup.mpr ((sound.members _ group located i).mpr ⟨turn, found, rfl⟩)
    · rintro other ⟨finished, inGraph, inGroup⟩
      rcases grouped other finished inGraph with ⟨old, oldLocated, rfl⟩
      rcases (sound.members other old oldLocated i).mp (mem_finishGroup.mp inGroup) with
        ⟨owned, ownedFound, owner⟩
      have same : some owned = some turn := ownedFound.symm.trans found
      cases same
      exact owner.symm
  · intro groupIndex finished inGraph i inGroup
    rcases grouped groupIndex finished inGraph with ⟨old, located, rfl⟩
    rcases (sound.members groupIndex old located i).mp (mem_finishGroup.mp inGroup) with
      ⟨turn, found, rfl⟩
    rcases sound.call found with ⟨call, opened, by_⟩
    rcases by_.group with ⟨_, groupLocated, protocol, sequence⟩
    rw [located] at groupLocated
    cases groupLocated
    exact ⟨call, turn, opened, found, by_.protocol.trans protocol.symm, protocol.symm,
      sequence.symm⟩
  · intro _ _ found
    exact sound.completed_iff found
  · intro note _ left right isLeft isRight
    rw [isLeft] at isRight
    exact Handled.matched.inj isRight
  · intro calls
    have plain := plainFinal calls Plain.start
    have unstalled : ∀ i turn, final.exchanges[i]? = some turn →
        turn.status = .completed → ¬Stalled notes i := by
      rintro i turn found completed ⟨name, _, waits⟩
      rcases mem_waiting.mp waits with ⟨_, _, _, _, unmatched⟩
      rcases sound.present i turn found with ⟨present, status⟩
      rw [completed] at status
      split at status
      next is => exact unmatched (present.mp is)
      next => cases status
    refine ⟨?_, ?_⟩
    · intro groupIndex finished inGraph
      rcases grouped groupIndex finished inGraph with ⟨old, located, rfl⟩
      rw [finishGroup_completed]
      simp only [mem_finishGroup, plain.failed]
      constructor
      · rintro ⟨intact, completed⟩
        refine ⟨completed, ?_⟩
        intro i inGroup concerned
        rcases (sound.members groupIndex old located i).mp inGroup with
          ⟨turn, found, owner⟩
        exact intact ⟨i, turn, found, owner, .inl concerned⟩
      · rintro ⟨completed, clean⟩
        refine ⟨?_, completed⟩
        rintro ⟨i, turn, found, owner, why⟩
        have inGroup := (sound.members groupIndex old located i).mpr ⟨turn, found, owner⟩
        rcases why with concerned | stalled
        · exact clean i inGroup concerned
        · rcases completed i inGroup with ⟨other, otherFound, status⟩
          exact unstalled i other otherFound status stalled
    · simp only [GraphState.finish, List.append_eq_nil_iff, sound.issues, missingResults_eq_nil]
      constructor
      · rintro ⟨accepted, answered⟩
        have matched : ∀ (i : ℕ) turn, final.exchanges[i]? = some turn →
            turn.status = .completed := by
          intro i turn found
          have open_ := answered i turn found
          rcases sound.present i turn found with ⟨_, status⟩
          rw [status] at open_ ⊢
          split
          · rfl
          next absent => simp [absent] at open_
        refine ⟨accepted, ?_, ?_⟩
        · intro i turn found
          rcases (sound.completed_iff found).mp (matched i turn found) with
            ⟨result, only, _⟩
          exact ⟨result, only⟩
        · intro name ambiguous
          have several := plain.lasting name ambiguous
          rcases List.exists_mem_of_length_pos (by omega : 0 < (waiting notes name).length) with
            ⟨i, waits⟩
          rcases mem_waiting.mp waits with ⟨_, opened, _⟩
          rcases sound.exchange opened with ⟨turn, found, _⟩
          exact unstalled i turn found (matched i turn found) ⟨name, several, waits⟩
      · rintro ⟨accepted, answered, _⟩
        refine ⟨accepted, ?_⟩
        intro i turn found pending
        rcases answered i turn found with ⟨_, only⟩
        have counted : (matchedIndexes notes).count i = 1 := by
          rw [← length_resultsOf, only]
          rfl
        have matched : i ∈ matchedIndexes notes := List.count_pos_iff.mp (by omega)
        rcases sound.present i turn found with ⟨present, status⟩
        rw [present.mpr matched, pending] at status
        simp at status

def sampleToolEvent (kind : ToolEventKind) (sequence : ℤ) (callID : String)
    (matchByName : Bool) : ToolEvent :=
  ⟨kind, "gemini", sequence, if kind = .call then 0 else 1, callID, "search", "", false,
    matchByName⟩

def namedExchange : List ToolEvent :=
  [sampleToolEvent .call 0 "" true, sampleToolEvent .result 1 "" true]

theorem namedExchange_accounted :
    ∃ graph issues notes, validateToolGraph namedExchange = some (graph, issues) ∧
      transcript namedExchange = some notes ∧ issues = [] ∧ ∀ name, ¬EverAmbiguous notes name := by
  have results : ∀ event ∈ namedExchange, event.ResultPlain := by
    simp only [ToolEvent.ResultPlain]
    decide
  have calls : ∀ event ∈ namedExchange, event.CallPlain := by
    simp only [ToolEvent.CallPlain]
    decide
  rcases validateToolGraph_accounts namedExchange results with
    ⟨graph, issues, notes, validated, noted, _, _, _, _, _, plain⟩
  have clean : (validateToolGraph namedExchange).map Prod.snd = some [] := by
    decide
  rw [validated] at clean
  have none_ : issues = [] := by simpa using clean
  exact ⟨graph, issues, notes, validated, noted, none_, ((plain calls).2.mp none_).2.2⟩

/-- Two calls that are matched by name but carry identities, and results with these. -/
def identifiedByBoth : List ToolEvent :=
  [sampleToolEvent .call 0 "x" true, sampleToolEvent .call 1 "y" true,
    sampleToolEvent .result 2 "x" false, sampleToolEvent .result 3 "y" false]

/-- There is no issue and every exchange is completed, yet the name was ambiguous and the group has
failed. -/
theorem identifiedByBoth_fails :
    (∀ event ∈ identifiedByBoth, event.ResultPlain) ∧
      ∃ graph, validateToolGraph identifiedByBoth = some (graph, []) ∧
        (∀ turn ∈ graph.exchanges, turn.status = .completed) ∧
        graph.groups.map ToolGraphGroup.status = [.failed] ∧
        graph.ambiguousFunctionNames = ["search"] := by
  refine ⟨?_, ?_⟩
  · simp only [ToolEvent.ResultPlain]
    decide
  · have facts : ∃ out ∈ validateToolGraph identifiedByBoth, out.2 = [] ∧
        (∀ turn ∈ out.1.exchanges, turn.status = .completed) ∧
        out.1.groups.map ToolGraphGroup.status = [.failed] ∧
        out.1.ambiguousFunctionNames = ["search"] := by
      decide +kernel
    rcases facts with ⟨⟨graph, _⟩, validated, rfl, rest⟩
    exact ⟨graph, validated, rest⟩

end NewApi.ContextConsensus
