import NewApi.ProviderFile.DeletionStages

/-!
# Safety of the deletion workers

What the notes of a run say about each other and about the rows.
-/

namespace NewApi.ProviderFile

open Relational
open NewApi.ProviderFile renaming ManagedProviderFileDeletionOutbox → Outbox

def SameAttempt (left right : DeletionNote) : Prop :=
  left.outbox.id = right.outbox.id ∧ left.outbox.attemptCount = right.outbox.attemptCount

theorem SameAttempt.symm {left right : DeletionNote} (same : SameAttempt left right) :
    SameAttempt right left :=
  ⟨same.1.symm, same.2.symm⟩

def DeletionNote.Retried (note : DeletionNote) : Prop :=
  ∃ errorCode, note.kind = .retried errorCode

def DeletionNote.Leases (note : DeletionNote) : Prop :=
  note.kind = .claimed ∨ note.kind = .marked

/-- The request was answered by a rate limit, and the answer recorded. -/
def Settled (history : List DeletionNote) (sent : DeletionNote) : Prop :=
  ∃ held, [sent, ⟨sent.thread, sent.outbox, .answered (.failed .rateLimited) held⟩,
    ⟨sent.thread, sent.outbox, .retried "provider_rate_limited"⟩].Sublist history

/-- The row is past the stage of an attempt at which it could be dispatched. -/
def Passed (attemptCount : ℤ) (row : Outbox) : Prop :=
  attemptCount < row.attemptCount ∨
    attemptCount = row.attemptCount ∧ (row.state = .retryWait ∨ row.state.Ended)

/-- The row is dispatched at an attempt, or the deletion has ended there. -/
def Dispatched (attemptCount : ℤ) (row : Outbox) : Prop :=
  attemptCount = row.attemptCount ∧ row.dispatchedAt.isSome ∧
    (row.state = .inProgress ∨ row.state.Ended)

/-- The row at a later time. -/
structure Extends (past later : Outbox) : Prop where
  lifecycleId : later.lifecycleId = past.lifecycleId
  attempts : past.attemptCount ≤ later.attemptCount
  version : past.version ≤ later.version
  same : later.version = past.version → later = past

theorem Extends.refl (row : Outbox) : Extends row row :=
  ⟨rfl, le_refl _, le_refl _, fun _ => rfl⟩

/-- What the history says about a row. -/
structure RowFacts (history : List DeletionNote) (row : Outbox) :
    Prop where
  bounded : row.attemptCount ≤ row.maxAttempts
  room : 0 < row.maxAttempts
  known : ∀ note ∈ history, note.outbox.id = row.id → Extends note.outbox row
  marked : ∀ mark ∈ history, mark.kind = .marked → mark.outbox.id = row.id →
    0 < mark.outbox.attemptCount ∧ (Dispatched mark.outbox.attemptCount row ∨
      ∃ retry ∈ history, retry.Retried ∧ retry.thread = mark.thread ∧ SameAttempt retry mark)
  retried : ∀ retry ∈ history, retry.Retried → retry.outbox.id = row.id →
    Passed retry.outbox.attemptCount row
  lost : ∀ note ∈ history, ∀ reply, note.kind = .answered reply false →
    note.outbox.id = row.id → note.outbox.version < row.version

/-- What holds of the history in every run. -/
structure HistoryFacts (history : List DeletionNote) : Prop where
  markUnique : ∀ left ∈ history, ∀ right ∈ history, left.kind = .marked → right.kind = .marked →
    SameAttempt left right → left = right
  retryOwner : ∀ mark ∈ history, ∀ retry ∈ history, mark.kind = .marked → retry.Retried →
    SameAttempt retry mark → retry.thread = mark.thread
  sentMarked : ∀ sent ∈ history, sent.kind = .sent →
    (⟨sent.thread, sent.outbox, .marked⟩ : DeletionNote) ∈ history
  settled : ∀ sent ∈ history, ∀ retry ∈ history, sent.kind = .sent → retry.Retried →
    SameAttempt retry sent → Settled history sent
  ordered : ∀ before sent, (before ++ [sent]) <+: history → sent.kind = .sent →
    ∀ past ∈ before, past.kind = .sent → past.outbox.id = sent.outbox.id →
      Settled before past
  sentOnce : history.Pairwise fun left right =>
    left.kind = .sent → right.kind = .sent → ¬SameAttempt left right
  fresh : ∀ listed ∈ history, ∀ claimed ∈ history, listed.kind = .listed →
    claimed.kind = .claimed → listed.thread = claimed.thread →
      listed.outbox.id = claimed.outbox.id → listed.outbox.dispatchedAt = none →
        claimed.outbox.dispatchedAt = none
  increasing : history.Pairwise fun left right =>
    left.Leases → right.Leases → left.outbox.id = right.outbox.id →
      left.outbox.version < right.outbox.version

/-- What holds between the outbox and the history. -/
structure Consistent (s : DeletionSystem) : Prop where
  single : ∀ left ∈ s.db.outboxes.rows, ∀ right ∈ s.db.outboxes.rows,
    left.lifecycleId = right.lifecycleId → left = right
  rows : ∀ row ∈ s.db.outboxes.rows, RowFacts s.history row
  placed : ∀ note ∈ s.history, ∃ row ∈ s.db.outboxes.rows, row.id = note.outbox.id
  notes : HistoryFacts s.history
  deleted : ∀ row ∈ s.db.lifecycles.rows, row.state = .deleted →
    ∃ note ∈ s.history, note.kind = .answered .deleted true ∧
      note.outbox.lifecycleId = row.id

/-! ## One more note -/

def Admissible (history : List DeletionNote) (note : DeletionNote) : Prop :=
  match note.kind with
  | .listed =>
    ∀ other ∈ history, other.thread = note.thread → other.outbox.id ≠ note.outbox.id
  | .claimed =>
    (∀ other ∈ history, other.Leases → other.outbox.id = note.outbox.id →
        other.outbox.version < note.outbox.version) ∧
      ∀ listed ∈ history, listed.kind = .listed → listed.thread = note.thread →
        listed.outbox.id = note.outbox.id → listed.outbox.dispatchedAt = none →
          note.outbox.dispatchedAt = none
  | .marked =>
    (∀ other ∈ history, other.Leases → other.outbox.id = note.outbox.id →
        other.outbox.version < note.outbox.version) ∧
      ∀ other ∈ history, other.kind = .marked ∨ other.Retried → ¬SameAttempt other note
  | .sent =>
    (⟨note.thread, note.outbox, .marked⟩ : DeletionNote) ∈ history ∧
      (∀ retry ∈ history, retry.Retried → ¬SameAttempt retry note) ∧
      ∀ past ∈ history, past.kind = .sent → past.outbox.id = note.outbox.id →
        Settled history past ∧ ¬SameAttempt past note
  | .retried _ =>
    (∀ mark ∈ history, mark.kind = .marked → SameAttempt note mark →
        note.thread = mark.thread) ∧
      ∀ sent ∈ history, sent.kind = .sent → SameAttempt note sent →
        Settled (history ++ [note]) sent
  | _ => True

theorem Settled.append {history : List DeletionNote} {sent : DeletionNote}
    (settled : Settled history sent) (note : DeletionNote) : Settled (history ++ [note]) sent := by
  rcases settled with ⟨held, sublist⟩
  exact ⟨held, sublist.trans (List.sublist_append_left _ _)⟩

section Append

variable {history : List DeletionNote} {note : DeletionNote}

/-- An admissible note keeps what holds of the history. -/
theorem HistoryFacts.append (facts : HistoryFacts history) (admissible : Admissible history note) :
    HistoryFacts (history ++ [note]) where
  markUnique := by
    intro left inLeft right inRight leftKind rightKind same
    simp only [List.mem_append, List.mem_singleton] at inLeft inRight
    rcases inLeft with inLeft | rfl <;> rcases inRight with inRight | rfl
    · exact facts.markUnique left inLeft right inRight leftKind rightKind same
    · simp only [Admissible, rightKind] at admissible
      exact absurd same (admissible.2 left inLeft (.inl leftKind))
    · simp only [Admissible, leftKind] at admissible
      exact absurd same.symm (admissible.2 right inRight (.inl rightKind))
    · rfl
  retryOwner := by
    intro mark inMark retry inRetry markKind retried same
    simp only [List.mem_append, List.mem_singleton] at inMark inRetry
    rcases inMark with inMark | rfl <;> rcases inRetry with inRetry | rfl
    · exact facts.retryOwner mark inMark retry inRetry markKind retried same
    · rcases retried with ⟨errorCode, kind⟩
      simp only [Admissible, kind] at admissible
      exact admissible.1 mark inMark markKind same
    · simp only [Admissible, markKind] at admissible
      exact absurd same (admissible.2 retry inRetry (.inr retried))
    · rfl
  sentMarked := by
    intro sent inSent sentKind
    simp only [List.mem_append, List.mem_singleton] at inSent
    rcases inSent with inSent | rfl
    · exact List.mem_append_left _ (facts.sentMarked sent inSent sentKind)
    · simp only [Admissible, sentKind] at admissible
      exact List.mem_append_left _ admissible.1
  settled := by
    intro sent inSent retry inRetry sentKind retried same
    simp only [List.mem_append, List.mem_singleton] at inSent inRetry
    rcases inSent with inSent | rfl <;> rcases inRetry with inRetry | rfl
    · exact (facts.settled sent inSent retry inRetry sentKind retried same).append note
    · rcases retried with ⟨errorCode, kind⟩
      simp only [Admissible, kind] at admissible
      exact admissible.2 sent inSent sentKind same
    · simp only [Admissible, sentKind] at admissible
      exact absurd same (admissible.2.1 retry inRetry retried)
    · rcases retried with ⟨_, kind⟩
      rw [sentKind] at kind
      cases kind
  ordered := by
    intro before sent isPrefix sentKind past inBefore earlierKind sameId
    rcases List.prefix_concat_iff.mp isPrefix with whole | isPrefix
    · have parts := List.append_inj' whole rfl
      have sentNote : sent = note := List.singleton_inj.mp parts.2
      have allBefore : before = history := parts.1
      subst sentNote
      subst allBefore
      simp only [Admissible, sentKind] at admissible
      exact (admissible.2.2 past inBefore earlierKind sameId).1
    · exact facts.ordered before sent isPrefix sentKind past inBefore earlierKind sameId
  sentOnce := by
    apply List.pairwise_append.mpr
    refine ⟨facts.sentOnce, List.pairwise_singleton _ _, ?_⟩
    intro left inLeft _ inRight leftKind rightKind same
    rw [List.mem_singleton.mp inRight] at rightKind same
    simp only [Admissible, rightKind] at admissible
    exact (admissible.2.2 left inLeft leftKind same.1).2 same
  fresh := by
    intro listed inListed claimed inClaimed listedKind claimedKind sameThread sameId unsent
    simp only [List.mem_append, List.mem_singleton] at inListed inClaimed
    rcases inListed with inListed | rfl <;> rcases inClaimed with inClaimed | rfl
    · exact facts.fresh listed inListed claimed inClaimed listedKind claimedKind sameThread sameId
        unsent
    · simp only [Admissible, claimedKind] at admissible
      exact admissible.2 listed inListed listedKind sameThread sameId unsent
    · simp only [Admissible, listedKind] at admissible
      exact absurd sameId.symm (admissible claimed inClaimed sameThread.symm)
    · rw [listedKind] at claimedKind
      cases claimedKind
  increasing := by
    apply List.pairwise_append.mpr
    refine ⟨facts.increasing, List.pairwise_singleton _ _, ?_⟩
    intro left inLeft _ inRight leftLeases rightLeases sameId
    rw [List.mem_singleton.mp inRight] at rightLeases sameId ⊢
    rcases rightLeases with kind | kind
    · simp only [Admissible, kind] at admissible
      exact admissible.1 left inLeft leftLeases sameId
    · simp only [Admissible, kind] at admissible
      exact admissible.1 left inLeft leftLeases sameId

theorem RowFacts.told {row : Outbox} (facts : RowFacts history row)
    (extends_ : note.outbox.id = row.id → Extends note.outbox row)
    (unmarked : note.outbox.id = row.id → note.kind ≠ .marked)
    (unretried : note.outbox.id = row.id → ¬note.Retried)
    (lost : ∀ reply, note.kind = .answered reply false → note.outbox.id = row.id →
      note.outbox.version < row.version) : RowFacts (history ++ [note]) row where
  bounded := facts.bounded
  room := facts.room
  known := by
    intro other inLog same
    rcases List.mem_append.mp inLog with before | new
    · exact facts.known other before same
    · rw [List.mem_singleton.mp new] at same ⊢
      exact extends_ same
  marked := by
    intro mark inLog kind same
    rcases List.mem_append.mp inLog with before | new
    · rcases facts.marked mark before kind same with ⟨pos, dispatched | ⟨retry, inRetry, rest⟩⟩
      · exact ⟨pos, .inl dispatched⟩
      · exact ⟨pos, .inr ⟨retry, List.mem_append_left _ inRetry, rest⟩⟩
    · rw [List.mem_singleton.mp new] at kind same
      exact absurd kind (unmarked same)
  retried := by
    intro retry inLog kind same
    rcases List.mem_append.mp inLog with before | new
    · exact facts.retried retry before kind same
    · rw [List.mem_singleton.mp new] at kind same
      exact absurd kind (unretried same)
  lost := by
    intro other inLog reply kind same
    rcases List.mem_append.mp inLog with before | new
    · exact facts.lost other before reply kind same
    · rw [List.mem_singleton.mp new] at kind same ⊢
      exact lost reply kind same

theorem RowFacts.other {row : Outbox} (facts : RowFacts history row)
    (differ : note.outbox.id ≠ row.id) : RowFacts (history ++ [note]) row :=
  facts.told (fun same => absurd same differ) (fun same => absurd same differ)
    (fun same => absurd same differ) fun _ _ same => absurd same differ

end Append

/-! ## A write -/

/-- The row that the note of a write carries: what the worker was told, or what it found. -/
def NoteKind.noted (kind : NoteKind) (old new : Outbox) :
    Outbox :=
  match kind with
  | .claimed | .marked => new
  | _ => old

section Moved

variable {kind : NoteKind} {old new : Outbox} {history : List DeletionNote} {t : ℕ}

variable (moves : Moves kind old new)

include moves

theorem Moves.noted_id : (kind.noted old new).id = old.id := by
  cases kind <;> first | rfl | exact moves.id

theorem Moves.attempts_le : old.attemptCount ≤ new.attemptCount := by
  have turns := moves.turns
  cases kind with
  | claimed =>
    rcases turns.2 with ⟨_, _, _⟩ | ⟨_, _, _⟩
    · omega
    · omega
  | marked => exact le_of_eq turns.2.2.2.1.symm
  | retried _ => exact le_of_eq turns.2.2.symm
  | completed | failed => exact le_of_eq turns.2.2.1.symm
  | quarantined =>
    have attempt := turns.2.2.1
    split at attempt
    · omega
    · omega
  | listed | sent | answered _ _ => cases turns

theorem Moves.bounded (room : 0 < old.maxAttempts)
    (bounded : old.attemptCount ≤ old.maxAttempts) : new.attemptCount ≤ new.maxAttempts := by
  have turns := moves.turns
  rw [moves.maxAttempts]
  cases kind with
  | claimed =>
    rcases turns.2 with ⟨_, _, _⟩ | ⟨_, _, _, _⟩
    · omega
    · omega
  | marked => exact le_of_eq_of_le turns.2.2.2.1 bounded
  | retried _ => exact le_of_eq_of_le turns.2.2 bounded
  | completed | failed => exact le_of_eq_of_le turns.2.2.1 bounded
  | quarantined =>
    have attempt := turns.2.2.1
    split at attempt
    · omega
    · omega
  | listed | sent | answered _ _ => cases turns

theorem Moves.extends_ : Extends old new := by
  have ver := moves.version
  refine ⟨moves.lifecycleId, moves.attempts_le, by omega, ?_⟩
  intro _
  omega

theorem Moves.noted_extends : Extends (kind.noted old new) new := by
  cases kind <;> first | exact moves.extends_ | exact Extends.refl new

theorem Moves.not_ended : ¬old.state.Ended := by
  have turns := moves.turns
  have moving : old.state = .inProgress → ¬old.state.Ended := by
    rintro state (ended | ended)
    · rw [state] at ended
      cases ended
    · rw [state] at ended
      cases ended
  cases kind with
  | claimed =>
    rcases turns.2 with ⟨state, _⟩ | ⟨state | state, _⟩
    · exact moving state
    · rintro (ended | ended)
      · rw [state] at ended
        cases ended
      · rw [state] at ended
        cases ended
    · rintro (ended | ended)
      · rw [state] at ended
        cases ended
      · rw [state] at ended
        cases ended
  | marked | retried _ | completed | failed => exact moving turns.1
  | quarantined => exact turns.1
  | listed | sent | answered _ _ => cases turns

theorem Moves.passed {attemptCount : ℤ}
    (passed : Passed attemptCount old) : Passed attemptCount new := by
  have turns := moves.turns
  have grows := moves.attempts_le
  rcases passed with _ | ⟨_, waiting | ended⟩
  · exact .inl (by omega)
  · cases kind with
    | claimed =>
      rcases turns.2 with ⟨state, _⟩ | ⟨_, _, _⟩
      · rw [waiting] at state
        cases state
      · exact .inl (by omega)
    | quarantined =>
      have attempt := turns.2.2.1
      split at attempt
      · exact .inl (by omega)
      · exact .inr ⟨by omega, .inr turns.2.1⟩
    | marked | retried _ | completed | failed => cases waiting.symm.trans turns.1
    | listed | sent | answered _ _ => cases turns
  · exact absurd ended moves.not_ended

theorem Moves.dispatched {attemptCount : ℤ}
    (pos : 0 < attemptCount) (dispatched : Dispatched attemptCount old) :
    Dispatched attemptCount new ∨ ∃ errorCode, kind = .retried errorCode := by
  have turns := moves.turns
  rcases dispatched with ⟨same, isSome, state⟩
  have moving : old.state = .inProgress := by
    rcases state with moving | ended
    · exact moving
    · exact absurd ended moves.not_ended
  cases kind with
  | claimed =>
    rcases turns.2 with ⟨_, attempt, dispatchedAt⟩ | ⟨waiting | waiting, _⟩
    · left
      refine ⟨by omega, ?_, .inl turns.1⟩
      rw [dispatchedAt]
      exact isSome
    · cases waiting.symm.trans moving
    · cases waiting.symm.trans moving
  | marked =>
    rw [turns.2.1] at isSome
    cases isSome
  | retried errorCode => exact .inr ⟨errorCode, rfl⟩
  | completed =>
    left
    refine ⟨same.trans turns.2.2.1.symm, ?_, .inr turns.2.1⟩
    rw [turns.2.2.2]
    exact isSome
  | failed =>
    left
    refine ⟨same.trans turns.2.2.1.symm, ?_, .inr turns.2.1⟩
    rw [turns.2.2.2]
    exact isSome
  | quarantined =>
    left
    have attempt := turns.2.2.1
    rw [if_neg (by omega)] at attempt
    refine ⟨same.trans attempt.symm, ?_, .inr turns.2.1⟩
    rw [turns.2.2.2]
    exact isSome
  | listed | sent | answered _ _ => cases turns

omit moves

theorem RowFacts.moved (facts : RowFacts history old) (moves : Moves kind old new)
    (admissible : Admissible history ⟨t, kind.noted old new, kind⟩) :
    RowFacts (history ++ [⟨t, kind.noted old new, kind⟩]) new where
  bounded := moves.bounded facts.room facts.bounded
  room := by
    rw [moves.maxAttempts]
    exact facts.room
  known := by
    intro note inLog same
    rcases List.mem_append.mp inLog with before | new_
    · have past := facts.known note before (same.trans moves.id)
      have ver := moves.version
      have grows := moves.attempts_le
      have below := past.version
      refine ⟨moves.lifecycleId.trans past.lifecycleId, le_trans past.attempts grows,
        by omega, ?_⟩
      intro _
      omega
    · rw [List.mem_singleton.mp new_]
      exact moves.noted_extends
  marked := by
    intro mark inLog markKind same
    rcases List.mem_append.mp inLog with before | new_
    · rcases facts.marked mark before markKind (same.trans moves.id) with
        ⟨pos, dispatched | ⟨retry, inRetry, rest⟩⟩
      · refine ⟨pos, ?_⟩
        rcases moves.dispatched pos dispatched with still | ⟨errorCode, rfl⟩
        · exact .inl still
        · have sameTry : SameAttempt ⟨t, old, .retried errorCode⟩ mark :=
            ⟨(same.trans moves.id).symm, dispatched.1.symm⟩
          exact .inr ⟨_, List.mem_append_right _ (List.mem_singleton.mpr rfl), ⟨errorCode, rfl⟩,
            admissible.1 mark before markKind sameTry, sameTry⟩
      · exact ⟨pos, .inr ⟨retry, List.mem_append_left _ inRetry, rest⟩⟩
    · rw [List.mem_singleton.mp new_] at markKind ⊢
      have isMark : kind = .marked := markKind
      subst isMark
      have turns := moves.turns
      exact ⟨turns.2.2.2.2.2, .inl ⟨rfl, turns.2.2.2.2.1, .inl turns.2.2.1⟩⟩
  retried := by
    intro retry inLog isRetry same
    rcases List.mem_append.mp inLog with before | new_
    · exact moves.passed (facts.retried retry before isRetry (same.trans moves.id))
    · rw [List.mem_singleton.mp new_] at isRetry ⊢
      rcases isRetry with ⟨_, rfl⟩
      have turns := moves.turns
      exact .inr ⟨turns.2.2.symm, .inl turns.2.1⟩
  lost := by
    intro note inLog reply noteKind same
    rcases List.mem_append.mp inLog with before | new_
    · have below := facts.lost note before reply noteKind (same.trans moves.id)
      have ver := moves.version
      omega
    · rw [List.mem_singleton.mp new_] at noteKind
      have gives : kind = .answered reply false := noteKind
      subst gives
      cases moves.turns

end Moved

/-- A write by a worker that the history admits. -/
theorem Consistent.write {s : DeletionSystem} (valid : Consistent s)
    {kind : NoteKind} {after : Database} {old new : Outbox}
    {t : ℕ} (edits : Rewrites kind s.db after old new)
    (admissible : Admissible s.history ⟨t, kind.noted old new, kind⟩)
    (answered : kind = .completed → ∃ note ∈ s.history,
      note.kind = .answered .deleted true ∧ note.outbox.lifecycleId = old.lifecycleId) :
    Consistent ⟨after, s.history ++ [⟨t, kind.noted old new, kind⟩]⟩ where
  single := by
    intro left inLeft right inRight same
    rcases edits.mem_iff.mp inLeft with rfl | ⟨storedLeft, leftId⟩
    · rcases edits.mem_iff.mp inRight with rfl | ⟨storedRight, rightId⟩
      · rfl
      · have equal := valid.single old edits.mem_old right storedRight
          (edits.moves.lifecycleId.symm.trans same)
        exact absurd (congrArg _ equal.symm) rightId
    · rcases edits.mem_iff.mp inRight with rfl | ⟨storedRight, _⟩
      · have equal := valid.single left storedLeft old edits.mem_old
          (same.trans edits.moves.lifecycleId)
        exact absurd (congrArg _ equal) leftId
      · exact valid.single left storedLeft right storedRight same
  rows := by
    intro row isRow
    rcases edits.mem_iff.mp isRow with rfl | ⟨isRow, differ⟩
    · exact (valid.rows old edits.mem_old).moved edits.moves admissible
    · apply (valid.rows row isRow).other
      intro same
      exact differ (same.symm.trans edits.moves.noted_id)
  placed := by
    intro note inLog
    rcases List.mem_append.mp inLog with before | new_
    · rcases valid.placed note before with ⟨row, isRow, same⟩
      by_cases moved : row.id = old.id
      · exact ⟨new, edits.mem_new, edits.moves.id.trans (moved.symm.trans same)⟩
      · exact ⟨row, edits.mem_iff.mpr (.inr ⟨isRow, moved⟩), same⟩
    · rw [List.mem_singleton.mp new_]
      exact ⟨new, edits.mem_new, edits.moves.id.trans edits.moves.noted_id.symm⟩
  notes := valid.notes.append admissible
  deleted := by
    intro row isRow state
    rcases edits.deleted row isRow state with before | ⟨same, ends⟩
    · rcases valid.deleted row before state with ⟨note, inLog, rest⟩
      exact ⟨note, List.mem_append_left _ inLog, rest⟩
    · rcases answered ends with ⟨note, inLog, noteKind, owner⟩
      exact ⟨note, List.mem_append_left _ inLog, noteKind, owner.trans same.symm⟩

theorem Consistent.tell {s : DeletionSystem} (valid : Consistent s)
    {note : DeletionNote} (admissible : Admissible s.history note)
    (unmarked : note.kind ≠ .marked) (unretried : ¬note.Retried)
    (known : ∃ row ∈ s.db.outboxes.rows, row.id = note.outbox.id)
    (extends_ : ∀ row ∈ s.db.outboxes.rows, note.outbox.id = row.id →
      Extends note.outbox row)
    (lost : ∀ row ∈ s.db.outboxes.rows, ∀ reply, note.kind = .answered reply false →
      note.outbox.id = row.id → note.outbox.version < row.version) :
    Consistent ⟨s.db, s.history ++ [note]⟩ where
  single := valid.single
  rows row isRow :=
    (valid.rows row isRow).told (extends_ row isRow) (fun _ => unmarked)
      (fun _ => unretried) (lost row isRow)
  placed := by
    intro other inLog
    rcases List.mem_append.mp inLog with before | new
    · exact valid.placed other before
    · rw [List.mem_singleton.mp new]
      exact known
  notes := valid.notes.append admissible
  deleted := by
    intro row isRow state
    rcases valid.deleted row isRow state with ⟨other, inLog, rest⟩
    exact ⟨other, List.mem_append_left _ inLog, rest⟩

/-! ## The calls -/

section Calls

variable {s : DeletionSystem} {t : ℕ} {boxId : ℤ} {notes : List DeletionNote} {note : DeletionNote}

variable (own : s.own t boxId = notes)

include own

theorem mem_of_own (inLog : note ∈ notes) :
    note ∈ s.history ∧ note.thread = t ∧ note.outbox.id = boxId := by
  rw [← own] at inLog
  simpa [DeletionSystem.own] using inLog

theorem mem_own (inPast : note ∈ s.history)
    (same : note.thread = t) (sameId : note.outbox.id = boxId) : note ∈ notes := by
  rw [← own]
  simpa [DeletionSystem.own] using ⟨inPast, same, sameId⟩

theorem own_sublist : notes.Sublist s.history := by
  rw [← own]
  exact List.filter_sublist

omit own

variable {row cand : Outbox}

theorem Consistent.current (valid : Consistent s) (stored : row ∈ s.db.outboxes.rows)
    (inPast : note ∈ s.history) (sameId : note.outbox.id = row.id)
    (sameVer : note.outbox.version = row.version) : note.outbox = row :=
  (((valid.rows row stored).known note inPast sameId).same sameVer.symm).symm

theorem passed_inProgress (moving : row.state = .inProgress) : ¬Passed row.attemptCount row := by
  rintro (_ | ⟨_, waiting | ended | ended⟩)
  · omega
  · cases moving.symm.trans waiting
  · cases moving.symm.trans ended
  · cases moving.symm.trans ended

theorem RowFacts.unmarked {history : List DeletionNote}
    (facts : RowFacts history row) (moving : row.state = .inProgress)
    (unsent : row.dispatchedAt = none) {mark : DeletionNote} (inPast : mark ∈ history)
    (kind : mark.kind = .marked) (sameId : mark.outbox.id = row.id) :
    mark.outbox.attemptCount ≠ row.attemptCount := by
  intro sameTry
  rcases (facts.marked mark inPast kind sameId).2 with
    ⟨_, isSome, _⟩ | ⟨retry, inRetry, retried, _, same⟩
  · rw [unsent] at isSome
    cases isSome
  · have passed := facts.retried retry inRetry retried (same.1.trans sameId)
    rw [same.2, sameTry] at passed
    exact passed_inProgress moving passed

variable {after : Database} {old new : Outbox}

variable (valid : Consistent s)

include valid

theorem Consistent.below {kind : NoteKind}
    (edits : Rewrites kind s.db after old new) (inPast : note ∈ s.history)
    (sameId : note.outbox.id = old.id) : note.outbox.version < new.version := by
  have known := ((valid.rows old edits.mem_old).known note inPast sameId).version
  have ver := edits.moves.version
  omega

theorem Consistent.claim (own : s.own t old.id = listedNotes t cand)
    (ver : cand.version = old.version) (edits : Rewrites .claimed s.db after old new) :
    Consistent ⟨after, s.history ++ [⟨t, new, .claimed⟩]⟩ := by
  refine valid.write edits ⟨?_, ?_⟩ nofun
  · intro other inPast _ sameId
    exact valid.below edits inPast (sameId.trans edits.moves.id)
  · intro listed inPast _ same sameId unsent
    have inOwn := mem_own own inPast same (sameId.trans edits.moves.id)
    have able : listed = ⟨t, cand, .listed⟩ := List.mem_singleton.mp inOwn
    subst able
    have isOld := valid.current edits.mem_old inPast (sameId.trans edits.moves.id) ver
    have isOld : cand = old := isOld
    subst isOld
    rcases edits.moves.turns.2 with ⟨_, _, kept⟩ | ⟨_, _, _, cleared⟩
    · exact kept.trans unsent
    · exact cleared

theorem Consistent.mark (edits : Rewrites .marked s.db after old new) :
    Consistent ⟨after, s.history ++ [⟨t, new, .marked⟩]⟩ := by
  have facts := valid.rows old edits.mem_old
  rcases edits.moves.turns with ⟨moving, unsent, _, attempt, _, _⟩
  refine valid.write edits ⟨?_, ?_⟩ nofun
  · intro other inPast _ sameId
    exact valid.below edits inPast (sameId.trans edits.moves.id)
  · intro other inPast kind same
    have sameId : other.outbox.id = old.id := same.1.trans edits.moves.id
    have sameTry : other.outbox.attemptCount = old.attemptCount := same.2.trans attempt
    rcases kind with kind | retried
    · exact facts.unmarked moving unsent inPast kind sameId sameTry
    · have passed := facts.retried other inPast retried sameId
      rw [sameTry] at passed
      exact passed_inProgress moving passed

theorem Consistent.answered {reply : DeleteAnswer}
    (answered : AnsweredAt t (s.own t old.id) reply old.version)
    (stored : old ∈ s.db.outboxes.rows) :
    (⟨t, old, .marked⟩ : DeletionNote) ∈ s.history ∧
      [⟨t, old, .sent⟩, ⟨t, old, .answered reply true⟩].Sublist s.history := by
  rcases answered with ⟨cand, claimed, marked, held, own, _, ver⟩
  have inMarked : (⟨t, marked, .marked⟩ : DeletionNote) ∈
      answeredNotes t cand claimed marked reply held := by
    simp [answeredNotes, sentNotes, markedNotes]
  have inAnswered : (⟨t, marked, .answered reply held⟩ : DeletionNote) ∈
      answeredNotes t cand claimed marked reply held := by
    simp [answeredNotes]
  rcases mem_of_own own inMarked with ⟨markStored, _, sameId⟩
  have isOld : marked = old := valid.current stored markStored sameId ver
  subst isOld
  rcases mem_of_own own inAnswered with ⟨answerStored, _, _⟩
  have isHeld : held = true := by
    cases held with
    | true => rfl
    | false =>
      have lost := (valid.rows marked stored).lost _ answerStored reply rfl rfl
      exact absurd lost (lt_irrefl _)
  subst isHeld
  refine ⟨markStored, List.Sublist.trans ?_ (own_sublist own)⟩
  simp only [answeredNotes, sentNotes, List.append_assoc]
  exact List.sublist_append_right _ _

theorem Consistent.retry {errorCode : String} (staged : FreshAt t (s.own t old.id) old.version ∨
      AnsweredAt t (s.own t old.id) (.failed .rateLimited) old.version ∧
        errorCode = "provider_rate_limited")
    (edits : Rewrites (.retried errorCode) s.db after old new) :
    Consistent ⟨after, s.history ++ [⟨t, old, .retried errorCode⟩]⟩ := by
  have facts := valid.rows old edits.mem_old
  have moving : old.state = .inProgress := edits.moves.turns.1
  refine valid.write edits ?_ nofun
  rcases staged with ⟨cand, claimed, own, unsent, ver⟩ | ⟨answered, rfl⟩
  · have inListed : (⟨t, cand, .listed⟩ : DeletionNote) ∈ claimedNotes t cand claimed := by
      simp [claimedNotes, listedNotes]
    have inClaimed : (⟨t, claimed, .claimed⟩ : DeletionNote) ∈ claimedNotes t cand claimed := by
      simp [claimedNotes]
    rcases mem_of_own own inListed with ⟨listedStored, _, listedId⟩
    rcases mem_of_own own inClaimed with ⟨claimedStored, _, claimedId⟩
    have isOld : claimed = old :=
      valid.current edits.mem_old claimedStored claimedId ver
    subst isOld
    have fresh := valid.notes.fresh _ listedStored _ claimedStored rfl rfl rfl listedId unsent
    refine ⟨?_, ?_⟩
    · intro _ inPast kind same
      exact absurd same.2.symm (facts.unmarked moving fresh inPast kind same.1.symm)
    · intro sent inPast kind same
      have marked := valid.notes.sentMarked sent inPast kind
      have apart := facts.unmarked moving fresh marked rfl same.1.symm
      exact absurd same.2.symm apart
  · rcases valid.answered answered edits.mem_old with ⟨mine, sublist⟩
    refine ⟨?_, ?_⟩
    · intro mark inPast kind same
      have equal := valid.notes.markUnique _ mine mark inPast rfl kind same
      rw [← equal]
    · intro sent inPast kind same
      have marked := valid.notes.sentMarked sent inPast kind
      have equal := valid.notes.markUnique _ mine _ marked rfl rfl same
      simp only [DeletionNote.mk.injEq] at equal
      rcases sent with ⟨_, _, sentKind⟩
      rcases equal with ⟨rfl, rfl, _⟩
      have isSent : sentKind = .sent := kind
      subst isSent
      exact ⟨true, sublist.append (List.Sublist.refl _)⟩

theorem Consistent.complete (answered : AnsweredAt t (s.own t old.id) .deleted old.version)
    (edits : Rewrites .completed s.db after old new) :
    Consistent ⟨after, s.history ++ [⟨t, old, .completed⟩]⟩ := by
  refine valid.write edits trivial ?_
  intro _
  rcases valid.answered answered edits.mem_old with ⟨_, sublist⟩
  refine ⟨⟨t, old, .answered .deleted true⟩, sublist.subset ?_, rfl, rfl⟩
  simp

/-- A request is sent for a row that is marked. -/
theorem Consistent.send {claimed : Outbox} (own : s.own t old.id = markedNotes t cand claimed old) :
    Consistent ⟨s.db, s.history ++ [⟨t, old, .sent⟩]⟩ := by
  have inMarked : (⟨t, old, .marked⟩ : DeletionNote) ∈ markedNotes t cand claimed old := by
    simp [markedNotes]
  have mine := (mem_of_own own inMarked).1
  rcases valid.placed _ mine with ⟨row, stored, sameId⟩
  have facts := valid.rows row stored
  have own_kinds : ∀ other ∈ s.history, other.thread = t → other.outbox.id = old.id →
      other.kind ≠ .sent ∧ ¬other.Retried := by
    intro _ inPast sameThread sameOther
    have inOwn := mem_own own inPast sameThread sameOther
    simp only [markedNotes, claimedNotes, listedNotes, List.cons_append, List.nil_append,
      List.mem_cons, List.not_mem_nil, or_false] at inOwn
    rcases inOwn with rfl | rfl | rfl
    · simp [DeletionNote.Retried]
    · simp [DeletionNote.Retried]
    · simp [DeletionNote.Retried]
  have unretried : ∀ retry ∈ s.history, retry.Retried →
      ¬SameAttempt retry ⟨t, old, .sent⟩ := by
    intro retry inPast retried same
    have owner := valid.notes.retryOwner _ mine retry inPast rfl retried same
    exact (own_kinds retry inPast owner same.1).2 retried
  have attempt : old.attemptCount = row.attemptCount := by
    rcases (facts.marked _ mine rfl sameId.symm).2 with
      dispatched | ⟨retry, inRetry, retried, _, same⟩
    · exact dispatched.1
    · exact absurd same (unretried retry inRetry retried)
  have admissible : Admissible s.history ⟨t, old, .sent⟩ := by
    refine ⟨mine, unretried, ?_⟩
    intro past inPast kind earlierId
    have marked := valid.notes.sentMarked past inPast kind
    have differ : ¬SameAttempt past ⟨t, old, .sent⟩ := by
      intro same
      have equal := valid.notes.markUnique _ marked _ mine rfl rfl same
      have sameThread : past.thread = t := congrArg DeletionNote.thread equal
      exact (own_kinds past inPast sameThread earlierId).1 kind
    refine ⟨?_, differ⟩
    rcases (facts.marked _ marked rfl (earlierId.trans sameId.symm)).2 with
      dispatched | ⟨retry, inRetry, retried, _, same⟩
    · exact absurd ⟨earlierId, dispatched.1.trans attempt.symm⟩ differ
    · exact valid.notes.settled past inPast retry inRetry kind retried same
  refine valid.tell admissible (by simp) (by simp [DeletionNote.Retried])
    ⟨row, stored, sameId⟩ ?_ (by simp)
  intro other isRow same
  have known := (valid.rows other isRow).known _ mine same
  exact known

theorem Consistent.answer {claimed : Outbox} {reply : DeleteAnswer}
    (own : s.own t old.id = sentNotes t cand claimed old) :
    Consistent ⟨s.db, s.history ++
      [⟨t, old, .answered reply (s.db.outboxes.find? old.id = some old)⟩]⟩ := by
  have inMarked : (⟨t, old, .marked⟩ : DeletionNote) ∈ sentNotes t cand claimed old := by
    simp [sentNotes, markedNotes]
  have mine := (mem_of_own own inMarked).1
  rcases valid.placed _ mine with ⟨row, stored, sameId⟩
  refine valid.tell trivial (by simp) (by simp [DeletionNote.Retried]) ⟨row, stored, sameId⟩ ?_ ?_
  · intro other isRow same
    have known := (valid.rows other isRow).known _ mine same
    exact known
  · intro other isRow _ kind same
    have known := (valid.rows other isRow).known _ mine same
    have notHeld : ¬s.db.outboxes.find? old.id = some old := by
      simp only [NoteKind.answered.injEq, decide_eq_false_iff_not] at kind
      exact kind.2
    have differ : other.version ≠ old.version := by
      intro sameVer
      apply notHeld
      rw [known.same sameVer] at isRow
      exact Table.find?_of_mem isRow
    have below : old.version ≤ other.version := known.version
    exact lt_of_le_of_ne below differ.symm

theorem Consistent.list (rows : List Outbox) (nodup : (rows.map Outbox.id).Nodup)
    (stored : ∀ row ∈ rows, row ∈ s.db.outboxes.rows)
    (blank : ∀ row ∈ rows, ∀ other ∈ s.history, other.thread = t → other.outbox.id ≠ row.id) :
    Consistent ⟨s.db, s.history ++ rows.map fun row => ⟨t, row, .listed⟩⟩ := by
  induction rows generalizing s with
  | nil =>
    simp only [List.map_nil, List.append_nil]
    exact valid
  | cons row _ ih =>
    simp only [List.map_cons, List.nodup_cons] at nodup
    have isRow := stored row (List.mem_cons_self ..)
    have first : Consistent ⟨s.db, s.history ++ [⟨t, row, .listed⟩]⟩ := by
      refine valid.tell ?_ (by simp) (by simp [DeletionNote.Retried]) ⟨row, isRow, rfl⟩ ?_ (by simp)
      · exact blank row (List.mem_cons_self ..)
      · intro other inOther same
        have equal : other = row := by
          have found := Table.find?_of_mem inOther
          rw [show Keyed.key other = Keyed.key row from same.symm,
            Table.find?_of_mem isRow] at found
          exact (Option.some.inj found).symm
        rw [equal]
        exact Extends.refl row
    have more := ih first nodup.2 (fun other isIn => stored other (List.mem_cons_of_mem _ isIn)) (by
        intro other isIn note inLog sameThread
        rcases List.mem_append.mp inLog with before | new_
        · exact blank other (List.mem_cons_of_mem _ isIn) note before sameThread
        · rw [List.mem_singleton.mp new_]
          intro sameId
          apply nodup.1
          have sameId : row.id = other.id := sameId
          rw [sameId]
          exact List.mem_map_of_mem isIn)
    simpa using more

omit valid

theorem noteOf_found (found : s.db.outboxes.find? boxId = some old) (kind : NoteKind) :
    s.noteOf t boxId kind = [⟨t, old, kind⟩] := by
  simp [DeletionSystem.noteOf, found]

theorem Consistent.transact (valid : Consistent s) {Result : Type} {fault : Fault}
    {result : Outcome (Result × Database)} {committed : Result → List DeletionNote}
    (kept : ∀ reply after, result = .ok (reply, after) →
      Consistent ⟨after, s.history ++ committed reply⟩) :
    Consistent (s.transact fault result committed).2 := by
  rcases transact_cases s fault result committed with
    ⟨failure, failed⟩ | ⟨reply, after, done, told | told⟩
  · rw [failed]
    exact valid
  · rw [told]
    exact kept reply after done
  · rw [told]
    exact kept reply after done

theorem unit_ok {result : Outcome Database} {reply : Unit}
    (done : DeletionSystem.unit result = .ok (reply, after)) : result = .ok after := by
  cases result with
  | error _ => cases done
  | ok _ =>
    cases done
    rfl

/-- Every call of a worker keeps the tables and the history consistent. -/
theorem Consistent.perform (valid : Consistent s) {call : WorkerCall}
    (needs : Needs t call s) (pick : WorkerChoice) :
    Consistent (DeletionSystem.perform t call pick s).2 := by
  by_cases quiet : call.Quiet
  · rw [perform_quiet quiet]
    exact valid
  cases call with
  | listDue now limit =>
    simp only [DeletionSystem.perform, DeletionSystem.read]
    cases fault : pick.fault with
    | refused | unanswered => exact valid
    | none =>
      cases listed : listDueManagedProviderFileDeletions s.db now limit with
      | error _ => exact valid
      | ok due =>
        apply valid.list due (listDue_distinct listed).1 (listDue_distinct listed).2
        intro row _ other inPast same sameId
        cases mem_own (needs row.id) inPast same sameId
  | quarantine _ _ =>
    apply valid.transact
    intro _ _ done
    rcases quarantine_rewrites done with ⟨rfl, rfl⟩ | ⟨rfl, old, new, rfl, _, edits⟩
    · simp only [Bool.false_eq_true, if_false, List.append_nil]
      exact valid
    · simp only [if_true, noteOf_found edits.found]
      exact valid.write edits trivial (by rintro ⟨⟩)
  | claim _ =>
    apply valid.transact
    intro claimed _ done
    cases claimed with
    | none =>
      rw [claim_idle done]
      simp only [Option.toList_none, List.map_nil, List.append_nil]
      exact valid
    | some _ =>
      rcases claim_rewrites done with ⟨old, sameId, sameVer, edits⟩
      rcases needs with ⟨cand, own, ver⟩
      rw [← sameId] at own
      exact valid.claim own (ver.trans sameVer.symm) edits
  | markDispatched _ =>
    apply valid.transact
    intro _ _ done
    rcases mark_rewrites done with ⟨old, _, _, edits⟩
    exact valid.mark edits
  | sendDelete _ _ =>
    rcases needs with ⟨cand, claimed, own⟩
    exact valid.send own
  | awaitDelete _ =>
    rcases needs with ⟨_, _, own⟩
    exact valid.answer own
  | retry retry =>
    apply valid.transact
    intro _ after done
    rcases retry_rewrites (unit_ok done) with ⟨old, new, sameId, sameVer, edits⟩
    have needed : FreshAt t (s.own t retry.outboxId) retry.expectedVersion ∨
      AnsweredAt t (s.own t retry.outboxId) (.failed .rateLimited)
        retry.expectedVersion ∧ retry.errorCode = "provider_rate_limited" := needs
    rw [← sameId, ← sameVer] at needed
    rw [← sameId, noteOf_found edits.found]
    exact valid.retry needed edits
  | complete terminal =>
    apply valid.transact
    intro _ after done
    rcases complete_rewrites (unit_ok done) with ⟨old, new, sameId, sameVer, edits⟩
    have needed : AnsweredAt t (s.own t terminal.outboxId) .deleted
      terminal.expectedVersion := needs
    rw [← sameId, ← sameVer] at needed
    rw [← sameId, noteOf_found edits.found]
    exact valid.complete needed edits
  | fail _ =>
    apply valid.transact
    intro _ after done
    rcases fail_rewrites (unit_ok done) with ⟨_, _, sameId, _, edits⟩
    rw [← sameId, noteOf_found edits.found]
    exact valid.write edits trivial (by rintro ⟨⟩)
  | contextError | now | getLifecycle _ | loadDeletionTarget _ | deriveLease _ | deriveEvent _
  | deriveEvidence _ _ _ | decryptReference _ _ _ => exact absurd trivial quiet

end Calls

theorem Consistent.upload {s : DeletionSystem} (valid : Consistent s)
    {after : Database} (uploaded : Uploaded s.db after) :
    Consistent ⟨after, s.history⟩ := by
  have deleted : ∀ row ∈ after.lifecycles.rows, row.state = .deleted →
      ∃ note ∈ s.history, note.kind = .answered .deleted true ∧
        note.outbox.lifecycleId = row.id := by
    intro row isRow state
    exact valid.deleted row (uploaded.deleted row isRow state) state
  rcases uploaded.outboxes with same | ⟨fresh, isFresh, added⟩
  · refine ⟨?_, ?_, ?_, valid.notes, deleted⟩
    · rw [same]
      exact valid.single
    · rw [same]
      exact valid.rows
    · rw [same]
      exact valid.placed
  · have unknown : ∀ note ∈ s.history, note.outbox.id ≠ fresh.id := by
      intro note inPast _
      rcases valid.placed note inPast with ⟨row, stored, owner⟩
      have below := Table.key_lt_nextKey stored
      have key : Keyed.key row = row.id := rfl
      have freshId := isFresh.id
      omega
    refine ⟨?_, ?_, ?_, valid.notes, deleted⟩
    · rw [added]
      intro left inLeft right inRight same
      rcases List.mem_append.mp inLeft with inLeft | inLeft
      · rcases List.mem_append.mp inRight with inRight | inRight
        · exact valid.single left inLeft right inRight same
        · rw [List.mem_singleton.mp inRight] at same
          exact absurd same (isFresh.single left inLeft)
      · rcases List.mem_append.mp inRight with inRight | inRight
        · rw [List.mem_singleton.mp inLeft] at same
          exact absurd same.symm (isFresh.single right inRight)
        · rw [List.mem_singleton.mp inLeft, List.mem_singleton.mp inRight]
    · rw [added]
      intro row isRow
      rcases List.mem_append.mp isRow with before | new
      · exact valid.rows row before
      · rw [List.mem_singleton.mp new]
        have room := isFresh.room
        have attempts := isFresh.attempts
        constructor
        · omega
        · exact room
        · intro note inPast same
          exact absurd same (unknown note inPast)
        · intro note inPast _ same
          exact absurd same (unknown note inPast)
        · intro note inPast _ same
          exact absurd same (unknown note inPast)
        · intro note inPast _ _ same
          exact absurd same (unknown note inPast)
    · intro note inPast
      rcases valid.placed note inPast with ⟨row, stored, owner⟩
      refine ⟨row, ?_, owner⟩
      rw [added]
      exact List.mem_append_left _ stored

end NewApi.ProviderFile
