import Mathlib.Data.Int.Interval
import NewApi.ProviderFile.DeletionSafety

/-!
# Runs of the deletion workers

Any number of workers over one database, with uploads between their calls.
-/

namespace NewApi.ProviderFile

open Concurrent (Action Keeps Pool)
open Relational Transition

abbrev DeletionPool := Pool DeletionSystem WorkerCall WorkerCall.Answer Processed

def DeletionSystem.upload (call : LifecycleCall) (s : DeletionSystem) : DeletionSystem :=
  { s with db := (call.run s.db).2 }

def UploadsOnly (call : LifecycleCall) (_ : DeletionSystem) : Prop :=
  call.action.Uploads

namespace DeletionPool

def start (channelIds : List ℤ) (opts : ℕ → DeletionWorkerOptions) : DeletionPool where
  state := ⟨Database.start channelIds, []⟩
  threads t := runDeletionBatch (opts t)

def next : DeletionPool → Action WorkerChoice LifecycleCall → DeletionPool :=
  Pool.step DeletionSystem.perform DeletionSystem.upload

/-- The runs in which the others upload. -/
def Allowed : DeletionPool → Action WorkerChoice LifecycleCall → Prop :=
  Pool.Allowed (fun _ => AnyCall) UploadsOnly

theorem allowed_perform (pool : DeletionPool) (t : ℕ) (pick : WorkerChoice) :
    Allowed pool (.perform t pick) := by
  simp only [Allowed, Pool.Allowed]
  split
  · trivial
  · trivial

end DeletionPool

section Others

variable {s : DeletionSystem} {t other : ℕ}

/-- A call only appends notes of its own worker. -/
theorem perform_history (t : ℕ) (call : WorkerCall) (pick : WorkerChoice) (s : DeletionSystem) :
    ∃ notes, (DeletionSystem.perform t call pick s).2.history =
        s.history ++ notes ∧ ∀ note ∈ notes, note.thread = t := by
  have transacted : ∀ {Result : Type} (result : Outcome (Result × Database))
      (committed : Result → List DeletionNote),
      (∀ reply, ∀ note ∈ committed reply, note.thread = t) →
        ∃ notes, (s.transact pick.fault result committed).2.history =
          s.history ++ notes ∧ ∀ note ∈ notes, note.thread = t := by
    intro _ result committed owned
    rcases transact_cases s pick.fault result committed with
      ⟨err, failed⟩ | ⟨reply, after, _, told | told⟩
    · exact ⟨[], by simp [failed], by simp⟩
    · exact ⟨committed reply, by rw [told], owned reply⟩
    · exact ⟨committed reply, by rw [told], owned reply⟩
  have noted : ∀ boxId kind, ∀ note ∈ s.noteOf t boxId kind, note.thread = t := by
    intro _ _ _ inLog
    simp only [DeletionSystem.noteOf, List.mem_map] at inLog
    rcases inLog with ⟨row, _, rfl⟩
    rfl
  by_cases quiet : call.Quiet
  · rw [perform_quiet quiet]
    exact ⟨[], by simp, by simp⟩
  cases call with
  | listDue _ _ =>
    simp only [DeletionSystem.perform, DeletionSystem.read]
    split
    · exact ⟨_, rfl, by simp⟩
    · exact ⟨[], by simp, by simp⟩
    · exact ⟨[], by simp, by simp⟩
  | quarantine _ _ =>
    apply transacted
    intro _ note inLog
    split at inLog
    · exact noted _ _ note inLog
    · cases inLog
  | claim _ =>
    apply transacted
    intro _ _ inLog
    rcases List.mem_map.mp inLog with ⟨_, _, rfl⟩
    rfl
  | markDispatched _ =>
    apply transacted
    intro _ _ inLog
    rw [List.mem_singleton.mp inLog]
  | sendDelete _ _ | awaitDelete _ => exact ⟨_, rfl, by simp⟩
  | retry _ | complete _ | fail _ => exact transacted _ _ fun _ => noted _ _
  | contextError | now | getLifecycle _ | loadDeletionTarget _ | deriveLease _ | deriveEvent _
  | deriveEvidence _ _ _ | decryptReference _ _ _ => exact absurd trivial quiet

theorem perform_sameNotes (differ : other ≠ t) (call : WorkerCall)
    (pick : WorkerChoice) (s : DeletionSystem) :
    SameNotes other s (DeletionSystem.perform t call pick s).2 := by
  intro boxId
  rcases perform_history t call pick s with ⟨notes, added, owned⟩
  have foreign : (notes.filter fun note =>
      note.thread = other && note.outbox.id = boxId) = [] := by
    apply List.filter_eq_nil_iff.mpr
    intro note inLog mine
    simp only [Bool.and_eq_true, decide_eq_true_eq] at mine
    exact differ (mine.1.symm.trans (owned note inLog))
  simp only [DeletionSystem.own, added, List.filter_append, foreign, List.append_nil]

end Others

/-- The system is consistent, and each worker makes its calls at their stages. -/
def Holding (pool : DeletionPool) : Prop :=
  pool.Holding DeletionSystem.perform Consistent SameNotes (fun _ => AnyCall) Needs
    (fun _ _ _ => True)

section Runs

variable {channelIds : List ℤ} {opts : ℕ → DeletionWorkerOptions} {pool : DeletionPool}

theorem consistent_start (channelIds : List ℤ) :
    Consistent ⟨Database.start channelIds, []⟩ where
  single _ stored := absurd stored List.not_mem_nil
  rows _ stored := absurd stored List.not_mem_nil
  placed _ noted := absurd noted List.not_mem_nil
  notes :=
    { markUnique := by simp
      retryOwner := by simp
      sentMarked := by simp
      settled := by simp
      ordered := by simp
      sentOnce := List.Pairwise.nil
      fresh := by simp
      increasing := List.Pairwise.nil }
  deleted _ stored := absurd stored List.not_mem_nil

theorem holding_of_run (run : Reachable DeletionPool.next DeletionPool.Allowed
    (DeletionPool.start channelIds opts) pool) : Holding pool := by
  refine Pool.holding_reachable run SameNotes.refl ?_ ?_ ?_ ?_
  · intro _ _ _ _ before after
    exact before.trans after
  · intro t call pick s valid needs _
    refine ⟨valid.perform needs pick, ?_⟩
    intro _ differ
    exact perform_sameNotes differ call pick s
  · intro _ _ valid uploads
    exact ⟨valid.upload (LifecycleCall.uploaded uploads), fun _ _ => rfl⟩
  · exact ⟨consistent_start channelIds, fun _ => runDeletionBatch_kept fun _ => rfl⟩

end Runs

/-! ## Repeated deletes -/

section Deletes

variable {s : DeletionSystem}

theorem sublist_of_not_mem {Entry : Type} {entry : Entry} {before rest more : List Entry}
    (fresh : entry ∉ before) (sublist : (entry :: more).Sublist (before ++ entry :: rest)) :
    more.Sublist rest := by
  induction before with
  | nil => exact List.cons_sublist_cons.mp sublist
  | cons _ _ ih =>
    simp only [List.mem_cons, not_or] at fresh
    rw [List.cons_append] at sublist
    cases sublist with
    | cons _ inner => exact ih fresh.2 inner
    | cons_cons _ _ => exact absurd rfl fresh.1

theorem Consistent.same_row (valid : Consistent s) {left right : DeletionNote}
    (inLeft : left ∈ s.history) (inRight : right ∈ s.history)
    (sameLifecycle : left.outbox.lifecycleId = right.outbox.lifecycleId) :
    left.outbox.id = right.outbox.id := by
  rcases valid.placed left inLeft with ⟨leftRow, leftStored, leftId⟩
  rcases valid.placed right inRight with ⟨rightRow, rightStored, rightId⟩
  have leftKnown := (valid.rows leftRow leftStored).known left inLeft leftId.symm
  have rightKnown := (valid.rows rightRow rightStored).known right inRight rightId.symm
  have equal := valid.single leftRow leftStored rightRow rightStored
    (leftKnown.lifecycleId.trans (sameLifecycle.trans rightKnown.lifecycleId.symm))
  rw [← leftId, ← rightId, equal]

theorem Consistent.repeated (valid : Consistent s)
    {before between after : List DeletionNote} {first second : DeletionNote}
    (history : s.history = before ++ first :: between ++ second :: after)
    (firstSent : first.kind = .sent) (secondSent : second.kind = .sent)
    (sameFile : first.outbox.lifecycleId = second.outbox.lifecycleId) :
    ∃ held, [⟨first.thread, first.outbox, .answered (.failed .rateLimited) held⟩,
      ⟨first.thread, first.outbox, .retried "provider_rate_limited"⟩].Sublist between := by
  have inFirst : first ∈ s.history := by
    rw [history]
    simp
  have inSecond : second ∈ s.history := by
    rw [history]
    simp
  have isPrefix : (before ++ first :: between) ++ [second] <+: s.history := by
    refine ⟨after, ?_⟩
    rw [history]
    simp
  have settled := valid.notes.ordered _ second isPrefix secondSent first (by simp) firstSent
    (valid.same_row inFirst inSecond sameFile)
  rcases settled with ⟨held, sublist⟩
  refine ⟨held, sublist_of_not_mem ?_ sublist⟩
  intro past
  have once := valid.notes.sentOnce
  rw [history, List.append_assoc, List.pairwise_append] at once
  exact once.2.2 first past first (by simp) firstSent firstSent ⟨rfl, rfl⟩

def sentFor (lifeId : ℤ) (note : DeletionNote) : Bool :=
  note.kind = .sent && note.outbox.lifecycleId = lifeId

theorem Consistent.sent_le (valid : Consistent s) {sent : DeletionNote}
    (inPast : sent ∈ s.history) :
    ∃ row ∈ s.db.outboxes.rows, row.lifecycleId = sent.outbox.lifecycleId ∧
      ((s.history.filter (sentFor sent.outbox.lifecycleId)).length : ℤ) ≤ row.maxAttempts := by
  rcases valid.placed sent inPast with ⟨row, stored, sameId⟩
  have facts := valid.rows row stored
  have owner := (facts.known sent inPast sameId.symm).lifecycleId
  refine ⟨row, stored, owner, ?_⟩
  have each : ∀ note ∈ s.history.filter (sentFor sent.outbox.lifecycleId),
      note ∈ s.history ∧ note.kind = .sent ∧ note.outbox.id = row.id := by
    intro _ inFilter
    simp only [List.mem_filter, sentFor, Bool.and_eq_true, decide_eq_true_eq] at inFilter
    exact ⟨inFilter.1, inFilter.2.1,
      (valid.same_row inFilter.1 inPast inFilter.2.2).trans sameId.symm⟩
  have nodup : ((s.history.filter (sentFor sent.outbox.lifecycleId)).map
      fun note => note.outbox.attemptCount).Nodup := by
    apply List.pairwise_map.mpr
    apply (valid.notes.sentOnce.filter _).imp_of_mem
    intro left right inLeft inRight apart sameTry
    have leftFacts := each left inLeft
    have rightFacts := each right inRight
    exact apart leftFacts.2.1 rightFacts.2.1 ⟨leftFacts.2.2.trans rightFacts.2.2.symm, sameTry⟩
  have within : ((s.history.filter (sentFor sent.outbox.lifecycleId)).map
      fun note => note.outbox.attemptCount).toFinset ⊆ Finset.Icc 1 row.attemptCount := by
    intro _ tried
    simp only [List.mem_toFinset, List.mem_map] at tried
    rcases tried with ⟨note, inFilter, rfl⟩
    rcases each note inFilter with ⟨noted, kind, noteId⟩
    have marked := valid.notes.sentMarked note noted kind
    have pos := (facts.marked _ marked rfl noteId).1
    have bounded := (facts.known note noted noteId).attempts
    exact Finset.mem_Icc.mpr ⟨pos, bounded⟩
  have counted := Finset.card_le_card within
  rw [List.toFinset_card_of_nodup nodup, List.length_map, Int.card_Icc] at counted
  have bounded := facts.bounded
  have room := facts.room
  omega

end Deletes

/-! ## A lease that was taken over -/

section Takeover

variable {s : DeletionSystem} {t : ℕ} {call : WorkerCall}

/-- The worker has listed the row only, or is at the version that it last wrote. -/
def Entitled (s : DeletionSystem) (t : ℕ) (row : ManagedProviderFileDeletionOutbox) :
    Prop :=
  (∃ cand, s.own t row.id = listedNotes t cand) ∨
    ClaimedAt t (s.own t row.id) row.version ∨
      ∃ reply, AnsweredAt t (s.own t row.id) reply row.version

theorem unit_cases {result : Outcome Database} {fault : Fault} {notes : List DeletionNote} :
    (s.transact fault (DeletionSystem.unit result) fun _ => notes).2.db = s.db ∨
      result = .ok (s.transact fault (DeletionSystem.unit result) fun _ => notes).2.db := by
  rcases transact_cases s fault (DeletionSystem.unit result) (fun _ => notes) with
    ⟨err, failed⟩ | ⟨reply, after, done, told | told⟩
  · exact .inl (by rw [failed])
  · right
    rw [told]
    exact unit_ok done
  · right
    rw [told]
    exact unit_ok done

/-- A call of a worker rewrites one row that it is entitled to, or none. -/
theorem perform_rewrites (needs : Needs t call s) (pick : WorkerChoice) :
    (DeletionSystem.perform t call pick s).2.db = s.db ∨ ∃ kind old new, Rewrites kind s.db
        (DeletionSystem.perform t call pick s).2.db old new ∧ Entitled s t old := by
  by_cases quiet : call.Quiet
  · left
    rw [perform_quiet quiet]
  cases call with
  | listDue _ _ =>
    left
    simp only [DeletionSystem.perform, DeletionSystem.read]
    split
    · rfl
    · rfl
    · rfl
  | quarantine boxId expected =>
    simp only [DeletionSystem.perform]
    rcases needs with ⟨cand, own⟩
    rcases transact_cases s pick.fault
        (quarantineOrphanedManagedProviderFileDeletion s.db boxId expected pick.now)
        (fun moved => if moved then s.noteOf t boxId .quarantined else []) with
      ⟨err, failed⟩ | ⟨moved, after, done, told⟩
    · exact .inl (by rw [failed])
    · have run : (s.transact pick.fault
          (quarantineOrphanedManagedProviderFileDeletion s.db boxId expected pick.now)
          (fun moved => if moved then s.noteOf t boxId .quarantined
            else [])).2.db = after := by
        rcases told with told | told
        · rw [told]
        · rw [told]
      rw [run]
      rcases quarantine_rewrites done with ⟨_, rfl⟩ | ⟨_, old, new, sameId, _, edits⟩
      · exact .inl rfl
      · rw [← sameId] at own
        exact .inr ⟨_, old, new, edits, .inl ⟨cand, own⟩⟩
  | claim claim =>
    simp only [DeletionSystem.perform]
    rcases needs with ⟨cand, own, _⟩
    rcases transact_cases s pick.fault (claimManagedProviderFileDeletion s.db claim pick.now)
        (fun claimed => claimed.toList.map fun row => ⟨t, row, .claimed⟩) with
      ⟨err, failed⟩ | ⟨claimed, after, done, told⟩
    · exact .inl (by rw [failed])
    · have run : (s.transact pick.fault (claimManagedProviderFileDeletion s.db claim pick.now)
          (fun claimed => claimed.toList.map fun row =>
            (⟨t, row, .claimed⟩ : DeletionNote))).2.db = after := by
        rcases told with told | told
        · rw [told]
        · rw [told]
      rw [run]
      cases claimed with
      | none => exact .inl (claim_idle done)
      | some row =>
        rcases claim_rewrites done with ⟨old, sameId, _, edits⟩
        rw [← sameId] at own
        exact .inr ⟨_, old, row, edits, .inl ⟨cand, own⟩⟩
  | markDispatched dispatch =>
    simp only [DeletionSystem.perform]
    have claimedAt : ClaimedAt t (s.own t dispatch.outboxId)
      dispatch.expectedVersion := needs
    rcases transact_cases s pick.fault
        (markManagedProviderFileDeletionDispatched s.db dispatch pick.now)
        (fun row => [⟨t, row, .marked⟩]) with
      ⟨err, failed⟩ | ⟨marked, after, done, told⟩
    · exact .inl (by rw [failed])
    · have run : (s.transact pick.fault
          (markManagedProviderFileDeletionDispatched s.db dispatch pick.now)
          (fun row => [(⟨t, row, .marked⟩ : DeletionNote)])).2.db = after := by
        rcases told with told | told
        · rw [told]
        · rw [told]
      rw [run]
      rcases mark_rewrites done with ⟨old, sameId, sameVer, edits⟩
      rw [← sameId, ← sameVer] at claimedAt
      exact .inr ⟨_, old, marked, edits, .inr (.inl claimedAt)⟩
  | sendDelete _ _ | awaitDelete _ => exact .inl rfl
  | retry retry =>
    simp only [DeletionSystem.perform]
    have staged : FreshAt t (s.own t retry.outboxId) retry.expectedVersion ∨
      AnsweredAt t (s.own t retry.outboxId) (.failed .rateLimited)
        retry.expectedVersion ∧ retry.errorCode = "provider_rate_limited" := needs
    rcases unit_cases with same | done
    · exact .inl same
    · rcases retry_rewrites done with ⟨old, new, sameId, sameVer, edits⟩
      rw [← sameId, ← sameVer] at staged
      refine .inr ⟨_, old, new, edits, .inr ?_⟩
      rcases staged with ⟨cand, claimed, own, _, ver⟩ | ⟨answered, _⟩
      · exact .inl ⟨cand, claimed, own, ver⟩
      · exact .inr ⟨_, answered⟩
  | complete terminal =>
    simp only [DeletionSystem.perform]
    have answered : AnsweredAt t (s.own t terminal.outboxId) .deleted
      terminal.expectedVersion := needs
    rcases unit_cases with same | done
    · exact .inl same
    · rcases complete_rewrites done with ⟨old, new, sameId, sameVer, edits⟩
      rw [← sameId, ← sameVer] at answered
      exact .inr ⟨_, old, new, edits, .inr (.inr ⟨_, answered⟩)⟩
  | fail terminal =>
    simp only [DeletionSystem.perform]
    have staged : ClaimedAt t (s.own t terminal.outboxId) terminal.expectedVersion ∨
      ∃ reply, AnsweredAt t (s.own t terminal.outboxId) reply
        terminal.expectedVersion := needs
    rcases unit_cases with same | done
    · exact .inl same
    · rcases fail_rewrites done with ⟨old, new, sameId, sameVer, edits⟩
      rw [← sameId, ← sameVer] at staged
      exact .inr ⟨_, old, new, edits, .inr staged⟩
  | contextError | now | getLifecycle _ | loadDeletionTarget _ | deriveLease _ | deriveEvent _
  | deriveEvidence _ _ _ | decryptReference _ _ _ => exact absurd trivial quiet

/-- Another worker claimed the row after a worker had claimed it. -/
structure TakenOver (history : List DeletionNote) (mine theirs : DeletionNote) : Prop where
  claimed : mine.kind = .claimed
  taken : theirs.kind = .claimed
  sameRow : theirs.outbox.id = mine.outbox.id
  another : theirs.thread ≠ mine.thread
  later : ∃ before after, history = before ++ mine :: after ∧ theirs ∈ after

theorem versions_apart {history : List DeletionNote} (facts : HistoryFacts history)
    {left right : DeletionNote} (inLeft : left ∈ history) (inRight : right ∈ history)
    (differ : left ≠ right) (leftLeases : left.Leases) (rightLeases : right.Leases)
    (sameId : left.outbox.id = right.outbox.id) :
    left.outbox.version ≠ right.outbox.version := by
  have apart : history.Pairwise fun left right => left.Leases → right.Leases →
      left.outbox.id = right.outbox.id → left.outbox.version ≠ right.outbox.version := by
    apply facts.increasing.imp
    intro _ _ below firstLeases secondLeases same
    exact ne_of_lt (below firstLeases secondLeases same)
  have symmetric : Std.Symm fun left right : DeletionNote => left.Leases → right.Leases →
      left.outbox.id = right.outbox.id → left.outbox.version ≠ right.outbox.version := by
    constructor
    intro _ _ holds secondLeases firstLeases same
    exact (holds firstLeases secondLeases same.symm).symm
  exact apart.forall inLeft inRight differ leftLeases rightLeases sameId

theorem TakenOver.not_entitled {mine theirs : DeletionNote} (valid : Consistent s)
    (taken : TakenOver s.history mine theirs)
    {row : ManagedProviderFileDeletionOutbox} (stored : row ∈ s.db.outboxes.rows)
    (sameId : row.id = mine.outbox.id) : ¬Entitled s mine.thread row := by
  rcases taken.later with ⟨_, _, history, inAfter⟩
  have inMine : mine ∈ s.history := by
    rw [history]
    simp
  have inTheirs : theirs ∈ s.history := by
    rw [history]
    simp [inAfter]
  have increases := valid.notes.increasing
  rw [history, List.pairwise_append] at increases
  have newer := (List.pairwise_cons.mp increases.2.1).1 theirs inAfter (.inl taken.claimed)
    (.inl taken.taken) taken.sameRow.symm
  have known := ((valid.rows row stored).known theirs inTheirs
    (taken.sameRow.trans sameId.symm)).version
  rintro (⟨cand, own⟩ | ⟨cand, claimed, own, ver⟩ |
    ⟨reply, cand, claimed, marked, held, own, _, ver⟩)
  · have inOwn := mem_own own inMine rfl sameId.symm
    have listed := taken.claimed
    rw [List.mem_singleton.mp inOwn] at listed
    cases listed
  · have inOwn := mem_own own inMine rfl sameId.symm
    have kind := taken.claimed
    simp only [claimedNotes, listedNotes, List.cons_append, List.nil_append, List.mem_cons,
      List.not_mem_nil, or_false] at inOwn
    rcases inOwn with listed | isClaimed
    · rw [listed] at kind
      cases kind
    · rw [isClaimed] at newer
      simp only at newer
      omega
  · have inOwn := mem_own own inMine rfl sameId.symm
    have kind := taken.claimed
    have inMarked : (⟨mine.thread, marked, .marked⟩ : DeletionNote) ∈
        answeredNotes mine.thread cand claimed marked reply held := by
      simp [answeredNotes, sentNotes, markedNotes]
    rcases mem_of_own own inMarked with ⟨markStored, _, markId⟩
    have apart := versions_apart valid.notes inTheirs markStored (by
        intro same
        have never := taken.taken
        rw [same] at never
        cases never) (.inl taken.taken) (.inr rfl)
      (taken.sameRow.trans (sameId.symm.trans markId.symm))
    simp only [answeredNotes, sentNotes, markedNotes, claimedNotes, listedNotes,
      List.cons_append, List.nil_append, List.mem_cons, List.not_mem_nil, or_false] at inOwn
    rcases inOwn with same | same | same | same | same
    · rw [same] at kind
      cases kind
    · rw [same] at newer
      simp only at newer apart
      omega
    · rw [same] at kind
      cases kind
    · rw [same] at kind
      cases kind
    · rw [same] at kind
      cases kind

theorem TakenOver.unchanged {mine theirs : DeletionNote} (valid : Consistent s)
    (taken : TakenOver s.history mine theirs) (needs : Needs mine.thread call s)
    (pick : WorkerChoice) :
    (DeletionSystem.perform mine.thread call pick s).2.db.outboxes.find?
        mine.outbox.id = s.db.outboxes.find? mine.outbox.id ∧
      (DeletionSystem.perform mine.thread call pick s).2.db.lifecycles.find?
        mine.outbox.lifecycleId = s.db.lifecycles.find? mine.outbox.lifecycleId := by
  rcases perform_rewrites needs pick with same | ⟨_, old, _, edits, entitled⟩
  · rw [same]
    exact ⟨rfl, rfl⟩
  · have differ : mine.outbox.id ≠ old.id := by
      intro sameId
      exact taken.not_entitled valid edits.mem_old sameId.symm entitled
    refine ⟨edits.find?_other differ, edits.others _ ?_⟩
    intro sameLifecycle
    rcases taken.later with ⟨_, _, history, _⟩
    have inMine : mine ∈ s.history := by
      rw [history]
      simp
    rcases valid.placed mine inMine with ⟨row, stored, sameId⟩
    have known := (valid.rows row stored).known mine inMine sameId.symm
    have equal := valid.single row stored old edits.mem_old (known.lifecycleId.trans sameLifecycle)
    exact differ (sameId.symm.trans (congrArg _ equal))

end Takeover

/-! ## Every run -/

/-- A request for a deletion is repeated only after the provider has limited its rate, and at most
as often as its row allows. -/
theorem deletion_never_repeated (channelIds : List ℤ) (opts : ℕ → DeletionWorkerOptions)
    (pool : DeletionPool) (reached : Reachable DeletionPool.next DeletionPool.Allowed
      (DeletionPool.start channelIds opts) pool) :
    (∀ before first between second after,
      pool.state.history = before ++ first :: between ++ second :: after →
        first.kind = .sent → second.kind = .sent →
          first.outbox.lifecycleId = second.outbox.lifecycleId →
            ∃ held, [⟨first.thread, first.outbox, .answered (.failed .rateLimited) held⟩,
              ⟨first.thread, first.outbox, .retried "provider_rate_limited"⟩].Sublist between) ∧
    (∀ sent ∈ pool.state.history, sent.kind = .sent →
      ∃ row ∈ pool.state.db.outboxes.rows, row.lifecycleId = sent.outbox.lifecycleId ∧
        ((pool.state.history.filter (sentFor sent.outbox.lifecycleId)).length : ℤ) ≤
          row.maxAttempts) ∧
    (∀ life ∈ pool.state.db.lifecycles.rows, life.state = .deleted →
      ∃ note ∈ pool.state.history, note.kind = .answered .deleted true ∧
        note.outbox.lifecycleId = life.id) ∧
    ∀ mine theirs, TakenOver pool.state.history mine theirs → ∀ pick,
      (pool.next (.perform mine.thread pick)).state.db.outboxes.find? mine.outbox.id =
          pool.state.db.outboxes.find? mine.outbox.id ∧
        (pool.next (.perform mine.thread pick)).state.db.lifecycles.find?
            mine.outbox.lifecycleId = pool.state.db.lifecycles.find? mine.outbox.lifecycleId := by
  have holding := holding_of_run reached
  have valid := holding.state
  refine ⟨?_, ?_, valid.deleted, ?_⟩
  · intro _ _ _ _ _ history firstSent secondSent sameFile
    exact valid.repeated history firstSent secondSent sameFile
  · intro sent inHistory _
    exact valid.sent_le inHistory
  · intro mine _ taken pick
    cases program : pool.threads mine.thread with
    | done _ =>
      have idle : pool.next (.perform mine.thread pick) = pool := by
        simp [DeletionPool.next, Pool.step, program]
      rw [idle]
      exact ⟨rfl, rfl⟩
    | call call _ =>
      have kept := holding.threads mine.thread
      rw [program] at kept
      have needs := (kept pool.state (SameNotes.refl _ _)).1
      have moved : (pool.next (.perform mine.thread pick)).state =
          (DeletionSystem.perform mine.thread call pick pool.state).2 := by
        simp [DeletionPool.next, Pool.step, program]
      rw [moved]
      exact taken.unchanged valid needs pick

def sampleActivation : LifecycleCall :=
  ⟨.activate
    { lifecycleId := 1
      expectedVersion := 2
      requestFingerprint := sampleDigest '4'
      providerLookupHMAC := sampleDigest '8'
      providerPayload := [1]
      providerBytes := 5
      providerCreatedAt := second
      metadataVerifiedAt := second
      expiresAt := 100 * second
      deletionOperationHMAC := sampleDigest '9'
      deletionNextAttemptAt := 50 * second
      maxDeletionAttempts := 3
      event :=
        { sampleDispatched with
          sequence := 3
          previousEventHMAC := sampleDigest 'b'
          eventHMAC := sampleDigest 'c'
          eventType := .activated
          fromState := some .uploadDispatched
          toState := .active } },
    3, 3, false⟩

def sampleWorkerOptions : DeletionWorkerOptions where
  keyVersion := "v1"
  settings := ⟨7, 10, 3, 30⟩
  batchSize := 10
  timeout := 30 * second

def sampleWorkerChoice (digit : Char) : WorkerChoice where
  first := 60 * second
  now := 60 * second
  fault := .none
  contextError := false
  target := some (⟨7, channelTypeOpenAI, "https://api.openai.com", "", "", "key"⟩,
    [⟨"v1", sampleDigest '0', sampleDigest '5', sampleDigest '6', sampleDigest '7'⟩])
  digest := .ok (sampleDigest digit)
  answer := .deleted

def sampleDeletion : List (Action WorkerChoice LifecycleCall) :=
  (sampleUpload ++ [sampleActivation]).map Action.occur ++
    "aaaaaaaddaaeeaaaafff".toList.map fun digit => .perform 0 (sampleWorkerChoice digit)

theorem sampleDeletion_confirmed :
    ∃ note ∈ (sampleDeletion.foldl DeletionPool.next
        (DeletionPool.start [7] fun _ => sampleWorkerOptions)).state.history,
      note.kind = .answered .deleted true ∧ note.outbox.lifecycleId = 1 := by
  have allowed : RunAllowed DeletionPool.next DeletionPool.Allowed
      (DeletionPool.start [7] fun _ => sampleWorkerOptions) sampleDeletion := by
    have uploads : ∀ call ∈ sampleUpload ++ [sampleActivation], call.action.Uploads := by
      decide +kernel
    apply Reachable.runAllowed_of_forall
    intro _ inActions pool
    rcases List.mem_append.mp inActions with inUploads | inCalls
    · rcases List.mem_map.mp inUploads with ⟨call, inCalls, rfl⟩
      exact uploads call inCalls
    · rcases List.mem_map.mp inCalls with ⟨_, _, rfl⟩
      exact pool.allowed_perform 0 _
  have deleted : ∃ life ∈ (sampleDeletion.foldl DeletionPool.next
      (DeletionPool.start [7] fun _ => sampleWorkerOptions)).state.db.lifecycles.rows,
      life.state = .deleted ∧ life.id = 1 := by
    decide +kernel
  rcases deleted with ⟨life, stored, state, isOne⟩
  rcases deletion_never_repeated [7] (fun _ => sampleWorkerOptions) _
    (Reachable.of_run sampleDeletion _ allowed) with ⟨_, _, confirmed, _⟩
  rcases confirmed life stored state with ⟨note, inHistory, kind, owner⟩
  exact ⟨note, inHistory, kind, owner.trans isOne⟩

end NewApi.ProviderFile
