import Mathlib.Algebra.Order.BigOperators.Group.List
import NewApi.ProviderFile.DeletionBatch
import NewApi.ProviderFile.DeletionRun

/-!
# The queue of due deletions

Successive batches over the due list, which `ListDueManagedProviderFileDeletions` orders by the
next attempt and cuts at the batch size.
-/

namespace NewApi.ProviderFile

open Concurrent (Program)
open Relational
open NewApi.ProviderFile renaming ManagedProviderFileDeletionOutbox → Outbox

/-- `ORDER BY next_attempt_at, id`. -/
def ManagedProviderFileDeletionOutbox.precedes (left right : Outbox) :
    Bool :=
  left.nextAttemptAt < right.nextAttemptAt ||
    (left.nextAttemptAt = right.nextAttemptAt && left.id < right.id)

/-- The checks of `RunDeletionBatch` on its options. -/
def DeletionWorkerOptions.Configured (opts : DeletionWorkerOptions) : Prop :=
  opts.batchSize = opts.settings.providerFileDeletionBatchSize ∧
    opts.timeout = opts.settings.providerFileDeletionTimeoutSeconds * second ∧
    minimumDeletionWorkerTimeout ≤ opts.timeout ∧
    opts.timeout ≤ maximumDeletionWorkerTimeout ∧
    validateProviderFileDeletionSettings opts.settings = .ok ()
deriving Decidable

def Database.dueRows (db : Database) (time : ℤ) : List Outbox :=
  (db.outboxes.rows.filter fun row => row.due time).mergeSort fun left right =>
    left.nextAttemptAt < right.nextAttemptAt ||
      (left.nextAttemptAt = right.nextAttemptAt && left.id ≤ right.id)

def listedRows (opts : DeletionWorkerOptions) (db : Database) (time : ℤ) :
    List Outbox :=
  if opts.Configured then (db.dueRows time).take opts.batchSize.toNat else []

/-! ## The due list -/

section Listing

variable {db : Database} {time : ℤ} {opts : DeletionWorkerOptions} {row : Outbox}

theorem mem_dueRows : row ∈ db.dueRows time ↔ row ∈ db.outboxes.rows ∧ row.due time := by
  rw [Database.dueRows, List.mem_mergeSort, List.mem_filter]

theorem dueRows_distinct (db : Database) (time : ℤ) :
    ((db.dueRows time).map Outbox.id).Nodup := by
  apply ((List.mergeSort_perm _ _).map _).nodup_iff.mpr
  have nodup : (db.outboxes.rows.map Outbox.id).Nodup :=
    db.outboxes.keys_nodup
  exact nodup.sublist (List.filter_sublist.map _)

theorem dueRows_sorted (db : Database) (time : ℤ) :
    (db.dueRows time).Pairwise fun left right => left.precedes right := by
  have sorted : (db.dueRows time).Pairwise fun left right =>
      (left.nextAttemptAt < right.nextAttemptAt ||
        (left.nextAttemptAt = right.nextAttemptAt && left.id ≤ right.id)) := by
    apply List.pairwise_mergeSort
    · intro _ _ _ before after
      simp only [Bool.or_eq_true, Bool.and_eq_true, decide_eq_true_eq] at before after ⊢
      omega
    · intro _ _
      simp only [Bool.or_eq_true, Bool.and_eq_true, decide_eq_true_eq]
      omega
  have nodup := List.pairwise_map.mp (dueRows_distinct db time)
  apply (sorted.and nodup).imp
  rintro _ _ ⟨ordered, _⟩
  simp only [Outbox.precedes, Bool.or_eq_true, Bool.and_eq_true,
    decide_eq_true_eq] at ordered ⊢
  omega

theorem precedes_asymm {left right : Outbox}
    (before : left.precedes right) : right.precedes left = false := by
  simp only [Outbox.precedes, Bool.or_eq_true, Bool.and_eq_true,
    decide_eq_true_eq, Bool.or_eq_false_iff, Bool.and_eq_false_iff, decide_eq_false_iff_not]
    at before ⊢
  omega

theorem mem_take_iff {rows : List Outbox}
    (sorted : rows.Pairwise fun left right => left.precedes right) (isRow : row ∈ rows)
    (limit : ℕ) : row ∈ rows.take limit ↔ rows.countP (·.precedes row) < limit := by
  induction rows generalizing limit with
  | nil => cases isRow
  | cons head tail ih =>
    rcases List.pairwise_cons.mp sorted with ⟨first, rest⟩
    have irreflexive : row.precedes row = false := by
      cases itself : row.precedes row with
      | false => rfl
      | true =>
        rw [precedes_asymm itself] at itself
        cases itself
    cases limit with
    | zero => simp
    | succ limit =>
      rw [List.take_succ_cons, List.mem_cons]
      rcases List.mem_cons.mp isRow with rfl | inTail
      · have none_ : tail.countP (·.precedes row) = 0 := by
          apply List.countP_eq_zero.mpr
          intro other inTail before
          rw [precedes_asymm (first other inTail)] at before
          cases before
        rw [List.countP_cons_of_neg (by simp [irreflexive]), none_]
        simp
      · have before : head.precedes row = true := first row inTail
        have apart : row ≠ head := by
          rintro rfl
          rw [irreflexive] at before
          cases before
        have counted : (head :: tail).countP (·.precedes row) =
            tail.countP (·.precedes row) + 1 := List.countP_cons_of_pos before
        rw [counted, Nat.add_lt_add_iff_right, ← ih rest inTail limit]
        simp [apart]

end Listing

/-! ## One batch -/

/-- A batch changed a row of the outbox. -/
def Changes (before after : DeletionSystem) : Prop :=
  ∃ row ∈ before.db.outboxes.rows, ∃ new, after.db.outboxes.find? row.id = some new ∧
    row.version < new.version

section Batch

variable {targets : DeletionTargets} {time : ℤ} {worker : ℕ} {opts : DeletionWorkerOptions}
  {s later : DeletionSystem} {result : Processed}

variable {rows : List Outbox} {db : Database} {row : Outbox}

theorem Worked.of_noted {notes : List DeletionNote} (free : ∀ id, claimsOf notes id = 0)
    (worked : Worked targets rows ⟨s.db, s.history ++ notes⟩ later) :
    Worked targets rows s later := by
  have same : ∀ id, claimsOf (s.history ++ notes) id = claimsOf s.history id := by
    intro _
    rw [claimsOf_append, free, Nat.add_zero]
  refine ⟨worked.single, ?_, worked.moved, ?_, worked.remaining, worked.fewer⟩
  · intro row stored out
    have undisturbed := worked.untouched row stored out
    exact ⟨undisturbed.found, undisturbed.lifecycle, undisturbed.claims.trans (same row.id)⟩
  · intro row isRow available
    exact (same row.id).symm.trans_lt (worked.claimed row isRow available)

theorem listDue_accepted (accepted : opts.Configured) {due : List Outbox}
    (listed : listDueManagedProviderFileDeletions db time opts.batchSize = .ok due) :
    due = listedRows opts db time := by
  simp only [listDueManagedProviderFileDeletions, Fallible.guard_eq_ok, Except.ok.injEq] at listed
  have bounds : 0 < opts.batchSize ∧ opts.batchSize ≤ 100 := by
    rcases accepted with ⟨size, _, _, _, valid⟩
    simp only [validateProviderFileDeletionSettings, Fallible.bind_eq_ok, check_eq_ok] at valid
    rcases valid with ⟨_, _, _, bounds, _⟩
    rw [size]
    exact bounds
  rw [if_neg (by omega), if_neg (by omega)] at listed
  rw [listedRows, if_pos accepted, ← listed.2]
  rfl

theorem read_succeeds {Result : Type} {fault : Fault} {reply : Outcome Result}
    {noted : Result → List DeletionNote} (isOk : (s.read fault reply noted).1.isOk) :
    ∃ val, reply = .ok val ∧
      s.read fault reply noted = (.ok val, ⟨s.db, s.history ++ noted val⟩) := by
  cases fault with
  | refused | unanswered => cases isOk
  | none =>
    cases reply with
    | error _ => cases isOk
    | ok val => exact ⟨val, rfl, rfl⟩

theorem mem_listedRows (isRow : row ∈ listedRows opts db time) :
    opts.Configured ∧ row ∈ (db.dueRows time).take opts.batchSize.toNat := by
  unfold listedRows at isRow
  split at isRow
  next accepted => exact ⟨accepted, isRow⟩
  next => cases isRow

theorem listedRows_distinct (opts : DeletionWorkerOptions) (db : Database) (time : ℤ) :
    ((listedRows opts db time).map Outbox.id).Nodup := by
  unfold listedRows
  split
  · exact (dueRows_distinct db time).sublist ((List.take_sublist _ _).map _)
  · exact List.nodup_nil

/-- A batch works on the rows that it has listed. -/
theorem runDeletionBatch_ends (single : s.db.SingleOutboxes)
    (run : Served targets time worker (runDeletionBatch opts) s result later) :
    Worked targets (listedRows opts s.db time) s later := by
  simp only [runDeletionBatch] at run
  split at run
  next refused =>
    rcases Program.ends_pure.mp run with ⟨_, rfl⟩
    have unaccepted : ¬opts.Configured := by
      rintro ⟨batch, timeout, _, _, _⟩
      rcases refused with other | other | _ | _
      · exact other batch
      · exact other timeout
      · omega
      · omega
    rw [listedRows, if_neg unaccepted]
    exact Worked.nil single
  next configured =>
    split at run
    next refused =>
      rcases Program.ends_pure.mp run with ⟨_, rfl⟩
      have unaccepted : ¬opts.Configured := by
        rintro ⟨_, _, _, _, valid⟩
        rw [refused] at valid
        cases valid
      rw [listedRows, if_neg unaccepted]
      exact Worked.nil single
    next valid =>
      have accepted : opts.Configured := by
        simp only [not_or, not_not, not_lt] at configured
        exact ⟨configured.1, configured.2.1, configured.2.2.1, configured.2.2.2, valid⟩
      rcases served_quiet (by trivial) run with ⟨clock, _, run⟩
      rcases Program.ends_ask.mp run with ⟨_, ⟨isOk, listing⟩, run⟩
      have reading : clock.now = time := listing
      rcases read_succeeds isOk with ⟨_, listed, told⟩
      simp only [DeletionSystem.perform, reading] at told listed
      simp only [DeletionSystem.perform, reading, told] at run
      rw [listDue_accepted accepted listed] at run
      have inTable : ∀ row ∈ listedRows opts s.db time,
          row ∈ s.db.outboxes.rows ∧ row.due time := by
        intro _ isRow
        exact mem_dueRows.mp (List.mem_of_mem_take (mem_listedRows isRow).2)
      apply Worked.of_noted ?_ (processBatch_ends (listedRows_distinct opts s.db time)
        (fun row isRow => (inTable row isRow).1) (fun row isRow => (inTable row isRow).2)
        single run)
      intro _
      apply List.countP_eq_zero.mpr
      intro _ inLog
      rcases List.mem_map.mp inLog with ⟨_, _, rfl⟩
      simp

theorem Worked.changes_iff (worked : Worked targets rows s later)
    (stored : ∀ row ∈ rows, row ∈ s.db.outboxes.rows) :
    Changes s later ↔ ∃ row ∈ rows, row.stuck targets s.db = false := by
  constructor
  · rintro ⟨row, inTable, new, found, newer⟩
    by_contra allStuck
    push Not at allStuck
    have out : row ∉ rows ∨ row.stuck targets s.db = true := by
      by_cases isRow : row ∈ rows
      · exact .inr (Bool.not_eq_false _ |>.mp (allStuck row isRow))
      · exact .inl isRow
    have undisturbed := worked.untouched row inTable out
    rw [undisturbed.found] at found
    cases found
    exact lt_irrefl _ newer
  · rintro ⟨row, isRow, free⟩
    rcases worked.moved row isRow free with ⟨new, found, newer⟩
    exact ⟨row, stored row isRow, new, found, newer⟩

/-- The rows that are due before the row and that no worker can finish. -/
def stuckBefore (targets : DeletionTargets) (db : Database) (time : ℤ) (row : Outbox) : ℕ :=
  (db.dueRows time).countP fun other => other.precedes row && other.stuck targets db

theorem full_of_not_listed (accepted : opts.Configured) (due : row ∈ db.dueRows time)
    (out : row ∉ listedRows opts db time)
    (allStuck : ∀ other ∈ listedRows opts db time, other.stuck targets db = true) :
    opts.batchSize.toNat ≤ stuckBefore targets db time row := by
  rw [listedRows, if_pos accepted] at out allStuck
  have behind := (mem_take_iff (dueRows_sorted db time) due opts.batchSize.toNat).not.mp out
  rw [not_lt] at behind
  have long : opts.batchSize.toNat ≤ (db.dueRows time).length :=
    behind.trans List.countP_le_length
  have first : ((db.dueRows time).take opts.batchSize.toNat).countP
      (fun other => other.precedes row && other.stuck targets db) =
        ((db.dueRows time).take opts.batchSize.toNat).length := by
    apply List.countP_eq_length.mpr
    intro other inFirst
    rw [allStuck other inFirst, Bool.and_true]
    have split := List.take_append_drop opts.batchSize.toNat (db.dueRows time)
    have sorted := dueRows_sorted db time
    rw [← split, List.pairwise_append] at sorted
    apply sorted.2.2 other inFirst row
    rw [← split] at due
    exact (List.mem_append.mp due).resolve_left out
  rw [List.length_take, min_eq_left long] at first
  rw [← first]
  exact (List.take_sublist _ _).countP_le

theorem not_listed_of_full (full : opts.batchSize.toNat ≤ stuckBefore targets db time row) :
    row ∉ listedRows opts db time := by
  intro isRow
  rcases mem_listedRows isRow with ⟨_, inFirst⟩
  have early := (mem_take_iff (dueRows_sorted db time) (List.mem_of_mem_take inFirst) _).mp inFirst
  have fewer : stuckBefore targets db time row ≤ (db.dueRows time).countP (·.precedes row) := by
    apply List.countP_mono_left
    intro other _ counted
    simp only [Bool.and_eq_true] at counted
    exact counted.1
  omega

theorem stuckBefore_le {time later : ℤ} {s final : DeletionSystem} (row : Outbox)
    (worked : Worked targets rows s final) (passes : time ≤ later) :
    stuckBefore targets s.db time row ≤ stuckBefore targets final.db later row := by
  simp only [stuckBefore, List.countP_eq_length_filter]
  apply List.Subperm.length_le
  apply List.subperm_of_subset
  · exact (dueRows_distinct s.db time).of_map.filter _
  · intro other inBefore
    rcases List.mem_filter.mp inBefore with ⟨due, counted⟩
    rcases mem_dueRows.mp due with ⟨stored, isDue⟩
    simp only [Bool.and_eq_true] at counted
    have undisturbed := worked.untouched other stored (.inr counted.2)
    apply List.mem_filter.mpr
    refine ⟨mem_dueRows.mpr ⟨undisturbed.stored, due_later isDue passes⟩, ?_⟩
    rw [Bool.and_eq_true]
    exact ⟨counted.1, undisturbed.stuck.trans counted.2⟩

end Batch

/-! ## Successive batches -/

/-- Batches one after the other. The clock of a later batch is not behind, every call of a batch
succeeds, and the channels offer the same targets throughout. -/
structure BatchRun (opts : DeletionWorkerOptions) (targets : DeletionTargets) (times : ℕ → ℤ)
    (systems : ℕ → DeletionSystem) : Prop where
  single : (systems 0).db.SingleOutboxes
  passes : ∀ batch, times batch ≤ times (batch + 1)
  serves : ∀ batch, ∃ worker result, Served targets (times batch) worker
    (runDeletionBatch opts) (systems batch) result (systems (batch + 1))

/-- The batch claimed the row. -/
def ClaimedIn (systems : ℕ → DeletionSystem) (row : Outbox) (batch : ℕ) : Prop :=
  claimsOf (systems batch).history row.id < claimsOf (systems (batch + 1)).history row.id

namespace BatchRun

variable {opts : DeletionWorkerOptions} {targets : DeletionTargets} {times : ℕ → ℤ}
  {systems : ℕ → DeletionSystem} {row : Outbox}

theorem singles (run : BatchRun opts targets times systems) (batch : ℕ) :
    (systems batch).db.SingleOutboxes := by
  induction batch with
  | zero => exact run.single
  | succ batch ih =>
    rcases run.serves batch with ⟨_, _, served⟩
    exact (runDeletionBatch_ends ih served).single

theorem worked (run : BatchRun opts targets times systems) (batch : ℕ) :
    Worked targets (listedRows opts (systems batch).db (times batch)) (systems batch)
      (systems (batch + 1)) := by
  rcases run.serves batch with ⟨_, _, served⟩
  exact runDeletionBatch_ends (run.singles batch) served

def Waits (targets : DeletionTargets) (times : ℕ → ℤ) (systems : ℕ → DeletionSystem)
    (row : Outbox) (batch : ℕ) : Prop :=
  row ∈ (systems batch).db.dueRows (times batch) ∧
    row.available targets (systems batch).db = true

variable (run : BatchRun opts targets times systems)

include run

theorem claimed_iff {batch : ℕ} (waits : Waits targets times systems row batch) :
    ClaimedIn systems row batch ↔
      row ∈ listedRows opts (systems batch).db (times batch) := by
  constructor
  · intro claimed
    by_contra out
    have undisturbed :=
      (run.worked batch).untouched row (mem_dueRows.mp waits.1).1 (.inl out)
    rw [ClaimedIn, undisturbed.claims] at claimed
    exact lt_irrefl _ claimed
  · intro isRow
    exact (run.worked batch).claimed row isRow waits.2

theorem waits_next {batch : ℕ}
    (waits : Waits targets times systems row batch) (free : ¬ClaimedIn systems row batch) :
    Waits targets times systems row (batch + 1) := by
  rcases mem_dueRows.mp waits.1 with ⟨stored, due⟩
  have out := (run.claimed_iff waits).not.mp free
  have undisturbed := (run.worked batch).untouched row stored (.inl out)
  exact ⟨mem_dueRows.mpr ⟨undisturbed.stored, due_later due (run.passes batch)⟩,
    undisturbed.available.trans waits.2⟩

theorem never_claimed {first : ℕ} (waits : Waits targets times systems row first)
    (blocked : ¬opts.Configured ∨ opts.batchSize.toNat ≤
      stuckBefore targets (systems first).db (times first) row) (batch : ℕ) :
    ¬ClaimedIn systems row (first + batch) ∧ Waits targets times systems row (first + batch) := by
  have out : ∀ batch, (¬opts.Configured ∨ opts.batchSize.toNat ≤
      stuckBefore targets (systems batch).db (times batch) row) →
        row ∉ listedRows opts (systems batch).db (times batch) := by
    rintro batch (refused | full)
    · intro isRow
      exact refused (mem_listedRows isRow).1
    · exact not_listed_of_full full
  have kept : ∀ batch, Waits targets times systems row (first + batch) ∧
      (¬opts.Configured ∨ opts.batchSize.toNat ≤
        stuckBefore targets (systems (first + batch)).db (times (first + batch)) row) := by
    intro batch
    induction batch with
    | zero => exact ⟨waits, blocked⟩
    | succ batch ih =>
      rcases ih with ⟨waiting, still⟩
      refine ⟨run.waits_next waiting ?_, ?_⟩
      · exact (run.claimed_iff waiting).not.mpr (out _ still)
      · rcases still with refused | full
        · exact .inl refused
        · exact .inr (full.trans (stuckBefore_le row (run.worked (first + batch))
            (run.passes (first + batch))))
  rcases kept batch with ⟨waiting, still⟩
  exact ⟨(run.claimed_iff waiting).not.mpr (out _ still), waiting⟩

theorem remaining_lt {batch : ℕ} (waits : Waits targets times systems row batch)
    (free : ¬ClaimedIn systems row batch) (accepted : opts.Configured)
    (room : stuckBefore targets (systems batch).db (times batch) row < opts.batchSize.toNat) :
    (systems (batch + 1)).db.remaining < (systems batch).db.remaining := by
  apply (run.worked batch).fewer
  by_contra allStuck
  push Not at allStuck
  have out := (run.claimed_iff waits).not.mp free
  have full := full_of_not_listed accepted waits.1 out
    fun other isRow => Bool.not_eq_false _ |>.mp (allStuck other isRow)
  omega

theorem waits_until {first batch : ℕ}
    (waits : Waits targets times systems row first) (from_ : first ≤ batch)
    (free : ∀ past, first ≤ past → past < batch →
      ¬ClaimedIn systems row past) : Waits targets times systems row batch := by
  induction batch, from_ using Nat.le_induction with
  | base => exact waits
  | succ batch after ih =>
    apply run.waits_next
    · apply ih
      intro past fromFirst before
      exact free past fromFirst (before.trans (Nat.lt_succ_self batch))
    · exact free batch after (Nat.lt_succ_self batch)

omit run

theorem remaining_nonneg (db : Database) : 0 ≤ db.remaining := by
  apply List.sum_nonneg
  intro _ inAmounts
  rcases List.mem_map.mp inAmounts with ⟨_, _, rfl⟩
  exact Int.natCast_nonneg _

theorem exists_claimed (run : BatchRun opts targets times systems) {first : ℕ}
    (waits : Waits targets times systems row first) (free : ∀ batch, first ≤ batch →
      (∀ past, first ≤ past → past < batch → ¬ClaimedIn systems row past) →
        opts.Configured ∧ stuckBefore targets (systems batch).db (times batch) row <
          opts.batchSize.toNat) :
    ∃ batch, first ≤ batch ∧ ClaimedIn systems row batch := by
  by_contra never
  push Not at never
  have bound : ∀ steps : ℕ, (systems (first + steps)).db.remaining ≤
      (systems first).db.remaining - steps := by
    intro steps
    induction steps with
    | zero => simp
    | succ steps _ =>
      have after : first ≤ first + steps := Nat.le_add_right _ _
      have waiting := run.waits_until waits after fun past fromFirst _ =>
        never past fromFirst
      rcases free _ after (fun past fromFirst _ => never past fromFirst) with
        ⟨accepted, room⟩
      have less := run.remaining_lt waiting (never _ after) accepted room
      rw [← Nat.add_assoc]
      push_cast
      omega
  have low := bound ((systems first).db.remaining.toNat + 1)
  have high := remaining_nonneg (systems (first + ((systems first).db.remaining.toNat + 1))).db
  omega

end BatchRun

/-- Whatever the batches before it did, a batch with a waiting row changes an outbox exactly when
one of the rows that it reads is not stuck. A waiting row is claimed in the end exactly when no
batch before that finds as many stuck rows before it as it reads. -/
theorem deletions_unblocked_iff (opts : DeletionWorkerOptions) (targets : DeletionTargets)
    (times : ℕ → ℤ) (systems : ℕ → DeletionSystem) (run : BatchRun opts targets times systems) :
    (∀ batch, ((∃ row, BatchRun.Waits targets times systems row batch) →
          Changes (systems batch) (systems (batch + 1))) ↔
        ((∃ row, BatchRun.Waits targets times systems row batch) →
          ∃ row ∈ listedRows opts (systems batch).db (times batch),
            row.stuck targets (systems batch).db = false)) ∧
    ∀ row first, BatchRun.Waits targets times systems row first →
      ((∃ batch, first ≤ batch ∧ ClaimedIn systems row batch) ↔
        ∀ batch, first ≤ batch →
          (∀ past, first ≤ past → past < batch → ¬ClaimedIn systems row past) →
            opts.Configured ∧ stuckBefore targets (systems batch).db (times batch) row <
              opts.batchSize.toNat) := by
  refine ⟨?_, ?_⟩
  · intro batch
    apply imp_congr_right
    intro _
    apply (run.worked batch).changes_iff
    intro _ isRow
    exact (mem_dueRows.mp (List.mem_of_mem_take (mem_listedRows isRow).2)).1
  · intro _ _ waits
    constructor
    · rintro ⟨claimer, fromFirst, claimed⟩ batch after unclaimed
      by_contra blocked
      rw [not_and_or, not_lt] at blocked
      have waiting := run.waits_until waits after unclaimed
      rcases Nat.lt_or_ge claimer batch with before | later
      · exact unclaimed claimer fromFirst before claimed
      · have never := (run.never_claimed waiting blocked (claimer - batch)).1
        rw [Nat.add_sub_cancel' later] at never
        exact never claimed
    · exact run.exists_claimed waits

/-! ## Samples -/

instance (call : WorkerCall) (reply : call.Answer) : Decidable (call.Succeeds reply) := by
  cases call <;> dsimp only [WorkerCall.Succeeds] <;> infer_instance

instance (targets : DeletionTargets) (time : ℤ) (worker : ℕ) (call : WorkerCall)
    (pick : WorkerChoice) (s : DeletionSystem) :
    Decidable (call.Serves targets time worker pick s) := by
  cases call <;> dsimp only [WorkerCall.Serves] <;> infer_instance

def sampleTargets : DeletionTargets := fun channelId =>
  if channelId = 7 then (sampleWorkerChoice 'd').target else none

theorem served_listing {opts : DeletionWorkerOptions} {targets : DeletionTargets} {time : ℤ}
    {worker : ℕ} {s later : DeletionSystem} {result : Processed}
    {due : List Outbox} (accepted : opts.Configured)
    (listed : listDueManagedProviderFileDeletions s.db time opts.batchSize = .ok due)
    (rest : Served targets time worker (processBatch opts ⟨due.length, 0, 0, 0, 0, 0, 0⟩ due)
      ⟨s.db, s.history ++ due.map fun row => ⟨worker, row, .listed⟩⟩ result later) :
    Served targets time worker (runDeletionBatch opts) s result later := by
  rcases accepted with ⟨size, timeout, least, most, valid⟩
  have configured : ¬(opts.batchSize ≠ opts.settings.providerFileDeletionBatchSize ∨
      opts.timeout ≠ opts.settings.providerFileDeletionTimeoutSeconds * second ∨
      opts.timeout < minimumDeletionWorkerTimeout ∨
      maximumDeletionWorkerTimeout < opts.timeout) := by
    simp only [not_or, not_not, not_lt]
    exact ⟨size, timeout, least, most⟩
  let pick : WorkerChoice := { sampleWorkerChoice 'd' with now := time }
  have told : DeletionSystem.perform worker (.listDue time opts.batchSize) pick s =
      (.ok due, ⟨s.db, s.history ++ due.map fun row => ⟨worker, row, .listed⟩⟩) := by
    simp [DeletionSystem.perform, DeletionSystem.read, listed, pick, sampleWorkerChoice]
  simp only [runDeletionBatch, if_neg configured, valid]
  apply Program.ends_ask.mpr
  refine ⟨pick, ⟨trivial, trivial⟩, ?_⟩
  apply Program.ends_ask.mpr
  refine ⟨pick, ⟨?_, rfl⟩, ?_⟩
  · simp [DeletionSystem.perform, DeletionSystem.read, listed, pick, sampleWorkerChoice,
      WorkerCall.Succeeds, isOk_iff]
  · simpa [DeletionSystem.perform, DeletionSystem.read, listed, pick, sampleWorkerChoice] using rest

theorem dueRows_of_sorted {db : Database} {time : ℤ}
    (sorted : (db.outboxes.rows.filter fun row => row.due time).Pairwise
      fun left right => left.precedes right) :
    db.dueRows time = db.outboxes.rows.filter fun row => row.due time := by
  apply List.mergeSort_of_pairwise
  apply sorted.imp
  intro _ _ before
  simp only [Outbox.precedes, Bool.or_eq_true, Bool.and_eq_true,
    decide_eq_true_eq] at before ⊢
  omega

theorem listDue_of_accepted {opts : DeletionWorkerOptions} {db : Database} {time : ℤ}
    (accepted : opts.Configured) (set : time ≠ 0) :
    listDueManagedProviderFileDeletions db time opts.batchSize = .ok (listedRows opts db time) := by
  cases listed : listDueManagedProviderFileDeletions db time opts.batchSize with
  | ok _ => rw [listDue_accepted accepted listed]
  | error _ => simp [listDueManagedProviderFileDeletions, set] at listed

def uploadedLifecycle : ManagedProviderFileLifecycle :=
  { sampleIntent with
    id := 1
    state := .active
    version := 3
    lastEventSequence := 3
    lastEventHMAC := sampleDigest 'c'
    providerPayload := [1] }

def uploadedEvent : ManagedProviderFileLifecycleEvent :=
  { sampleDispatched with
    id := 3
    sequence := 3
    previousEventHMAC := sampleDigest 'b'
    eventHMAC := sampleDigest 'c'
    eventType := .activated
    fromState := some .uploadDispatched
    toState := .active }

def dueDeletion : Outbox :=
  { pendingDeletion 1 (sampleDigest '9') 3 (50 * second) with id := 1 }

def dueSystem : DeletionSystem :=
  ⟨⟨[7], ⟨[uploadedLifecycle], by decide⟩, ⟨[dueDeletion], by decide⟩, [uploadedEvent]⟩, []⟩

def deletionChoices : List WorkerChoice :=
  "aaaaaaaddaaeeaaaafff".toList.map sampleWorkerChoice

def deletingBatch : Option (Processed × DeletionSystem) :=
  (runDeletionBatch sampleWorkerOptions).runWith (DeletionSystem.perform 0)
    (WorkerCall.Serves sampleTargets (60 * second) 0) deletionChoices dueSystem

def sampleBatches : ℕ → DeletionSystem
  | 0 => dueSystem
  | _ + 1 => (deletingBatch.map Prod.snd).getD dueSystem

theorem deletingBatch_ends :
    ∃ result later, deletingBatch = some (result, later) ∧ later.db.dueRows (60 * second) = [] := by
  have done : (deletingBatch.map fun ended =>
      (ended.2.db.outboxes.rows.filter fun row => row.due (60 * second)).length) = some 0 := by
    decide +kernel
  rcases Option.map_eq_some_iff.mp done with ⟨⟨result, later⟩, ran, idle⟩
  refine ⟨result, later, ran, ?_⟩
  rw [Database.dueRows, List.length_eq_zero_iff.mp idle, List.mergeSort_nil]

theorem sampleBatches_run :
    BatchRun sampleWorkerOptions sampleTargets (fun _ => 60 * second) sampleBatches where
  single := by
    simp only [sampleBatches, Database.SingleOutboxes]
    decide +kernel
  passes _ := le_refl _
  serves batch := by
    rcases deletingBatch_ends with ⟨result, later, ran, idle⟩
    have reached : (deletingBatch.map Prod.snd).getD dueSystem = later := by
      rw [ran]
      rfl
    cases batch with
    | zero =>
      refine ⟨0, result, ?_⟩
      simp only [sampleBatches, reached]
      exact Program.ends_of_runWith _ _ ran
    | succ _ =>
      have accepted : sampleWorkerOptions.Configured := by
        decide +kernel
      have listed : listedRows sampleWorkerOptions later.db (60 * second) = [] := by
        rw [listedRows, if_pos accepted, idle, List.take_nil]
      refine ⟨0, (⟨0, 0, 0, 0, 0, 0, 0⟩, .ok ()), ?_⟩
      simp only [sampleBatches, reached]
      apply served_listing accepted (listDue_of_accepted accepted (by decide))
      simp only [listed, List.map_nil, List.append_nil]
      exact .done _ _

/-- The file is claimed: no batch finds a stuck row before it. -/
theorem sampleBatches_claimed :
    ∃ row batch, row ∈ dueSystem.db.outboxes.rows ∧ ClaimedIn sampleBatches row batch := by
  have waits : BatchRun.Waits sampleTargets (fun _ => 60 * second) sampleBatches dueDeletion 0 := by
    refine ⟨mem_dueRows.mpr ?_, ?_⟩
    · exact ⟨List.mem_singleton_self _, by decide +kernel⟩
    · decide +kernel
  have claimed := ((deletions_unblocked_iff sampleWorkerOptions sampleTargets
    (fun _ => 60 * second) sampleBatches sampleBatches_run).2 dueDeletion 0 waits).mpr ?_
  · rcases claimed with ⟨batch, _, claimed⟩
    exact ⟨dueDeletion, batch, List.mem_singleton_self _, claimed⟩
  · intro batch _ _
    refine ⟨by decide +kernel, ?_⟩
    have few : stuckBefore sampleTargets (sampleBatches batch).db (60 * second) dueDeletion ≤
        ((sampleBatches batch).db.dueRows (60 * second)).length := List.countP_le_length
    apply few.trans_lt
    cases batch with
    | zero => decide +kernel
    | succ _ =>
      rcases deletingBatch_ends with ⟨_, _, ran, nothing⟩
      simp only [sampleBatches, ran, Option.map_some, Option.getD_some, nothing]
      decide

/-- Before the row of the file stands one whose channel offers no target. -/
def blockedSystem : DeletionSystem :=
  ⟨⟨[7, 8], ⟨[uploadedLifecycle, { uploadedLifecycle with id := 2, channelId := 8 }], by decide⟩,
    ⟨[{ dueDeletion with id := 2, lifecycleId := 2, nextAttemptAt := 40 * second }, dueDeletion],
      by decide⟩, [uploadedEvent]⟩, []⟩

def singleOptions : DeletionWorkerOptions :=
  { sampleWorkerOptions with
    settings := ⟨7, 1, 3, 30⟩
    batchSize := 1 }

/-- A batch whose calls all succeed leaves every outbox, although one of them is due and its target
is available. -/
theorem stuck_deletion_blocks :
    ∃ result later, Served sampleTargets (60 * second) 0 (runDeletionBatch singleOptions)
        blockedSystem result later ∧ (∃ row ∈ blockedSystem.db.dueRows (60 * second),
        row.available sampleTargets blockedSystem.db = true) ∧ ¬Changes blockedSystem later := by
  have accepted : singleOptions.Configured := by
    decide +kernel
  have ordered : blockedSystem.db.dueRows (60 * second) = blockedSystem.db.outboxes.rows := by
    rw [dueRows_of_sorted (by decide +kernel)]
    decide +kernel
  have listed : listedRows singleOptions blockedSystem.db (60 * second) =
      blockedSystem.db.outboxes.rows.take 1 := by
    rw [listedRows, if_pos accepted, ordered]
    rfl
  have done : ((processBatch singleOptions
      ⟨(blockedSystem.db.outboxes.rows.take 1).length, 0, 0, 0, 0, 0, 0⟩
      (blockedSystem.db.outboxes.rows.take 1)).runWith (DeletionSystem.perform 0)
        (WorkerCall.Serves sampleTargets (60 * second) 0)
        (List.replicate 5 { sampleWorkerChoice 'a' with target := none })
        ⟨blockedSystem.db, blockedSystem.history ++
          (blockedSystem.db.outboxes.rows.take 1).map fun row => ⟨0, row, .listed⟩⟩).isSome =
      true := by
    decide +kernel
  rcases Option.isSome_iff_exists.mp done with ⟨⟨result, later⟩, ran⟩
  have served : Served sampleTargets (60 * second) 0 (runDeletionBatch singleOptions)
      blockedSystem result later := by
    apply served_listing accepted (listDue_of_accepted accepted (by decide))
    rw [listed]
    exact Program.ends_of_runWith _ _ ran
  have single : blockedSystem.db.SingleOutboxes := by
    simp only [Database.SingleOutboxes]
    decide +kernel
  refine ⟨result, later, served, ?_, ?_⟩
  · rw [ordered]
    decide +kernel
  · rw [(runDeletionBatch_ends single served).changes_iff fun row isRow =>
      (mem_dueRows.mp (List.mem_of_mem_take (mem_listedRows isRow).2)).1, listed]
    decide +kernel

end NewApi.ProviderFile
