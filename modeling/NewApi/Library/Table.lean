import Mathlib.Algebra.BigOperators.Group.List.Basic
import Mathlib.Data.List.Nodup
import Mathlib.Order.Lattice
import Mathlib.Tactic.Abel

/-!
# Keyed tables

A table is a list of rows with pairwise different primary keys. Reading, updating and inserting
are related by `find?`, and by `total`, the sum of a quantity over all rows.
-/

namespace Relational

universe u v w

/-- Rows with a primary key. -/
class Keyed (Row : Type u) (Key : outParam (Type v)) where
  key : Row → Key

/-- Rows of distinct keys. -/
structure Table (Row : Type u) {Key : Type v} [Keyed Row Key] where
  rows : List Row
  keys_nodup : (rows.map Keyed.key).Nodup

/-- A change of a row that keeps its key. -/
structure RowUpdate (Row : Type u) {Key : Type v} [Keyed Row Key] where
  apply : Row → Row
  key_apply : ∀ row, Keyed.key (apply row) = Keyed.key row

/-- A table after an update, and the number of rows that were met. -/
structure UpdateResult (Row : Type u) {Key : Type v} [Keyed Row Key] where
  table : Table Row
  rowsAffected : ℕ

namespace Table

variable {Row : Type u} {Key : Type v} [Keyed Row Key]

@[ext]
theorem ext {left right : Table Row} (rowsEq : left.rows = right.rows) : left = right := by
  cases left
  cases right
  simp only at rowsEq
  subst rowsEq
  rfl

def empty : Table Row :=
  ⟨[], List.nodup_nil⟩

section Lookup

variable [DecidableEq Key]

def find? (table : Table Row) (key : Key) : Option Row :=
  table.rows.find? fun row => Keyed.key row = key

variable {table : Table Row} {key : Key} {row : Row}

theorem mem_of_find? (found : table.find? key = some row) : row ∈ table.rows :=
  List.mem_of_find?_eq_some found

theorem key_of_find? (found : table.find? key = some row) : Keyed.key row = key := by
  simpa using List.find?_some found

theorem find?_of_mem (stored : row ∈ table.rows) : table.find? (Keyed.key row) = some row := by
  obtain ⟨rows, nodup⟩ := table
  simp only [find?] at *
  induction rows with
  | nil => simp at stored
  | cons head _ ih =>
    simp only [List.map_cons, List.nodup_cons] at nodup
    rcases List.mem_cons.mp stored with rfl | storedTail
    · simp
    · have apart : Keyed.key head ≠ Keyed.key row := by
        intro same
        exact nodup.1 (same ▸ List.mem_map_of_mem storedTail)
      simp [apart, ih nodup.2 storedTail]

/-- A key has one row. -/
theorem eq_of_find? {other : Row} (found : table.find? key = some row)
    (stored : other ∈ table.rows) (same : Keyed.key other = key) : other = row := by
  have foundOther := find?_of_mem stored
  rw [same, found] at foundOther
  exact (Option.some.inj foundOther).symm

theorem find?_eq_some_iff :
    table.find? key = some row ↔ row ∈ table.rows ∧ Keyed.key row = key := by
  constructor
  · intro found
    exact ⟨mem_of_find? found, key_of_find? found⟩
  · rintro ⟨stored, rfl⟩
    exact find?_of_mem stored

end Lookup

section Update

variable [DecidableEq Key]

theorem map_key_change (rows : List Row) (key : Key) (change : RowUpdate Row) :
    (rows.map fun row => if Keyed.key row = key then change.apply row else row).map Keyed.key =
      rows.map Keyed.key := by
  rw [List.map_map]
  apply List.map_congr_left
  intro row _
  by_cases chosen : Keyed.key row = key
  · simp [chosen, change.key_apply]
  · simp [chosen]

def modify (table : Table Row) (key : Key) (change : RowUpdate Row) : Table Row where
  rows := table.rows.map fun row => if Keyed.key row = key then change.apply row else row
  keys_nodup := by
    rw [map_key_change]
    exact table.keys_nodup

/-- `UPDATE ... WHERE key = ? AND guard`. -/
def updateWhere (table : Table Row) (key : Key) (guard : Row → Bool)
    (change : RowUpdate Row) : UpdateResult Row :=
  match table.find? key with
  | some row =>
    if guard row then ⟨table.modify key change, 1⟩ else ⟨table, 0⟩
  | none => ⟨table, 0⟩

theorem updateWhere_cases (table : Table Row) (key : Key) (guard : Row → Bool)
    (change : RowUpdate Row) :
    table.updateWhere key guard change = ⟨table, 0⟩ ∨
      ∃ row, table.find? key = some row ∧ guard row = true ∧
        table.updateWhere key guard change = ⟨table.modify key change, 1⟩ := by
  unfold updateWhere
  cases found : table.find? key with
  | none => exact .inl rfl
  | some row =>
    cases holds : guard row with
    | false => exact .inl (by simp [holds])
    | true => exact .inr ⟨row, rfl, holds, by simp [holds]⟩

variable {table : Table Row} {key : Key} {guard : Row → Bool} {change : RowUpdate Row} {row : Row}

theorem updateWhere_affected (hits : (table.updateWhere key guard change).rowsAffected = 1) :
    ∃ row, table.find? key = some row ∧ guard row = true ∧
      (table.updateWhere key guard change).table = table.modify key change := by
  rcases table.updateWhere_cases key guard change with kept | ⟨row, found, holds, moved⟩
  · simp [kept] at hits
  · exact ⟨row, found, holds, by rw [moved]⟩

theorem updateWhere_of_find? (found : table.find? key = some row) (holds : guard row = true) :
    table.updateWhere key guard change = ⟨table.modify key change, 1⟩ := by
  simp [updateWhere, found, holds]

theorem find?_modify_self (table : Table Row) (key : Key) (change : RowUpdate Row) :
    (table.modify key change).find? key = (table.find? key).map change.apply := by
  obtain ⟨rows, nodup⟩ := table
  simp only [find?, modify]
  clear nodup
  induction rows with
  | nil => rfl
  | cons head _ ih =>
    by_cases chosen : Keyed.key head = key
    · simp [chosen, change.key_apply]
    · simpa [chosen] using ih

theorem find?_modify_ne (table : Table Row) {other : Key} (apart : other ≠ key)
    (change : RowUpdate Row) : (table.modify key change).find? other = table.find? other := by
  obtain ⟨rows, nodup⟩ := table
  simp only [find?, modify]
  clear nodup
  induction rows with
  | nil => rfl
  | cons head _ ih =>
    by_cases chosen : Keyed.key head = key
    · have headOther : Keyed.key head ≠ other := by
        rw [chosen]
        exact apart.symm
      simpa [chosen, change.key_apply, apart.symm] using ih
    · simp only [List.map_cons, if_neg chosen, List.find?_cons]
      cases decide (Keyed.key head = other) with
      | true => rfl
      | false => exact ih

theorem mem_modify :
    row ∈ (table.modify key change).rows ↔
      (∃ old ∈ table.rows, Keyed.key old = key ∧ row = change.apply old) ∨
        (row ∈ table.rows ∧ Keyed.key row ≠ key) := by
  simp only [modify, List.mem_map]
  constructor
  · rintro ⟨old, stored, rfl⟩
    by_cases chosen : Keyed.key old = key
    · left
      exact ⟨old, stored, chosen, by simp [chosen]⟩
    · right
      simp only [if_neg chosen]
      exact ⟨stored, chosen⟩
  · rintro (⟨old, stored, chosen, rfl⟩ | ⟨stored, chosen⟩)
    · exact ⟨old, stored, by simp [chosen]⟩
    · exact ⟨row, stored, by simp [chosen]⟩

theorem filter_modify {selects : Row → Bool}
    (keeps : ∀ row ∈ table.rows, Keyed.key row = key → selects (change.apply row) = selects row) :
    (table.modify key change).rows.filter selects = (table.rows.filter selects).map
        fun row => if Keyed.key row = key then change.apply row else row := by
  simp only [modify, List.filter_map]
  congr 1
  apply List.filter_congr
  intro row stored
  by_cases chosen : Keyed.key row = key
  · simp [chosen, keeps row stored chosen]
  · simp [chosen]

/-- `UPDATE ... WHERE guard`, over any number of rows. -/
def updateAll (table : Table Row) (guard : Row → Bool) (change : RowUpdate Row) :
    UpdateResult Row where
  table :=
    { rows := table.rows.map fun row => if guard row then change.apply row else row
      keys_nodup := by
        have same : (table.rows.map fun row => if guard row then change.apply row else row).map
            Keyed.key = table.rows.map Keyed.key := by
          rw [List.map_map]
          apply List.map_congr_left
          intro row _
          simp only [Function.comp_apply]
          split
          · exact change.key_apply row
          · rfl
        rw [same]
        exact table.keys_nodup }
  rowsAffected := table.rows.countP guard

theorem find?_updateAll (table : Table Row) (guard : Row → Bool) (change : RowUpdate Row)
    (key : Key) : (table.updateAll guard change).table.find? key =
      (table.find? key).map fun row => if guard row then change.apply row else row := by
  simp only [find?, updateAll, List.find?_map]
  congr 1
  apply congrArg fun selects => table.rows.find? selects
  funext row
  simp only [Function.comp_apply]
  split
  · rw [change.key_apply]
  · rfl

omit [DecidableEq Key] in
theorem mem_updateAll : row ∈ (table.updateAll guard change).table.rows ↔
      (row ∈ table.rows ∧ guard row = false) ∨
        ∃ old ∈ table.rows, guard old = true ∧ row = change.apply old := by
  simp only [updateAll, List.mem_map]
  constructor
  · rintro ⟨old, stored, rfl⟩
    cases chosen : guard old with
    | false => exact .inl ⟨stored, chosen⟩
    | true => exact .inr ⟨old, stored, chosen, rfl⟩
  · rintro (⟨stored, chosen⟩ | ⟨old, stored, chosen, rfl⟩)
    · exact ⟨row, stored, by simp [chosen]⟩
    · exact ⟨old, stored, by simp [chosen]⟩

theorem updateWhere_table (table : Table Row) (key : Key) (guard : Row → Bool)
    (change : RowUpdate Row) : (table.updateWhere key guard change).table =
      (table.updateAll (fun row => Keyed.key row = key && guard row) change).table := by
  apply ext
  rcases table.updateWhere_cases key guard change with kept | ⟨row, found, holds, moved⟩
  · rw [kept]
    simp only [updateAll]
    nth_rewrite 1 [← List.map_id table.rows]
    apply List.map_congr_left
    intro row stored
    simp only [id_eq, Bool.and_eq_true, decide_eq_true_eq]
    by_cases chosen : Keyed.key row = key ∧ guard row = true
    · have found := find?_of_mem stored
      rw [chosen.1] at found
      rw [updateWhere_of_find? found chosen.2] at kept
      cases congrArg UpdateResult.rowsAffected kept
    · simp [chosen]
  · rw [moved]
    simp only [modify, updateAll]
    apply List.map_congr_left
    intro other stored
    by_cases chosen : Keyed.key other = key
    · have same := find?_of_mem stored
      rw [chosen, found, Option.some.injEq] at same
      subst same
      simp [chosen, holds]
    · simp [chosen]

/-- `DELETE ... WHERE guard`. -/
def deleteAll (table : Table Row) (guard : Row → Bool) : Table Row where
  rows := table.rows.filter fun row => !guard row
  keys_nodup := table.keys_nodup.sublist (List.filter_sublist.map Keyed.key)

theorem find?_deleteAll (table : Table Row) (guard : Row → Bool) (key : Key) :
    (table.deleteAll guard).find? key = (table.find? key).filter fun row => !guard row := by
  cases found : table.find? key with
  | none =>
    rw [Option.filter_none, find?, List.find?_eq_none]
    intro row inRows
    rw [find?, List.find?_eq_none] at found
    exact found row (List.mem_of_mem_filter inRows)
  | some row =>
    have isRow := find?_eq_some_iff.mp found
    by_cases deleted : guard row = true
    · rw [Option.filter_some_neg (by simp [deleted]), find?, List.find?_eq_none]
      intro _ inRows
      have otherKept := List.mem_filter.mp inRows
      simp only [decide_eq_true_eq]
      intro sameKey
      have isOther := find?_of_mem otherKept.1
      rw [sameKey, found, Option.some.injEq] at isOther
      subst isOther
      simp [deleted] at otherKept
    · rw [Option.filter_some_pos (by simpa using deleted), find?_eq_some_iff]
      exact ⟨List.mem_filter.mpr ⟨isRow.1, by simpa using deleted⟩, isRow.2⟩

/-- `INSERT` under a key of its own, refused when the key is taken. -/
def insertOwn (table : Table Row) (row : Row) : Option (Table Row) :=
  if free : table.find? (Keyed.key row) = none then
    some
      { rows := table.rows ++ [row]
        keys_nodup := by
          rw [List.map_append, List.nodup_append]
          refine ⟨table.keys_nodup, by simp, ?_⟩
          intro key inTable other inNew sameKey
          simp only [List.map_cons, List.map_nil, List.mem_singleton] at inNew
          rcases List.mem_map.mp inTable with ⟨stored, inRows, rfl⟩
          have found := find?_of_mem inRows
          rw [sameKey, inNew, free] at found
          cases found }
  else none

theorem insertOwn_some {inserted : Table Row} (inserts : table.insertOwn row = some inserted) :
    table.find? (Keyed.key row) = none ∧ inserted.rows = table.rows ++ [row] := by
  simp only [insertOwn] at inserts
  split at inserts
  next free =>
    rw [Option.some.injEq] at inserts
    rw [← inserts]
    exact ⟨free, rfl⟩
  · cases inserts

theorem find?_insertOwn {inserted : Table Row}
    (inserts : table.insertOwn row = some inserted) (key : Key) :
    inserted.find? key = if key = Keyed.key row then some row else table.find? key := by
  rcases insertOwn_some inserts with ⟨_, rows⟩
  by_cases same : key = Keyed.key row
  · rw [if_pos same, find?_eq_some_iff, rows]
    exact ⟨List.mem_append_right _ List.mem_cons_self, same.symm⟩
  · rw [if_neg same, find?, rows, List.find?_append]
    simp [find?, Ne.symm same]

end Update

section Map

variable {Image : Type w} [Keyed Image Key]

/-- The rows as `view` shows them, under the same keys. -/
def map (table : Table Row) (view : Row → Image)
    (key_view : ∀ row, Keyed.key (view row) = Keyed.key row) : Table Image where
  rows := table.rows.map view
  keys_nodup := by
    rw [List.map_map]
    simp only [Function.comp_def, key_view]
    exact table.keys_nodup

theorem find?_map [DecidableEq Key] (table : Table Row) (view : Row → Image)
    (key_view : ∀ row, Keyed.key (view row) = Keyed.key row) (key : Key) :
    (table.map view key_view).find? key = (table.find? key).map view := by
  simp only [find?, map, List.find?_map, Function.comp_def, key_view]

theorem map_modify [DecidableEq Key] (table : Table Row) (view : Row → Image)
    (key_view : ∀ row, Keyed.key (view row) = Keyed.key row) {change : RowUpdate Row}
    {imageChange : RowUpdate Image}
    (commutes : ∀ row, view (change.apply row) = imageChange.apply (view row)) (key : Key) :
    (table.modify key change).map view key_view =
      (table.map view key_view).modify key imageChange := by
  apply ext
  simp only [map, modify, List.map_map]
  apply List.map_congr_left
  intro row _
  simp only [Function.comp_def, key_view]
  by_cases chosen : Keyed.key row = key
  · simp only [chosen, if_true, commutes]
  · simp only [chosen, if_false]

theorem updateWhere_map [DecidableEq Key] (table : Table Row) (view : Row → Image)
    (key_view : ∀ row, Keyed.key (view row) = Keyed.key row) {key : Key} {guard : Row → Bool}
    {imageGuard : Image → Bool} {change : RowUpdate Row} {imageChange : RowUpdate Image}
    (commutes : ∀ row, view (change.apply row) = imageChange.apply (view row))
    (guards : ∀ row, table.find? key = some row → imageGuard (view row) = guard row) :
    (table.map view key_view).updateWhere key imageGuard imageChange =
      ⟨(table.updateWhere key guard change).table.map view key_view,
        (table.updateWhere key guard change).rowsAffected⟩ := by
  unfold updateWhere
  rw [find?_map]
  cases found : table.find? key with
  | none => rfl
  | some row =>
    simp only [Option.map_some, guards row found]
    cases guard row with
    | false => rfl
    | true =>
      simp only [if_true]
      rw [map_modify table view key_view commutes]

end Map

section Total

variable {Amount : Type w} [AddCommGroup Amount]

def total (table : Table Row) (quantity : Row → Amount) : Amount :=
  (table.rows.map quantity).sum

theorem total_modify [DecidableEq Key] {table : Table Row} {key : Key} {row : Row}
    (found : table.find? key = some row) (change : RowUpdate Row) (quantity : Row → Amount) :
    (table.modify key change).total quantity =
      table.total quantity + (quantity (change.apply row) - quantity row) := by
  obtain ⟨rows, nodup⟩ := table
  simp only [find?, total, modify] at *
  induction rows with
  | nil => simp at found
  | cons head tail ih =>
    simp only [List.map_cons, List.nodup_cons] at nodup
    by_cases chosen : Keyed.key head = key
    · have headEq : head = row := by simpa [chosen] using found
      have untouched : (tail.map fun other =>
          if Keyed.key other = key then change.apply other else other) = tail := by
        nth_rewrite 2 [← List.map_id tail]
        apply List.map_congr_left
        intro other stored
        have apart : Keyed.key other ≠ key := by
          intro same
          exact nodup.1 (chosen ▸ same ▸ List.mem_map_of_mem stored)
        simp [apart]
      subst headEq
      simp only [List.map_cons, chosen, if_true, untouched, List.sum_cons]
      abel
    · have foundTail : tail.find? (fun other => Keyed.key other = key) = some row := by
        simpa [List.find?_cons, chosen] using found
      have tailTotal := ih nodup.2 foundTail
      simp only [List.map_cons, chosen, if_false, List.sum_cons, tailTotal]
      abel

end Total

section Insert

variable {Entry : Type u} [Keyed Entry ℤ]

def nextKey (table : Table Entry) : ℤ :=
  (table.rows.map Keyed.key).foldr max 0 + 1

theorem key_lt_nextKey {table : Table Entry} {row : Entry} (stored : row ∈ table.rows) :
    Keyed.key row < table.nextKey := by
  have bounded : ∀ keys : List ℤ, ∀ key ∈ keys, key ≤ keys.foldr max 0 := by
    intro keys
    induction keys with
    | nil => simp
    | cons _ _ ih =>
      intro key inKeys
      simp only [List.foldr_cons]
      rcases List.mem_cons.mp inKeys with rfl | inTail
      · exact le_max_left _ _
      · exact le_trans (ih key inTail) (le_max_right _ _)
  have := bounded _ _ (List.mem_map_of_mem (f := Keyed.key) stored)
  unfold nextKey
  omega

theorem nextKey_pos (table : Table Entry) : 0 < table.nextKey := by
  have nonneg : ∀ keys : List ℤ, 0 ≤ keys.foldr max 0 := by
    intro keys
    induction keys with
    | nil => simp
    | cons _ _ ih =>
      exact le_trans ih (le_max_right _ _)
  have := nonneg (table.rows.map Keyed.key)
  unfold nextKey
  omega

def insert (table : Table Entry) (build : ℤ → Entry)
    (key_build : ∀ key, Keyed.key (build key) = key) : Table Entry where
  rows := table.rows ++ [build table.nextKey]
  keys_nodup := by
    rw [List.map_append, List.nodup_append]
    refine ⟨table.keys_nodup, by simp, ?_⟩
    intro key inTable other inNew
    simp only [List.map_cons, List.map_nil, List.mem_singleton, key_build] at inNew
    rcases List.mem_map.mp inTable with ⟨row, stored, rfl⟩
    have := key_lt_nextKey stored
    omega

variable {table : Table Entry} {build : ℤ → Entry} {key_build : ∀ key, Keyed.key (build key) = key}

theorem find?_insert_new (key_build : ∀ key, Keyed.key (build key) = key) :
    (table.insert build key_build).find? table.nextKey = some (build table.nextKey) := by
  rw [find?_eq_some_iff]
  exact ⟨by simp [insert], key_build _⟩

theorem find?_insert_old (key_build : ∀ key, Keyed.key (build key) = key) {key : ℤ} {row : Entry}
    (found : table.find? key = some row) :
    (table.insert build key_build).find? key = some row := by
  rw [find?_eq_some_iff] at found ⊢
  exact ⟨by simp [insert, found.1], found.2⟩

theorem mem_insert {row : Entry} :
    row ∈ (table.insert build key_build).rows ↔
      row ∈ table.rows ∨ row = build table.nextKey := by
  simp [insert]

theorem total_insert {Amount : Type w} [AddCommGroup Amount] (quantity : Entry → Amount) :
    (table.insert build key_build).total quantity =
      table.total quantity + quantity (build table.nextKey) := by
  simp [total, insert]

end Insert

end Table

end Relational
