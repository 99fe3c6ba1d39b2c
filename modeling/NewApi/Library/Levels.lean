import Mathlib.Data.List.Dedup
import Mathlib.Data.List.Sort
import Mathlib.Order.MinMax

/-!
# Levels of a list

The different values of a list in descending order. Attempt number `index` uses the level with
that number, and the last one when there are not that many.
-/

namespace Levels

universe u

variable {Level : Type u} [LinearOrder Level]

def levels (vals : List Level) : List Level :=
  vals.dedup.insertionSort (· ≥ ·)

def levelAt (vals : List Level) (i : ℕ) : Option Level :=
  (levels vals)[min i ((levels vals).length - 1)]?

variable {vals others : List Level} {val : Level} {i : ℕ}

theorem mem_levels : val ∈ levels vals ↔ val ∈ vals := by
  simp [levels]

theorem levels_pairwise (vals : List Level) : (levels vals).Pairwise (· ≥ ·) :=
  List.pairwise_insertionSort _ _

theorem levels_nodup (vals : List Level) : (levels vals).Nodup :=
  (List.perm_insertionSort _ _).nodup_iff.mpr (List.nodup_dedup vals)

theorem levels_congr (same : ∀ val, val ∈ vals ↔ val ∈ others) :
    levels vals = levels others := by
  have perm : (levels vals).Perm (levels others) := by
    rw [List.perm_ext_iff_of_nodup (levels_nodup vals) (levels_nodup others)]
    intro val
    rw [mem_levels, mem_levels]
    exact same val
  exact perm.eq_of_pairwise (fun _ _ _ _ above below => le_antisymm below above)
    (levels_pairwise vals) (levels_pairwise others)

theorem levelAt_congr (same : ∀ val, val ∈ vals ↔ val ∈ others) (i : ℕ) :
    levelAt vals i = levelAt others i := by
  rw [levelAt, levelAt, levels_congr same]

theorem mem_of_levelAt (found : levelAt vals i = some val) : val ∈ vals :=
  mem_levels.mp (List.mem_of_getElem? found)

theorem exists_levelAt (occurs : val ∈ vals) : ∃ i, levelAt vals i = some val := by
  rcases List.mem_iff_getElem.mp (mem_levels.mpr occurs) with ⟨i, inRange, isValue⟩
  refine ⟨i, ?_⟩
  have small : min i ((levels vals).length - 1) = i := by omega
  rw [levelAt, small, List.getElem?_eq_getElem inRange, isValue]

theorem levelAt_of_ne_nil (filled : vals ≠ []) (i : ℕ) :
    ∃ val ∈ vals, levelAt vals i = some val := by
  have some : levels vals ≠ [] := by
    rcases List.exists_mem_of_ne_nil vals filled with ⟨_, occurs⟩
    exact List.ne_nil_of_mem (mem_levels.mpr occurs)
  have positive := List.length_pos_iff.mpr some
  have inRange : min i ((levels vals).length - 1) < (levels vals).length := by omega
  refine ⟨_, mem_levels.mp (List.getElem_mem inRange), ?_⟩
  rw [levelAt, List.getElem?_eq_getElem inRange]

theorem levelAt_zero (vals : List Level) : levelAt vals 0 = vals.max? := by
  cases isMax : vals.max? with
  | none =>
    rw [List.max?_eq_none_iff] at isMax
    subst isMax
    rfl
  | some greatest =>
    rcases List.max?_eq_some_iff.mp isMax with ⟨occurs, bounds⟩
    have descending := levels_pairwise vals
    have members : ∀ val, val ∈ levels vals ↔ val ∈ vals := fun _ => mem_levels
    simp only [levelAt, Nat.zero_min]
    generalize levels vals = sorted at descending members
    cases sorted with
    | nil => exact absurd ((members greatest).mpr occurs) List.not_mem_nil
    | cons first _ =>
      have firstBelow := bounds first ((members first).mp List.mem_cons_self)
      rcases List.mem_cons.mp ((members greatest).mpr occurs) with isFirst | isIn
      · rw [isFirst, List.getElem?_cons_zero]
      · have above := List.rel_of_pairwise_cons descending isIn
        rw [List.getElem?_cons_zero, le_antisymm firstBelow above]

theorem mem_iff_of_levelAt (same : ∀ i, levelAt vals i = levelAt others i) :
    val ∈ vals ↔ val ∈ others := by
  constructor
  · intro occurs
    rcases exists_levelAt occurs with ⟨i, found⟩
    rw [same] at found
    exact mem_of_levelAt found
  · intro occurs
    rcases exists_levelAt occurs with ⟨_, found⟩
    rw [← same] at found
    exact mem_of_levelAt found

end Levels
