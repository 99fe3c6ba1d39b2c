import Mathlib.Data.List.Sort

/-!
# Stable sorting by a key

A stable sort orders items by a key and leaves items with the same key as they came. Two lists are
sorted alike exactly when they agree on the items of every key.
-/

namespace StableSort

variable {α β : Type*} [LinearOrder β] (key : α → β) {items left right : List α}

def sliceStable (less : α → α → Bool) (items : List α) : List α :=
  items.insertionSort fun first two => ¬less two first

def sortBy (items : List α) : List α :=
  items.insertionSort fun first two => key first ≤ key two

theorem sliceStable_eq {less : α → α → Bool}
    (isLess : ∀ first two, less first two = decide (key first < key two)) :
    sliceStable less items = sortBy key items := by
  have sameOrder : (fun first two : α => ¬less two first) =
      fun first two => key first ≤ key two := by
    funext first two
    simp only [isLess, decide_eq_true_eq, not_lt]
  simp only [sliceStable, sortBy, sameOrder]

theorem sortBy_perm : (sortBy key items).Perm items :=
  List.perm_insertionSort _ _

theorem sortBy_sorted : (sortBy key items).Pairwise fun first two => key first ≤ key two := by
  have total : Std.Total fun first two : α => key first ≤ key two :=
    ⟨fun first two => le_total (key first) (key two)⟩
  have trans : IsTrans α fun first two => key first ≤ key two :=
    ⟨fun _ _ _ lower upper => le_trans lower upper⟩
  exact List.pairwise_insertionSort _ items

theorem filter_sortBy (val : β) :
    (sortBy key items).filter (key · = val) = items.filter (key · = val) := by
  have sorted : (items.filter (key · = val)).Pairwise fun first two => key first ≤ key two := by
    apply List.pairwise_of_forall_mem_list
    intro first firstMem two secondMem
    have firstKey : key first = val := by simpa using (List.mem_filter.mp firstMem).2
    have secondKey : key two = val := by simpa using (List.mem_filter.mp secondMem).2
    exact le_of_eq (firstKey.trans secondKey.symm)
  have kept : (items.filter (key · = val)).Sublist (sortBy key items) :=
    List.sublist_insertionSort sorted List.filter_sublist
  have inside := kept.filter (key · = val)
  rw [List.filter_filter] at inside
  simp only [Bool.and_self] at inside
  apply (inside.eq_of_length _).symm
  exact ((sortBy_perm key).filter _).length_eq.symm

/-- Two sorted lists with the same ties in the same order are equal. -/
theorem eq_of_sorted (leftSorted : left.Pairwise fun first two => key first ≤ key two)
    (rightSorted : right.Pairwise fun first two => key first ≤ key two)
    (ties : ∀ val, left.filter (key · = val) = right.filter (key · = val)) :
    left = right := by
  induction left generalizing right with
  | nil =>
    cases right with
    | nil => rfl
    | cons first _ =>
      have none := ties (key first)
      simp at none
  | cons first rest ih =>
    cases right with
    | nil =>
      have none := ties (key first)
      simp at none
    | cons other others =>
      rw [List.pairwise_cons] at leftSorted rightSorted
      have firstMem : first ∈ other :: others := by
        have mem : first ∈ (first :: rest).filter (key · = key first) := by simp
        rw [ties] at mem
        exact (List.mem_filter.mp mem).1
      have otherMem : other ∈ first :: rest := by
        have mem : other ∈ (other :: others).filter (key · = key other) := by simp
        rw [← ties] at mem
        exact (List.mem_filter.mp mem).1
      have otherLe : key other ≤ key first := by
        rcases List.mem_cons.mp firstMem with same | mem
        · exact le_of_eq (congrArg key same.symm)
        · exact rightSorted.1 first mem
      have firstLe : key first ≤ key other := by
        rcases List.mem_cons.mp otherMem with same | mem
        · exact le_of_eq (congrArg key same.symm)
        · exact leftSorted.1 other mem
      have sameKey : key other = key first := le_antisymm otherLe firstLe
      have heads := ties (key first)
      simp only [sameKey, List.filter_cons, decide_true, if_true, List.cons.injEq] at heads
      rcases heads with ⟨sameFirst, -⟩
      subst sameFirst
      have restTies : ∀ val, rest.filter (key · = val) = others.filter (key · = val) := by
        intro val
        have whole := ties val
        simp only [List.filter_cons] at whole
        split at whole
        · exact (List.cons.inj whole).2
        · exact whole
      rw [ih leftSorted.2 rightSorted.2 restTies]

theorem sortBy_eq_iff :
    sortBy key left = sortBy key right ↔
      ∀ val, left.filter (key · = val) = right.filter (key · = val) := by
  constructor
  · intro same _
    rw [← filter_sortBy key, same, filter_sortBy key]
  · intro ties
    apply eq_of_sorted key (sortBy_sorted key) (sortBy_sorted key)
    intro val
    rw [filter_sortBy key, filter_sortBy key]
    exact ties val

end StableSort
