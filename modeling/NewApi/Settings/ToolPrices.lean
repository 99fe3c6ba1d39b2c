import Mathlib.Data.Char
import Mathlib.Data.List.Lex
import Mathlib.Data.Prod.Lex
import Mathlib.Algebra.Order.Field.Rat
import NewApi.Library.Split
import NewApi.Library.StableSort

/-!
# The index of the tool prices

Built-in and operator prices are merged by their keys. A key `tool:start` or `tool:start*` sets
the price of a tool for the models that start so, a key without colon the default of a tool.
-/

namespace NewApi.OperationSetting

def seedHardcodedToolPrices : List (String × ℚ) :=
  [("web_search", 10), ("web_search_preview", 10), ("file_search", 5 / 2), ("google_search", 14),
    ("image_generation", 150), ("web_search_preview:gpt-4o*", 25),
    ("web_search_preview:gpt-4.1*", 25), ("web_search_preview:gpt-4o-mini*", 25),
    ("web_search_preview:gpt-4.1-mini*", 25)]

def isValidToolPrice (price : ℚ) : Bool :=
  0 ≤ price

/-- `merged[key] = price`. -/
def assign (merged : List (String × ℚ)) (entry : String × ℚ) : List (String × ℚ) :=
  entry :: merged.filter (·.1 ≠ entry.1)

def mergeToolPrices (operator : List (String × ℚ)) : List (String × ℚ) :=
  (operator.filter fun entry => isValidToolPrice entry.2).foldl assign seedHardcodedToolPrices

/-- A price for the models that start with a text. -/
structure PrefixEntry where
  start : String
  price : ℚ

/-- The index that prices are looked up in. -/
structure ToolPriceIndex where
  defaults : String → Option ℚ
  prefixes : String → List PrefixEntry

/-- What is before the first colon and what is after it. -/
def cutColon : List Char → Option (List Char × List Char)
  | [] => none
  | character :: rest =>
    if character = ':' then some ([], rest)
    else (cutColon rest).map fun (front, back) => (character :: front, back)

/-- The tool and the start of the models of a key with a colon. -/
def splitToolKey (key : String) : Option (String × String) :=
  (cutColon key.toList).map fun (toolName, modelPart) =>
    (String.ofList toolName, Text.trimSuffix (String.ofList modelPart) "*")

def ToolPriceIndex.add (index : ToolPriceIndex) (entry : String × ℚ) : ToolPriceIndex :=
  match splitToolKey entry.1 with
  | none => { index with defaults := Function.update index.defaults entry.1 (some entry.2) }
  | some (tool, start) =>
    { index with
      prefixes := Function.update index.prefixes tool (index.prefixes tool ++ [⟨start, entry.2⟩]) }

/-- The longer start comes first. -/
def less (left right : String) : Bool :=
  if left.utf8ByteSize = right.utf8ByteSize then left.toList < right.toList
  else right.utf8ByteSize < left.utf8ByteSize

/-- What `sort.Slice` may do with a slice: entries that are not less than each other come in any
order. -/
structure SliceSort where
  sort : List PrefixEntry → List PrefixEntry
  perm : ∀ entries, (sort entries).Perm entries
  sorted : ∀ entries, (sort entries).Pairwise fun left right =>
    less right.start left.start = false

def rebuildToolPriceIndex (slices : SliceSort) (merged : List (String × ℚ)) : ToolPriceIndex :=
  let index := merged.foldl ToolPriceIndex.add ⟨fun _ => none, fun _ => []⟩
  { index with prefixes := fun tool => slices.sort (index.prefixes tool) }

def getToolPriceForModel (index : ToolPriceIndex) (toolName modelName : String) : ℚ :=
  match if modelName = "" then none
    else (index.prefixes toolName).find? fun entry => Text.hasPrefix modelName entry.start with
  | some entry => entry.price
  | none => (index.defaults toolName).getD 0

/-! ## What is documented -/

/-- The map of an operator, as one iteration lists it. -/
structure OperatorPrices where
  entries : List (String × ℚ)
  nodup : (entries.map Prod.fst).Nodup
  valid : ∀ entry ∈ entries, isValidToolPrice entry.2 = true

/-- The key sets the price of the tool for the models with the start. -/
def Overrides (tool start key : String) : Prop :=
  ':' ∉ tool.toList ∧ ∃ part, key.toList = tool.toList ++ ':' :: part ∧
    (part = start.toList ++ ['*'] ∨ part = start.toList ∧ ¬['*'] <:+ part)

/-- The orders in which the maps are iterated, and the sort of the slices. -/
structure Rebuild (prices : OperatorPrices) where
  operator : List (String × ℚ)
  operator_perm : operator.Perm prices.entries
  merged : List (String × ℚ)
  merged_perm : merged.Perm (mergeToolPrices operator)
  slices : SliceSort

abbrev Rebuild.index {prices : OperatorPrices} (rebuild : Rebuild prices) : ToolPriceIndex :=
  rebuildToolPriceIndex rebuild.slices rebuild.merged

namespace OperatorPrices

variable (prices : OperatorPrices) (tool model : String)

/-- A price is set for the key, or built in for a key that is not set. -/
def Configured (key : String) (price : ℚ) : Prop :=
  (key, price) ∈ prices.entries ∨
    (key, price) ∈ seedHardcodedToolPrices ∧ key ∉ prices.entries.map Prod.fst

def Prefixed (start : String) (price : ℚ) : Prop :=
  ∃ key, prices.Configured key price ∧ Overrides tool start key

def Default (price : ℚ) : Prop :=
  ':' ∉ tool.toList ∧ prices.Configured tool price

/-- The default of a tool, else zero. -/
def Fallback (price : ℚ) : Prop :=
  prices.Default tool price ∨ (∀ other, ¬prices.Default tool other) ∧ price = 0

/-- The longest start of the model that is configured for the tool. -/
structure Longest (start : String) : Prop where
  starts : start.toList <+: model.toList
  configured : ∃ price, prices.Prefixed tool start price
  longest : ∀ other price, prices.Prefixed tool other price →
    other.toList <+: model.toList → other.utf8ByteSize ≤ start.utf8ByteSize

/-- The price of the longest prefix, and without one the fallback. -/
def Documented (price : ℚ) : Prop :=
  (∃ start, prices.Longest tool model start ∧ prices.Prefixed tool start price) ∨
    (∀ start, ¬prices.Longest tool model start) ∧ prices.Fallback tool price

/-- Every rebuild gives the documented price, and all give the same. -/
def LookedUp : Prop :=
  (∀ rebuild : Rebuild prices,
      prices.Documented tool model (getToolPriceForModel rebuild.index tool model)) ∧
    ∀ one two : Rebuild prices, getToolPriceForModel one.index tool model =
      getToolPriceForModel two.index tool model

/-- The spellings of the longest start agree, and without a model the empty start has the price
of the default. -/
structure Unambiguous : Prop where
  spelledAlike : model ≠ "" → ∀ start one two, prices.Longest tool model start →
    prices.Prefixed tool start one → prices.Prefixed tool start two → one = two
  named : model = "" → ∀ price, prices.Prefixed tool "" price →
    ∃ other, prices.Prefixed tool "" other ∧ prices.Fallback tool other

end OperatorPrices

/-! ## Keys -/

variable {prices : OperatorPrices} {tool model : String} {price other : ℚ}

theorem cutColon_eq_some_iff {text front back : List Char} :
    cutColon text = some (front, back) ↔ ':' ∉ front ∧ text = front ++ ':' :: back := by
  induction text generalizing front with
  | nil => simp [cutColon]
  | cons character rest ih =>
    rw [cutColon]
    split
    next colon => cases front <;> grind
    next other =>
      cases front with
      | nil => simp [other]
      | cons first front => simp [Prod.ext_iff] at ih ⊢; grind

theorem splitToolKey_eq_none_iff : splitToolKey tool = none ↔ ':' ∉ tool.toList := by
  rw [splitToolKey, Option.map_eq_none_iff, Option.eq_none_iff_forall_ne_some]
  constructor
  · intro uncut isIn
    rcases List.eq_append_cons_of_mem isIn with ⟨front, back, isText, first⟩
    exact uncut (front, back) (cutColon_eq_some_iff.mpr ⟨first, isText⟩)
  · intro plain ⟨front, back⟩ isCut
    exact plain ((cutColon_eq_some_iff.mp isCut).2 ▸ by simp)

theorem trimStar_eq_iff {part : List Char} {start : String} :
    Text.trimSuffix (String.ofList part) "*" = start ↔
      part = start.toList ++ ['*'] ∨ part = start.toList ∧ ¬['*'] <:+ part := by
  have star : Text.hasSuffix (String.ofList part) "*" = true ↔ ['*'] <:+ part := by
    simp [Text.hasSuffix, List.isSuffixOf_iff_suffix]
  rw [Text.trimSuffix, ← String.toList_inj]
  split
  next starred =>
    rcases star.mp starred with ⟨front, rfl⟩
    simp
  next plain =>
    rw [star] at plain
    have notStarred : part ≠ start.toList ++ ['*'] := by
      rintro rfl
      exact plain (List.suffix_append _ _)
    simp [notStarred, plain]

theorem splitToolKey_eq_some_iff {start key : String} :
    splitToolKey key = some (tool, start) ↔ Overrides tool start key := by
  rw [splitToolKey, Option.map_eq_some_iff]
  constructor
  · rintro ⟨⟨front, part⟩, isCut, ⟨⟩⟩
    rcases cutColon_eq_some_iff.mp isCut with ⟨plain, isKey⟩
    rw [← String.toList_ofList (l := front)] at plain isKey
    exact ⟨plain, part, isKey, trimStar_eq_iff.mp rfl⟩
  · rintro ⟨plain, part, isKey, isPart⟩
    refine ⟨(tool.toList, part), cutColon_eq_some_iff.mpr ⟨plain, isKey⟩, ?_⟩
    simp only [trimStar_eq_iff.mpr isPart, String.ofList_toList]

/-! ## The merged map -/

theorem mem_assign {merged : List (String × ℚ)} {entry new : String × ℚ} :
    entry ∈ assign merged new ↔ entry = new ∨ entry ∈ merged ∧ entry.1 ≠ new.1 := by
  simp [assign]

/-- The last entry with a key stays, and the operator lists each key once. -/
theorem mem_foldl_assign {operator : List (String × ℚ)} (nodup : (operator.map Prod.fst).Nodup)
    (merged : List (String × ℚ)) (entry : String × ℚ) :
    entry ∈ operator.foldl assign merged ↔
      entry ∈ operator ∨ entry ∈ merged ∧ entry.1 ∉ operator.map Prod.fst := by
  induction operator generalizing merged with
  | nil => simp
  | cons head rest ih =>
    rw [List.map_cons, List.nodup_cons] at nodup
    rw [List.foldl_cons, ih nodup.2, mem_assign, List.mem_cons, List.map_cons, List.mem_cons]
    have kept : entry = head → entry.1 ∉ rest.map Prod.fst := by
      rintro rfl
      exact nodup.1
    tauto

theorem nodup_foldl_assign (operator : List (String × ℚ)) {merged : List (String × ℚ)}
    (nodup : (merged.map Prod.fst).Nodup) :
    ((operator.foldl assign merged).map Prod.fst).Nodup := by
  induction operator generalizing merged with
  | nil => exact nodup
  | cons head rest ih =>
    refine ih ?_
    rw [assign, List.map_cons, List.nodup_cons]
    refine ⟨by simp, nodup.sublist (List.filter_sublist.map _)⟩

/-! ## The index -/

def entryOf (tool : String) (entry : String × ℚ) : Option PrefixEntry :=
  (splitToolKey entry.1).bind fun (name, start) =>
    if name = tool then some ⟨start, entry.2⟩ else none

theorem prefixes_foldl (entries : List (String × ℚ)) (index : ToolPriceIndex) (tool : String) :
    (entries.foldl .add index).prefixes tool =
      index.prefixes tool ++ entries.filterMap (entryOf tool) := by
  induction entries generalizing index with
  | nil => simp
  | cons head rest ih =>
    rw [List.foldl_cons, ih, ToolPriceIndex.add, List.filterMap_cons, entryOf]
    split
    next unsplit => simp [unsplit]
    next name start split =>
      by_cases same : name = tool
      · subst same
        simp [split]
      · simp [split, same, Function.update_of_ne (Ne.symm same)]

theorem defaults_foldl {entries : List (String × ℚ)} (nodup : (entries.map Prod.fst).Nodup)
    (index : ToolPriceIndex) (tool : String) (price : ℚ) :
    (entries.foldl .add index).defaults tool = some price ↔
      (tool, price) ∈ entries ∧ splitToolKey tool = none ∨
        index.defaults tool = some price ∧
          (tool ∈ entries.map Prod.fst → splitToolKey tool ≠ none) := by
  induction entries generalizing index with
  | nil => simp
  | cons head rest ih =>
    rcases head with ⟨name, value⟩
    rw [List.map_cons, List.nodup_cons] at nodup
    rw [List.foldl_cons, ih nodup.2, ToolPriceIndex.add]
    by_cases same : tool = name
    · subst same
      have absent : (tool, price) ∉ rest :=
        fun isIn => nodup.1 (List.mem_map.mpr ⟨_, isIn, rfl⟩)
      split
      next unsplit => simp_all [eq_comm]
      next => simp_all
    · have others : (tool, price) ∈ (name, value) :: rest ↔ (tool, price) ∈ rest := by
        simp [same]
      rw [others, List.map_cons, List.mem_cons, or_iff_right same]
      split
      · simp only [Function.update_of_ne same]
      · rfl

/-! ## Lookups -/

namespace Rebuild

variable (rebuild : Rebuild prices)

theorem mem_merged {key : String} :
    (key, price) ∈ rebuild.merged ↔ prices.Configured key price := by
  have nodup : (rebuild.operator.map Prod.fst).Nodup :=
    (rebuild.operator_perm.map Prod.fst).nodup_iff.mpr prices.nodup
  have valid : (rebuild.operator.filter fun entry => isValidToolPrice entry.2) =
      rebuild.operator :=
    List.filter_eq_self.mpr fun entry isEntry =>
      prices.valid entry (rebuild.operator_perm.mem_iff.mp isEntry)
  rw [rebuild.merged_perm.mem_iff, mergeToolPrices, valid, mem_foldl_assign nodup,
    rebuild.operator_perm.mem_iff, (rebuild.operator_perm.map Prod.fst).mem_iff]
  rfl

theorem nodup_merged : (rebuild.merged.map Prod.fst).Nodup := by
  refine (rebuild.merged_perm.map Prod.fst).nodup_iff.mpr (nodup_foldl_assign _ ?_)
  decide

theorem mem_prefixes {entry : PrefixEntry} :
    entry ∈ rebuild.index.prefixes tool ↔
      prices.Prefixed tool entry.start entry.price := by
  rw [Rebuild.index, rebuildToolPriceIndex, (rebuild.slices.perm _).mem_iff, prefixes_foldl,
    List.nil_append, List.mem_filterMap]
  constructor
  · rintro ⟨⟨key, price⟩, isMerged, isEntry⟩
    simp only [entryOf, Option.bind_eq_some_iff, Option.ite_none_right_eq_some] at isEntry
    rcases isEntry with ⟨⟨name, start⟩, split, rfl, ⟨⟩⟩
    exact ⟨key, rebuild.mem_merged.mp isMerged, splitToolKey_eq_some_iff.mp split⟩
  · rintro ⟨key, configured, overrides⟩
    refine ⟨(key, entry.price), rebuild.mem_merged.mpr configured, ?_⟩
    simp [entryOf, splitToolKey_eq_some_iff.mpr overrides]

theorem fallback :
    prices.Fallback tool ((rebuild.index.defaults tool).getD 0) := by
  have isDefault : ∀ price, rebuild.index.defaults tool = some price ↔
        prices.Default tool price := by
    intro price
    rw [Rebuild.index, rebuildToolPriceIndex, defaults_foldl rebuild.nodup_merged,
      rebuild.mem_merged, splitToolKey_eq_none_iff]
    simp [OperatorPrices.Default, and_comm]
  cases found : rebuild.index.defaults tool with
  | none =>
    refine .inr ⟨?_, rfl⟩
    intro other isOther
    simp [(isDefault other).mpr isOther] at found
  | some price => exact .inl ((isDefault price).mp found)

/-- The first entry that fits the model has the longest start. -/
theorem longest_of_find? {entry : PrefixEntry} (found : (rebuild.index.prefixes tool).find?
      (fun entry => Text.hasPrefix model entry.start) = some entry) :
    prices.Longest tool model entry.start ∧ prices.Prefixed tool entry.start entry.price := by
  have stored := rebuild.mem_prefixes.mp (List.mem_of_find?_eq_some found)
  have sorted : (rebuild.index.prefixes tool).Pairwise fun left right =>
      less right.start left.start = false := rebuild.slices.sorted _
  rcases List.find?_eq_some_iff_append.mp found with ⟨fits, earlier, later, isList, unfit⟩
  refine ⟨⟨List.isPrefixOf_iff_prefix.mp fits, ⟨entry.price, stored⟩, ?_⟩, stored⟩
  intro other price isOther starts
  have isIn : ⟨other, price⟩ ∈ earlier ++ entry :: later :=
    isList ▸ rebuild.mem_prefixes.mpr isOther
  rcases List.mem_append.mp isIn with isEarlier | isLater
  · have notFits := unfit _ isEarlier
    rw [Text.hasPrefix, List.isPrefixOf_iff_prefix.mpr starts] at notFits
    cases notFits
  · rcases List.mem_cons.mp isLater with rfl | isLater
    · exact le_rfl
    · have order := (List.pairwise_cons.mp (List.pairwise_append.mp (isList ▸ sorted)).2.1).1 _
        isLater
      simp only [less] at order
      split at order
      next same => exact same.le
      next => simpa using order

theorem documented (named : model ≠ "") :
    prices.Documented tool model (getToolPriceForModel rebuild.index tool model) := by
  rw [getToolPriceForModel, if_neg named]
  split
  next entry found => exact .inl ⟨entry.start, rebuild.longest_of_find? found⟩
  next missing =>
    refine .inr ⟨?_, rebuild.fallback⟩
    rintro start ⟨starts, ⟨price, configured⟩, _⟩
    have unfit := List.find?_eq_none.mp missing ⟨start, price⟩ (rebuild.mem_prefixes.mpr configured)
    rw [Text.hasPrefix, List.isPrefixOf_iff_prefix.mpr starts] at unfit
    exact unfit rfl

end Rebuild

/-! ## Ties -/

theorem eq_of_starts {one two : String} (startsOne : one.toList <+: model.toList)
    (startsTwo : two.toList <+: model.toList) (same : one.utf8ByteSize = two.utf8ByteSize) :
    one = two := by
  wlog shorter : one.toList <+: two.toList generalizing one two
  · exact (this startsTwo startsOne same.symm
      ((List.prefix_or_prefix_of_prefix startsOne startsTwo).resolve_left shorter)).symm
  rcases shorter with ⟨rest, isTwo⟩
  have whole : two = one ++ String.ofList rest := by
    rw [← String.toList_inj, String.toList_append, String.toList_ofList, isTwo]
  rw [whole, String.utf8ByteSize_append] at same
  rw [whole, String.utf8ByteSize_eq_zero_iff.mp (by omega : (String.ofList rest).utf8ByteSize = 0),
    String.append_empty]

theorem OperatorPrices.Longest.unique {one two : String}
    (longestOne : prices.Longest tool model one) (longestTwo : prices.Longest tool model two) :
    one = two := by
  rcases longestOne.configured with ⟨priceOne, configuredOne⟩
  rcases longestTwo.configured with ⟨priceTwo, configuredTwo⟩
  exact eq_of_starts longestOne.starts longestTwo.starts (le_antisymm (longestTwo.longest one
    priceOne configuredOne longestOne.starts) (longestOne.longest two priceTwo configuredTwo
    longestTwo.starts))

/-- A slice may come sorted with any of its entries before those of the same start. -/
theorem exists_sort {slices : SliceSort} {entries : List PrefixEntry} {fits : PrefixEntry → Bool}
    {first entry : PrefixEntry} (found : (slices.sort entries).find? fits = some first)
    (isIn : entry ∈ entries) (same : entry.start = first.start) (isFit : fits entry = true) :
    ∃ other : SliceSort, (other.sort entries).find? fits = some entry := by
  classical
  rcases List.find?_eq_some_iff_append.mp found with ⟨_, earlier, later, isList, unfit⟩
  have isEntry : entry ∈ earlier ++ first :: later :=
    isList ▸ (slices.perm entries).mem_iff.mpr isIn
  have notEarlier : entry ∉ earlier := fun isEarlier => by simpa [isFit] using unfit _ isEarlier
  rcases List.mem_cons.mp ((List.mem_append.mp isEntry).resolve_left notEarlier) with rfl | isLater
  · exact ⟨slices, found⟩
  rcases List.append_of_mem isLater with ⟨between, rest, rfl⟩
  have swapped : (earlier ++ entry :: (between ++ first :: rest)).Perm (slices.sort entries) := by
    rw [isList]
    exact ((List.perm_middle.cons entry).trans ((List.Perm.swap _ _ _).trans
      (List.perm_middle.symm.cons first))).append_left earlier
  have sorted : (earlier ++ entry :: (between ++ first :: rest)).Pairwise
      fun left right => less right.start left.start = false := by
    have isSorted := isList ▸ slices.sorted entries
    rw [← List.pairwise_map (f := PrefixEntry.start)
      (R := fun left right => less right left = false)] at isSorted ⊢
    simpa [same] using isSorted
  refine ⟨⟨Function.update slices.sort entries (earlier ++ entry :: (between ++ first :: rest)),
    ?_, ?_⟩, ?_⟩
  · intro list
    by_cases isList : list = entries
    · subst isList
      rw [Function.update_self]
      exact swapped.trans (slices.perm list)
    · rw [Function.update_of_ne isList]
      exact slices.perm list
  · intro list
    by_cases isList : list = entries
    · subst isList
      rwa [Function.update_self]
    · rw [Function.update_of_ne isList]
      exact slices.sorted list
  · simp only [Function.update_self]
    exact List.find?_eq_some_iff_append.mpr ⟨isFit, earlier, _, rfl, unfit⟩

theorem Rebuild.exists_lookup (rebuild : Rebuild prices) (named : model ≠ "") {start : String}
    (longest : prices.Longest tool model start) (configured : prices.Prefixed tool start price) :
    ∃ other : Rebuild prices, getToolPriceForModel other.index tool model = price := by
  have stored := rebuild.mem_prefixes.mpr (show prices.Prefixed tool
    (PrefixEntry.mk start price).start (PrefixEntry.mk start price).price from configured)
  have fits := List.isPrefixOf_iff_prefix.mpr longest.starts
  cases found : (rebuild.index.prefixes tool).find? fun entry =>
      Text.hasPrefix model entry.start with
  | none => exact absurd fits (List.find?_eq_none.mp found _ stored)
  | some first =>
    rcases exists_sort found ((rebuild.slices.perm _).mem_iff.mp stored)
      (longest.unique (rebuild.longest_of_find? found).1) fits with ⟨slices, foundFirst⟩
    refine ⟨{ rebuild with slices }, ?_⟩
    rw [getToolPriceForModel, if_neg named]
    simp only [Rebuild.index, rebuildToolPriceIndex, foundFirst]

/-! ## When prices are looked up as documented -/

def PrefixEntry.rank (entry : PrefixEntry) : ℕᵒᵈ ×ₗ List Char :=
  toLex (OrderDual.toDual entry.start.utf8ByteSize, entry.start.toList)

theorem less_eq (left right : PrefixEntry) :
    less left.start right.start = decide (left.rank < right.rank) := by
  rw [Bool.eq_iff_iff, decide_eq_true_iff]
  simp only [less, PrefixEntry.rank, Prod.Lex.toLex_lt_toLex, OrderDual.toDual_lt_toDual,
    OrderDual.toDual_inj]
  split
  next same => simp [same]
  next apart => simp [apart]

theorem sliceStable_sorted (entries : List PrefixEntry) :
    (StableSort.sliceStable (fun left right => less left.start right.start) entries).Pairwise
      fun left right => less right.start left.start = false := by
  rw [StableSort.sliceStable_eq PrefixEntry.rank less_eq]
  refine (StableSort.sortBy_sorted PrefixEntry.rank).imp ?_
  intro left right order
  rw [less_eq, decide_eq_false_iff_not, not_lt]
  exact order

/-- The rebuild that keeps every order. -/
def OperatorPrices.rebuild (prices : OperatorPrices) : Rebuild prices where
  operator := prices.entries
  operator_perm := .refl _
  merged := mergeToolPrices prices.entries
  merged_perm := .refl _
  slices := ⟨StableSort.sliceStable fun left right => less left.start right.start,
    fun _ => List.perm_insertionSort _ _, sliceStable_sorted⟩

namespace OperatorPrices

theorem Fallback.unique (one : prices.Fallback tool price) (two : prices.Fallback tool other) :
    price = other := by
  rcases one with one | ⟨none, rfl⟩
  · rcases two with two | ⟨none, _⟩
    · have storedOne := prices.rebuild.mem_merged.mpr one.2
      have storedTwo := prices.rebuild.mem_merged.mpr two.2
      have same := List.inj_on_of_nodup_map prices.rebuild.nodup_merged storedOne storedTwo rfl
      exact congrArg Prod.snd same
    · exact absurd one (none price)
  · rcases two with two | ⟨_, rfl⟩
    · exact absurd two (none other)
    · rfl

theorem Documented.unique (clear : prices.Unambiguous tool model) (named : model ≠ "")
    (one : prices.Documented tool model price) (two : prices.Documented tool model other) :
    price = other := by
  rcases one with ⟨start, longest, configured⟩ | ⟨none, one⟩
  · rcases two with ⟨start', longest', configured'⟩ | ⟨none, _⟩
    · rw [← longest.unique longest'] at configured'
      exact clear.spelledAlike named start price other longest configured configured'
    · exact absurd longest (none start)
  · rcases two with ⟨start, longest, _⟩ | ⟨_, two⟩
    · exact absurd longest (none start)
    · exact one.unique two

theorem longest_empty_iff {start : String} :
    prices.Longest tool "" start ↔ start = "" ∧ ∃ price, prices.Prefixed tool "" price := by
  constructor
  · intro longest
    have isEmpty : start = "" := by simpa using longest.starts
    exact ⟨isEmpty, isEmpty ▸ longest.configured⟩
  · rintro ⟨rfl, configured⟩
    refine ⟨List.prefix_rfl, configured, ?_⟩
    intro other _ _ starts
    rw [show other = "" by simpa using starts]

end OperatorPrices

/-- The price of a tool is the documented one exactly if the configured prices are unambiguous. -/
theorem tool_price_lookedUp_iff (prices : OperatorPrices) (tool model : String) :
    prices.LookedUp tool model ↔ prices.Unambiguous tool model := by
  constructor
  · rintro ⟨laws, agree⟩
    refine ⟨?_, ?_⟩
    · intro named start one two longest configuredOne configuredTwo
      rcases prices.rebuild.exists_lookup named longest configuredOne with ⟨left, rfl⟩
      rcases prices.rebuild.exists_lookup named longest configuredTwo with ⟨right, rfl⟩
      exact agree left right
    · rintro rfl price configured
      refine ⟨_, ?_, prices.rebuild.fallback⟩
      rcases laws prices.rebuild with ⟨start, longest, found⟩ | ⟨none, _⟩
      · rw [(OperatorPrices.longest_empty_iff.mp longest).1] at found
        exact found
      · exact absurd (OperatorPrices.longest_empty_iff.mpr ⟨rfl, price, configured⟩) (none "")
  · intro clear
    by_cases named : model = ""
    · subst named
      refine ⟨?_, fun one two => one.fallback.unique two.fallback⟩
      intro rebuild
      by_cases configured : ∃ price, prices.Prefixed tool "" price
      · rcases clear.named rfl _ configured.choose_spec with ⟨other, isOther, fallback⟩
        refine .inl ⟨"", OperatorPrices.longest_empty_iff.mpr ⟨rfl, configured⟩, ?_⟩
        have same := fallback.unique rebuild.fallback
        rwa [same] at isOther
      · exact .inr ⟨fun start longest =>
          configured (OperatorPrices.longest_empty_iff.mp longest).2, rebuild.fallback⟩
    · exact ⟨fun rebuild => rebuild.documented named, fun one two =>
        (one.documented named).unique clear named (two.documented named)⟩

/-- With and without a star a key names the same models, at two prices. -/
theorem star_ambiguous :
    ¬∀ (prices : OperatorPrices) (tool model : String), prices.LookedUp tool model := by
  intro always
  have lookedUp := always ⟨[("web_search:gpt-5", 1), ("web_search:gpt-5*", 2)], by decide,
    by decide⟩ "web_search" "gpt-5"
  have same := lookedUp.2 (OperatorPrices.rebuild _)
    { OperatorPrices.rebuild _ with merged := _, merged_perm := List.reverse_perm _ }
  revert same
  decide

end NewApi.OperationSetting
