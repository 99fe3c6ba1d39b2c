import Mathlib.Data.List.AList

/-!
# The legacy parameter override

`applyOperationsLegacy` writes the keys of a parameter override into the body one by one, in the
order in which the map is iterated, each as an escaped path of `sjson`. This module compares it
with the assignment of the keys to the decoded body that it replaced.
-/

namespace NewApi.Relay

/-! ## Paths -/

/-- Characters that make a path one of `gjson` when they are not escaped. -/
def isComplexChar (char : Char) : Bool :=
  ['|', '#', '@', '*', '?'].contains char

/-- The key of a path of one part without unescaped special characters. -/
def literalPart : List Char → Option (List Char)
  | [] => some []
  | ['\\'] => some []
  | '\\' :: char :: rest => (literalPart rest).map (char :: ·)
  | char :: rest =>
    if char = '.' || isComplexChar char then none else (literalPart rest).map (char :: ·)

/-- The key that a path of one part names; a leading colon forces a key and is no part of it. -/
def literalKey : List Char → Option (List Char)
  | ':' :: rest => literalPart rest
  | path => literalPart path

/-- Some special character of the path is not escaped. -/
def hasComplexChar : List Char → Bool
  | [] => false
  | ['\\'] => false
  | '\\' :: _ :: rest => hasComplexChar rest
  | char :: rest => isComplexChar char || hasComplexChar rest

/-- What `sjson` does with the bodies that decode to an object. -/
structure Sjson (Body Value : Type) where
  members : Body → Option (List Char → Option Value)
  setBytes : Body → List Char → Value → Option Body
  blank : Body
  members_blank : members blank = some fun _ => none
  set_empty : ∀ body value, setBytes body [] value = none
  set_literal : ∀ {body object path key} value, members body = some object → path ≠ [] →
    literalKey path = some key → ∃ after, setBytes body path value = some after ∧
      members after = some (Function.update object key (some value))
  /-- A path that is no list of keys only changes what it finds. -/
  set_complex : ∀ {body object path} value, members body = some object →
    hasComplexChar path = true → ∃ after changed, setBytes body path value = some after ∧
      members after = some changed ∧ ∀ key, changed key = none ↔ object key = none

/-! ## Escaping -/

def isEscapedChar (char : Char) : Bool :=
  ['.', '*', '?', '\\'].contains char

def escapeChar (char : Char) : List Char :=
  if isEscapedChar char then ['\\', char] else [char]

def escapeSjsonLiteralKey (key : List Char) : List Char :=
  if key.any isEscapedChar then key.flatMap escapeChar else key

/-- The characters of a path that the escaping leaves as they are. -/
def isMissedChar (char : Char) : Bool :=
  ['|', '#', '@'].contains char

theorem escapeSjsonLiteralKey_eq (key : List Char) :
    escapeSjsonLiteralKey key = key.flatMap escapeChar := by
  by_cases escaped : key.any isEscapedChar = true
  · rw [escapeSjsonLiteralKey, if_pos escaped]
  · rw [escapeSjsonLiteralKey, if_neg escaped]
    have plain : ∀ char ∈ key, escapeChar char = [char] := by
      intro char isIn
      refine if_neg fun isEscaped => escaped ?_
      exact List.any_eq_true.mpr ⟨char, isIn, isEscaped⟩
    rw [List.flatMap_congr plain]
    simp

theorem literalPart_cons {char : Char} (notEscape : char ≠ '\\') (rest : List Char) :
    literalPart (char :: rest) = if char = '.' || isComplexChar char then none
      else (literalPart rest).map (char :: ·) := by
  conv_lhs => unfold literalPart
  split <;> simp_all

theorem hasComplexChar_cons {char : Char} (notEscape : char ≠ '\\') (rest : List Char) :
    hasComplexChar (char :: rest) = (isComplexChar char || hasComplexChar rest) := by
  conv_lhs => unfold hasComplexChar
  split <;> simp_all

theorem isMissedChar_eq_false {char : Char} (escaped : isEscapedChar char = true) :
    isMissedChar char = false := by
  simp only [isEscapedChar, List.contains_eq_mem, decide_eq_true_eq, List.mem_cons,
    List.not_mem_nil, or_false] at escaped
  rcases escaped with rfl | rfl | rfl | rfl <;> rfl

theorem plain_of_not_escaped {char : Char} (plain : ¬isEscapedChar char = true) :
    char ≠ '\\' ∧ char ≠ '.' ∧ isComplexChar char = isMissedChar char := by
  simp only [isEscapedChar, List.contains_eq_mem, decide_eq_true_eq, List.mem_cons,
    List.not_mem_nil, or_false, not_or] at plain
  obtain ⟨notDot, notStar, notMark, notSlash⟩ := plain
  refine ⟨notSlash, notDot, ?_⟩
  simp [isComplexChar, isMissedChar, notStar, notMark]

theorem literalPart_escape (key : List Char) :
    literalPart (key.flatMap escapeChar) = if key.any isMissedChar then none else some key := by
  induction key with
  | nil => rfl
  | cons char rest ih =>
    rw [List.flatMap_cons, List.any_cons, escapeChar]
    split
    · rename_i escaped
      simp only [List.cons_append, List.nil_append, literalPart, ih,
        isMissedChar_eq_false escaped, Bool.false_or]
      split <;> rfl
    · rename_i plain
      obtain ⟨notSlash, notDot, same⟩ := plain_of_not_escaped plain
      rw [List.singleton_append, literalPart_cons notSlash, ih, same]
      cases isMissedChar char <;> cases rest.any isMissedChar <;> simp [notDot]

theorem hasComplexChar_escape (key : List Char) :
    hasComplexChar (escapeSjsonLiteralKey key) = key.any isMissedChar := by
  rw [escapeSjsonLiteralKey_eq]
  induction key with
  | nil => rfl
  | cons char rest ih =>
    rw [List.flatMap_cons, List.any_cons, escapeChar]
    split
    · rename_i escaped
      rw [List.cons_append, List.singleton_append, hasComplexChar, ih,
        isMissedChar_eq_false escaped, Bool.false_or]
    · rename_i plain
      obtain ⟨notSlash, -, same⟩ := plain_of_not_escaped plain
      rw [List.singleton_append, hasComplexChar_cons notSlash, ih, same]

/-- The member that the path of a key without missed characters writes. -/
def writtenKey : List Char → List Char
  | ':' :: rest => rest
  | key => key

theorem writtenKey_cons {char : Char} (notColon : char ≠ ':') (rest : List Char) :
    writtenKey (char :: rest) = char :: rest := by
  unfold writtenKey
  split <;> simp_all

theorem literalKey_cons {char : Char} (notColon : char ≠ ':') (rest : List Char) :
    literalKey (char :: rest) = literalPart (char :: rest) := by
  unfold literalKey
  split <;> simp_all

theorem literalKey_escape {key : List Char} (plain : key.any isMissedChar = false) :
    literalKey (escapeSjsonLiteralKey key) = some (writtenKey key) := by
  have whole : literalPart (key.flatMap escapeChar) = some key := by
    rw [literalPart_escape, plain, if_neg Bool.false_ne_true]
  rw [escapeSjsonLiteralKey_eq]
  cases key with
  | nil => rfl
  | cons char rest =>
    by_cases colon : char = ':'
    · subst colon
      change literalPart (rest.flatMap escapeChar) = some rest
      rw [List.any_cons, Bool.or_eq_false_iff] at plain
      rw [literalPart_escape, plain.2, if_neg Bool.false_ne_true]
    · rw [writtenKey_cons colon, ← whole, List.flatMap_cons, escapeChar]
      split
      · exact literalKey_cons (by decide) _
      · exact literalKey_cons colon _

theorem writtenKey_plain {key : List Char} (plain : key.any isMissedChar = false) :
    (writtenKey key).any isMissedChar = false := by
  unfold writtenKey
  split
  · rw [List.any_cons, Bool.or_eq_false_iff] at plain
    exact plain.2
  · exact plain

theorem escapeSjsonLiteralKey_ne_nil {key : List Char} (filled : key ≠ []) :
    escapeSjsonLiteralKey key ≠ [] := by
  rw [escapeSjsonLiteralKey_eq]
  cases key with
  | nil => exact absurd rfl filled
  | cons char rest =>
    rw [List.flatMap_cons, escapeChar]
    split <;> simp

/-! ## The override -/

namespace Sjson

variable {Body Value : Type} (sjson : Sjson Body Value)

/-- `paramOverride` lists the entries of the map in the order of the iteration. -/
def applyOperationsLegacy (jsonData : Body) (paramOverride : List (Σ _ : List Char, Value)) :
    Option Body :=
  if paramOverride.isEmpty then some jsonData
  else paramOverride.foldlM (fun result entry =>
    sjson.setBytes result (escapeSjsonLiteralKey entry.1) entry.2) jsonData

/-- The override fails, or assigns its keys to the decoded body, in every order. -/
def EqualsAssignment (paramOverride : AList fun _ : List Char => Value) : Prop :=
  ∀ jsonData object order result, sjson.members jsonData = some object →
    order.Perm paramOverride.entries → sjson.applyOperationsLegacy jsonData order = some result →
      sjson.members result = some fun key => (paramOverride.lookup key).or (object key)

end Sjson

/-- `sjson` takes the escaped key for the key. -/
def IsLiteral (key : List Char) : Prop :=
  key.any isMissedChar = false ∧ writtenKey key = key

namespace Sjson

variable {Body Value : Type} {sjson : Sjson Body Value} {jsonData : Body}
  {object : List Char → Option Value}

theorem applyOperationsLegacy_eq (order : List (Σ _ : List Char, Value)) :
    sjson.applyOperationsLegacy jsonData order = order.foldlM (fun result entry =>
      sjson.setBytes result (escapeSjsonLiteralKey entry.1) entry.2) jsonData := by
  cases order <;> rfl

theorem applyOperationsLegacy_cons (entry : Σ _ : List Char, Value)
    (rest : List (Σ _ : List Char, Value)) :
    sjson.applyOperationsLegacy jsonData (entry :: rest) =
      (sjson.setBytes jsonData (escapeSjsonLiteralKey entry.1) entry.2).bind
        (sjson.applyOperationsLegacy · rest) := by
  simp only [applyOperationsLegacy_eq, List.foldlM_cons]
  rfl

theorem applyOperationsLegacy_of_empty {order : List (Σ _ : List Char, Value)}
    (empty : [] ∈ order.keys) : sjson.applyOperationsLegacy jsonData order = none := by
  induction order generalizing jsonData with
  | nil => cases empty
  | cons entry rest ih =>
    rw [applyOperationsLegacy_cons]
    rcases List.mem_cons.mp empty with isEntry | isLater
    · rw [← isEntry, show escapeSjsonLiteralKey [] = [] from rfl, sjson.set_empty, Option.bind_none]
    · cases sjson.setBytes jsonData (escapeSjsonLiteralKey entry.1) entry.2 with
      | none => rfl
      | some next => exact ih isLater

theorem members_applyOperationsLegacy {order : List (Σ _ : List Char, Value)} {result : Body}
    (reads : sjson.members jsonData = some object) (nodup : order.NodupKeys)
    (literal : ∀ key ∈ order.keys, IsLiteral key)
    (applied : sjson.applyOperationsLegacy jsonData order = some result) :
    sjson.members result = some fun key => (order.dlookup key).or (object key) := by
  induction order generalizing jsonData object with
  | nil =>
    cases applied
    exact reads
  | cons entry rest ih =>
    obtain ⟨name, value⟩ := entry
    obtain ⟨plain, same⟩ := literal name List.mem_cons_self
    have filled : escapeSjsonLiteralKey name ≠ [] := by
      intro empty
      rw [applyOperationsLegacy_cons, empty, sjson.set_empty] at applied
      cases applied
    obtain ⟨next, isNext, decodes⟩ :=
      sjson.set_literal value reads filled (literalKey_escape plain)
    rw [applyOperationsLegacy_cons, isNext, Option.bind_some] at applied
    rw [ih decodes (List.nodupKeys_cons.mp nodup).2
      (fun key isIn => literal key (.tail _ isIn)) applied, same]
    congr 1
    funext key
    by_cases isKey : key = name
    · subst isKey
      rw [List.dlookup_eq_none.mpr (List.nodupKeys_cons.mp nodup).1, Function.update_self,
        List.dlookup_cons_eq, Option.none_or, Option.some_or]
    · rw [List.dlookup_cons_ne _ _ isKey, Function.update_of_ne isKey]

/-- A member that was not there before was written under a key that no special character spoils. -/
theorem applyOperationsLegacy_adds {order : List (Σ _ : List Char, Value)}
    (reads : sjson.members jsonData = some object) (filled : [] ∉ order.keys) :
    ∃ result after, sjson.applyOperationsLegacy jsonData order = some result ∧
      sjson.members result = some after ∧ ∀ key, after key ≠ none → object key ≠ none ∨
        ∃ source ∈ order.keys, source.any isMissedChar = false ∧ writtenKey source = key := by
  induction order generalizing jsonData object with
  | nil => exact ⟨jsonData, object, rfl, reads, fun key present => .inl present⟩
  | cons entry rest ih =>
    rw [List.keys_cons, List.mem_cons, not_or] at filled
    have step : ∃ next moved,
        sjson.setBytes jsonData (escapeSjsonLiteralKey entry.1) entry.2 = some next ∧
          sjson.members next = some moved ∧ ∀ key, moved key ≠ none → object key ≠ none ∨
            entry.1.any isMissedChar = false ∧ writtenKey entry.1 = key := by
      cases missed : entry.1.any isMissedChar with
      | true =>
        obtain ⟨next, moved, isNext, decodes, same⟩ :=
          sjson.set_complex entry.2 reads ((hasComplexChar_escape entry.1).trans missed)
        exact ⟨next, moved, isNext, decodes,
          fun key present => .inl fun absent => present ((same key).mpr absent)⟩
      | false =>
        obtain ⟨next, isNext, decodes⟩ := sjson.set_literal entry.2 reads
          (escapeSjsonLiteralKey_ne_nil (Ne.symm filled.1)) (literalKey_escape missed)
        refine ⟨next, _, isNext, decodes, fun key present => ?_⟩
        by_cases isKey : key = writtenKey entry.1
        · exact .inr ⟨rfl, isKey.symm⟩
        · rw [Function.update_of_ne isKey] at present
          exact .inl present
    obtain ⟨next, moved, isNext, decodes, added⟩ := step
    obtain ⟨result, after, applied, resultDecodes, later⟩ := ih decodes filled.2
    rw [applyOperationsLegacy_cons, isNext]
    refine ⟨result, after, applied, resultDecodes, fun key present => ?_⟩
    rcases later key present with wasNext | ⟨source, isIn, written⟩
    · exact (added key wasNext).imp_right fun written => ⟨entry.1, List.mem_cons_self, written⟩
    · exact .inr ⟨source, .tail _ isIn, written⟩

end Sjson

theorem length_of_forced {key : List Char} (forced : writtenKey key ≠ key) :
    key.length = (writtenKey key).length + 1 := by
  cases key with
  | nil => exact absurd rfl forced
  | cons char rest =>
    by_cases colon : char = ':'
    · rw [colon, writtenKey, List.length_cons]
    · exact absurd (writtenKey_cons colon rest) forced

/-- Keys that are each written under some key of the list are literal. -/
theorem isLiteral_of_written {keys : List (List Char)} (written : ∀ key ∈ keys, ∃ source ∈ keys,
      source.any isMissedChar = false ∧ writtenKey source = key) :
    ∀ key ∈ keys, IsLiteral key := by
  intro key isIn
  constructor
  · obtain ⟨source, -, plain, rfl⟩ := written key isIn
    exact writtenKey_plain plain
  by_contra forced
  -- the key that such a key is written under is longer and forced too
  have longer : ∀ bound, ∃ long ∈ keys, writtenKey long ≠ long ∧ bound < long.length := by
    intro bound
    induction bound with
    | zero =>
      cases key with
      | nil => exact absurd rfl forced
      | cons char rest => exact ⟨char :: rest, isIn, forced, Nat.zero_lt_succ _⟩
    | succ bound ih =>
      obtain ⟨long, isLong, isForced, exceeds⟩ := ih
      obtain ⟨source, isSource, -, isWritten⟩ := written long isLong
      have sourceForced : writtenKey source ≠ source := by
        intro same
        rw [← isWritten, same] at isForced
        exact isForced same
      refine ⟨source, isSource, sourceForced, ?_⟩
      rw [length_of_forced sourceForced, isWritten]
      exact Nat.succ_lt_succ exceeds
  obtain ⟨long, isLong, -, exceeds⟩ := longer keys.flatten.length
  exact absurd (List.sublist_flatten_of_mem isLong).length_le (Nat.not_le.mpr exceeds)

/-- The override assigns its keys exactly if they are literal, or if it has an empty one, which is
refused. -/
theorem legacy_equals_assignment_iff {Body Value : Type} (sjson : Sjson Body Value)
    (paramOverride : AList fun _ : List Char => Value) :
    sjson.EqualsAssignment paramOverride ↔
      [] ∈ paramOverride ∨ ∀ key ∈ paramOverride, IsLiteral key := by
  constructor
  · intro equals
    by_cases empty : [] ∈ paramOverride
    · exact .inl empty
    refine .inr (isLiteral_of_written fun key (isIn : key ∈ paramOverride) => ?_)
    obtain ⟨result, after, applied, decodes, added⟩ :=
      Sjson.applyOperationsLegacy_adds sjson.members_blank empty
    have assigned := equals sjson.blank _ _ result sjson.members_blank (List.Perm.refl _) applied
    rw [decodes, Option.some.injEq] at assigned
    have present : after key ≠ none := by
      simpa only [assigned, Option.or_none, ne_eq, AList.lookup_eq_none, not_not] using isIn
    exact (added key present).resolve_left fun wasBlank => wasBlank rfl
  · intro condition jsonData object order result decodes perm applied
    have sameKeys : ∀ key, key ∈ order.keys ↔ key ∈ paramOverride := fun key =>
      (perm.map Sigma.fst).mem_iff
    rcases condition with empty | literal
    · rw [Sjson.applyOperationsLegacy_of_empty ((sameKeys []).mpr empty)] at applied
      cases applied
    · have distinct := (List.perm_nodupKeys perm).mpr paramOverride.nodupKeys
      rw [Sjson.members_applyOperationsLegacy decodes distinct
        (fun key isIn => literal key ((sameKeys key).mp isIn)) applied]
      congr 1
      funext key
      rw [List.perm_dlookup key distinct perm]
      rfl

/-! ## A forced key -/

theorem hasComplexChar_of_literalPart {path key : List Char}
    (literal : literalPart path = some key) : hasComplexChar path = false := by
  induction path using literalPart.induct generalizing key with
  | case1 => rfl
  | case2 => rfl
  | case3 char rest ih =>
    obtain ⟨_, isRest, -⟩ := Option.map_eq_some_iff.mp literal
    exact ih isRest
  | case4 char rest notDangling notSlash special =>
    rw [literalPart_cons fun slash => ?_, if_pos special] at literal
    · cases literal
    · cases rest with
      | nil => exact notDangling slash rfl
      | cons next rest => exact notSlash next rest slash rfl
  | case5 char rest notDangling notSlash plain ih =>
    have notEscape : char ≠ '\\' := by
      intro slash
      cases rest with
      | nil => exact notDangling slash rfl
      | cons next rest => exact notSlash next rest slash rfl
    rw [literalPart_cons notEscape, if_neg plain] at literal
    obtain ⟨_, isRest, -⟩ := Option.map_eq_some_iff.mp literal
    rw [hasComplexChar_cons notEscape, ih isRest, Bool.or_false]
    exact (Bool.or_eq_false_iff.mp (Bool.eq_false_iff.mpr plain)).2

section Decoded

variable {Value : Type} {object decoded : List Char → Option Value} {path : List Char}

/-- Sets a path in a body that is decoded already; a special path finds nothing in it. -/
def setDecoded (object : List Char → Option Value) (path : List Char) (value : Value) :
    Option (List Char → Option Value) :=
  if path = [] then none
  else some ((literalKey path).elim object fun key => Function.update object key (some value))

theorem setDecoded_empty (object : List Char → Option Value) (value : Value) :
    setDecoded object [] value = none :=
  rfl

theorem setDecoded_literal {key : List Char} (value : Value) (reads : some decoded = some object)
    (filled : path ≠ []) (literal : literalKey path = some key) :
    ∃ after, setDecoded decoded path value = some after ∧
      some after = some (Function.update object key (some value)) := by
  cases reads
  exact ⟨_, if_neg filled, by rw [literal, Option.elim_some]⟩

theorem setDecoded_complex (value : Value) (reads : some decoded = some object)
    (complex : hasComplexChar path = true) :
    ∃ after moved, setDecoded decoded path value = some after ∧ some after = some moved ∧
      ∀ key, moved key = none ↔ object key = none := by
  cases reads
  have filled : path ≠ [] := by
    rintro rfl
    cases complex
  have notLiteral : literalKey path = none := by
    cases literal : literalKey path with
    | none => rfl
    | some key =>
      unfold literalKey at literal
      split at literal
      · rw [hasComplexChar_cons (by decide), hasComplexChar_of_literalPart literal] at complex
        cases complex
      · rw [hasComplexChar_of_literalPart literal] at complex
        cases complex
  exact ⟨_, _, if_neg filled, rfl, fun key => by rw [notLiteral, Option.elim_none]⟩

theorem blank_decoded : some (fun _ : List Char => (none : Option Value)) = some fun _ => none :=
  rfl

end Decoded

def decodedSjson (Value : Type) : Sjson (List Char → Option Value) Value where
  members := some
  setBytes := setDecoded
  blank _ := none
  members_blank := blank_decoded
  set_empty := setDecoded_empty
  set_literal := setDecoded_literal
  set_complex := setDecoded_complex

/-- A key that starts with a colon is written without it. -/
theorem forcedKey_not_assigned :
    ¬(decodedSjson Bool).EqualsAssignment (AList.singleton [':', '1'] true) := by
  intro equals
  have assigned := equals (fun _ => none) _ _ _ rfl (List.Perm.refl _) rfl
  exact absurd (congrFun (Option.some.inj assigned) [':', '1']) (by decide)

end NewApi.Relay
