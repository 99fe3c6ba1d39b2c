import Mathlib.Data.Prod.Lex
import NewApi.Library.Decimal
import NewApi.Library.Split
import NewApi.Library.StableSort

/-!
# Status-code rules

The text of a rule lists codes and ranges between commas. Parsing sorts and merges the ranges, and
matching stops at the first range that starts after the code.
-/

namespace NewApi.OperationSetting

open Decimal StableSort Text

/-- An interval of status codes. -/
structure StatusCodeRange where
  start : ℤ
  stop : ℤ

/-- The ranges that the relay reads. -/
structure StatusCodeSettings where
  automaticDisableStatusCodeRanges : List StatusCodeRange
  automaticRetryStatusCodeRanges : List StatusCodeRange

namespace StatusCodeRange

def toText (r : StatusCodeRange) : String :=
  if r.start = r.stop then formatInt r.start
  else formatInt r.start ++ "-" ++ formatInt r.stop

def less (left right : StatusCodeRange) : Bool :=
  if left.start = right.start then left.stop < right.stop else left.start < right.start

/-- The interval holds the code. -/
def Covers (r : StatusCodeRange) (code : ℤ) : Prop :=
  r.start ≤ code ∧ code ≤ r.stop

def Valid (r : StatusCodeRange) : Prop :=
  100 ≤ r.start ∧ r.start ≤ r.stop ∧ r.stop ≤ 599

end StatusCodeRange

open StatusCodeRange

def statusCodeRangesToString (ranges : List StatusCodeRange) : String :=
  ",".intercalate (ranges.map toText)

def matchStatusCode (code : ℤ) : List StatusCodeRange → Bool
  | [] => false
  | r :: rest =>
    if code < r.start then false
    else if code ≤ r.stop then true
    else matchStatusCode code rest

/-- Codes outside of 100 to 599 are in no range. -/
def shouldMatchStatusCodeRanges (ranges : List StatusCodeRange) (code : ℤ) : Bool :=
  if code < 100 ∨ 599 < code then false else matchStatusCode code ranges

def withoutSpaces (token : String) : List Char :=
  (trimSpace token).toList.filter (· ≠ ' ')

def parseHTTPStatusCodeToken (token : String) : Except String StatusCodeRange :=
  let chars := withoutSpaces token
  let text := String.ofList chars
  if chars = [] then .error "empty token"
  else if '-' ∈ chars then
    match chars.splitOn '-' with
    | [left, right] =>
      if left = [] ∨ right = [] then .error ("invalid range token: " ++ text)
      else
        match parseInt (String.ofList left), parseInt (String.ofList right) with
        | none, _ => .error ("invalid range start: " ++ text)
        | some _, none => .error ("invalid range end: " ++ text)
        | some start, some stop =>
          if stop < start then .error ("range start > end: " ++ text)
          else if start < 100 ∨ 599 < stop then .error ("range out of bounds: " ++ text)
          else .ok ⟨start, stop⟩
    | _ => .error ("invalid range token: " ++ text)
  else
    match parseInt text with
    | none => .error ("invalid status code: " ++ text)
    | some code =>
      if code < 100 ∨ 599 < code then .error ("status code out of bounds: " ++ text)
      else .ok ⟨code, code⟩

/-- The merging loop; `last` is the last of the merged ranges. -/
def mergeFrom (last : StatusCodeRange) : List StatusCodeRange → List StatusCodeRange
  | [] => [last]
  | r :: rest =>
    if r.start ≤ last.stop + 1 then
      mergeFrom (if last.stop < r.stop then { last with stop := r.stop } else last) rest
    else last :: mergeFrom r rest

def mergeRanges : List StatusCodeRange → List StatusCodeRange
  | [] => []
  | first :: rest => mergeFrom first rest

/-- The non-empty texts between commas of either width. -/
def statusCodeTokens (input : String) : List String :=
  let input := (trimSpace input).map fun char => if char = '，' then ',' else char
  ((splitComma input).map trimSpace).filter (· ≠ "")

def tokenRanges (tokens : List String) : List StatusCodeRange :=
  tokens.filterMap fun token => (parseHTTPStatusCodeToken token).toOption

/-- Ranges that `sort.Slice` may exchange are equal, so a stable sort stands for it. -/
def parseHTTPStatusCodeRanges (input : String) : Except String (List StatusCodeRange) :=
  if trimSpace input = "" then .ok []
  else
    let tokens := statusCodeTokens input
    let invalid := tokens.filter fun token => (parseHTTPStatusCodeToken token).toOption.isNone
    if invalid ≠ [] then
      .error ("invalid http status code rules: " ++ ", ".intercalate invalid)
    else
      .ok (mergeRanges (sliceStable less (tokenRanges tokens)))

def automaticDisableStatusCodesFromString (settings : StatusCodeSettings) (text : String) :
    Except String Unit × StatusCodeSettings :=
  match parseHTTPStatusCodeRanges text with
  | .error err => (.error err, settings)
  | .ok ranges => (.ok (), { settings with automaticDisableStatusCodeRanges := ranges })

def automaticRetryStatusCodesFromString (settings : StatusCodeSettings) (text : String) :
    Except String Unit × StatusCodeSettings :=
  match parseHTTPStatusCodeRanges text with
  | .error err => (.error err, settings)
  | .ok ranges => (.ok (), { settings with automaticRetryStatusCodeRanges := ranges })

/-- Commas of either width separate the tokens. -/
def isComma (char : Char) : Bool :=
  char = ',' || char = '，'

/-- A token of the rule text: not empty, and the trimmed text between two commas of either width
or between one and an end. -/
def IsToken (input token : String) : Prop :=
  token ≠ "" ∧ ∃ segment, IsPart isComma input.toList segment ∧
    trimSpace (String.ofList segment) = token

/-- What a token means: with its spaces left out it is a code, or two codes around a minus. -/
inductive Denotes (token : String) : StatusCodeRange → Prop
  | code {code : ℤ} (read : parseInt (String.ofList (withoutSpaces token)) = some code)
      (valid : Valid ⟨code, code⟩) : Denotes token ⟨code, code⟩
  | range {left right : List Char} {start stop : ℤ}
      (joined : withoutSpaces token = left ++ '-' :: right)
      (first : parseInt (String.ofList left) = some start)
      (last : parseInt (String.ofList right) = some stop)
      (valid : Valid ⟨start, stop⟩) : Denotes token ⟨start, stop⟩

/-- Every range ends before the code before the next one starts. -/
def Separated (ranges : List StatusCodeRange) : Prop :=
  ranges.Pairwise fun left right => left.stop + 1 < right.start

section Ranges

variable {ranges rest : List StatusCodeRange} {last : StatusCodeRange}

theorem matchStatusCode_iff (apart : Separated ranges) (valid : ∀ r ∈ ranges, r.Valid)
    (code : ℤ) : matchStatusCode code ranges = true ↔ ∃ r ∈ ranges, r.Covers code := by
  induction ranges with
  | nil => simp [matchStatusCode]
  | cons r rest ih =>
    rcases List.pairwise_cons.mp apart with ⟨later, apart⟩
    rcases List.forall_mem_cons.mp valid with ⟨validRange, valid⟩
    rw [matchStatusCode, List.exists_mem_cons_iff]
    by_cases before : code < r.start
    · -- The ranges that the early exit skips start even later.
      have uncovered : ¬(r.Covers code ∨ ∃ other ∈ rest, other.Covers code) := by
        rintro (⟨above, _⟩ | ⟨other, inRest, above, _⟩)
        · omega
        · have := later other inRest
          have := validRange.2.1
          omega
      simp [before, uncovered]
    · rw [if_neg before]
      by_cases isIn : code ≤ r.stop
      · simp [isIn, Covers, not_lt.mp before]
      · simp [isIn, Covers, ih apart valid]

/-- Order, bounds and covered codes hold together by one induction on the merging loop. -/
theorem mergeFrom_spec (sorted : (last :: rest).Pairwise fun left right => left.start ≤ right.start)
    (valid : ∀ r ∈ last :: rest, r.Valid) :
    Separated (mergeFrom last rest) ∧
      (∀ r ∈ mergeFrom last rest, last.start ≤ r.start ∧ r.Valid) ∧
      ∀ code, (∃ r ∈ mergeFrom last rest, r.Covers code) ↔
        ∃ r ∈ last :: rest, r.Covers code := by
  induction rest generalizing last with
  | nil =>
    refine ⟨List.pairwise_singleton _ _, ?_, fun _ => Iff.rfl⟩
    intro r isLast
    rw [List.mem_singleton.mp isLast]
    exact ⟨le_refl _, valid last List.mem_cons_self⟩
  | cons r rest ih =>
    rcases List.pairwise_cons.mp sorted with ⟨lastFirst, sorted⟩
    rcases List.forall_mem_cons.mp valid with ⟨validLast, valid⟩
    have validRange := valid r List.mem_cons_self
    have ordered := lastFirst r List.mem_cons_self
    rw [mergeFrom]
    split
    next touches =>
      -- The extended range starts where `last` does and covers what the two covered.
      generalize isGrown : (if last.stop < r.stop then { last with stop := r.stop } else last) =
        grown
      have start : grown.start = last.start := by
        subst isGrown
        split <;> rfl
      have stop : grown.stop = max last.stop r.stop := by
        subst isGrown
        split
        next less => exact (max_eq_right less.le).symm
        next notLess => exact (max_eq_left (not_lt.mp notLess)).symm
      have grownValid : grown.Valid := by
        simp only [Valid, start, stop] at validLast validRange ⊢
        omega
      have spec := @ih grown (List.pairwise_cons.mpr ⟨fun other inRest => by
          rw [start]
          exact lastFirst other (List.mem_cons_of_mem _ inRest), sorted.tail⟩)
        (List.forall_mem_cons.mpr ⟨grownValid, (List.forall_mem_cons.mp valid).2⟩)
      rw [start] at spec
      refine ⟨spec.1, spec.2.1, ?_⟩
      intro code
      have both : grown.Covers code ↔ last.Covers code ∨ r.Covers code := by
        simp only [Covers, Valid, start, stop] at validRange ⊢
        omega
      rw [spec.2.2 code, List.exists_mem_cons_iff, both, List.exists_mem_cons_iff,
        List.exists_mem_cons_iff, or_assoc]
    next apart =>
      have spec := ih sorted valid
      refine ⟨List.pairwise_cons.mpr ⟨?_, spec.1⟩, List.forall_mem_cons.mpr
        ⟨⟨le_refl _, validLast⟩, ?_⟩, ?_⟩
      · intro other inMerged
        have := (spec.2.1 other inMerged).1
        omega
      · intro other inMerged
        exact ⟨ordered.trans (spec.2.1 other inMerged).1, (spec.2.1 other inMerged).2⟩
      · intro code
        simp only [List.exists_mem_cons_iff, spec.2.2 code]

theorem mergeFrom_separated (apart : Separated (last :: rest)) :
    mergeFrom last rest = last :: rest := by
  induction rest generalizing last with
  | nil => rfl
  | cons r rest ih =>
    rcases List.pairwise_cons.mp apart with ⟨later, apart⟩
    rw [mergeFrom, if_neg (not_le.mpr (later r List.mem_cons_self)), ih apart]

def sortKey (r : StatusCodeRange) : ℤ ×ₗ ℤ :=
  toLex (r.start, r.stop)

theorem sliceStable_less :
    sliceStable less ranges = sortBy sortKey ranges := by
  apply sliceStable_eq
  intro left right
  rw [Bool.eq_iff_iff, decide_eq_true_iff, sortKey, sortKey, Prod.Lex.toLex_lt_toLex, less]
  split
  next same => simp [same]
  next differ => simp [differ]

theorem sortBy_starts :
    (sortBy sortKey ranges).Pairwise fun left right => left.start ≤ right.start := by
  apply (sortBy_sorted sortKey).imp
  intro _ _ lower
  rcases Prod.Lex.toLex_le_toLex.mp lower with less | ⟨same, _⟩
  · exact less.le
  · exact same.le

theorem sortBy_separated (separated : Separated ranges) (valid : ∀ r ∈ ranges, r.Valid) :
    sortBy sortKey ranges = ranges := by
  apply List.Pairwise.insertionSort_eq
  apply separated.imp_of_mem
  intro left right inLeft _ apart
  have := (valid left inLeft).2.1
  exact Prod.Lex.toLex_le_toLex.mpr (.inl (by simp only; omega))

theorem merged_spec (valid : ∀ r ∈ ranges, r.Valid) :
    Separated (mergeRanges (sortBy sortKey ranges)) ∧
      (∀ r ∈ mergeRanges (sortBy sortKey ranges), r.Valid) ∧
      ∀ code, (∃ r ∈ mergeRanges (sortBy sortKey ranges), r.Covers code) ↔
        ∃ r ∈ ranges, r.Covers code := by
  have same : ∀ r, r ∈ sortBy sortKey ranges ↔ r ∈ ranges :=
    fun _ => (sortBy_perm sortKey).mem_iff
  have starts := @sortBy_starts ranges
  simp only [← same] at valid ⊢
  cases isSorted : sortBy sortKey ranges with
  | nil => exact ⟨.nil, by simp [mergeRanges], by simp [mergeRanges]⟩
  | cons first rest =>
    rw [isSorted] at starts valid
    have spec := mergeFrom_spec starts valid
    exact ⟨spec.1, fun r inMerged => (spec.2.1 r inMerged).2, spec.2.2⟩

end Ranges

section Tokens

variable {token : String} {r : StatusCodeRange}

theorem minus_notMem_of_parse {chars : List Char} {n : ℕ}
    (read : parse (String.ofList chars) = some n) : '-' ∉ chars := by
  unfold parse at read
  split at read
  next digits =>
    intro isMinus
    have isDigit := List.all_eq_true.mp digits.2 '-' (by simpa using isMinus)
    revert isDigit
    decide
  next => cases read

theorem minus_notMem {chars : List Char} {n : ℤ}
    (read : parseInt (String.ofList chars) = some n) (positive : 100 ≤ n) :
    '-' ∉ chars := by
  simp only [parseInt, String.toList_ofList, Option.filter_eq_some_iff] at read
  rcases read with ⟨read, _⟩
  split at read
  next digits =>
    cases isNumber : parse (String.ofList digits) with
    | none => simp [isNumber] at read
    | some k =>
      simp [isNumber] at read
      omega
  next digits =>
    cases isNumber : parse (String.ofList digits) with
    | none => simp [isNumber] at read
    | some k => simpa using minus_notMem_of_parse isNumber
  next =>
    cases isNumber : parse (String.ofList chars) with
    | none => simp [isNumber] at read
    | some k => exact minus_notMem_of_parse isNumber

theorem ne_nil_of_parseInt {chars : List Char} {n : ℤ}
    (read : parseInt (String.ofList chars) = some n) : chars ≠ [] := by
  rintro rfl
  simp [parseInt, parse] at read

theorem denotes_of_parse (parsed : parseHTTPStatusCodeToken token = .ok r) :
    Denotes token r := by
  simp only [parseHTTPStatusCodeToken] at parsed
  split at parsed
  next => cases parsed
  split at parsed
  next =>
    split at parsed
    next left right parts =>
      have joined : ['-'].intercalate ((withoutSpaces token).splitOn '-') = withoutSpaces token :=
        List.intercalate_splitOn '-'
      rw [parts] at joined
      split at parsed
      next => cases parsed
      split at parsed
      next => cases parsed
      next => cases parsed
      next start stop first last =>
        split at parsed
        next => cases parsed
        split at parsed
        next => cases parsed
        cases parsed
        refine .range (by simpa [List.intercalate] using joined.symm) first last ?_
        simp only [Valid]
        omega
    next => cases parsed
  next =>
    split at parsed
    next => cases parsed
    next code isCode =>
      split at parsed
      next => cases parsed
      cases parsed
      refine .code isCode ?_
      simp only [Valid]
      omega

theorem parse_of_denotes (denotes : Denotes token r) : parseHTTPStatusCodeToken token = .ok r := by
  cases denotes with
  | code isCode valid =>
    have bounds : ¬(_ ∨ _) := not_or.mpr ⟨not_lt.mpr valid.1, not_lt.mpr valid.2.2⟩
    simp only [parseHTTPStatusCodeToken]
    rw [if_neg (ne_nil_of_parseInt isCode), if_neg (minus_notMem isCode valid.1), isCode]
    exact if_neg bounds
  | @range left right start stop joined first last valid =>
    have noMinus : ∀ part ∈ [left, right], '-' ∉ part := by
      rw [List.forall_mem_cons, List.forall_mem_singleton]
      exact ⟨minus_notMem first valid.1, minus_notMem last (valid.1.trans valid.2.1)⟩
    have parts : (withoutSpaces token).splitOn '-' = [left, right] := by
      have parts := List.splitOn_intercalate '-' noMinus (List.cons_ne_nil _ _)
      rw [joined]
      simpa [List.intercalate] using parts
    have bounds : ¬(start < 100 ∨ 599 < stop) :=
      not_or.mpr ⟨not_lt.mpr valid.1, not_lt.mpr valid.2.2⟩
    simp only [parseHTTPStatusCodeToken, parts, first, last]
    rw [if_neg (by simp [joined]), if_pos (by simp [joined]),
      if_neg (not_or.mpr ⟨ne_nil_of_parseInt first, ne_nil_of_parseInt last⟩),
      if_neg (not_lt.mpr valid.2.1), if_neg bounds]

theorem parse_eq_ok_iff : parseHTTPStatusCodeToken token = .ok r ↔ Denotes token r :=
  ⟨denotes_of_parse, parse_of_denotes⟩

theorem Denotes.valid (denotes : Denotes token r) : r.Valid := by
  cases denotes with
  | code _ valid => exact valid
  | range _ _ _ valid => exact valid

theorem isNone_iff : (parseHTTPStatusCodeToken token).toOption.isNone = true ↔
    ¬∃ r, Denotes token r := by
  simp only [← parse_eq_ok_iff]
  cases parseHTTPStatusCodeToken token <;> simp [Except.toOption]

theorem toOption_eq_some_iff :
    (parseHTTPStatusCodeToken token).toOption = some r ↔ Denotes token r := by
  rw [← parse_eq_ok_iff]
  cases parseHTTPStatusCodeToken token <;> simp [Except.toOption]

end Tokens

section Rendering

variable {input : String} {r : StatusCodeRange} {ranges : List StatusCodeRange}

theorem mem_tokenRanges {tokens : List String} :
    r ∈ tokenRanges tokens ↔ ∃ token ∈ tokens, Denotes token r := by
  simp only [tokenRanges, List.mem_filterMap, toOption_eq_some_iff]

theorem valid_of_mem_tokenRanges {tokens : List String} : ∀ r ∈ tokenRanges tokens, r.Valid := by
  intro _ inRanges
  rcases mem_tokenRanges.mp inRanges with ⟨_, _, denotes⟩
  exact denotes.valid

theorem statusCodeTokens_empty (isEmpty : trimSpace input = "") :
    statusCodeTokens input = [] := by
  simp only [statusCodeTokens, isEmpty, splitComma, String.toList_map]
  rfl

theorem splitOn_narrow (chars : List Char) :
    (chars.map fun char => if char = '，' then ',' else char).splitOn ',' =
      chars.splitOnP isComma := by
  induction chars using separatorInduction (p := isComma) with
  | plain chars plain =>
    have kept : (chars.map fun char => if char = '，' then ',' else char) = chars := by
      refine (List.map_congr_left ?_).trans (List.map_id _)
      intro char occurs
      have narrow := plain char occurs
      simp only [isComma, Bool.or_eq_false_iff, decide_eq_false_iff_not] at narrow
      exact if_neg narrow.2
    rw [kept, List.splitOnP_eq_singleton plain, List.splitOn_eq_singleton]
    intro occurs
    cases plain ',' occurs
  | around left sep right isSep ihLeft ihRight =>
    have comma : (if sep = '，' then ',' else sep) = ',' := by
      simp only [isComma, Bool.or_eq_true, decide_eq_true_eq] at isSep
      rcases isSep with rfl | rfl <;> rfl
    rw [List.map_append, List.map_cons, comma, List.splitOn_append_cons_self, ihLeft, ihRight,
      List.splitOnP_append_cons left right isSep]

/-- The code reads exactly the tokens of the text: trimming the whole text first drops none. -/
theorem mem_statusCodeTokens {token : String} :
    token ∈ statusCodeTokens input ↔ IsToken input token := by
  have outside : ∀ char, isSpace char = true → isComma char = false := by
    intro char space
    by_contra comma
    simp only [Bool.not_eq_false, isComma, Bool.or_eq_true, decide_eq_true_eq] at comma
    rcases comma with rfl | rfl <;> cases space
  have tokens : statusCodeTokens input = filledParts isComma input.toList := by
    rw [← filledParts_trimSpace outside]
    simp only [statusCodeTokens, splitComma, String.toList_map, splitOn_narrow, List.map_map,
      Function.comp_def, filledParts]
  rw [tokens, mem_filledParts, IsToken]

theorem parse_ok (wellFormed : ∀ token ∈ statusCodeTokens input, ∃ r, Denotes token r) :
    parseHTTPStatusCodeRanges input = .ok (mergeRanges (sortBy sortKey
      (tokenRanges (statusCodeTokens input)))) := by
  unfold parseHTTPStatusCodeRanges
  split
  next isEmpty =>
    rw [statusCodeTokens_empty isEmpty]
    rfl
  next =>
    have noneInvalid : (statusCodeTokens input).filter
        (fun token => (parseHTTPStatusCodeToken token).toOption.isNone) = [] := by
      rw [List.filter_eq_nil_iff]
      intro token inTokens
      rw [isNone_iff, not_not]
      exact wellFormed token inTokens
    simp only [noneInvalid, ne_eq, not_true, if_false, sliceStable_less]

theorem parse_error (malformed : ∃ token ∈ statusCodeTokens input, ¬∃ r, Denotes token r) :
    ∃ err, parseHTTPStatusCodeRanges input = .error err := by
  rcases malformed with ⟨token, inTokens, malformed⟩
  have filled : trimSpace input ≠ "" := by
    intro isEmpty
    rw [statusCodeTokens_empty isEmpty] at inTokens
    cases inTokens
  have inInvalid : token ∈ (statusCodeTokens input).filter
      fun token => (parseHTTPStatusCodeToken token).toOption.isNone :=
    List.mem_filter.mpr ⟨inTokens, isNone_iff.mpr malformed⟩
  rw [parseHTTPStatusCodeRanges, if_neg filled]
  exact ⟨_, if_pos (List.ne_nil_of_mem inInvalid)⟩

theorem mem_intercalate {char sep : Char} {parts : List (List Char)}
    (occurs : char ∈ [sep].intercalate parts) :
    char = sep ∨ ∃ part ∈ parts, char ∈ part := by
  induction parts with
  | nil => cases occurs
  | cons part parts ih =>
    cases parts with
    | nil => exact .inr ⟨part, List.mem_cons_self, by simpa using occurs⟩
    | cons other parts =>
      rw [List.intercalate_cons_cons, List.mem_append, List.mem_append] at occurs
      rcases occurs with (inPart | isSeparator) | inRest
      · exact .inr ⟨part, List.mem_cons_self, inPart⟩
      · exact .inl (List.mem_singleton.mp isSeparator)
      · rcases ih inRest with isSeparator | ⟨found, inParts, inFound⟩
        · exact .inl isSeparator
        · exact .inr ⟨found, List.mem_cons_of_mem _ inParts, inFound⟩

theorem toText_between {char : Char} (occurs : char ∈ r.toText.toList) :
    0x2D ≤ char.toNat ∧ char.toNat ≤ 0x39 := by
  have plain : char = '-' ∨ char.isDigit = true := by
    unfold toText at occurs
    split at occurs
    next => exact mem_formatInt occurs
    next =>
      simp only [String.toList_append, List.mem_append] at occurs
      rcases occurs with (inStart | isMinus) | inStop
      · exact mem_formatInt inStart
      · exact .inl (List.mem_singleton.mp isMinus)
      · exact mem_formatInt inStop
  rcases plain with rfl | isDigit
  · decide
  · have between := Char.isDigit_iff_toNat.mp isDigit
    exact ⟨le_trans (by decide) between.1, between.2⟩

theorem trimSpace_toText : trimSpace r.toText = r.toText := by
  apply trimSpace_of_plain
  intro _ occurs
  have between := toText_between occurs
  exact not_isSpace (by omega) (by omega)

theorem withoutSpaces_toText : withoutSpaces r.toText = r.toText.toList := by
  rw [withoutSpaces, trimSpace_toText, List.filter_eq_self]
  intro char occurs
  rw [decide_eq_true_iff]
  rintro rfl
  exact absurd (toText_between occurs).1 (by decide)

theorem denotes_toText (valid : r.Valid) : Denotes r.toText r := by
  have read : ∀ n : ℤ, 100 ≤ n → n ≤ 599 →
      parseInt (String.ofList (formatInt n).toList) = some n := by
    intro n low high
    rw [String.ofList_toList]
    apply parseInt_formatInt
    · exact le_trans (by decide) low
    · exact le_trans high (by decide)
  rcases r with ⟨start, stop⟩
  rcases valid with ⟨low, ordered, high⟩
  have startRead := read start low (ordered.trans high)
  by_cases same : start = stop
  · subst same
    refine .code ?_ ⟨low, ordered, high⟩
    rw [withoutSpaces_toText, toText, if_pos rfl]
    exact startRead
  · refine .range ?_ startRead (read stop (low.trans ordered) high) ⟨low, ordered, high⟩
    rw [withoutSpaces_toText, toText, if_neg same]
    simp

/-- The tokens of printed ranges are the printed ranges. -/
theorem statusCodeTokens_toString (filled : ranges ≠ []) (valid : ∀ r ∈ ranges, r.Valid) :
    statusCodeTokens (statusCodeRangesToString ranges) = ranges.map toText := by
  have chars : (statusCodeRangesToString ranges).toList =
      [','].intercalate (ranges.map fun r => r.toText.toList) := by
    simp [statusCodeRangesToString, String.toList_intercalate, Function.comp_def]
  have between : ∀ char ∈ (statusCodeRangesToString ranges).toList,
      0x2C ≤ char.toNat ∧ char.toNat ≤ 0x39 := by
    intro char occurs
    rw [chars] at occurs
    rcases mem_intercalate occurs with rfl | ⟨_, inParts, occurs⟩
    · decide
    · rcases List.mem_map.mp inParts with ⟨r, _, rfl⟩
      have := toText_between occurs
      omega
  have trimmed : trimSpace (statusCodeRangesToString ranges) = statusCodeRangesToString ranges := by
    apply trimSpace_of_plain
    intro char occurs
    have := between char occurs
    exact not_isSpace (by omega) (by omega)
  have narrow : (statusCodeRangesToString ranges).map
      (fun char => if char = '，' then ',' else char) = statusCodeRangesToString ranges := by
    rw [← String.toList_inj, String.toList_map]
    refine (List.map_congr_left ?_).trans (List.map_id _)
    intro char occurs
    apply if_neg
    rintro rfl
    exact absurd (between _ occurs).2 (by decide)
  have parts : ([','].intercalate (ranges.map fun r => r.toText.toList)).splitOn ',' =
      ranges.map fun r => r.toText.toList := by
    apply List.splitOn_intercalate
    · intro _ inParts isComma
      rcases List.mem_map.mp inParts with ⟨r, _, rfl⟩
      exact absurd (toText_between isComma).1 (by decide)
    · simpa using filled
  simp only [statusCodeTokens, trimmed, narrow, splitComma, chars, parts, List.map_map,
    Function.comp_def, String.ofList_toList, trimSpace_toText]
  rw [List.filter_eq_self]
  intro _ inTexts
  rcases List.mem_map.mp inTexts with ⟨r, inRanges, rfl⟩
  rw [decide_eq_true_iff]
  intro isEmpty
  have parsed := parse_of_denotes (denotes_toText (valid r inRanges))
  rw [isEmpty] at parsed
  cases parsed

theorem parse_toString (apart : Separated ranges) (valid : ∀ r ∈ ranges, r.Valid) :
    parseHTTPStatusCodeRanges (statusCodeRangesToString ranges) = .ok ranges := by
  have tokens : statusCodeTokens (statusCodeRangesToString ranges) = ranges.map toText := by
    by_cases filled : ranges = []
    · rw [filled]
      exact statusCodeTokens_empty rfl
    · exact statusCodeTokens_toString filled valid
  have wellFormed : ∀ token ∈ statusCodeTokens (statusCodeRangesToString ranges),
      ∃ r, Denotes token r := by
    rw [tokens]
    intro _ inTokens
    rcases List.mem_map.mp inTokens with ⟨r, inRanges, rfl⟩
    exact ⟨r, denotes_toText (valid r inRanges)⟩
  have same : tokenRanges (ranges.map toText) = ranges := by
    rw [tokenRanges, List.filterMap_map]
    refine (List.filterMap_congr ?_).trans List.filterMap_some
    intro r inRanges
    rw [Function.comp_apply, toOption_eq_some_iff]
    exact denotes_toText (valid r inRanges)
  rw [parse_ok wellFormed, tokens, same, sortBy_separated apart valid]
  cases ranges with
  | nil => rfl
  | cons _ _ => rw [mergeRanges, mergeFrom_separated apart]

/-- The parsed ranges are separated, valid, match what the tokens of the input denote, and are
parsed again from their text. -/
theorem statusCodeRules_kept (input : String) (settings : StatusCodeSettings) :
    (∀ ranges, parseHTTPStatusCodeRanges input = .ok ranges →
      Separated ranges ∧ (∀ r ∈ ranges, r.Valid) ∧
        (∀ code, shouldMatchStatusCodeRanges ranges code = true ↔
          ∃ token, IsToken input token ∧ ∃ r, Denotes token r ∧ r.Covers code) ∧
        parseHTTPStatusCodeRanges (statusCodeRangesToString ranges) = .ok ranges) ∧
    ((∃ err, parseHTTPStatusCodeRanges input = .error err) ↔
      ∃ token, IsToken input token ∧ ¬∃ r, Denotes token r) ∧
    ∀ err, parseHTTPStatusCodeRanges input = .error err →
      automaticDisableStatusCodesFromString settings input = (.error err, settings) ∧
        automaticRetryStatusCodesFromString settings input = (.error err, settings) := by
  simp only [← mem_statusCodeTokens]
  by_cases malformed : ∃ token ∈ statusCodeTokens input, ¬∃ r, Denotes token r
  · rcases parse_error malformed with ⟨err, isError⟩
    refine ⟨?_, iff_of_true ⟨err, isError⟩ malformed, ?_⟩
    · intro _ isParsed
      rw [isError] at isParsed
      cases isParsed
    · intro err isError
      simp only [automaticDisableStatusCodesFromString, automaticRetryStatusCodesFromString,
        isError, and_self]
  · have wellFormed := parse_ok (by simpa using malformed)
    rw [wellFormed]
    refine ⟨?_, iff_of_false (by simp) malformed, by simp⟩
    rintro _ ⟨⟩
    rcases merged_spec valid_of_mem_tokenRanges with ⟨separated, valid, covers⟩
    refine ⟨separated, valid, ?_, parse_toString separated valid⟩
    intro code
    have tokens : (∃ r ∈ tokenRanges (statusCodeTokens input), r.Covers code) ↔
        ∃ token ∈ statusCodeTokens input, ∃ r, Denotes token r ∧ r.Covers code := by
      simp only [mem_tokenRanges]
      constructor
      · rintro ⟨r, ⟨token, inTokens, denotes⟩, covered⟩
        exact ⟨token, inTokens, r, denotes, covered⟩
      · rintro ⟨token, inTokens, r, denotes, covered⟩
        exact ⟨r, ⟨token, inTokens, denotes⟩, covered⟩
    rw [← tokens, ← covers code, ← matchStatusCode_iff separated valid, shouldMatchStatusCodeRanges]
    by_cases isOutside : code < 100 ∨ 599 < code
    · rw [if_pos isOutside, matchStatusCode_iff separated valid]
      refine iff_of_false Bool.false_ne_true ?_
      rintro ⟨r, inRanges, low, high⟩
      rcases valid r inRanges with ⟨above, _, below⟩
      omega
    · rw [if_neg isOutside]

end Rendering

end NewApi.OperationSetting
