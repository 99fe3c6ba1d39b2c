import Mathlib.Data.List.DropRight
import NewApi.Library.Text

/-!
# Splitting texts

`strings.Split`, `strings.Trim` and the tests for prefixes, suffixes and parts, on the
characters of a text.
-/

namespace Text

def hasPrefix (text start : String) : Bool :=
  start.toList.isPrefixOf text.toList

def hasSuffix (text ending : String) : Bool :=
  ending.toList.isSuffixOf text.toList

def trimPrefix (text start : String) : String :=
  if hasPrefix text start then String.ofList (text.toList.drop start.toList.length) else text

def trimSuffix (text ending : String) : String :=
  if hasSuffix text ending then
    String.ofList (text.toList.take (text.toList.length - ending.toList.length))
  else text

/-- `strings.Split` at a separator of any length; `skip` characters belong to the separator
that was found last. -/
def splitChars (separator : List Char) : ℕ → List Char → List (List Char)
  | _, [] => [[]]
  | skip + 1, _ :: rest => splitChars separator skip rest
  | 0, char :: rest =>
    if separator.isPrefixOf (char :: rest) then
      [] :: splitChars separator (separator.length - 1) rest
    else
      (splitChars separator 0 rest).modifyHead (char :: ·)

def split (text separator : String) : List String :=
  (splitChars separator.toList 0 text.toList).map String.ofList

def contains (text part : String) : Bool :=
  1 < (split text part).length

/-- `strings.Replace(text, part, replacement, 1)`. -/
def replaceFirst (text part replacement : String) : String :=
  match split text part with
  | first :: two :: rest => first ++ replacement ++ part.intercalate (two :: rest)
  | _ => text

/-- `strings.Trim` of a single character. -/
def trimChars (char : Char) (text : List Char) : List Char :=
  (text.dropWhile (· = char)).rdropWhile (· = char)

/-- The parts between commas, `strings.Split(text, ",")`. -/
def splitComma (text : String) : List String :=
  (text.toList.splitOn ',').map String.ofList

def splitCommaTrimmed (text : String) : List String :=
  ((trimChars ',' text.toList).splitOn ',').map String.ofList

theorem dropWhile_trimmed {Entry : Type} (drops : Entry → Bool) (entries : List Entry) :
    ((entries.dropWhile drops).rdropWhile drops).dropWhile drops =
      (entries.dropWhile drops).rdropWhile drops := by
  rcases List.rdropWhile_prefix drops (entries.dropWhile drops) with ⟨_, whole⟩
  generalize (entries.dropWhile drops).rdropWhile drops = trimmed at whole ⊢
  cases trimmed with
  | nil => rfl
  | cons _ _ =>
    apply List.dropWhile_cons_of_neg
    have stays := List.head?_dropWhile_not drops entries
    rw [← whole] at stays
    simpa using stays

theorem trimSpace_trimSpace (text : String) : trimSpace (trimSpace text) = trimSpace text := by
  have trimmed : ∀ chars : List Char, trimSpace (String.ofList chars) =
      String.ofList ((chars.dropWhile isSpace).rdropWhile isSpace) := by
    intro _
    simp only [trimSpace, String.toList_ofList, List.rdropWhile]
  have start : trimSpace text =
      String.ofList ((text.toList.dropWhile isSpace).rdropWhile isSpace) := rfl
  rw [start, trimmed, dropWhile_trimmed, List.rdropWhile_idempotent]

section Commas

variable {text : List Char} {part : List Char}

theorem splitOn_cons (sep char : Char) (text : List Char) :
    (char :: text).splitOn sep =
      if char = sep then [] :: text.splitOn sep
      else (text.splitOn sep).modifyHead (char :: ·) := by
  simp only [List.splitOn, List.splitOnP_cons_eq_if_modifyHead, beq_iff_eq]

theorem splitOn_ne_nil (sep : Char) (text : List Char) : text.splitOn sep ≠ [] :=
  List.splitOnP_ne_nil _ _

theorem mem_splitOn_dropWhile (isPart : part ∈ (text.dropWhile (· = ',')).splitOn ',') :
    part ∈ text.splitOn ',' := by
  induction text with
  | nil => exact isPart
  | cons char _ ih =>
    by_cases isComma : char = ','
    · rw [List.dropWhile_cons_of_pos (by simpa using isComma)] at isPart
      rw [splitOn_cons, if_pos isComma]
      exact List.mem_cons_of_mem _ (ih isPart)
    · rw [List.dropWhile_cons_of_neg (by simpa using isComma)] at isPart
      exact isPart

theorem splitOn_append_commas (text : List Char) {commas : List Char}
    (isComma : ∀ char ∈ commas, char = ',') :
    (text ++ commas).splitOn ',' = text.splitOn ',' ++ List.replicate commas.length [] := by
  induction text with
  | nil =>
    induction commas with
    | nil => rfl
    | cons char _ ih =>
      have others := ih fun other inCommas => isComma other (List.mem_cons_of_mem _ inCommas)
      rw [List.nil_append] at others ⊢
      rw [splitOn_cons, if_pos (isComma char List.mem_cons_self), others]
      rfl
  | cons _ text ih =>
    rw [List.cons_append, splitOn_cons, splitOn_cons, ih]
    split
    · rfl
    · cases isSplit : text.splitOn ',' with
      | nil => exact absurd isSplit (splitOn_ne_nil ',' text)
      | cons _ _ => rfl

theorem mem_splitOn_trimChars (isPart : part ∈ (trimChars ',' text).splitOn ',') :
    part ∈ text.splitOn ',' := by
  apply mem_splitOn_dropWhile
  have whole : trimChars ',' text ++ (text.dropWhile (· = ',')).rtakeWhile (· = ',') =
      text.dropWhile (· = ',') :=
    List.rdropWhile_append_rtakeWhile
  rw [← whole, splitOn_append_commas]
  · exact List.mem_append_left _ isPart
  · intro _ inEnding
    simpa using List.mem_rtakeWhile_imp inEnding

end Commas

theorem mem_splitComma_of_trimmed {text part : String} (isPart : part ∈ splitCommaTrimmed text) :
    part ∈ splitComma text := by
  rcases List.mem_map.mp isPart with ⟨_, inParts, rfl⟩
  exact List.mem_map_of_mem (mem_splitOn_trimChars inParts)

section Separated

variable {p : Char → Bool}

/-- Texts without a separator, and texts around one, are all texts. -/
theorem separatorInduction {motive : List Char → Prop}
    (plain : ∀ text, (∀ char ∈ text, p char = false) → motive text)
    (around : ∀ left sep right, p sep = true → motive left → motive right →
      motive (left ++ sep :: right)) (text : List Char) : motive text := by
  induction size : text.length using Nat.strong_induction_on generalizing text with
  | _ size ih =>
    by_cases found : ∃ sep ∈ text, p sep = true
    · rcases found with ⟨sep, inText, isSep⟩
      rcases List.append_of_mem inText with ⟨left, right, rfl⟩
      rw [List.length_append, List.length_cons] at size
      exact around left sep right isSep (ih left.length (by omega) left rfl)
        (ih right.length (by omega) right rfl)
    · exact plain text (by simpa using found)

/-- `part` stands between two separators, or between one and an end of the text. -/
def IsPart (p : Char → Bool) (text part : List Char) : Prop :=
  (∀ char ∈ part, p char = false) ∧ ∃ before after, text = before ++ part ++ after ∧
    (∀ char ∈ before.getLast?, p char = true) ∧ ∀ char ∈ after.head?, p char = true

theorem mem_splitOnP {text part : List Char} : part ∈ text.splitOnP p ↔ IsPart p text part := by
  constructor
  · induction text using separatorInduction (p := p) with
    | plain text plain =>
      rw [List.splitOnP_eq_singleton plain, List.mem_singleton]
      rintro rfl
      exact ⟨plain, [], [], by simp, by simp, by simp⟩
    | around left sep right isSep ihLeft ihRight =>
      rw [List.splitOnP_append_cons left right isSep, List.mem_append]
      rintro (inLeft | inRight)
      · rcases ihLeft inLeft with ⟨plain, before, after, rfl, last, head⟩
        refine ⟨plain, before, after ++ sep :: right, by simp, last, ?_⟩
        cases after with
        | nil => simpa using isSep
        | cons _ _ => exact head
      · rcases ihRight inRight with ⟨plain, before, after, rfl, last, head⟩
        refine ⟨plain, left ++ sep :: before, after, by simp, ?_, head⟩
        cases before with
        | nil => simpa using isSep
        | cons _ _ => simpa using last
  · rintro ⟨plain, before, after, rfl, last, head⟩
    have ahead : part ∈ (part ++ after).splitOnP p := by
      cases after with
      | nil => simp [List.splitOnP_eq_singleton plain]
      | cons sep _ =>
        rw [List.splitOnP_append_cons_of_forall_mem plain sep (head sep rfl)]
        exact List.mem_cons_self
    rcases List.eq_nil_or_concat before with rfl | ⟨front, sep, rfl⟩
    · exact ahead
    · rw [List.concat_eq_append, List.append_assoc, List.append_assoc, List.singleton_append,
        List.splitOnP_append_cons _ _ (last sep (by simp))]
      exact List.mem_append_right _ ahead

end Separated

theorem trimSpace_cons {char : Char} (space : isSpace char = true) (chars : List Char) :
    trimSpace (String.ofList (char :: chars)) = trimSpace (String.ofList chars) := by
  simp only [trimSpace, String.toList_ofList, List.dropWhile_cons_of_pos space]

theorem trimSpace_concat {char : Char} (space : isSpace char = true) (chars : List Char) :
    trimSpace (String.ofList (chars ++ [char])) = trimSpace (String.ofList chars) := by
  simp only [trimSpace, String.toList_ofList, List.dropWhile_append]
  split
  next empty =>
    rw [List.isEmpty_iff.mp empty, List.dropWhile_cons_of_pos space]
    rfl
  next =>
    rw [List.reverse_append, List.reverse_singleton, List.singleton_append,
      List.dropWhile_cons_of_pos space]

/-- The trimmed parts between separators that are not empty. -/
def filledParts (p : Char → Bool) (text : List Char) : List String :=
  ((text.splitOnP p).map fun part => trimSpace (String.ofList part)).filter (· ≠ "")

section FilledParts

variable {p : Char → Bool} {char : Char}

theorem filledParts_around {left right : List Char} {sep : Char} (isSep : p sep = true) :
    filledParts p (left ++ sep :: right) = filledParts p left ++ filledParts p right := by
  simp only [filledParts, List.splitOnP_append_cons left right isSep, List.map_append,
    List.filter_append]

theorem filledParts_plain {text : List Char} (plain : ∀ char ∈ text, p char = false) :
    filledParts p text = [trimSpace (String.ofList text)].filter (· ≠ "") := by
  rw [filledParts, List.splitOnP_eq_singleton plain, List.map_singleton]

theorem filledParts_cons (space : isSpace char = true) (inside : p char = false)
    (text : List Char) : filledParts p (char :: text) = filledParts p text := by
  induction text using separatorInduction (p := p) with
  | plain text plain =>
    rw [filledParts_plain plain, filledParts_plain (List.forall_mem_cons.mpr ⟨inside, plain⟩),
      trimSpace_cons space]
  | around left sep right isSep ih _ =>
    rw [← List.cons_append, filledParts_around isSep, filledParts_around isSep, ih]

theorem filledParts_concat (space : isSpace char = true) (inside : p char = false)
    (text : List Char) : filledParts p (text ++ [char]) = filledParts p text := by
  induction text using separatorInduction (p := p) with
  | plain text plain =>
    rw [filledParts_plain plain, filledParts_plain, trimSpace_concat space]
    intro other occurs
    rcases List.mem_append.mp occurs with occurs | occurs
    · exact plain other occurs
    · rw [List.mem_singleton.mp occurs, inside]
  | around left sep right isSep _ ih =>
    rw [List.append_assoc, List.cons_append, filledParts_around isSep, filledParts_around isSep, ih]

theorem filledParts_dropWhile (inside : ∀ char, isSpace char = true → p char = false)
    (text : List Char) : filledParts p (text.dropWhile isSpace) = filledParts p text := by
  induction text with
  | nil => rfl
  | cons char text ih =>
    by_cases space : isSpace char = true
    · rw [List.dropWhile_cons_of_pos space, ih, filledParts_cons space (inside char space)]
    · rw [List.dropWhile_cons_of_neg space]

theorem filledParts_rdropWhile (inside : ∀ char, isSpace char = true → p char = false)
    (text : List Char) : filledParts p (text.rdropWhile isSpace) = filledParts p text := by
  induction text using List.reverseRecOn with
  | nil => rfl
  | append_singleton text char ih =>
    by_cases space : isSpace char = true
    · rw [List.rdropWhile_concat_pos _ _ _ space, ih, filledParts_concat space (inside char space)]
    · rw [List.rdropWhile_concat_neg _ _ _ space]

theorem filledParts_trimSpace (inside : ∀ char, isSpace char = true → p char = false)
    (text : String) : filledParts p (trimSpace text).toList = filledParts p text.toList := by
  have trimmed : (trimSpace text).toList = (text.toList.dropWhile isSpace).rdropWhile isSpace := by
    rw [trimSpace, String.toList_ofList, List.rdropWhile]
  rw [trimmed, filledParts_rdropWhile inside, filledParts_dropWhile inside]

theorem mem_filledParts {text : List Char} {token : String} : token ∈ filledParts p text ↔
    token ≠ "" ∧ ∃ part, IsPart p text part ∧ trimSpace (String.ofList part) = token := by
  simp only [filledParts, List.mem_filter, List.mem_map, mem_splitOnP, decide_eq_true_eq,
    and_comm]

end FilledParts

end Text
