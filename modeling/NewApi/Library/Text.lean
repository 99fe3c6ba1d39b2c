import Mathlib.Data.List.Nodup

/-!
# Text predicates of the Go standard library

Only what input validation and tag comparison need: white space at the ends of a string,
its length in bytes, and equality up to case.
-/

namespace Text

def isSpace (char : Char) : Bool :=
  char.toNat ∈ [0x09, 0x0A, 0x0B, 0x0C, 0x0D, 0x20, 0x85, 0xA0, 0x1680, 0x2028, 0x2029,
    0x202F, 0x205F, 0x3000] || (0x2000 ≤ char.toNat && char.toNat ≤ 0x200A)

/-- `strings.TrimSpace(text) == ""`. -/
def isBlank (text : String) : Bool :=
  text.toList.all isSpace

def trimSpace (text : String) : String :=
  String.ofList (((text.toList.dropWhile isSpace).reverse.dropWhile isSpace).reverse)

theorem not_isSpace {char : Char} (low : 0x21 ≤ char.toNat) (high : char.toNat ≤ 0x7E) :
    isSpace char = false := by
  simp only [isSpace, List.mem_cons, List.not_mem_nil, or_false, Bool.or_eq_false_iff,
    decide_eq_false_iff_not, Bool.and_eq_false_iff]
  omega

theorem trimSpace_of_plain {text : String} (plain : ∀ char ∈ text.toList, isSpace char = false) :
    trimSpace text = text := by
  have keeps : ∀ chars : List Char, (∀ char ∈ chars, isSpace char = false) →
      chars.dropWhile isSpace = chars := by
    intro chars notSpaces
    cases chars with
    | nil => rfl
    | cons first _ =>
      exact List.dropWhile_cons_of_neg (by simp [notSpaces first List.mem_cons_self])
  rw [trimSpace, keeps _ plain, keeps, List.reverse_reverse, String.ofList_toList]
  intro char member
  exact plain char (List.mem_reverse.mp member)

/-- The lower-case letter that a character folds to, as far as it is an ASCII one. Besides the
capital letters, the Kelvin sign and the long s fold to ASCII letters. -/
def foldCase (char : Char) : Char :=
  if char.toNat = 0x212A then 'k'
  else if char.toNat = 0x017F then 's'
  else char.toLower

def equalFold (text tag : String) : Bool :=
  text.toList.map foldCase = tag.toList

/-- A required text column: not blank, and at most `limit` bytes long. -/
def fits (limit : ℕ) (text : String) : Bool :=
  !isBlank text && text.utf8ByteSize ≤ limit

theorem cut_last {sep : Char} {left right leftRest rightRest : List Char}
    (notLeft : sep ∉ leftRest) (notRight : sep ∉ rightRest)
    (same : left ++ sep :: leftRest = right ++ sep :: rightRest) :
    left = right ∧ leftRest = rightRest := by
  rcases List.append_eq_append_iff.mp same with ⟨between, rfl, tail⟩ | ⟨between, rfl, tail⟩
  · cases between with
    | nil => exact ⟨by simp, by simpa using tail⟩
    | cons _ _ =>
      simp only [List.cons_append, List.cons.injEq] at tail
      exact absurd (by simp [tail.2]) notLeft
  · cases between with
    | nil => exact ⟨by simp, by simpa using tail.symm⟩
    | cons _ _ =>
      simp only [List.cons_append, List.cons.injEq] at tail
      exact absurd (by simp [tail.2]) notRight

end Text
