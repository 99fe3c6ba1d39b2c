import Mathlib.Algebra.Order.Ring.Nat
import Mathlib.Data.Nat.Log
import NewApi.Library.Text

/-!
# Decimal texts

Numbers as the texts that `strconv.FormatUint` writes and `strconv.ParseUint` reads.
-/

namespace Decimal

/-- `strconv.FormatUint(number, 10)`. -/
def format (n : ℕ) : String :=
  Nat.repr n

def parse (text : String) : Option ℕ :=
  if text.toList ≠ [] ∧ text.toList.all Char.isDigit then
    some (Nat.ofDigitChars 10 text.toList 0)
  else none

def parseUint (text : String) : Option ℕ :=
  (parse text).filter (· < 2 ^ 64)

theorem toList_format (n : ℕ) : (format n).toList = Nat.toDigits 10 n := by
  simp [format, Nat.repr]

theorem isDigit_of_mem {n : ℕ} {char : Char}
    (occurs : char ∈ (format n).toList) : char.isDigit = true := by
  rw [toList_format] at occurs
  exact Nat.isDigit_of_mem_toDigits (by omega) (by omega) occurs

@[simp]
theorem parse_format (n : ℕ) : parse (format n) = some n := by
  have digits : (format n).toList.all Char.isDigit = true := by
    rw [List.all_eq_true]
    intro _ occurs
    exact isDigit_of_mem occurs
  have filled : (format n).toList ≠ [] := by
    rw [toList_format]
    exact Nat.toDigits_ne_nil
  have val : Nat.ofDigitChars 10 (format n).toList 0 = n := by
    rw [toList_format, Nat.ofDigitChars_ten_toDigits]
  simp [parse, digits, filled, val]

theorem eq_of_parseUint_format {n val : ℕ}
    (parsed : parseUint (format n) = some val) : n = val := by
  simp only [parseUint, parse_format, Option.filter_eq_some_iff, Option.some.injEq] at parsed
  exact parsed.1

theorem format_injective : Function.Injective format := by
  intro _ _ same
  have parsed := congrArg parse same
  simpa using parsed

/-- `%d` of a signed number. -/
def formatInt (n : ℤ) : String :=
  if n < 0 then "-" ++ format n.natAbs else format n.natAbs

theorem mem_formatInt {n : ℤ} {char : Char} (occurs : char ∈ (formatInt n).toList) :
    char = '-' ∨ char.isDigit = true := by
  unfold formatInt at occurs
  split at occurs
  · rw [String.toList_append, List.mem_append] at occurs
    rcases occurs with sign | digit
    · exact .inl (List.mem_singleton.mp sign)
    · exact .inr (isDigit_of_mem digit)
  · exact .inr (isDigit_of_mem occurs)

theorem formatInt_injective : Function.Injective formatInt := by
  have unsigned : ∀ n : ℕ, '-' ∉ (format n).toList := by
    intro _ occurs
    have digit := isDigit_of_mem occurs
    revert digit
    decide
  have signed : ∀ left right : ℕ, "-" ++ format left ≠ format right := by
    intro _ right same
    apply unsigned right
    rw [← same, String.toList_append]
    exact List.mem_append_left _ (List.mem_singleton_self _)
  intro _ _ same
  unfold formatInt at same
  split at same
  next =>
    split at same
    next =>
      have equal := format_injective (String.append_right_inj _ |>.mp same)
      omega
    next => exact absurd same (signed _ _)
  next =>
    split at same
    next => exact absurd same.symm (signed _ _)
    next =>
      have equal := format_injective same
      omega

def minInt64 : ℤ := -9223372036854775808

def maxInt64 : ℤ := 9223372036854775807

def parseInt (text : String) : Option ℤ :=
  let n : Option ℤ := match text.toList with
    | '-' :: digits => (parse (String.ofList digits)).map fun n => -(n : ℤ)
    | '+' :: digits => (parse (String.ofList digits)).map fun n => (n : ℤ)
    | _ => (parse text).map fun n => (n : ℤ)
  n.filter fun n => minInt64 ≤ n ∧ n ≤ maxInt64

theorem parseInt_formatInt {n : ℤ} (atLeast : minInt64 ≤ n)
    (atMost : n ≤ maxInt64) : parseInt (formatInt n) = some n := by
  have bounds : minInt64 ≤ n ∧ n ≤ maxInt64 := ⟨atLeast, atMost⟩
  by_cases neg : n < 0
  · have text : (formatInt n).toList = '-' :: (format n.natAbs).toList := by
      simp [formatInt, neg]
    have val : -((n.natAbs : ℕ) : ℤ) = n := by omega
    simp only [parseInt, text, String.ofList_toList, parse_format]
    change Option.filter _ (some (-((n.natAbs : ℕ) : ℤ))) = some n
    rw [val]
    simp [bounds]
  · have text : formatInt n = format n.natAbs := by
      simp [formatInt, neg]
    have val : ((n.natAbs : ℕ) : ℤ) = n := by omega
    have unsigned : ∀ sign, sign = '-' ∨ sign = '+' →
        ∀ rest, (format n.natAbs).toList ≠ sign :: rest := by
      intro sign isSign _ same
      have occurs : sign ∈ (format n.natAbs).toList := by
        rw [same]
        exact List.mem_cons_self
      have digit := isDigit_of_mem occurs
      rcases isSign with rfl | rfl
      · revert digit
        decide
      · revert digit
        decide
    rw [text]
    unfold parseInt
    split
    next minus => exact absurd minus (unsigned _ (.inl rfl) _)
    next plus => exact absurd plus (unsigned _ (.inr rfl) _)
    next => simp [val, bounds]

end Decimal
