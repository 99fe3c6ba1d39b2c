import Mathlib.Algebra.Order.Floor.Div
import Mathlib.Tactic.Linarith
import Mathlib.Tactic.Ring
import NewApi.Library.Redis

/-!
# Numbers in Redis scripts

Every number of the script language is a double.
-/

namespace Lua

def divHalfEven (n divisor : ℕ) : ℕ :=
  let quotient := n / divisor
  let twice := 2 * (n % divisor)
  if twice < divisor ∨ (twice = divisor ∧ quotient % 2 = 0) then quotient else quotient + 1

def spacing (n : ℕ) : ℕ :=
  2 ^ (n.log2 - 52)

theorem spacing_pos (n : ℕ) : 0 < spacing n :=
  Nat.two_pow_pos _

def toDouble (n : ℕ) : ℕ :=
  divHalfEven n (spacing n) * spacing n

/-- The doubles. -/
inductive Number where
  | finite (val : ℚ)
  | infinite (negative : Bool)
  | nan

namespace Number

def ofNat (n : ℕ) : Number :=
  .finite (toDouble n)

/-- The comparison `<`. -/
def lt : Number → Number → Bool
  | .finite left, .finite right => left < right
  | .finite _, .infinite negative => !negative
  | .infinite negative, .finite _ => negative
  | .infinite left, .infinite right => left && !right
  | .nan, _ => false
  | _, .nan => false

end Number

/-- `tonumber` of a text: a row of digits is read as an integer, and the other numerals that
`strtod` knows (signs, white space, fractions, exponents, hexadecimal) are given by
`otherNumeral`. -/
def tonumber (otherNumeral : String → Option Number) (text : String) : Option Number :=
  match Decimal.parse text with
  | some n => some (.ofNat n)
  | none => otherNumeral text

/-- The integer reply that the server makes of a number: the fraction is cut off, and what a
64-bit integer cannot hold becomes the least one, as the conversion instruction has it. -/
def toReply : Number → ℤ
  | .finite val =>
    let cut := if 0 ≤ val then val.floor else val.ceil
    if -2 ^ 63 ≤ cut ∧ cut < 2 ^ 63 then cut else -2 ^ 63
  | _ => -2 ^ 63

/-- A number in the script language, for an integer reply of a command. -/
def ofReply (reply : ℤ) : ℤ :=
  if 0 ≤ reply then toDouble reply.natAbs else -toDouble reply.natAbs

def dropTrailingZeros (digits : List Char) : List Char :=
  (digits.reverse.dropWhile (· == '0')).reverse

/-- The exponent form that `%.14g` uses from fifteen digits on. -/
def exponentForm (n : ℕ) : String :=
  let exponent := (Decimal.format n).toList.length - 1
  let rounded := divHalfEven n (10 ^ (exponent - 13))
  let exponent := if rounded = 10 ^ 14 then exponent + 1 else exponent
  let significand := if rounded = 10 ^ 14 then 10 ^ 13 else rounded
  let digits := dropTrailingZeros (Decimal.format significand).toList
  let mantissa := match digits with
    | first :: [] => [first]
    | first :: rest => first :: '.' :: rest
    | [] => []
  String.ofList (mantissa ++ 'e' :: '+' :: (Decimal.format exponent).toList)

/-- The text of an integer of the script language, by `%.14g`. -/
def concatText (n : ℤ) : String :=
  let magnitude := if n.natAbs < 10 ^ 14 then Decimal.format n.natAbs
    else exponentForm n.natAbs
  if n < 0 then "-" ++ magnitude else magnitude

variable {n left right : ℕ} {char : Char}

theorem toDouble_of_le (exact : n ≤ 2 ^ 53) : toDouble n = n := by
  rcases Nat.lt_or_ge n (2 ^ 53) with small | _
  · have bits : n.log2 ≤ 52 := by
      by_cases zero : n = 0
      · simp [zero]
      · have bound : n.log2 < 53 := (Nat.log2_lt zero).mpr small
        omega
    have unit : spacing n = 1 := by simp [spacing, Nat.sub_eq_zero_of_le bits]
    simp [toDouble, unit, divHalfEven, Nat.mod_one]
  · have boundary : n = 2 ^ 53 := by omega
    subst boundary
    decide

theorem divHalfEven_le (n divisor : ℕ) :
    divHalfEven n divisor ≤ n / divisor + 1 := by
  simp only [divHalfEven]
  split <;> omega

theorem le_divHalfEven (n divisor : ℕ) : n / divisor ≤ divHalfEven n divisor := by
  simp only [divHalfEven]
  split <;> omega

theorem divHalfEven_mono (divisor : ℕ) (ordered : left ≤ right) :
    divHalfEven left divisor ≤ divHalfEven right divisor := by
  rcases Nat.lt_or_eq_of_le (Nat.div_le_div_right (c := divisor) ordered) with more | same
  · calc divHalfEven left divisor ≤ left / divisor + 1 := divHalfEven_le left divisor
      _ ≤ right / divisor := more
      _ ≤ divHalfEven right divisor := le_divHalfEven right divisor
  · have leftParts := Nat.div_add_mod left divisor
    have rightParts := Nat.div_add_mod right divisor
    rw [same] at leftParts
    have remainders : left % divisor ≤ right % divisor := by omega
    simp only [divHalfEven, same]
    split <;> split <;> omega

theorem log2_mono (ordered : left ≤ right) : left.log2 ≤ right.log2 := by
  by_cases zero : left = 0
  · simp [zero]
  · have nonzero : right ≠ 0 := by omega
    rw [Nat.le_log2 nonzero]
    exact (Nat.log2_self_le zero).trans ordered

theorem toDouble_le_pow (n : ℕ) : toDouble n ≤ 2 ^ (n.log2 + 1) := by
  have below : n < 2 ^ (n.log2 + 1) := Nat.lt_log2_self
  rcases Nat.lt_or_ge n.log2 53 with _ | _
  · have exact : n ≤ 2 ^ 53 :=
      below.le.trans (Nat.pow_le_pow_right (by omega) (by omega))
    rw [toDouble_of_le exact]
    exact below.le
  · have split : 2 ^ (n.log2 + 1) = 2 ^ 53 * spacing n := by
      rw [spacing, ← Nat.pow_add]
      congr 1
      omega
    have quotient : n / spacing n < 2 ^ 53 := by
      rw [Nat.div_lt_iff_lt_mul (spacing_pos n), ← split]
      exact below
    rw [split]
    have rounded := divHalfEven_le n (spacing n)
    exact Nat.mul_le_mul_right _ (by omega)

theorem pow_le_toDouble (nonzero : n ≠ 0) : 2 ^ n.log2 ≤ toDouble n := by
  have above : 2 ^ n.log2 ≤ n := Nat.log2_self_le nonzero
  rcases Nat.lt_or_ge n.log2 53 with _ | _
  · have below : n < 2 ^ (n.log2 + 1) := Nat.lt_log2_self
    have exact : n ≤ 2 ^ 53 :=
      below.le.trans (Nat.pow_le_pow_right (by omega) (by omega))
    rw [toDouble_of_le exact]
    exact above
  · have split : 2 ^ n.log2 = 2 ^ 52 * spacing n := by
      rw [spacing, ← Nat.pow_add]
      congr 1
      omega
    have quotient : 2 ^ 52 ≤ n / spacing n := by
      rw [Nat.le_div_iff_mul_le (spacing_pos n), ← split]
      exact above
    rw [split]
    exact Nat.mul_le_mul_right _ (quotient.trans (le_divHalfEven n (spacing n)))

theorem toDouble_mono (ordered : left ≤ right) : toDouble left ≤ toDouble right := by
  rcases Nat.lt_or_eq_of_le (log2_mono ordered) with more | same
  · have nonzero : right ≠ 0 := by
      rintro rfl
      simp at more
    calc toDouble left ≤ 2 ^ (left.log2 + 1) := toDouble_le_pow left
      _ ≤ 2 ^ right.log2 := Nat.pow_le_pow_right (by omega) more
      _ ≤ toDouble right := pow_le_toDouble nonzero
  · have unit : spacing left = spacing right := by rw [spacing, spacing, same]
    rw [toDouble, toDouble, unit]
    exact Nat.mul_le_mul_right _ (divHalfEven_mono _ ordered)

theorem toDouble_pos (positive : 0 < n) : 0 < toDouble n := by
  have least := toDouble_mono (show 1 ≤ n by omega)
  rw [toDouble_of_le (show 1 ≤ 2 ^ 53 by omega)] at least
  omega

theorem lt_ofNat_iff (left right : ℕ) :
    Number.lt (.ofNat left) (.ofNat right) = true ↔
      left < right ∧ toDouble left ≠ toDouble right := by
  simp only [Number.ofNat, Number.lt, decide_eq_true_eq, Nat.cast_lt]
  constructor
  · intro _
    have nodup : toDouble left ≠ toDouble right := by omega
    refine ⟨?_, nodup⟩
    by_contra notLess
    have ordered := toDouble_mono (Nat.le_of_not_lt notLess)
    omega
  · rintro ⟨less, _⟩
    have ordered := toDouble_mono less.le
    omega

@[simp]
theorem tonumber_format (otherNumeral : String → Option Number) (n : ℕ) :
    tonumber otherNumeral (Decimal.format n) = some (.ofNat n) := by
  simp [tonumber]

theorem toReply_ofNat (n : ℕ) :
    toReply (.ofNat n) =
      if toDouble n < 2 ^ 63 then (toDouble n : ℤ) else -2 ^ 63 := by
  have nonnegative : (0 : ℚ) ≤ (toDouble n : ℚ) := by positivity
  have floored : ((toDouble n : ℕ) : ℚ).floor = (toDouble n : ℤ) := by
    have cast : ((toDouble n : ℕ) : ℚ) = ((toDouble n : ℤ) : ℚ) := by push_cast; rfl
    rw [cast]
    exact Rat.floor_intCast _
  simp only [Number.ofNat, toReply, if_pos nonnegative, floored]
  by_cases fits : toDouble n < 2 ^ 63
  · have bounds : -2 ^ 63 ≤ (toDouble n : ℤ) ∧ (toDouble n : ℤ) < 2 ^ 63 := by
      constructor <;> omega
    rw [if_pos bounds, if_pos fits]
  · have bounds : ¬(-2 ^ 63 ≤ (toDouble n : ℤ) ∧ (toDouble n : ℤ) < 2 ^ 63) := by
      omega
    rw [if_neg bounds, if_neg fits]

/-! ### Numbers in texts -/

theorem ofReply_natCast (n : ℕ) : ofReply (n : ℤ) = (toDouble n : ℤ) := by
  simp [ofReply]

theorem concatText_natCast (n : ℕ) :
    concatText (n : ℤ) =
      if n < 10 ^ 14 then Decimal.format n else exponentForm n := by
  have nonnegative : ¬(n : ℤ) < 0 := by omega
  rw [concatText, if_neg nonnegative, Int.natAbs_natCast]

theorem mem_exponentForm (n : ℕ) : 'e' ∈ (exponentForm n).toList := by
  simp [exponentForm]

theorem mem_dropTrailingZeros {digits : List Char}
    (occurs : char ∈ dropTrailingZeros digits) : char ∈ digits := by
  rw [dropTrailingZeros, List.mem_reverse] at occurs
  exact List.mem_reverse.mp ((List.dropWhile_sublist _).subset occurs)

theorem mem_exponentForm_cases (occurs : char ∈ (exponentForm n).toList) :
    char.isDigit = true ∨ char = '.' ∨ char = 'e' ∨ char = '+' := by
  simp only [exponentForm, String.toList_ofList, List.mem_append, List.mem_cons] at occurs
  rcases occurs with inMantissa | rfl | rfl | inExponent
  · split at inMantissa
    · rename_i first digits
      left
      apply Decimal.isDigit_of_mem
      apply mem_dropTrailingZeros
      rw [digits]
      exact inMantissa
    · rename_i first rest _ digits
      rcases List.mem_cons.mp inMantissa with rfl | isIn
      · left
        apply Decimal.isDigit_of_mem
        apply mem_dropTrailingZeros
        rw [digits]
        exact List.mem_cons_self
      · rcases List.mem_cons.mp isIn with rfl | isIn
        · exact .inr (.inl rfl)
        · left
          apply Decimal.isDigit_of_mem
          apply mem_dropTrailingZeros
          rw [digits]
          exact List.mem_cons_of_mem _ isIn
    · cases inMantissa
  · exact .inr (.inr (.inl rfl))
  · exact .inr (.inr (.inr rfl))
  · exact .inl (Decimal.isDigit_of_mem inExponent)

theorem not_mem_concatText (digit : char.isDigit = false)
    (mark : char ∉ ['.', 'e', '+']) : char ∉ (concatText (n : ℤ)).toList := by
  intro occurs
  rw [concatText_natCast] at occurs
  split at occurs
  · rw [Decimal.isDigit_of_mem occurs] at digit
    cases digit
  · rcases mem_exponentForm_cases occurs with isDigit | rfl | rfl | rfl
    · rw [isDigit] at digit
      cases digit
    all_goals simp at mark

theorem eq_of_format_eq_concatText {token : ℕ}
    (same : Decimal.format token = concatText (ofReply (n : ℤ))) :
    token = n ∧ token < 10 ^ 14 := by
  rw [ofReply_natCast, concatText_natCast] at same
  split at same
  · rename_i small
    have equal := Decimal.format_injective same
    have exact : n ≤ 2 ^ 53 := by
      by_contra large
      have above := toDouble_mono (show 2 ^ 53 ≤ n by omega)
      rw [toDouble_of_le le_rfl] at above
      omega
    rw [toDouble_of_le exact] at equal small
    exact ⟨equal, equal ▸ small⟩
  · have letter := mem_exponentForm (toDouble n)
    rw [← same] at letter
    exact absurd (Decimal.isDigit_of_mem letter) (by decide)

end Lua
