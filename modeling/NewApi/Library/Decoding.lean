import NewApi.Library.Json
import Mathlib.Algebra.Order.Ring.Rat

/-!
# Decoding JSON into containers

`json.Unmarshal` as it works on a target of a given type: a value of another type leaves the
target alone and is reported, `null` empties a map or a list and leaves everything else alone,
and a container is filled entry by entry, past the entries that fail.
-/

namespace Wire

/-- A map: `nil`, or what it holds. -/
abbrev GoMap (Value : Type) := Option (String → Option Value)

abbrev Decoder (Value : Type) := Json → Value → Value × Bool

namespace Decoder

variable {Value : Type}

def text : Decoder String
  | .null, goal => (goal, true)
  | .text val, _ => (val, true)
  | _, goal => (goal, false)

def number (float64 : ℚ → Option ℚ) : Decoder ℚ
  | .null, goal => (goal, true)
  | .number num, goal => ((float64 num.val).getD goal, (float64 num.val).isSome)
  | _, goal => (goal, false)

def minInt64 : ℤ := -9223372036854775808

def maxInt64 : ℤ := 9223372036854775807

/-- A numeral with a fraction or an exponent is refused, even one of an integer. -/
def int : Decoder ℤ
  | .null, goal => (goal, true)
  | .number (.integer val), goal =>
    if minInt64 ≤ val ∧ val ≤ maxInt64 then (val, true) else (goal, false)
  | _, goal => (goal, false)

def map (zero : Value) (elem : Decoder Value) : Decoder (GoMap Value)
  | .null, _ => (none, true)
  | .object entries, goal =>
    let filled := entries.foldl (fun (filled : (String → Option Value) × Bool) entry =>
      let decoded := elem entry.2 zero
      (Function.update filled.1 entry.1 (some decoded.1), filled.2 && decoded.2))
      (goal.getD fun _ => none, true)
    (some filled.1, filled.2)
  | _, goal => (goal, false)

/-- The items of an array are decoded each into the item in its place, or into a zero value. -/
def list (zero : Value) (elem : Decoder Value) : Decoder (Option (List Value))
  | .null, _ => (none, true)
  | .array items, goal =>
    let decoded := items.zipIdx.map fun item =>
      elem item.1 ((goal.getD []).getD item.2 zero)
    (some (decoded.map Prod.fst), decoded.all Prod.snd)
  | _, goal => (goal, false)

/-- An array of two; missing items are zeroed, and further ones are skipped. -/
def pair (zero : Value) (elem : Decoder Value) : Decoder (Value × Value)
  | .null, goal => (goal, true)
  | .array [], _ => ((zero, zero), true)
  | .array [item], goal =>
    let decoded := elem item goal.1
    ((decoded.1, zero), decoded.2)
  | .array (one :: two :: _), goal =>
    let first := elem one goal.1
    let last := elem two goal.2
    ((first.1, last.1), first.2 && last.2)
  | _, goal => (goal, false)

/-- `json.Unmarshal`: a text that is not JSON leaves the target alone. -/
def unmarshal (parse : String → Option Json) (decoder : Decoder Value) (src : String)
    (goal : Value) : Value × Bool :=
  match parse src with
  | none => (goal, false)
  | some json => decoder json goal

end Decoder

end Wire
