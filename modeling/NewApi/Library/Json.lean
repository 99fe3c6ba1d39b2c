import Mathlib.Data.Rat.Cast.Defs
import NewApi.Library.Text

/-!
# JSON values and records

Writing a record as a JSON value and reading it back, as a decoder does that works from a
description of the record's members: it walks through the entries of an object and assigns each to
the member that it names, so a member that the description leaves out keeps the value of the
target. The text of a value is not modelled.
-/

namespace Wire

/-- A numeral: without fraction and exponent, or with one of them. -/
inductive Number where
  | integer (val : ℤ)
  | decimal (val : ℚ)

namespace Number

def val : Number → ℚ
  | integer val => val
  | decimal val => val

/-- How a float is written: as an integer if it is one below `10 ^ 21`. -/
def ofFloat (val : ℚ) : Number :=
  if val.den = 1 ∧ val.num.natAbs < 10 ^ 21 then integer val.num else decimal val

theorem val_ofFloat (val : ℚ) : (ofFloat val).val = val := by
  unfold ofFloat
  split
  next whole => exact Rat.coe_int_num_of_den_eq_one whole.1
  · rfl

end Number

/-- Parsed JSON. -/
inductive Json where
  | null
  | bool (val : Bool)
  | number (num : Number)
  | text (val : String)
  | array (items : List Json)
  | object (entries : List (String × Json))

/-- How values are written as JSON and read over a value that is there. -/
structure Codec (Value : Type) where
  encode : Value → Json
  decode : Json → Value → Option Value
  merge : Value → Value → Value
  decode_encode : ∀ val goal, decode (encode val) goal = some (merge val goal)

namespace Codec

/-- A type whose values are written as one token; `null` leaves the target alone. -/
def scalar {Value : Type} (write : Value → Json) (read : Json → Option Value)
    (read_write : ∀ val, read (write val) = some val)
    (write_ne_null : ∀ val, write val ≠ .null) : Codec Value where
  encode := write
  decode json goal := match json with
    | .null => some goal
    | json => read json
  merge val _ := val
  decode_encode val goal := by
    split
    next isNull => exact absurd isNull (write_ne_null val)
    next => exact read_write val

def bool : Codec Bool :=
  scalar .bool (fun | .bool val => some val | _ => none) (fun _ => rfl) (by simp)

def text : Codec String :=
  scalar .text (fun | .text val => some val | _ => none) (fun _ => rfl) (by simp)

def number : Codec ℚ :=
  scalar (fun val => .number (.ofFloat val)) (fun | .number num => some num.val | _ => none)
    (fun val => congrArg some (Number.val_ofFloat val)) (by simp)

/-- An integer is read from an integer numeral alone. -/
def integer : Codec ℤ :=
  scalar (fun val => .number (.integer val))
    (fun | .number (.integer val) => some val | _ => none) (fun _ => rfl) (by simp)

/-- A pointer is `null`, or its value, read into what it points to or into a new zero value. -/
def pointer {Value : Type} (zero : Value) (codec : Codec Value)
    (encode_ne_null : ∀ val, codec.encode val ≠ .null) : Codec (Option Value) where
  encode
    | none => .null
    | some val => codec.encode val
  decode json goal := match json with
    | .null => some none
    | json => (codec.decode json (goal.getD zero)).map some
  merge val goal := val.map fun val => codec.merge val (goal.getD zero)
  decode_encode val goal := by
    cases val with
    | none => rfl
    | some val =>
      simp only
      split
      next isNull => exact absurd isNull (encode_ne_null val)
      next => simp [codec.decode_encode]

@[simp]
theorem bool_merge (val goal : Bool) : bool.merge val goal = val :=
  rfl

@[simp]
theorem text_merge (val goal : String) : text.merge val goal = val :=
  rfl

@[simp]
theorem number_merge (val goal : ℚ) : number.merge val goal = val :=
  rfl

@[simp]
theorem integer_merge (val goal : ℤ) : integer.merge val goal = val :=
  rfl

end Codec

/-! ## Records -/

/-- A member of a record, and the values of it that are not written. -/
structure Member (Record : Type) where
  name : String
  Value : Type
  codec : Codec Value
  get : Record → Value
  set : Value → Record → Record
  omitted : Value → Bool := fun _ => false

namespace Member

variable {Record : Type}

def write (member : Member Record) (record : Record) : Option (String × Json) :=
  if member.omitted (member.get record) then none
  else some (member.name, member.codec.encode (member.get record))

def read (member : Member Record) (json : Json) (goal : Record) : Option Record :=
  (member.codec.decode json (member.get goal)).map (member.set · goal)

/-- What writing the member of a record and reading it back leaves in a target. -/
def keep (record : Record) (goal : Record) (member : Member Record) : Record :=
  if member.omitted (member.get record) then goal
  else member.set (member.codec.merge (member.get record) (member.get goal)) goal

/-- The member that a key names: the one with this name, or else one with this name up to
case. -/
def named (members : List (Member Record)) (key : String) : Option (Member Record) :=
  (members.find? (·.name = key)).or (members.find? fun member =>
      member.name.toList.map Text.foldCase = key.toList.map Text.foldCase)

theorem named_of_mem {members : List (Member Record)} (nodup : (members.map name).Nodup)
    {member : Member Record} (described : member ∈ members) :
    named members member.name = some member := by
  have found : members.find? (·.name = member.name) = some member := by
    induction members with
    | nil => simp at described
    | cons head _ ih =>
      simp only [List.map_cons, List.nodup_cons] at nodup
      rcases List.mem_cons.mp described with rfl | inTail
      · simp
      · have apart : head.name ≠ member.name := by
          intro same
          exact nodup.1 (same ▸ List.mem_map_of_mem inTail)
        simp [apart, ih nodup.2 inTail]
  simp [named, found]

/-- Assign the entries of an object one after the other; unknown keys are skipped. -/
def readEntries (members : List (Member Record)) :
    List (String × Json) → Record → Option Record
  | [], goal => some goal
  | (key, json) :: rest, goal =>
    match named members key with
    | none => readEntries members rest goal
    | some member => (member.read json goal).bind (readEntries members rest)

theorem readEntries_write {members written : List (Member Record)}
    (known : ∀ member ∈ written, named members member.name = some member) (record goal : Record) :
    readEntries members (written.filterMap (·.write record)) goal =
      some (written.foldl (keep record) goal) := by
  induction written generalizing goal with
  | nil => rfl
  | cons member rest ih =>
    have knownRest : ∀ other ∈ rest, named members other.name = some other := by
      intro other isIn
      exact known other (by simp [isIn])
    have names := known member (by simp)
    cases skipped : member.omitted (member.get record) with
    | true =>
      have unwritten : member.write record = none := by simp [write, skipped]
      simp only [List.filterMap_cons, unwritten]
      rw [ih knownRest]
      simp [keep, skipped]
    | false =>
      have written : member.write record =
          some (member.name, member.codec.encode (member.get record)) := by
        simp [write, skipped]
      simp only [List.filterMap_cons, written, readEntries, names, read,
        member.codec.decode_encode, Option.map_some, Option.bind_some, List.foldl_cons]
      rw [ih knownRest]
      simp [keep, skipped]

end Member

def Codec.record {Record : Type} (members : List (Member Record))
    (distinct : (members.map Member.name).Nodup) : Codec Record where
  encode record := .object (members.filterMap (·.write record))
  decode json goal := match json with
    | .null => some goal
    | .object entries => Member.readEntries members entries goal
    | _ => none
  merge record goal := members.foldl (Member.keep record) goal
  decode_encode record goal :=
    Member.readEntries_write (fun _ => Member.named_of_mem distinct) record goal

@[simp]
theorem Codec.record_merge {Record : Type} {members : List (Member Record)}
    {nodup : (members.map Member.name).Nodup} (record goal : Record) :
    (Codec.record members nodup).merge record goal = members.foldl (Member.keep record) goal :=
  rfl

end Wire
