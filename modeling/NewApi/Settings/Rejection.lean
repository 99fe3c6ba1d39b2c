import NewApi.Library.Transition
import NewApi.Settings.Options

/-!
# What a rejected setting leaves

A loader that is given a malformed text either installs an empty container before it fails or
drops the error, and both happen after the row and the option map have been written.
-/

namespace NewApi.Settings

open Transition
open Wire (Decoder Json)

variable {Merged : Type}

/-! ## Specification -/

namespace Runtime

variable (env : Runtime Merged)

def Holds (key val : String) (past after : OptionState Merged) : Prop :=
  match env.route key with
  | .unread => True
  | .loader loader name => loader.denotes env val = some (after.live loader.kind name)
  | .shared shape name =>
    (Loader.fresh shape).denotes env val = some (after.live (.json shape) name)
  | .merged => ∃ json, env.parse val = some json ∧ ∃ merge,
      env.merge key json = some merge ∧ after.merged key = merge (past.merged key)

/-- A call that returns an error changes nothing; one that returns `nil` has stored the values
and set the settings. -/
structure Faithful (vals : List (String × String)) (past : OptionState Merged)
    (result : OptionState Merged × Option OptionError) : Prop where
  rejected : result.2 ≠ none → result.1 = past
  accepted : result.2 = none → ∀ pair ∈ vals, result.1.rows pair.1 = some pair.2 ∧
    env.Holds pair.1 pair.2 past result.1

/-- The value denotes a setting of the option. No value does for a pointer to a shared map, which
an earlier value may have set to `nil`. -/
def Accepts (key val : String) : Prop :=
  match env.route key with
  | .unread => True
  | .loader loader _ => (loader.denotes env val).isSome
  | .shared _ _ => False
  | .merged => ∃ json, env.parse val = some json ∧ (env.merge key json).isSome

def assigned (key val : String) : Option ((kind : Kind) × String × kind.Value) :=
  match env.route key with
  | .loader loader name => (loader.denotes env val).map fun set => ⟨loader.kind, name, set⟩
  | _ => none

/-- The values of a bulk update set each setting to one value. -/
def Agree (vals : List (String × String)) : Prop :=
  ∀ one ∈ vals, ∀ two ∈ vals, ∀ first ∈ env.assigned one.1 one.2,
    ∀ last ∈ env.assigned two.1 two.2, first.1 = last.1 → first.2.1 = last.2.1 →
      first = last

/-- What `encoding/json` makes of some texts. -/
structure Documented : Prop where
  emptyObject : env.parse "{}" = some (.object [])
  null : env.parse "null" = some .null
  spacedNull : env.parse " null " = some .null
  oneEntry : env.parse "\x7b\"a\":1\x7d" = some (.object [("a", .number (.integer 1))])
  one : env.float64 1 = some 1

end Runtime

/-! ## Loaders -/

section Loaders

variable (env : Runtime Merged)

end Loaders

/-! ## One option -/

section Steps

variable {env : Runtime Merged} {key val : String} {cfg : OptionState Merged}

end Steps

/-! ## Earlier updates -/

section Earlier

variable {env : Runtime Merged} {key val : String} {start cfg : OptionState Merged}

/-- The states that operations lead to. -/
abbrev Reached (env : Runtime Merged) : OptionState Merged → OptionState Merged → Prop :=
  Reachable env.next Allowed

section Shared

variable {shape : Shape} {name : String}

end Shared

end Earlier

/-! ## Updates -/

section Updates

variable {env : Runtime Merged} {key val : String} {start : OptionState Merged}

variable {vals rest : List (String × String)} {cfg : OptionState Merged}

variable {pair : String × String} {other : String}

end Updates

/-! ## Loads -/

section Loads

variable {env : Runtime Merged} {key val : String} {start cfg : OptionState Merged}
  {shape : Shape} {name : String}

variable (laws : env.Documented)

include laws

end Loads

/-! ## Rejected changes -/

end NewApi.Settings
