import Mathlib.Algebra.Order.Ring.Int
import NewApi.Library.Decimal

/-!
# A Redis keyspace and its scripts

Keys hold texts, hashes or values of another type, with an optional deadline in
milliseconds. A script is a sequence of commands that no other client can interrupt; time
stands still in it. A command that fails stops the script, and the writes of the commands
before it stay: a script is not a transaction that rolls back.
-/

namespace Redis

abbrev Fields := List (String × String)

/-- What a key can hold. Lists, sets, sorted sets and streams are values of another type. -/
inductive Value where
  | text (content : String)
  | hash (fields : Fields)
  | other (kind : String)

/-- A value and the time at which its key expires. -/
structure Entry where
  value : Value
  deadline : Option ℕ

/-- The clock of the server and its keys. -/
structure Store where
  now : ℕ
  entries : String → Option Entry

/-- The error replies of the commands, and the errors a script raises itself. -/
inductive Failure where
  | wrongType
  | notAnInteger
  | incrementOverflow
  | invalidExpireTime
  | script (text : String)
deriving DecidableEq

namespace Fields

def assign (fields : Fields) (field : String × String) : Fields :=
  field :: fields.filter fun old => old.1 != field.1

theorem lookup_assign (fields : Fields) (name val other : String) :
    (assign fields (name, val)).lookup other =
      if other = name then some val else fields.lookup other := by
  by_cases same : other = name
  · subst same
    simp [assign]
  · have diff : (other == name) = false := by simp [same]
    simp only [assign, List.lookup_cons, diff, if_neg same]
    induction fields with
    | nil => rfl
    | cons field _ ih =>
      rcases field with ⟨fieldName, _⟩
      by_cases first : fieldName = name
      · simp [first, List.lookup_cons, ih, diff]
      · simp [first, List.lookup_cons, ih]

end Fields

namespace Store

def find (store : Store) (key : String) : Option Entry :=
  (store.entries key).filter fun entry => entry.deadline.all (store.now ≤ ·)

def put (store : Store) (key : String) (entry : Option Entry) : Store :=
  { store with entries := Function.update store.entries key entry }

/-- The text that `GET` reads. -/
def textAt (store : Store) (key : String) : Except Failure (Option String) :=
  match store.find key with
  | none => .ok none
  | some ⟨.text content, _⟩ => .ok (some content)
  | some _ => .error .wrongType

/-- The fields that the hash commands read; a missing key is an empty hash. -/
def hashAt (store : Store) (key : String) : Except Failure Fields :=
  match store.find key with
  | none => .ok []
  | some ⟨.hash fields, _⟩ => .ok fields
  | some _ => .error .wrongType

def deadlineAt (store : Store) (key : String) : Option ℕ :=
  (store.find key).bind (·.deadline)

/-- The store with a hash under the key; a deadline the key has stays. -/
def putHash (store : Store) (key : String) (fields : Fields) : Store :=
  store.put key (some ⟨.hash fields, store.deadlineAt key⟩)

def putText (store : Store) (key content : String) (due : Option ℕ) : Store :=
  store.put key (some ⟨.text content, due⟩)

/-- The store after `PEXPIRE`: a missing key stays missing, a key without time left goes. -/
def expireIn (store : Store) (key : String) (milliseconds : ℕ) : Store :=
  match store.find key with
  | none => store
  | some entry =>
    if milliseconds = 0 then store.put key none
    else store.put key (some { entry with deadline := some (store.now + milliseconds) })

def tick (store : Store) (milliseconds : ℕ) : Store :=
  { store with now := store.now + milliseconds }

@[simp]
theorem put_now (store : Store) (key : String) (entry : Option Entry) :
    (store.put key entry).now = store.now :=
  rfl

@[simp]
theorem expireIn_now (store : Store) (key : String) (milliseconds : ℕ) :
    (store.expireIn key milliseconds).now = store.now := by
  unfold expireIn
  split
  · rfl
  · split <;> rfl

theorem find_put_of_ne (store : Store) {key other : String} (entry : Option Entry)
    (diff : other ≠ key) : (store.put key entry).find other = store.find other := by
  simp only [find, put, Function.update_of_ne diff]
  rfl

@[simp]
theorem find_put_none (store : Store) (key : String) : (store.put key none).find key = none := by
  simp [find, put]

theorem find_put_some (store : Store) (key : String) (entry : Entry) :
    (store.put key (some entry)).find key =
      if entry.deadline.all (store.now ≤ ·) then some entry else none := by
  simp only [find, put, Function.update_self, Option.filter]
  rfl

theorem deadline_live {store : Store} {key : String} {entry : Entry}
    (found : store.find key = some entry) : entry.deadline.all (store.now ≤ ·) = true := by
  simp only [find, Option.filter_eq_some_iff] at found
  exact found.2

theorem find_putHash (store : Store) (key : String) (fields : Fields) :
    (store.putHash key fields).find key = some ⟨.hash fields, store.deadlineAt key⟩ := by
  rw [putHash, find_put_some, if_pos]
  cases found : store.find key with
  | none => simp [deadlineAt, found]
  | some _ => simpa [deadlineAt, found] using deadline_live found

theorem find_expireIn (store : Store) (key : String) {milliseconds : ℕ} (pos : milliseconds ≠ 0) :
    (store.expireIn key milliseconds).find key = (store.find key).map fun entry =>
      { entry with deadline := some (store.now + milliseconds) } := by
  unfold expireIn
  cases found : store.find key with
  | none => simpa using found
  | some _ =>
    simp only [if_neg pos, find_put_some]
    simp

theorem find_expireIn_ne (store : Store) {key other : String} (milliseconds : ℕ)
    (diff : other ≠ key) : (store.expireIn key milliseconds).find other = store.find other := by
  unfold expireIn
  split
  · rfl
  · split <;> exact find_put_of_ne store _ diff

theorem find_expireIn_value (store : Store) (key other : String) {milliseconds : ℕ}
    (pos : milliseconds ≠ 0) :
    ((store.expireIn key milliseconds).find other).map Entry.value =
      (store.find other).map Entry.value := by
  by_cases same : other = key
  · subst same
    rw [find_expireIn _ _ pos, Option.map_map]
    rfl
  · rw [find_expireIn_ne _ _ same]

theorem textAt_congr {left right : Store} {key : String}
    (same : (left.find key).map Entry.value = (right.find key).map Entry.value) :
    left.textAt key = right.textAt key := by
  unfold textAt
  rcases leftFound : left.find key with _ | ⟨leftValue, _⟩ <;>
    rcases rightFound : right.find key with _ | ⟨_, _⟩ <;>
      simp only [leftFound, rightFound, Option.map_none, Option.map_some, reduceCtorEq,
        Option.some.injEq] at same
  · rfl
  · subst same
    cases leftValue <;> rfl

theorem hashAt_congr {left right : Store} {key : String}
    (same : (left.find key).map Entry.value = (right.find key).map Entry.value) :
    left.hashAt key = right.hashAt key := by
  unfold hashAt
  rcases leftFound : left.find key with _ | ⟨leftValue, _⟩ <;>
    rcases rightFound : right.find key with _ | ⟨_, _⟩ <;>
      simp only [leftFound, rightFound, Option.map_none, Option.map_some, reduceCtorEq,
        Option.some.injEq] at same
  · rfl
  · subst same
    cases leftValue <;> rfl

theorem hashAt_of_missing {store : Store} {key : String} (missing : store.find key = none) :
    store.hashAt key = .ok [] := by
  simp [hashAt, missing]

theorem find_tick (store : Store) (key : String) (milliseconds : ℕ) :
    (store.tick milliseconds).find key =
      (store.find key).filter fun entry => entry.deadline.all (store.now + milliseconds ≤ ·) := by
  simp only [find, tick]
  cases stored : store.entries key with
  | none => rfl
  | some entry =>
    cases bound : entry.deadline with
    | none => simp [Option.filter, bound]
    | some due =>
      by_cases live : store.now + milliseconds ≤ due
      · have past : store.now ≤ due := by omega
        simp [Option.filter, bound, live, past]
      · by_cases past : store.now ≤ due <;> simp [Option.filter, bound, live, past]

theorem find_tick_cases (store : Store) (key : String) (milliseconds : ℕ) :
    (store.tick milliseconds).find key = none ∨
      (store.tick milliseconds).find key = store.find key := by
  rw [find_tick]
  cases store.find key with
  | none => exact .inl rfl
  | some entry =>
    by_cases live : entry.deadline.all (store.now + milliseconds ≤ ·) = true
    · exact .inr (by simp [Option.filter, live])
    · exact .inl (by simp [Option.filter, live])

theorem find_put_none_cases (store : Store) (key other : String) :
    (store.put key none).find other = none ∨
      (store.put key none).find other = store.find other := by
  by_cases same : other = key
  · left
    rw [same]
    exact find_put_none _ _
  · exact .inr (find_put_of_ne _ _ same)

end Store

/-- A script: the commands it runs, with what they leave behind when one of them fails. -/
abbrev Script := EStateM Failure Store

def read {α : Type} (view : Store → Except Failure α) : Script α := fun store =>
  match view store with
  | .ok val => .ok val store
  | .error failure => .error failure store

theorem run_read {α : Type} (view : Store → Except Failure α) (store : Store) :
    (read view).run store =
      match view store with
      | .ok val => .ok val store
      | .error failure => .error failure store :=
  rfl

def get (key : String) : Script (Option String) :=
  read (·.textAt key)

/-- `EXISTS`. -/
def existsKey (key : String) : Script Bool :=
  read fun store => .ok (store.find key).isSome

def hGet (key field : String) : Script (Option String) :=
  read fun store => (store.hashAt key).map (·.lookup field)

def hSet (key : String) (fields : Fields) : Script Unit := do
  let current ← read (·.hashAt key)
  modify (·.putHash key (fields.foldl Fields.assign current))

def set (key content : String) : Script Unit :=
  modify (·.putText key content none)

def pSetEx (key : String) (milliseconds : ℕ) (content : String) : Script Unit := do
  if milliseconds = 0 then throw .invalidExpireTime
  modify fun store => store.putText key content (some (store.now + milliseconds))

def pExpire (key : String) (milliseconds : ℕ) : Script Unit :=
  modify (·.expireIn key milliseconds)

def del (key : String) : Script Unit :=
  modify (·.put key none)

/-- The 64-bit integer a text stands for, if it is spelled as `INCR` requires. -/
def integerText (text : String) : Option ℤ :=
  match text.toList with
  | '-' :: digits =>
    (Decimal.parse (String.ofList digits)).bind fun n =>
      if Decimal.format n = String.ofList digits ∧ 0 < n ∧ n ≤ 2 ^ 63 then
        some (-n)
      else none
  | _ =>
    (Decimal.parse text).bind fun n =>
      if Decimal.format n = text ∧ n < 2 ^ 63 then some n else none

def textOfInteger (n : ℤ) : String :=
  match n with
  | .ofNat magnitude => Decimal.format magnitude
  | .negSucc magnitude => "-" ++ Decimal.format (magnitude + 1)

/-- `INCR`: a missing key counts from zero, and a deadline the key has stays. -/
def incr (key : String) : Script ℤ := do
  let current ← read (·.textAt key)
  match integerText (current.getD "0") with
  | none => throw .notAnInteger
  | some n =>
    if n = 2 ^ 63 - 1 then throw .incrementOverflow
    modify fun store => store.putText key (textOfInteger (n + 1)) (store.deadlineAt key)
    return n + 1

end Redis
