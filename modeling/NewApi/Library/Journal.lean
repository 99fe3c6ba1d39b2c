import Mathlib.Algebra.Order.Ring.Int
import Mathlib.Data.List.Basic

/-!
# Chained journals

A journal explains a record when its entries are numbered without gaps, each names the digest and
the state that the one before it left, and the last one leaves the state of the record.
-/

namespace Journal

universe u v w

/-- The end of a chain of entries. -/
structure Head (Digest : Type u) (State : Type v) where
  sequence : ℤ
  digest : Digest
  state : State
deriving DecidableEq

/-- Entries that name their place in a chain. -/
class Chained (Entry : Type w) (Digest : outParam (Type u)) (State : outParam (Type v)) where
  sequence : Entry → ℤ
  previous : Entry → Digest
  digest : Entry → Digest
  source : Entry → State
  target : Entry → State

variable {Entry : Type w} {Digest : Type u} {State : Type v} [Chained Entry Digest State]
  [DecidableEq Digest] [DecidableEq State] {head middle final : Head Digest State}
  {entry : Entry} {entries : List Entry}

/-- The entry continues the chain from its head. -/
def Follows (head : Head Digest State) (entry : Entry) : Prop :=
  Chained.sequence entry = head.sequence + 1 ∧ Chained.previous entry = head.digest ∧
    Chained.source entry = head.state

instance (head : Head Digest State) (entry : Entry) : Decidable (Follows head entry) :=
  inferInstanceAs (Decidable (_ ∧ _ ∧ _))

def leave (entry : Entry) : Head Digest State where
  sequence := Chained.sequence entry
  digest := Chained.digest entry
  state := Chained.target entry

def replay : Head Digest State → List Entry → Option (Head Digest State)
  | head, [] => some head
  | head, entry :: rest => if Follows head entry then replay (leave entry) rest else none

theorem replay_append (replayed : replay head entries = some middle) (more : List Entry) :
    replay head (entries ++ more) = replay middle more := by
  induction entries generalizing head with
  | nil =>
    cases replayed
    rfl
  | cons _ _ ih =>
    simp only [replay, List.cons_append] at replayed ⊢
    split at replayed
    next follows =>
      rw [if_pos follows]
      exact ih replayed
    · cases replayed

theorem replay_snoc (replayed : replay head entries = some middle)
    (follows : Follows middle entry) : replay head (entries ++ [entry]) = some (leave entry) := by
  rw [replay_append replayed]
  simp [replay, follows]

theorem sequence_of_replay (replayed : replay head entries = some final) (i : ℕ)
    (held : entries[i]? = some entry) :
    Chained.sequence entry = head.sequence + i + 1 := by
  induction entries generalizing head i with
  | nil => cases held
  | cons first _ ih =>
    simp only [replay] at replayed
    split at replayed
    next follows =>
      cases i with
      | zero =>
        have same : first = entry := by simpa using held
        subst same
        simpa using follows.1
      | succ past =>
        have numbered := ih replayed past (by simpa using held)
        have first_sequence := follows.1
        simp only [leave] at numbered
        push_cast
        omega
    · cases replayed

theorem length_of_replay (replayed : replay head entries = some final) :
    final.sequence = head.sequence + entries.length := by
  induction entries generalizing head with
  | nil =>
    cases replayed
    simp
  | cons _ _ ih =>
    simp only [replay] at replayed
    split at replayed
    next follows =>
      have counted := ih replayed
      have first_sequence := follows.1
      simp only [leave] at counted
      simp only [List.length_cons]
      push_cast
      omega
    · cases replayed

end Journal
