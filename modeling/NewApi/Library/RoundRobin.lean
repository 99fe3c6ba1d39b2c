import Mathlib.Algebra.Order.Ring.Nat
import Mathlib.Data.List.Basic

/-!
# Cyclic selection

A cursor goes around `count` places. Each turn takes the first allowed place from the cursor on
and leaves the cursor behind it; which places are allowed may change from turn to turn. A place
that stays allowed is taken within one round.
-/

namespace RoundRobin

/-- One selection: the places that were allowed, and the place taken. -/
structure Turn where
  allowed : ℕ → Prop
  index : ℕ

def FirstFrom (count : ℕ) (allowed : ℕ → Prop) (cursor i : ℕ) : Prop :=
  ∃ step < count, i = (cursor + step) % count ∧ allowed i ∧
    ∀ past < step, ¬allowed ((cursor + past) % count)

/-- Each turn takes the first allowed place behind the one before it. -/
def Cyclic (count : ℕ) : ℕ → List Turn → Prop
  | _, [] => True
  | cursor, turn :: turns =>
    FirstFrom count turn.allowed cursor turn.index ∧
      Cyclic count ((turn.index + 1) % count) turns

def cursorAfter (count cursor : ℕ) (turns : List Turn) : ℕ :=
  turns.foldl (fun _ turn => (turn.index + 1) % count) cursor

variable {count cursor place distance : ℕ} {turn : Turn} {turns more : List Turn}

theorem cyclic_append :
    Cyclic count cursor (turns ++ more) ↔
      Cyclic count cursor turns ∧ Cyclic count (cursorAfter count cursor turns) more := by
  induction turns generalizing cursor with
  | nil => simp [Cyclic, cursorAfter]
  | cons _ _ ih =>
    simp only [List.cons_append, Cyclic, ih, and_assoc]
    rfl

theorem Cyclic.snoc (cyclic : Cyclic count cursor turns)
    (first : FirstFrom count turn.allowed (cursorAfter count cursor turns) turn.index) :
    Cyclic count cursor (turns ++ [turn]) :=
  cyclic_append.mpr ⟨cyclic, first, trivial⟩

theorem cursorAfter_snoc :
    cursorAfter count cursor (turns ++ [turn]) = (turn.index + 1) % count := by
  simp only [cursorAfter, List.foldl_append, List.foldl_cons, List.foldl_nil]

theorem FirstFrom.index_lt {allowed : ℕ → Prop} {i : ℕ}
    (first : FirstFrom count allowed cursor i) : i < count := by
  rcases first with ⟨_, inRound, rfl, _⟩
  exact Nat.mod_lt _ (Nat.zero_lt_of_lt inRound)

theorem FirstFrom.nearer {allowed : ℕ → Prop} {i : ℕ}
    (first : FirstFrom count allowed cursor i) (isPlace : (cursor + distance) % count = place)
    (isAllowed : allowed place) (passes : i ≠ place) :
    ∃ nearer < distance, ((i + 1) % count + nearer) % count = place := by
  rcases first with ⟨step, _, isIndex, _, skipped⟩
  have notBeyond : step ≤ distance := by
    by_contra beyond
    refine skipped distance (Nat.lt_of_not_le beyond) ?_
    rw [isPlace]
    exact isAllowed
  have before : step < distance := by
    refine Nat.lt_of_le_of_ne notBeyond ?_
    rintro rfl
    exact passes (isIndex.trans isPlace)
  refine ⟨distance - step - 1, by omega, ?_⟩
  have regrouped : cursor + step + (1 + (distance - step - 1)) = cursor + distance := by omega
  rw [isIndex, Nat.mod_add_mod, Nat.add_assoc, Nat.mod_add_mod, regrouped, isPlace]

theorem Cyclic.taken (cyclic : Cyclic count cursor turns)
    (isPlace : (cursor + distance) % count = place) (enough : distance < turns.length)
    (stays : ∀ turn ∈ turns, turn.allowed place) : ∃ turn ∈ turns, turn.index = place := by
  induction turns generalizing cursor distance with
  | nil => cases enough
  | cons first turns ih =>
    by_cases takes : first.index = place
    · exact ⟨first, List.mem_cons_self, takes⟩
    · have isAllowed := stays first List.mem_cons_self
      rcases cyclic.1.nearer isPlace isAllowed takes with ⟨nearer, _, isNearer⟩
      have enoughRest : nearer < turns.length := by
        rw [List.length_cons] at enough
        omega
      rcases ih cyclic.2 isNearer enoughRest
        (fun turn isIn => stays turn (List.mem_cons_of_mem _ isIn)) with
        ⟨turn, isIn, isTaken⟩
      exact ⟨turn, List.mem_cons_of_mem _ isIn, isTaken⟩

theorem Cyclic.round (cyclic : Cyclic count cursor turns) (inRange : place < count)
    (round : count ≤ turns.length) (stays : ∀ turn ∈ turns, turn.allowed place) :
    ∃ turn ∈ turns, turn.index = place := by
  have pos : 0 < count := Nat.zero_lt_of_lt inRange
  have cursorLt : cursor % count < count := Nat.mod_lt _ pos
  have isPlace : (cursor + (place + (count - cursor % count)) % count) % count = place := by
    rw [Nat.add_mod_mod, ← Nat.mod_add_mod]
    have regrouped : cursor % count + (place + (count - cursor % count)) = place + count := by
      omega
    rw [regrouped, Nat.add_mod_right, Nat.mod_eq_of_lt inRange]
  refine cyclic.taken isPlace ?_ stays
  exact Nat.lt_of_lt_of_le (Nat.mod_lt _ pos) round

end RoundRobin
