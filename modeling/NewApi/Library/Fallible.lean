import Mathlib.Logic.Basic

/-!
# Computations that can fail

Inversion of sequencing in `Except`: a sequence that succeeded is two successes, and a
guard that did not stop the sequence was false.
-/

namespace Fallible

universe u v

variable {Failure : Type u} {First Second : Type v}

variable {result : Second} {err : Failure}

theorem bind_eq_ok {first : Except Failure First} {rest : First → Except Failure Second} :
    (first >>= rest) = .ok result ↔ ∃ val, first = .ok val ∧ rest val = .ok result := by
  cases first with
  | error _ | ok _ => simp [bind, Except.bind]

theorem bind_eq_error {first : Except Failure First} {rest : First → Except Failure Second} :
    (first >>= rest) = .error err ↔
      first = .error err ∨ ∃ val, first = .ok val ∧ rest val = .error err := by
  cases first with
  | error _ | ok _ => simp [bind, Except.bind]

theorem guard_eq_ok {cond : Prop} [Decidable cond] {rest : Except Failure Second} :
    (if cond then .error err else rest) = .ok result ↔
      ¬cond ∧ rest = .ok result := by
  by_cases holds : cond <;> simp [holds]

theorem throw_guard_eq_ok {cond : Prop} [Decidable cond]
    {skipped : First → Except Failure Second} {rest : Except Failure Second} :
    (if cond then throw err >>= skipped else rest) = .ok result ↔
      ¬cond ∧ rest = .ok result := by
  by_cases holds : cond
  · simp [holds, throw, throwThe, MonadExceptOf.throw, bind, Except.bind]
  · simp [holds]

theorem eq_map_of_mapM_eq_ok {Input : Type v} {compute : Input → Except Failure First}
    {val : Input → First} (vals : ∀ input result, compute input = .ok result →
      result = val input) {inputs : List Input} {results : List First}
    (done : inputs.mapM compute = .ok results) : results = inputs.map val := by
  induction inputs generalizing results with
  | nil =>
    rw [List.mapM_nil] at done
    cases done
    rfl
  | cons head _ ih =>
    rw [List.mapM_cons] at done
    rcases bind_eq_ok.mp done with ⟨first, firstDone, done⟩
    rcases bind_eq_ok.mp done with ⟨_, restDone, done⟩
    cases done
    rw [List.map_cons, vals head first firstDone, ih restDone]

theorem mapM_eq_ok_map {Input : Type v} {compute : Input → Except Failure First}
    {val : Input → First} {inputs : List Input}
    (isOk : ∀ input ∈ inputs, compute input = .ok (val input)) :
    inputs.mapM compute = .ok (inputs.map val) := by
  induction inputs with
  | nil => rfl
  | cons head _ ih =>
    have headDone := isOk head List.mem_cons_self
    have tailDone := ih fun input inTail =>
      isOk input (List.mem_cons_of_mem _ inTail)
    rw [List.mapM_cons, headDone, tailDone]
    rfl

end Fallible
