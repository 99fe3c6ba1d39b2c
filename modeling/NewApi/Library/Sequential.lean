import NewApi.Library.Concurrent
import Mathlib.Data.List.Basic

/-!
# A client program by itself

The big-step reading of a program that nothing interferes with: each call finds the state that the
call before it left, and the surroundings choose within what is allowed.
-/

namespace Concurrent.Program

section

variable {State Call Choice First Result : Type} {Answer : Call → Type}
  (perform : (req : Call) → Choice → State → Answer req × State)
  (allowed : (req : Call) → Choice → State → Prop)

/-- A program ends with a result, in a state, when each call gets an allowed choice. -/
inductive Ends : Program Call Answer Result → State → Result → State → Prop
  | done (result : Result) (s : State) : Ends (.done result) s result s
  | call {req : Call} {next : Answer req → Program Call Answer Result} {s : State}
      {result : Result} {final : State} (pick : Choice)
      (permitted : allowed req pick s)
      (rest : Ends (next (perform req pick s).1) (perform req pick s).2 result final) :
      Ends (.call req next) s result final

variable {perform allowed} {s final : State} {result : Result}

theorem ends_pure {val : Result} :
    Ends perform allowed (pure val) s result final ↔ result = val ∧ final = s := by
  constructor
  · intro run
    cases run with
    | done => exact ⟨rfl, rfl⟩
  · rintro ⟨rfl, rfl⟩
    exact .done result final

theorem ends_call {req : Call} {next : Answer req → Program Call Answer Result} :
    Ends perform allowed (.call req next) s result final ↔
      ∃ pick, allowed req pick s ∧ Ends perform allowed (next (perform req pick s).1)
          (perform req pick s).2 result final := by
  constructor
  · intro run
    cases run with
    | call pick permitted rest => exact ⟨pick, permitted, rest⟩
  · rintro ⟨pick, permitted, rest⟩
    exact .call pick permitted rest

theorem ends_bind {first : Program Call Answer First} {rest : First → Program Call Answer Result} :
    Ends perform allowed (first >>= rest) s result final ↔
      ∃ val middle, Ends perform allowed first s val middle ∧
        Ends perform allowed (rest val) middle result final := by
  induction first generalizing s with
  | done val =>
    rw [done_bind]
    constructor
    · intro run
      exact ⟨val, s, .done val s, run⟩
    · rintro ⟨_, middle, past, after⟩
      cases past with
      | done => exact after
  | call req next ih =>
    have unfolded : (Program.call req next >>= rest) =
      .call req fun reply => next reply >>= rest := rfl
    rw [unfolded, ends_call]
    constructor
    · rintro ⟨pick, permitted, run⟩
      rcases (ih _).mp run with ⟨val, middle, past, after⟩
      exact ⟨val, middle, .call pick permitted past, after⟩
    · rintro ⟨val, middle, past, after⟩
      rcases ends_call.mp past with ⟨pick, permitted, run⟩
      exact ⟨pick, permitted, (ih _).mpr ⟨val, middle, run, after⟩⟩

theorem ends_ask {req : Call} {rest : Answer req → Program Call Answer Result} :
    Ends perform allowed (ask req >>= rest) s result final ↔
      ∃ pick, allowed req pick s ∧ Ends perform allowed (rest (perform req pick s).1)
          (perform req pick s).2 result final := by
  rw [ask_bind]
  exact ends_call

/-! ### Running a list of choices -/

variable (perform allowed) [∀ req pick s, Decidable (allowed req pick s)]

/-- The run with the choices of a list, unless one is not allowed or they do not suffice. -/
def runWith : Program Call Answer Result → List Choice → State → Option (Result × State)
  | .done result, _, s => some (result, s)
  | .call _ _, [], _ => none
  | .call req next, pick :: choices, s =>
    if allowed req pick s then
      (next (perform req pick s).1).runWith choices (perform req pick s).2
    else none

theorem ends_of_runWith {program : Program Call Answer Result} {choices : List Choice}
    (ran : program.runWith perform allowed choices s = some (result, final)) :
    Ends perform allowed program s result final := by
  induction program generalizing s choices with
  | done val =>
    simp only [runWith, Option.some.injEq, Prod.mk.injEq] at ran
    rcases ran with ⟨rfl, rfl⟩
    exact .done val s
  | call _ next ih =>
    cases choices with
    | nil => simp [runWith] at ran
    | cons pick _ =>
      simp only [runWith] at ran
      split at ran
      next permitted => exact .call pick permitted (ih _ ran)
      · cases ran

end

end Concurrent.Program
