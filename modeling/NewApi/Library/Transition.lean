import Mathlib.Logic.Relation

/-!
# Guarded transition systems

A system is a step function on states; a guard says which actions a run may take in
which state. Reachability is the reflexive-transitive closure of the guarded step, so
a claim about every interleaving is an invariant of `Reachable`, and a claim about the
runs whose steps meet a side condition is the same invariant under a stronger guard.
-/

namespace Transition

universe u v w

variable {State : Type u} {Action : Type v}

def Unrestricted (_ : State) (_ : Action) : Prop :=
  True

def Step (next : State → Action → State) (allowed : State → Action → Prop)
    (src goal : State) : Prop :=
  ∃ action, allowed src action ∧ goal = next src action

def Reachable (next : State → Action → State) (allowed : State → Action → Prop) :
    State → State → Prop :=
  Relation.ReflTransGen (Step next allowed)

/-- Each action of a list is allowed in the state that the ones before it lead to. -/
def RunAllowed (next : State → Action → State) (allowed : State → Action → Prop) :
    State → List Action → Prop
  | _, [] => True
  | s, action :: rest =>
    allowed s action ∧ RunAllowed next allowed (next s action) rest

instance RunAllowed.decidable (next : State → Action → State)
    (allowed : State → Action → Prop) [∀ s action, Decidable (allowed s action)] :
    (s : State) → (actions : List Action) → Decidable (RunAllowed next allowed s actions)
  | _, [] => inferInstanceAs (Decidable True)
  | s, action :: rest =>
    have := RunAllowed.decidable next allowed (next s action) rest
    inferInstanceAs (Decidable (_ ∧ _))

namespace Reachable

variable {next : State → Action → State} {allowed : State → Action → Prop} {src middle goal : State}

theorem refl (s : State) : Reachable next allowed s s :=
  Relation.ReflTransGen.refl

theorem trans (first : Reachable next allowed src middle)
    (two : Reachable next allowed middle goal) :
    Reachable next allowed src goal :=
  Relation.ReflTransGen.trans first two

theorem step (run : Reachable next allowed src middle) (action : Action)
    (allows : allowed middle action) :
    Reachable next allowed src (next middle action) :=
  Relation.ReflTransGen.tail run ⟨action, allows, rfl⟩

theorem invariant (Holds : State → Prop) (run : Reachable next allowed src goal)
    (preserved : ∀ s action, allowed s action → Holds s → Holds (next s action))
    (init : Holds src) : Holds goal := by
  induction run with
  | refl => exact init
  | tail _ last holds =>
    rcases last with ⟨action, allows, rfl⟩
    exact preserved _ action allows holds

theorem simulates {Image : Type w} (view : State → Image) {move : Image → Image → Prop}
    (Holds : State → Prop) (run : Reachable next allowed src goal)
    (preserved : ∀ s action, allowed s action → Holds s → Holds (next s action))
    (simulated : ∀ s action, allowed s action → Holds s → move (view s) (view (next s action)))
    (init : Holds src) :
    Relation.ReflTransGen move (view src) (view goal) := by
  induction run with
  | refl => exact Relation.ReflTransGen.refl
  | tail reachedMiddle last simulatedMiddle =>
    rcases last with ⟨action, allows, rfl⟩
    have holds := invariant Holds reachedMiddle preserved init
    exact simulatedMiddle.tail (simulated _ action allows holds)

theorem mono {weaker : State → Action → Prop} (run : Reachable next allowed src goal)
    (weakens : ∀ s action, allowed s action → weaker s action) :
    Reachable next weaker src goal :=
  Relation.ReflTransGen.mono
    (fun _ _ ⟨action, allows, reaches⟩ => ⟨action, weakens _ action allows, reaches⟩)
    _ _ run

theorem of_run (actions : List Action) (s : State)
    (allowedRun : RunAllowed next allowed s actions) :
    Reachable next allowed s (actions.foldl next s) := by
  induction actions generalizing s with
  | nil => exact refl s
  | cons action _ ih =>
    exact ((refl s).step action allowedRun.1).trans (ih _ allowedRun.2)

theorem runAllowed_of_forall (actions : List Action)
    (everywhere : ∀ action ∈ actions, ∀ s, allowed s action) (s : State) :
    RunAllowed next allowed s actions := by
  induction actions generalizing s with
  | nil => trivial
  | cons action _ ih =>
    refine ⟨everywhere action (List.mem_cons_self ..) s, ?_⟩
    apply ih
    intro other isIn
    exact everywhere other (List.mem_cons_of_mem _ isIn)

theorem runAllowed_unrestricted (next : State → Action → State) (actions : List Action)
    (s : State) : RunAllowed next Unrestricted s actions :=
  runAllowed_of_forall actions (fun _ _ _ => trivial) s

theorem foldl (next : State → Action → State) (actions : List Action) (s : State) :
    Reachable next Unrestricted s (actions.foldl next s) :=
  of_run actions s (runAllowed_unrestricted next actions s)

end Reachable

end Transition
