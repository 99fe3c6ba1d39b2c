import Mathlib.Data.Nat.Notation
import Mathlib.Logic.Function.Basic
import NewApi.Library.Transition

/-!
# Client programs over a shared server

A program is a tree of calls: it makes a call, and how it goes on depends on the answer.
`Pool.holding_reachable` puts the programs together.
-/

namespace Concurrent

/-- A program over calls, by what it does with their answers. -/
inductive Program (Call : Type) (Answer : Call → Type) (Result : Type) where
  | done (result : Result)
  | call (req : Call) (next : Answer req → Program Call Answer Result)

namespace Program

variable {Call : Type} {Answer : Call → Type} {First Second : Type}

def bind (first : Program Call Answer First) (rest : First → Program Call Answer Second) :
    Program Call Answer Second :=
  match first with
  | .done result => rest result
  | .call req next => .call req fun reply => (next reply).bind rest

instance : Monad (Program Call Answer) where
  pure := .done
  bind := bind

def ask (req : Call) : Program Call Answer (Answer req) :=
  .call req .done

theorem pure_eq (result : First) : (pure result : Program Call Answer First) = .done result :=
  rfl

theorem done_bind (result : First) (rest : First → Program Call Answer Second) :
    (Program.done result >>= rest) = rest result :=
  rfl

/-- Each call of the program is one of those given, and its result meets the postcondition, as
long as every answer is a possible one. -/
def Makes (possible : (req : Call) → Answer req → Prop) (made : Call → Prop)
    (post : First → Prop) : Program Call Answer First → Prop
  | .done result => post result
  | .call req next =>
    made req ∧ ∀ reply, possible req reply → Makes possible made post (next reply)

variable {possible : (req : Call) → Answer req → Prop} {made : Call → Prop}

theorem Makes.bind {middle : First → Prop} {post : Second → Prop}
    {first : Program Call Answer First} {rest : First → Program Call Answer Second}
    (makes : Makes possible made middle first)
    (goes : ∀ val, middle val → Makes possible made post (rest val)) :
    Makes possible made post (first >>= rest) := by
  induction first with
  | done val => exact goes val makes
  | call _ _ ih =>
    refine ⟨makes.1, ?_⟩
    intro reply isPossible
    exact ih reply (makes.2 reply isPossible)

theorem Makes.mono {weaker : Call → Prop} {post weakerPost : First → Prop}
    {program : Program Call Answer First} (makes : Makes possible made post program)
    (weakens : ∀ req, made req → weaker req)
    (weakensPost : ∀ result, post result → weakerPost result) :
    Makes possible weaker weakerPost program := by
  induction program with
  | done result => exact weakensPost result makes
  | call req _ ih =>
    refine ⟨weakens req makes.1, ?_⟩
    intro reply isPossible
    exact ih reply (makes.2 reply isPossible)

theorem bind_assoc {Third : Type} (first : Program Call Answer First)
    (two : First → Program Call Answer Second) (third : Second → Program Call Answer Third) :
    first >>= two >>= third = first >>= fun val => two val >>= third := by
  induction first with
  | done _ => rfl
  | call req _ ih =>
    exact congrArg (Program.call req) (funext ih)

theorem ask_bind (req : Call) (rest : Answer req → Program Call Answer Second) :
    (ask req >>= rest) = .call req rest :=
  rfl

def run {State Choice : Type} (perform : (req : Call) → Choice → State →
    Answer req × State) (choices : ℕ → Choice) :
    Program Call Answer First → State → First × State
  | .done result, s => (result, s)
  | .call req next, s =>
    let out := perform req (choices 0) s
    (next out.1).run perform (fun call => choices (call + 1)) out.2

end Program

/-- A state and the programs that share it. -/
structure Pool (State Call : Type) (Answer : Call → Type) (Result : Type) where
  state : State
  threads : ℕ → Program Call Answer Result

/-- One step: a client's call, with what the surroundings choose for it, or an event. -/
inductive Action (Choice Event : Type) where
  | perform (t : ℕ) (pick : Choice)
  | occur (event : Event)

section

variable {State Call Choice Event Result : Type} {Answer : Call → Type}
  (perform : ℕ → (req : Call) → Choice → State → Answer req × State)
  (occur : Event → State → State)

def Pool.step (pool : Pool State Call Answer Result) :
    Action Choice Event → Pool State Call Answer Result
  | .perform t pick =>
    match pool.threads t with
    | .done _ => pool
    | .call req next =>
      let out := perform t req pick pool.state
      { state := out.2
        threads := Function.update pool.threads t (next out.1) }
  | .occur event => { pool with state := occur event pool.state }

/-- The steps whose call or event meets a condition on the state it finds. -/
def Pool.Allowed (allows : ℕ → Call → Choice → State → Prop)
    (eventAllowed : Event → State → Prop) (pool : Pool State Call Answer Result) :
    Action Choice Event → Prop
  | .perform t pick =>
    match pool.threads t with
    | .done _ => True
    | .call req _ => allows t req pick pool.state
  | .occur event => eventAllowed event pool.state

instance Pool.decidableAllowed (allows : ℕ → Call → Choice → State → Prop)
    (eventAllowed : Event → State → Prop)
    [∀ t req pick s, Decidable (allows t req pick s)]
    [∀ event s, Decidable (eventAllowed event s)]
    (pool : Pool State Call Answer Result) (action : Action Choice Event) :
    Decidable (pool.Allowed allows eventAllowed action) :=
  match action with
  | .occur event => inferInstanceAs (Decidable (eventAllowed event pool.state))
  | .perform t pick =>
    match program : pool.threads t with
    | .done _ => .isTrue (by simp [Pool.Allowed, program])
    | .call req _ =>
      decidable_of_iff (allows t req pick pool.state) (by simp [Pool.Allowed, program])

/-! ### One program under interference -/

section Keeps

variable (Rely : State → State → Prop) (allows : Call → Choice → State → Prop)
  (needs : Call → State → Prop) (t : ℕ)

/-- The program meets `needs` at each of its calls and `post` at its end, whatever happens
within `Rely` before each of them. -/
def Keeps (post : Result → State → Prop) : Program Call Answer Result → State → Prop
  | .done result, s => ∀ later, Rely s later → post result later
  | .call req next, s =>
    ∀ later, Rely s later → needs req later ∧
      ∀ pick, allows req pick later →
        Keeps post (next (perform t req pick later).1) (perform t req pick later).2

variable {perform Rely allows needs t} {First : Type}
  {post : Result → State → Prop} {s later : State}

variable {program : Program Call Answer Result}

theorem Keeps.stable (keeps : Keeps perform Rely allows needs t post program s)
    (rely : Rely s later)
    (transitive : ∀ first two third, Rely first two → Rely two third → Rely first third) :
    Keeps perform Rely allows needs t post program later := by
  cases program with
  | done _ | call _ _ => exact fun final more => keeps final (transitive _ _ _ rely more)

theorem Keeps.bind (reflexive : ∀ s, Rely s s)
    {first : Program Call Answer First} {rest : First → Program Call Answer Result}
    (keeps : Keeps perform Rely allows needs t
      (fun val => Keeps perform Rely allows needs t post (rest val)) first s) :
    Keeps perform Rely allows needs t post (first >>= rest) s := by
  induction first generalizing s with
  | done _ => exact keeps s (reflexive s)
  | call _ _ ih =>
    intro later rely
    refine ⟨(keeps later rely).1, ?_⟩
    intro pick allowed
    exact ih _ ((keeps later rely).2 pick allowed)

theorem Keeps.mono {weaker : Result → State → Prop}
    (keeps : Keeps perform Rely allows needs t post program s)
    (weakens : ∀ result s, post result s → weaker result s) :
    Keeps perform Rely allows needs t weaker program s := by
  induction program generalizing s with
  | done _ => exact fun later rely => weakens _ _ (keeps later rely)
  | call _ _ ih =>
    intro later rely
    refine ⟨(keeps later rely).1, ?_⟩
    intro pick allowed
    exact ih _ ((keeps later rely).2 pick allowed)

theorem Keeps.of_makes {possible : (req : Call) → Answer req → Prop}
    {made : Call → Prop} {final : Result → Prop} (claim : State → Prop)
    (makes : Program.Makes possible made final program) (holds : claim s)
    (stable : ∀ first two, claim first → Rely first two → claim two)
    (needed : ∀ req s, made req → claim s → needs req s)
    (answered : ∀ req pick s, possible req (perform t req pick s).1)
    (kept : ∀ req pick s, made req → allows req pick s →
      claim s → claim (perform t req pick s).2)
    (ends : ∀ result s, final result → claim s → post result s) :
    Keeps perform Rely allows needs t post program s := by
  induction program generalizing s with
  | done result =>
    intro later rely
    exact ends result later makes (stable _ _ holds rely)
  | call req _ ih =>
    intro later rely
    have holdsLater := stable _ _ holds rely
    refine ⟨needed req later makes.1 holdsLater, ?_⟩
    intro pick allowed
    exact ih _ (makes.2 _ (answered req pick later))
      (kept req pick later makes.1 allowed holdsLater)

end Keeps

/-! ### All programs together -/

variable {perform occur} {Holds : State → Prop} {Rely : ℕ → State → State → Prop}
  {allows : ℕ → Call → Choice → State → Prop} {eventAllowed : Event → State → Prop}
  {needs : ℕ → Call → State → Prop} {post : ℕ → Result → State → Prop}

/-- What a run keeps: the invariant of the state, and of each program that it is kept. -/
structure Pool.Holding (perform : ℕ → (req : Call) → Choice → State → Answer req × State)
    (Holds : State → Prop) (Rely : ℕ → State → State → Prop)
    (allows : ℕ → Call → Choice → State → Prop) (needs : ℕ → Call → State → Prop)
    (post : ℕ → Result → State → Prop) (pool : Pool State Call Answer Result) : Prop where
  state : Holds pool.state
  threads : ∀ t, Keeps perform (Rely t) (allows t) (needs t) t (post t) (pool.threads t) pool.state

theorem Pool.state_of_reachable (Holds : State → Prop) {src goal : Pool State Call Answer Result}
    {allowed : Pool State Call Answer Result → Action Choice Event → Prop}
    (run : Transition.Reachable (Pool.step perform occur) allowed src goal)
    (callKeeps : ∀ t req pick s, Holds s → Holds (perform t req pick s).2)
    (eventKeeps : ∀ event s, Holds s → Holds (occur event s))
    (init : Holds src.state) : Holds goal.state := by
  refine Transition.Reachable.invariant (fun pool => Holds pool.state) run ?_ init
  rintro pool (⟨t, pick⟩ | event) _ holds
  · simp only [Pool.step]
    split
    · exact holds
    · exact callKeeps t _ pick pool.state holds
  · exact eventKeeps event pool.state holds

/-- What each step keeps, every run keeps. -/
theorem Pool.holding_reachable {src goal : Pool State Call Answer Result}
    (run : Transition.Reachable (Pool.step perform occur)
      (Pool.Allowed allows eventAllowed) src goal) (reflexive : ∀ t s, Rely t s s)
    (transitive : ∀ t first two third, Rely t first two →
      Rely t two third → Rely t first third)
    (callKeeps : ∀ t req pick s, Holds s → needs t req s →
      allows t req pick s → Holds (perform t req pick s).2 ∧
          ∀ other, other ≠ t → Rely other s (perform t req pick s).2)
    (eventKeeps : ∀ event s, Holds s → eventAllowed event s →
      Holds (occur event s) ∧ ∀ t, Rely t s (occur event s))
    (init : src.Holding perform Holds Rely allows needs post) :
    goal.Holding perform Holds Rely allows needs post := by
  refine Transition.Reachable.invariant
    (fun pool => pool.Holding perform Holds Rely allows needs post) run ?_ init
  rintro pool (⟨t, pick⟩ | event) allowed holding
  · cases program : pool.threads t with
    | done _ =>
      have idle : pool.step perform occur (.perform t pick) = pool := by
        simp [Pool.step, program]
      rw [idle]
      exact holding
    | call req next =>
      have moved : pool.step perform occur (.perform t pick) =
          { state := (perform t req pick pool.state).2
            threads := Function.update pool.threads t
              (next (perform t req pick pool.state).1) } := by
        simp [Pool.step, program]
      have permitted : allows t req pick pool.state := by
        simpa [Pool.Allowed, program] using allowed
      have kept := holding.threads t
      rw [program] at kept
      rcases kept pool.state (reflexive t pool.state) with ⟨needed, goes⟩
      have stepped := callKeeps t req pick pool.state holding.state needed permitted
      rw [moved]
      refine ⟨stepped.1, ?_⟩
      intro other
      by_cases same : other = t
      · subst same
        simp only [Function.update_self]
        exact goes pick permitted
      · simp only [Function.update_of_ne same]
        exact (holding.threads other).stable (stepped.2 other same) (transitive other)
  · have stepped := eventKeeps event pool.state holding.state allowed
    refine ⟨stepped.1, ?_⟩
    intro t
    exact (holding.threads t).stable (stepped.2 t) (transitive t)

end

end Concurrent
