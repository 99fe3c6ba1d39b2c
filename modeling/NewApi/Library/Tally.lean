import Mathlib.Tactic.Abel

/-!
# Posted balances

A book pairs the balances of some accounts with the sum of what has been posted to each of them.
Which amounts an account may be moved by is a parameter, so that a bound on the balance can be
carried along.
-/

namespace Tally

universe u v

/-- Balances and what was posted to them. -/
@[ext]
structure Book (Account : Type u) (Amount : Type v) where
  balance : Account → Option Amount
  posted : Account → Amount

variable {Account : Type u} {Amount : Type v} [DecidableEq Account] [AddCommGroup Amount]

def Book.post (book : Book Account Amount) (account : Account) (amount : Amount) :
    Book Account Amount where
  balance other :=
    if other = account then (book.balance other).map (· + amount) else book.balance other
  posted other := if other = account then book.posted other + amount else book.posted other

/-- A move of the book: nothing, or an admissible posting to an existing account. -/
inductive Move (admissible : Account → Amount → Amount → Prop) :
    Book Account Amount → Book Account Amount → Prop where
  | idle (book : Book Account Amount) : Move admissible book book
  | post (book : Book Account Amount) (account : Account) (held amount : Amount)
      (found : book.balance account = some held)
      (admitted : admissible account held amount) :
      Move admissible book (book.post account amount)

theorem Move.of_eq_post {admissible : Account → Amount → Amount → Prop}
    {src goal : Book Account Amount} {account : Account} {held amount : Amount}
    (found : src.balance account = some held) (admitted : admissible account held amount)
    (targetEq : goal = src.post account amount) : Move admissible src goal := by
  subst targetEq
  exact Move.post src account held amount found admitted

variable {admissible : Account → Amount → Amount → Prop} {src goal : Book Account Amount}

theorem balance_of_moves (moves : Relation.ReflTransGen (Move admissible) src goal)
    {account : Account} {held : Amount} (found : src.balance account = some held) :
    goal.balance account = some (held + (goal.posted account - src.posted account)) := by
  induction moves with
  | refl => simp [found]
  | tail _ last balanceMiddle =>
    cases last with
    | idle => exact balanceMiddle
    | post moved _ _ _ _ =>
      by_cases same : account = moved
      · subst same
        simp only [Book.post, if_true, balanceMiddle, Option.map_some, Option.some.injEq]
        abel
      · simpa [Book.post, same] using balanceMiddle

theorem invariant_of_moves (Holds : Account → Amount → Prop)
    (moves : Relation.ReflTransGen (Move admissible) src goal)
    (keeps : ∀ account held amount, admissible account held amount → Holds account held →
      Holds account (held + amount))
    {account : Account} {held : Amount} (found : src.balance account = some held)
    (holds : Holds account held) :
    ∃ finalHeld, goal.balance account = some finalHeld ∧ Holds account finalHeld := by
  induction moves with
  | refl => exact ⟨held, found, holds⟩
  | tail _ last holdsMiddle =>
    cases last with
    | idle => exact holdsMiddle
    | post moved changedHeld amount changedFound admitted =>
      rcases holdsMiddle with ⟨middleHeld, middleFound, middleHolds⟩
      by_cases same : account = moved
      · subst same
        have heldEq : changedHeld = middleHeld := by
          simpa [changedFound] using middleFound
        subst heldEq
        exact ⟨changedHeld + amount, by simp [Book.post, middleFound],
          keeps account changedHeld amount admitted middleHolds⟩
      · exact ⟨middleHeld, by simpa [Book.post, same] using middleFound, middleHolds⟩

end Tally
