import NewApi.Library.Table
import NewApi.Library.Tally

/-!
# Balances in one table, postings in another

A column of one table holds the balances, and every entry of a second table posts a quantity to
one of the accounts. The two tables together are a book of `Tally`.
-/

namespace Relational

open Tally

universe u v w

/-- Which column holds the balances, and what an entry posts to which account. -/
structure Postings (Row Entry : Type u) (Key : Type v) (Amount : Type w) where
  column : Row → Amount
  account : Entry → Key
  quantity : Entry → Amount

namespace Postings

variable {Row Entry : Type u} {Key : Type v} {Amount : Type w} [DecidableEq Key]
  [Keyed Entry ℤ] [AddCommGroup Amount]

def posted (postings : Postings Row Entry Key Amount) (entries : Table Entry) (key : Key) :
    Amount :=
  entries.total fun entry => if postings.account entry = key then postings.quantity entry else 0

variable {postings : Postings Row Entry Key Amount} {entries updated : Table Entry}

theorem posted_insert {build : ℤ → Entry} {key_build : ∀ key, Keyed.key (build key) = key}
    (key : Key) :
    postings.posted (entries.insert build key_build) key = postings.posted entries key +
        if key = postings.account (build entries.nextKey) then
          postings.quantity (build entries.nextKey) else 0 := by
  unfold posted
  rw [Table.total_insert]
  simp only [eq_comm]

theorem posted_modify {entryKey : ℤ} {entry : Entry}
    (found : entries.find? entryKey = some entry) (change : RowUpdate Entry)
    (same : postings.account (change.apply entry) = postings.account entry) (key : Key) :
    postings.posted (entries.modify entryKey change) key = postings.posted entries key +
        if key = postings.account entry then
          postings.quantity (change.apply entry) - postings.quantity entry else 0 := by
  unfold posted
  rw [Table.total_modify found, same]
  by_cases chosen : postings.account entry = key
  · simp [chosen]
  · simp [chosen, Ne.symm chosen]

variable [Keyed Row Key]

def book (postings : Postings Row Entry Key Amount) (rows : Table Row)
    (entries : Table Entry) : Book Key Amount where
  balance key := (rows.find? key).map postings.column
  posted := postings.posted entries

variable {rows : Table Row}

theorem book_congr (samePosted : ∀ key, postings.posted updated key = postings.posted entries key) :
    postings.book rows updated = postings.book rows entries := by
  refine Book.ext rfl ?_
  funext key
  exact samePosted key

theorem book_modify {key : Key} {change : RowUpdate Row} {amount : Amount}
    (adds : ∀ row, postings.column (change.apply row) = postings.column row + amount)
    (posts : ∀ other, postings.posted updated other =
      postings.posted entries other + if other = key then amount else 0) :
    postings.book (rows.modify key change) updated =
      (postings.book rows entries).post key amount := by
  refine Book.ext ?_ ?_
  · funext other
    by_cases same : other = key
    · subst same
      simp only [book, Book.post, if_true, Table.find?_modify_self, Option.map_map]
      congr 1
      funext row
      exact adds row
    · simp only [book, Book.post, if_neg same, Table.find?_modify_ne _ same]
  · funext other
    by_cases same : other = key
    · simp only [book, Book.post, posts, if_pos same]
    · simp only [book, Book.post, posts, if_neg same, add_zero]

end Postings

end Relational
