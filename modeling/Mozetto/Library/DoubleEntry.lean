import Mathlib.Algebra.BigOperators.Group.List.Basic
import Mathlib.Algebra.Ring.Int.Defs
import Mathlib.Data.List.Basic
import Mathlib.Tactic.Common

/-!
# Double-entry books

A book is a list of postings, the newest first.  A posting moves an amount
from one account to another under a key, and a key is posted at most once: a
second posting of the same key leaves the book as it is.
-/

namespace Mozetto.Library.DoubleEntry

universe u v

/-- An amount that moves from one account to another. -/
structure Posting (κ : Type u) (α : Type v) where
  key : κ
  source : α
  target : α
  amount : Int
deriving DecidableEq

/-- Postings, the newest first. -/
abbrev Book (κ : Type u) (α : Type v) := List (Posting κ α)

variable {κ : Type u} {α : Type v}

/-- Some posting has this key. -/
def Posted (book : Book κ α) (key : κ) : Prop := ∃ posting ∈ book, posting.key = key

instance [DecidableEq κ] (book : Book κ α) (key : κ) : Decidable (Posted book key) :=
  inferInstanceAs (Decidable (∃ posting ∈ book, posting.key = key))

/-- Post under a key that is not in use, or do nothing. -/
def post [DecidableEq κ] (posting : Posting κ α) (book : Book κ α) : Book κ α :=
  if Posted book posting.key then book else posting :: book

section Keys

variable {posting : Posting κ α} {book : Book κ α} {key : κ}

@[simp]
theorem posted_cons : Posted (posting :: book) key ↔ posting.key = key ∨ Posted book key := by
  simp [Posted]

variable [DecidableEq κ]

theorem post_of_fresh (fresh : ¬ Posted book posting.key) : post posting book = posting :: book :=
  if_neg fresh

end Keys

section Balances

variable [DecidableEq α]

/-- What a posting changes about an account. -/
def Posting.change (posting : Posting κ α) (account : α) : Int :=
  (if posting.target = account then posting.amount else 0) -
    (if posting.source = account then posting.amount else 0)

/-- The sum of the entries of an account. -/
def balance (book : Book κ α) (account : α) : Int :=
  (book.map fun posting => posting.change account).sum

variable {posting : Posting κ α} {book : Book κ α} {account : α}

@[simp]
theorem balance_cons : balance (posting :: book) account =
    posting.change account + balance book account := by
  simp [balance]

end Balances

end Mozetto.Library.DoubleEntry
