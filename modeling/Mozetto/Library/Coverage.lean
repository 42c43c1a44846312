import Mathlib.Algebra.BigOperators.Group.Finset.Basic
import Mathlib.Algebra.Order.BigOperators.Group.Finset
import Mathlib.Data.Finset.Basic
import Mathlib.Tactic.Common

/-!
# Liabilities covered by a reserve

A table of liabilities has one entry for each key, and keys may be unbounded.
A reserve covers the table when the entries of every finite set of keys sum
to at most the reserve; for a table with finitely many nonzero entries this
is the sum of all of them.  The rules below say how a reserve has to move
when entries are credited, debited or cleared.
-/

namespace Mozetto.Library.Coverage

open Finset

variable {κ : Type*} [DecidableEq κ]
variable {table after : κ → Nat} {reserve : Nat}

/-- Every finite part of the table sums to at most the reserve. -/
def Covers (reserve : Nat) (table : κ → Nat) : Prop :=
  ∀ keys : Finset κ, ∑ key ∈ keys, table key ≤ reserve

omit [DecidableEq κ] in
theorem covers_zero (reserve : Nat) : Covers reserve (fun _ : κ => 0) := by
  intro keys
  simp

omit [DecidableEq κ] in
theorem Covers.mono {larger : Nat} (covers : Covers reserve table) (le : reserve ≤ larger) :
    Covers larger table :=
  fun keys => (covers keys).trans le

/-- An entry grows by what the reserve takes in. -/
theorem Covers.credit (covers : Covers reserve table) (key : κ) (amount : Nat)
    (atKey : after key = table key + amount)
    (elsewhere : ∀ other, other ≠ key → after other = table other) :
    Covers (reserve + amount) after := by
  intro keys
  by_cases member : key ∈ keys
  · have rest : ∑ other ∈ keys.erase key, after other = ∑ other ∈ keys.erase key, table other :=
      Finset.sum_congr rfl (fun other inside => elsewhere other (Finset.ne_of_mem_erase inside))
    have before := covers keys
    rw [← Finset.add_sum_erase keys table member] at before
    rw [← Finset.add_sum_erase keys after member, rest, atKey]
    omega
  · have rest : ∑ other ∈ keys, after other = ∑ other ∈ keys, table other :=
      Finset.sum_congr rfl (fun other inside =>
        elsewhere other (fun equal => member (equal ▸ inside)))
    rw [rest]
    exact (covers keys).trans (Nat.le_add_right _ _)

/-- Clearing finitely many entries frees their sum. -/
theorem Covers.clear (covers : Covers reserve table) (cleared : Finset κ)
    (inside : ∀ key ∈ cleared, after key = 0)
    (outside : ∀ key, key ∉ cleared → after key = table key) :
    Covers (reserve - ∑ key ∈ cleared, table key) after := by
  intro keys
  have kept : ∑ key ∈ keys, after key = ∑ key ∈ keys \ cleared, table key := by
    have part : keys ∩ cleared ⊆ keys := Finset.inter_subset_left
    rw [← Finset.sum_sdiff part]
    have zero : ∑ key ∈ keys ∩ cleared, after key = 0 :=
      Finset.sum_eq_zero (fun key member => inside key (Finset.mem_inter.mp member).2)
    rw [zero, Nat.add_zero, Finset.sdiff_inter_self_left]
    exact Finset.sum_congr rfl (fun key member => outside key (Finset.mem_sdiff.mp member).2)
  have whole := covers ((keys \ cleared) ∪ cleared)
  rw [Finset.sum_union Finset.sdiff_disjoint] at whole
  rw [kept]
  omega

/-- An entry shrinks by what the reserve pays out. -/
theorem Covers.debit (covers : Covers reserve table) (key : κ) (amount : Nat)
    (enough : amount ≤ table key) (atKey : after key = table key - amount)
    (elsewhere : ∀ other, other ≠ key → after other = table other) :
    Covers (reserve - amount) after := by
  intro keys
  have whole := covers (insert key keys)
  rw [← Finset.add_sum_erase _ table (Finset.mem_insert_self key keys)] at whole
  have bound : ∑ other ∈ keys, after other ≤
      after key + ∑ other ∈ (insert key keys).erase key, table other := by
    have rest : ∑ other ∈ (insert key keys).erase key, after other =
        ∑ other ∈ (insert key keys).erase key, table other :=
      Finset.sum_congr rfl (fun other inside => elsewhere other (Finset.ne_of_mem_erase inside))
    rw [← rest, Finset.add_sum_erase _ after (Finset.mem_insert_self key keys)]
    exact Finset.sum_le_sum_of_subset (Finset.subset_insert key keys)
  omega

omit [DecidableEq κ] in
/-- A covered table has every single entry within the reserve. -/
theorem Covers.entry_le (covers : Covers reserve table) (key : κ) : table key ≤ reserve := by
  simpa using covers {key}

end Mozetto.Library.Coverage
