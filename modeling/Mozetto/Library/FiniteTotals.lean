import Mathlib.Algebra.Order.BigOperators.Group.Finset
import Mathlib.Data.Finset.Card
import Mathlib.Tactic.Common

/-!
# Totals kept next to a table

A table with an entry for each key of an unbounded type may have a total kept
next to it, or the number of keys with a certain property.  Such books are
exact when finitely many keys account for all of the total.  The rules below
say how the total has to move when one entry does.
-/

namespace Mozetto.Library.FiniteTotals

variable {κ : Type*}

/-- Finitely many entries make up `total`, and all others are zero. -/
def SumsTo (table : κ → Nat) (total : Nat) : Prop :=
  ∃ keys : Finset κ, (∀ key, key ∉ keys → table key = 0) ∧ ∑ key ∈ keys, table key = total

/-- Exactly `count` keys have a property. -/
def Counts (holds : κ → Prop) (count : Nat) : Prop :=
  ∃ keys : Finset κ, (∀ key, key ∈ keys ↔ holds key) ∧ keys.card = count

/-! ## Sums -/

theorem sumsTo_zero : SumsTo (fun _ : κ => 0) 0 := ⟨∅, fun _ _ => rfl, rfl⟩

namespace SumsTo

variable {table after : κ → Nat} {total amount : Nat} {key : κ}

variable [DecidableEq κ]

/-- A chosen key may be counted among those that make up the total. -/
theorem exists_mem (sums : SumsTo table total) (key : κ) : ∃ keys : Finset κ,
    key ∈ keys ∧ (∀ other, other ∉ keys → table other = 0) ∧
      ∑ other ∈ keys, table other = total := by
  rcases sums with ⟨keys, outside, sum⟩
  refine ⟨insert key keys, Finset.mem_insert_self key keys, ?_, ?_⟩
  · intro other absent
    apply outside other
    intro inside
    exact absent (Finset.mem_insert_of_mem inside)
  · rw [Finset.sum_insert_of_eq_zero_if_notMem (outside key), sum]

omit [DecidableEq κ] in
theorem entry_le (sums : SumsTo table total) (key : κ) : table key ≤ total := by
  classical
  rcases sums.exists_mem key with ⟨keys, inside, -, sum⟩
  rw [← sum]
  exact Finset.single_le_sum (fun _ _ => Nat.zero_le _) inside

/-- Replacing one entry moves the total by as much. -/
theorem replace (sums : SumsTo table total)
    (elsewhere : ∀ other, other ≠ key → after other = table other) :
    SumsTo after (total - table key + after key) := by
  rcases sums.exists_mem key with ⟨keys, inside, outside, sum⟩
  refine ⟨keys, ?_, ?_⟩
  · intro other absent
    rw [elsewhere other (fun equal => absent (equal ▸ inside))]
    exact outside other absent
  · have rest : ∑ other ∈ keys.erase key, after other = ∑ other ∈ keys.erase key, table other :=
      Finset.sum_congr rfl (fun other member => elsewhere other (Finset.ne_of_mem_erase member))
    have before := Finset.add_sum_erase keys table inside
    rw [← Finset.add_sum_erase keys after inside, rest]
    omega

/-- An entry grows together with the total. -/
theorem credit (sums : SumsTo table total) (atKey : after key = table key + amount)
    (elsewhere : ∀ other, other ≠ key → after other = table other) :
    SumsTo after (total + amount) := by
  have within := sums.entry_le key
  have moved := sums.replace elsewhere
  have equal : total - table key + after key = total + amount := by
    omega
  rwa [equal] at moved

/-- An entry shrinks together with the total. -/
theorem debit (sums : SumsTo table total) (enough : amount ≤ table key)
    (atKey : after key = table key - amount)
    (elsewhere : ∀ other, other ≠ key → after other = table other) :
    SumsTo after (total - amount) := by
  have within := sums.entry_le key
  have moved := sums.replace elsewhere
  have equal : total - table key + after key = total - amount := by
    omega
  rwa [equal] at moved

end SumsTo

/-! ## Counts -/

namespace Counts

variable {holds after : κ → Prop} {count : Nat} {key : κ}

theorem none (never : ∀ key, ¬ holds key) : Counts holds 0 :=
  ⟨∅, fun key => by simp [never key], rfl⟩

theorem congr (counts : Counts holds count) (same : ∀ key, after key ↔ holds key) :
    Counts after count := by
  rcases counts with ⟨keys, mem_iff, card⟩
  refine ⟨keys, ?_, card⟩
  intro key
  rw [mem_iff key, same key]

theorem pos (counts : Counts holds count) (key_holds : holds key) : 0 < count := by
  rcases counts with ⟨keys, mem_iff, card⟩
  rw [← card]
  exact Finset.card_pos.mpr ⟨key, (mem_iff key).mpr key_holds⟩

variable [DecidableEq κ]

/-- One more key has the property. -/
theorem gain (counts : Counts holds count) (fresh : ¬ holds key) (gained : after key)
    (elsewhere : ∀ other, other ≠ key → (after other ↔ holds other)) :
    Counts after (count + 1) := by
  rcases counts with ⟨keys, mem_iff, card⟩
  have absent : key ∉ keys := by
    rw [mem_iff key]
    exact fresh
  refine ⟨insert key keys, ?_, ?_⟩
  · intro other
    by_cases same : other = key
    · simp [same, gained]
    · simp [same, mem_iff other, elsewhere other same]
  · rw [Finset.card_insert_of_notMem absent, card]

/-- One key loses the property. -/
theorem lose (counts : Counts holds count) (held : holds key) (lost : ¬ after key)
    (elsewhere : ∀ other, other ≠ key → (after other ↔ holds other)) :
    Counts after (count - 1) := by
  rcases counts with ⟨keys, mem_iff, card⟩
  have inside : key ∈ keys := (mem_iff key).mpr held
  refine ⟨keys.erase key, ?_, ?_⟩
  · intro other
    by_cases same : other = key
    · simp [same, lost]
    · simp [same, mem_iff other, elsewhere other same]
  · rw [Finset.card_erase_of_mem inside, card]

end Counts

end Mozetto.Library.FiniteTotals
