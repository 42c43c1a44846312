import Mathlib.Data.List.Basic
import Mathlib.Data.List.Nodup
import Mathlib.Tactic.Common

/-!
# Rows of a table

The rows of a table in the order of their insertion, and what stays true of
them when one row is replaced by another.
-/

namespace Mozetto.Library.Rows

universe u

variable {ρ : Type u}

/-! ## One row replaced -/

/-- A property of the new row and of the rows at other places. -/
theorem forall_mem_set {Holds : ρ → Prop} {rows : List ρ} {place : Nat} {new : ρ}
    (holds : Holds new)
    (others : ∀ index row, index ≠ place → rows[index]? = some row → Holds row) :
    ∀ row ∈ rows.set place new, Holds row := by
  intro row member
  rcases List.mem_iff_getElem?.mp member with ⟨index, found⟩
  by_cases here : index = place
  · rw [here] at found
    rcases List.getElem?_eq_some_iff.mp found with ⟨inside, rfl⟩
    rwa [List.getElem_set_self]
  · rw [List.getElem?_set_ne (Ne.symm here)] at found
    exact others index row here found

/-- A symmetric relation between rows survives where the new row has it. -/
theorem pairwise_set {R : ρ → ρ → Prop} {rows : List ρ} {place : Nat} {new : ρ}
    (symmetric : ∀ one other, R one other → R other one) (apart : rows.Pairwise R)
    (others : ∀ index row, index ≠ place → rows[index]? = some row → R new row) :
    (rows.set place new).Pairwise R := by
  induction rows generalizing place with
  | nil => exact List.Pairwise.nil
  | cons first rest induction =>
    rcases List.pairwise_cons.mp apart with ⟨head, tail⟩
    cases place with
    | zero =>
      rw [List.set_cons_zero, List.pairwise_cons]
      refine ⟨?_, tail⟩
      intro row member
      rcases List.mem_iff_getElem?.mp member with ⟨index, found⟩
      exact others (index + 1) row (Nat.succ_ne_zero _) found
    | succ place =>
      rw [List.set_cons_succ, List.pairwise_cons]
      constructor
      · intro row member
        rcases List.mem_or_eq_of_mem_set member with old | rfl
        · exact head row old
        · exact symmetric _ _ (others 0 first (Nat.succ_ne_zero _).symm rfl)
      · apply induction tail
        intro index row elsewhere found
        exact others (index + 1) row (by simpa using elsewhere) found

/-- Rows at two places are related. -/
theorem rel_of_pairwise {R : ρ → ρ → Prop} {rows : List ρ} {place index : Nat} {one other : ρ}
    (symmetric : ∀ one other, R one other → R other one)
    (apart : rows.Pairwise R) (elsewhere : place ≠ index)
    (here : rows[place]? = some one) (there : rows[index]? = some other) :
    R one other := by
  rw [List.pairwise_iff_getElem] at apart
  rcases List.getElem?_eq_some_iff.mp here with ⟨inside, rfl⟩
  rcases List.getElem?_eq_some_iff.mp there with ⟨inside', rfl⟩
  rcases Nat.lt_or_gt_of_ne elsewhere with before | after
  · exact apart place index inside inside' before
  · exact symmetric _ _ (apart index place inside' inside after)

end Mozetto.Library.Rows
