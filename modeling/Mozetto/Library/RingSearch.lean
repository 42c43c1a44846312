import Mathlib.Data.Fin.Basic
import Mathlib.Data.List.FinRange
import Mathlib.Data.List.Perm.Subperm
import Mathlib.Tactic.Common

/-!
# Searching a ring of places

The places of a ring are visited once each, beginning behind a given one.  A
search for the first place with a property therefore fails only when no place
has it.
-/

namespace Mozetto.Library.RingSearch

variable {size : Nat}

/-- The places of the ring behind `start`, in order, `start` itself last. -/
def ring (size start : Nat) : List (Fin size) :=
  (List.finRange size).map fun i =>
    ⟨(start + (i.val + 1)) % size, Nat.mod_lt _ i.pos⟩

/-- The first place behind `start` with a property. -/
def nextPlace (start : Nat) (holds : Fin size → Bool) : Option (Fin size) :=
  (ring size start).find? holds

/-- Every place is visited. -/
theorem mem_ring (start : Nat) (place : Fin size) : place ∈ ring size start := by
  have positive : 0 < size := place.pos
  have below : start % size < size := Nat.mod_lt _ positive
  have split := Nat.div_add_mod start size
  simp only [ring, List.mem_map, List.mem_finRange, true_and]
  by_cases later : start % size < place.val
  · refine ⟨⟨place.val - start % size - 1, by omega⟩, Fin.ext ?_⟩
    have moved : start + (place.val - start % size - 1 + 1) =
        place.val + size * (start / size) := by
      omega
    show (start + (place.val - start % size - 1 + 1)) % size = place.val
    rw [moved, Nat.add_mul_mod_self_left, Nat.mod_eq_of_lt place.isLt]
  · refine ⟨⟨place.val + size - start % size - 1, by omega⟩, Fin.ext ?_⟩
    have moved : start + (place.val + size - start % size - 1 + 1) =
        place.val + size * (start / size + 1) := by
      rw [Nat.mul_add, Nat.mul_one]
      omega
    show (start + (place.val + size - start % size - 1 + 1)) % size = place.val
    rw [moved, Nat.add_mul_mod_self_left, Nat.mod_eq_of_lt place.isLt]

/-- What a search finds has the property. -/
theorem nextPlace_holds {start : Nat} {holds : Fin size → Bool} {place : Fin size}
    (found : nextPlace start holds = some place) : holds place = true := List.find?_some found

/-- A search fails only when no place has the property. -/
theorem nextPlace_eq_none_iff {start : Nat} {holds : Fin size → Bool} :
    nextPlace start holds = none ↔ ∀ place, holds place = false := by
  simp only [nextPlace, List.find?_eq_none, Bool.not_eq_true]
  constructor
  · intro none place
    exact none place (mem_ring start place)
  · intro none place _
    exact none place

theorem exists_nextPlace {start : Nat} {holds : Fin size → Bool} {place : Fin size}
    (has : holds place = true) : ∃ found, nextPlace start holds = some found := by
  cases searched : nextPlace start holds with
  | some found => exact ⟨found, rfl⟩
  | none =>
    have never := nextPlace_eq_none_iff.mp searched place
    rw [has] at never
    cases never

end Mozetto.Library.RingSearch
