import Mathlib.Data.List.Perm.Basic
import Mathlib.Data.List.Range
import Mathlib.Data.List.Sort
import Mathlib.Tactic.Common

/-!
# Placing items in an array

Items written one after the other into an empty array, each at a place of its
own.  Where the places are exactly those of the array, no hole is left and
the array holds every item once, at its place.
-/

namespace Mozetto.Library.Placement

universe u

variable {α : Type u}

/-- Write an item at its place. -/
def place (slots : List (Option α)) (entry : Nat × α) : List (Option α) :=
  slots.set entry.1 (some entry.2)

/-- An array with the items at their places. -/
def placed (count : Nat) (entries : List (Nat × α)) : List (Option α) :=
  entries.foldl place (List.replicate count none)

theorem length_foldl_place (entries : List (Nat × α)) (slots : List (Option α)) :
    (entries.foldl place slots).length = slots.length := by
  induction entries generalizing slots with
  | nil => rfl
  | cons entry rest induction =>
    rw [List.foldl_cons, induction, place, List.length_set]

theorem length_placed (count : Nat) (entries : List (Nat × α)) :
    (placed count entries).length = count := by
  rw [placed, length_foldl_place, List.length_replicate]

/-- Items placed elsewhere leave a place alone. -/
theorem getElem?_foldl_place_of_not_mem
    {entries : List (Nat × α)} {slots : List (Option α)} {index : Nat}
    (elsewhere : index ∉ entries.map Prod.fst) :
    (entries.foldl place slots)[index]? = slots[index]? := by
  induction entries generalizing slots with
  | nil => rfl
  | cons entry rest induction =>
    rw [List.map_cons, List.mem_cons, not_or] at elsewhere
    rw [List.foldl_cons, induction elsewhere.2, place, List.getElem?_set_ne (Ne.symm elsewhere.1)]

/-- An item stands at its place. -/
theorem getElem?_foldl_place {entries : List (Nat × α)} {slots : List (Option α)}
    (distinct : (entries.map Prod.fst).Nodup) {index : Nat} {item : α}
    (member : (index, item) ∈ entries) (inside : index < slots.length) :
    (entries.foldl place slots)[index]? = some (some item) := by
  induction entries generalizing slots with
  | nil => cases member
  | cons entry rest induction =>
    rw [List.map_cons, List.nodup_cons] at distinct
    rw [List.foldl_cons]
    rcases List.mem_cons.mp member with rfl | later
    · rw [getElem?_foldl_place_of_not_mem distinct.1, place, List.getElem?_set_self inside]
    · exact induction distinct.2 later (by rwa [place, List.length_set])

/-- Entries by ascending place. -/
def inPlaceOrder (entries : List (Nat × α)) : List (Nat × α) :=
  entries.mergeSort fun entry other => entry.1 ≤ other.1

theorem inPlaceOrder_perm (entries : List (Nat × α)) : (inPlaceOrder entries).Perm entries :=
  List.mergeSort_perm _ _

theorem map_fst_inPlaceOrder {count : Nat} {entries : List (Nat × α)}
    (places : (entries.map Prod.fst).Perm (List.range count)) :
    (inPlaceOrder entries).map Prod.fst = List.range count := by
  have sorted : (inPlaceOrder entries).Pairwise
      fun entry other => decide (entry.1 ≤ other.1) = true := by
    apply List.pairwise_mergeSort
    · intro first second third
      simp only [decide_eq_true_iff]
      exact Nat.le_trans
    · intro first second
      simp only [Bool.or_eq_true, decide_eq_true_iff]
      exact Nat.le_total _ _
  have ascending : ((inPlaceOrder entries).map Prod.fst).Pairwise (· ≤ ·) := by
    rw [List.pairwise_map]
    exact sorted.imp fun below => of_decide_eq_true below
  exact List.Perm.eq_of_pairwise' ascending List.pairwise_le_range
      (((inPlaceOrder_perm entries).map Prod.fst).trans places)

/-- Items at all the places of an array fill it, in the order of the places. -/
theorem placed_eq {count : Nat} {entries : List (Nat × α)}
    (places : (entries.map Prod.fst).Perm (List.range count)) : placed count entries =
    ((inPlaceOrder entries).map Prod.snd).map some := by
  have distinct := places.nodup_iff.mpr List.nodup_range
  have ordered := map_fst_inPlaceOrder places
  have lengths : (inPlaceOrder entries).length = count := by
    have both := congrArg List.length ordered
    rwa [List.length_map, List.length_range] at both
  apply List.ext_getElem?
  intro index
  by_cases inside : index < count
  · have given : index < (inPlaceOrder entries).length := by rwa [lengths]
    have there : (inPlaceOrder entries)[index].1 = index := by
      have same := List.getElem_of_eq ordered (by rwa [List.length_map])
      rwa [List.getElem_map, List.getElem_range] at same
    have entry : (index, (inPlaceOrder entries)[index].2) ∈ entries := by
      have same : (inPlaceOrder entries)[index] = (index, (inPlaceOrder entries)[index].2) :=
        Prod.ext there rfl
      rw [← same]
      exact (inPlaceOrder_perm entries).subset (List.getElem_mem given)
    have standing :=
      getElem?_foldl_place distinct entry (inside.trans_eq
          (List.length_replicate (n := count) (a := (none : Option α))).symm)
    rw [placed, standing, List.getElem?_map, List.getElem?_map, List.getElem?_eq_getElem given]
    rfl
  · rw [List.getElem?_eq_none (by rw [length_placed]; exact not_lt.mp inside), List.getElem?_eq_none
        (by
          rw [List.length_map, List.length_map, lengths]
          exact not_lt.mp inside)]

end Mozetto.Library.Placement
