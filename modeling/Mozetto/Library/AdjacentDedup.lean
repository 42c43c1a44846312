import Mathlib.Data.List.Sort
import Mathlib.Data.List.Dedup
import Mathlib.Tactic.Common

/-!
# Dropping adjacent repetitions

On a sorted list, dropping what equals its predecessor leaves every value
once.  Sorting before or after dropping repetitions is therefore the same.
-/

namespace Mozetto.Library.AdjacentDedup

universe u

variable {α : Type u} [DecidableEq α]

/-- Drop what equals its predecessor. -/
def dedupAdjacent : List α → List α
  | [] => []
  | [value] => [value]
  | value :: next :: rest =>
      if value = next then dedupAdjacent (next :: rest)
      else value :: dedupAdjacent (next :: rest)

@[simp]
theorem mem_dedupAdjacent {value : α} {items : List α} :
    value ∈ dedupAdjacent items ↔ value ∈ items := by
  induction items using dedupAdjacent.induct with
  | case1 => rfl
  | case2 => rfl
  | case3 next rest induction =>
    rw [dedupAdjacent, if_pos rfl, induction]
    simp
  | case4 first next rest other induction =>
    rw [dedupAdjacent, if_neg other, List.mem_cons, induction]
    exact List.mem_cons.symm

/-- Without adjacent repetitions a sorted list is strictly sorted. -/
theorem pairwise_dedupAdjacent {before : α → α → Prop} {items : List α}
    (sorted : items.Pairwise fun a b => before a b ∨ a = b)
    (transitive : ∀ a b c, before a b → before b c → before a c) :
    (dedupAdjacent items).Pairwise before := by
  induction items using dedupAdjacent.induct with
  | case1 => exact .nil
  | case2 => exact List.pairwise_singleton _ _
  | case3 next rest induction =>
    rw [dedupAdjacent, if_pos rfl]
    exact induction sorted.of_cons
  | case4 first next rest other induction =>
    rw [dedupAdjacent, if_neg other, List.pairwise_cons]
    refine ⟨?_, induction sorted.of_cons⟩
    intro value member
    rw [mem_dedupAdjacent] at member
    rw [List.pairwise_cons] at sorted
    have ahead : before first next := (sorted.1 next List.mem_cons_self).resolve_right other
    rcases List.mem_cons.mp member with rfl | later
    · exact ahead
    · rcases (List.pairwise_cons.mp sorted.2).1 value later with
        behind | same
      · exact transitive _ _ _ ahead behind
      · exact same ▸ ahead

/-- Sorting before or after dropping repetitions is the same. -/
theorem dedupAdjacent_insertionSort (least : α → α → Prop) [DecidableRel least] [Std.Total least]
    [IsTrans α least] [Std.Antisymm least] (items : List α) :
    dedupAdjacent (items.insertionSort least) =
      items.dedup.insertionSort least := by
  have strict : (dedupAdjacent (items.insertionSort least)).Pairwise fun a b =>
    least a b ∧ a ≠ b := by
    apply pairwise_dedupAdjacent
    · refine (List.pairwise_insertionSort least items).imp ?_
      intro a b below
      by_cases same : a = b
      · exact .inr same
      · exact .inl ⟨below, same⟩
    · rintro a b c ⟨first, other⟩ ⟨second, -⟩
      refine ⟨IsTrans.trans _ _ _ first second, ?_⟩
      rintro rfl
      exact other (antisymm first second)
  have same : (dedupAdjacent (items.insertionSort least)).Perm
      (items.dedup.insertionSort least) := by
    rw [List.perm_ext_iff_of_nodup]
    · intro value
      rw [mem_dedupAdjacent, List.mem_insertionSort, List.mem_insertionSort, List.mem_dedup]
    · exact strict.imp fun below => below.2
    · exact (List.perm_insertionSort _ _).nodup_iff.mpr (List.nodup_dedup items)
  refine same.eq_of_pairwise ?_ (strict.imp fun below => below.1)
    (List.pairwise_insertionSort least items.dedup)
  intro a b _ _ first second
  exact antisymm first second

end Mozetto.Library.AdjacentDedup
