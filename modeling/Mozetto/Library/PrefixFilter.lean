import Mathlib.Data.List.TakeWhile
import Mathlib.Tactic.Common

/-!
# Prefixes that a predicate picks out

A predicate that holds of everything before what it holds of picks a prefix of
a list: filtering by it takes the prefix, and filtering by its negation is
dropping the prefix.
-/

namespace Mozetto.Library.PrefixFilter

universe u

variable {α : Type u}

/-- What comes before something picked is picked. -/
def Downward (picked : α → Bool) (items : List α) : Prop :=
  items.Pairwise fun earlier later => picked later = true → picked earlier = true

namespace Downward

variable {picked other : α → Bool} {items : List α}

theorem filter_not_of_head {first : α} {rest : List α} (downward : Downward picked (first :: rest))
    (unpicked : picked first = false) : ∀ later ∈ rest, picked later = false := by
  intro later member
  have before := (List.pairwise_cons.mp downward).1 later member
  rw [Bool.eq_false_iff]
  intro holds
  rw [before holds] at unpicked
  cases unpicked

/-- Dropping the prefix leaves what is not picked. -/
theorem dropWhile_eq_filter (downward : Downward picked items) :
    items.dropWhile picked = items.filter fun item => !picked item := by
  induction items with
  | nil => rfl
  | cons first rest induction =>
    cases holds : picked first with
    | true =>
      rw [List.dropWhile_cons_of_pos holds, List.filter_cons_of_neg]
      · exact induction (List.pairwise_cons.mp downward).2
      · rw [holds]
        exact Bool.false_ne_true
    | false =>
      rw [List.dropWhile_cons_of_neg (Bool.eq_false_iff.mp holds)]
      refine (List.filter_eq_self.mpr ?_).symm
      intro item member
      rcases List.mem_cons.mp member with rfl | later
      · rw [holds]
        rfl
      · rw [downward.filter_not_of_head holds item later]
        rfl

/-- What is picked is a prefix. -/
theorem filter_prefix (downward : Downward picked items) : items.filter picked <+: items := by
  induction items with
  | nil => exact List.prefix_refl _
  | cons first rest induction =>
    cases holds : picked first with
    | true =>
      rw [List.filter_cons_of_pos holds, List.prefix_cons_inj]
      exact induction (List.pairwise_cons.mp downward).2
    | false =>
      have none : (first :: rest).filter picked = [] := by
        refine List.filter_eq_nil_iff.mpr fun item member => ?_
        rw [Bool.not_eq_true]
        rcases List.mem_cons.mp member with rfl | later
        · exact holds
        · exact downward.filter_not_of_head holds item later
      rw [none]
      exact List.nil_prefix

/-- A larger predicate picks what the smaller one does, and then the others. -/
theorem filter_append_filter (downward : Downward picked items)
    (larger : ∀ item ∈ items, picked item = true → other item = true) : items.filter picked ++
      (items.filter fun item => !picked item && other item) =
    items.filter other := by
  induction items with
  | nil => rfl
  | cons first rest induction =>
    have rest_ :=
      induction (List.pairwise_cons.mp downward).2 fun item member =>
        larger item (List.mem_cons_of_mem _ member)
    cases holds : picked first with
    | true =>
      have both := larger first List.mem_cons_self holds
      have neither : ¬ (!picked first && other first) = true := by
        rw [holds]
        exact Bool.false_ne_true
      rw [List.filter_cons_of_pos holds, List.filter_cons_of_pos both,
        List.filter_cons_of_neg (p := fun item => !picked item && other item) neither,
        List.cons_append, rest_]
    | false =>
      have none : rest.filter picked = [] := by
        refine List.filter_eq_nil_iff.mpr fun item member => ?_
        rw [Bool.not_eq_true]
        exact downward.filter_not_of_head holds item member
      rw [none, List.nil_append] at rest_
      rw [List.filter_cons_of_neg (Bool.eq_false_iff.mp holds), none, List.nil_append]
      refine List.filter_congr fun item member => ?_
      rcases List.mem_cons.mp member with rfl | later
      · rw [holds]
        rfl
      · rw [downward.filter_not_of_head holds item later]
        rfl

/-- If the last item is picked then all are. -/
theorem getLast?_filter_not (downward : Downward picked items) :
    (items.filter fun item => !picked item).getLast? =
      items.getLast?.filter fun item => !picked item := by
  rcases List.eq_nil_or_concat items with rfl | ⟨front, last, rfl⟩
  · rfl
  · rw [List.concat_eq_append, List.filter_append, List.getLast?_concat]
    rw [List.concat_eq_append] at downward
    cases holds : picked last with
    | true =>
      have all : ∀ item ∈ front, ¬ (!picked item) = true := by
        intro item member
        have before :=
          (List.pairwise_append.mp downward).2.2 item member last (List.mem_singleton_self last)
        rw [before holds]
        exact Bool.false_ne_true
      rw [List.filter_eq_nil_iff.mpr all, Option.filter_some, holds, List.filter_cons, holds]
      rfl
    | false =>
      rw [List.filter_cons, Option.filter_some, holds]
      exact List.getLast?_concat

end Downward

end Mozetto.Library.PrefixFilter
