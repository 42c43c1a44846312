import Mathlib.Algebra.BigOperators.Ring.Finset
import Mathlib.Algebra.Order.BigOperators.Group.Finset
import Mathlib.Data.Fintype.BigOperators
import Mathlib.Data.Int.Basic
import Mathlib.Tactic.Common
import Mathlib.Data.Finset.Sort
import Mathlib.Tactic.Linarith

/-!
# Contributions cut into levels

Finitely many parties have paid different amounts.  Cut at the distinct
amounts, the contributions form levels, and a party takes part in those it has
paid for in full.  The levels together hold all that was paid, and those up to
an amount hold what each party has paid up to it.
-/

namespace Mozetto.Library.ContributionLevels

open Finset

variable {ι : Type*} [Fintype ι]
variable {paid : ι → Int} {start level cap : Int} {levels : List Int}

/-- The parties that have paid a level in full. -/
def payers (paid : ι → Int) (level : Int) : Finset ι := univ.filter fun i => level ≤ paid i

@[simp]
theorem mem_payers {i : ι} : i ∈ payers paid level ↔ level ≤ paid i := by
  simp [payers]

/-- What the levels above `start` hold that are not above `cap`. -/
def heldUpTo (paid : ι → Int) (cap : Int) : Int → List Int → Int
  | _, [] => 0
  | start, level :: levels =>
      (if level ≤ cap then (level - start) * (payers paid level).card
        else 0) +
        heldUpTo paid cap level levels

/-- The levels above `start` are increasing and complete. -/
structure Cuts (paid : ι → Int) (start : Int) (levels : List Int) : Prop where
  increasing : (start :: levels).Pairwise (· < ·)
  complete : ∀ i, start < paid i → paid i ∈ levels

omit [Fintype ι] in
theorem Cuts.tail (cuts : Cuts paid start (level :: levels)) :
    Cuts paid level levels := by
  have increasing := cuts.increasing
  rw [List.pairwise_cons] at increasing
  refine ⟨increasing.2, ?_⟩
  intro i above
  have first : start < level := increasing.1 level (by simp)
  have member := cuts.complete i (first.trans above)
  rcases List.mem_cons.mp member with same | later
  · omega
  · exact later

omit [Fintype ι] in
/-- Nobody has paid an amount strictly between two levels. -/
theorem Cuts.le_of_lt (cuts : Cuts paid start (level :: levels)) {i : ι} (below : paid i < level) :
    paid i ≤ start := by
  by_contra above
  have member := cuts.complete i (by omega)
  have increasing := cuts.increasing
  rw [List.pairwise_cons, List.pairwise_cons] at increasing
  rcases List.mem_cons.mp member with same | later
  · omega
  · have higher := increasing.2.1 (paid i) later
    omega

/-- The levels up to an amount hold what was paid up to it. -/
theorem heldUpTo_eq (cuts : Cuts paid start levels)
    (atLevel : cap ∈ levels ∨ cap ≤ start ∨ ∀ i, paid i ≤ cap) : heldUpTo paid cap start levels =
    ∑ i, max (min cap (paid i) - start) 0 := by
  induction levels generalizing start with
  | nil =>
    rw [heldUpTo]
    symm
    apply sum_eq_zero
    intro i _
    have bound : paid i ≤ start := by
      by_contra above
      cases cuts.complete i (by omega)
    omega
  | cons level levels induction =>
    have increasing := cuts.increasing
    rw [List.pairwise_cons, List.pairwise_cons] at increasing
    have first : start < level := increasing.1 level (by simp)
    have later : cap ∈ levels ∨ cap ≤ level ∨ ∀ i, paid i ≤ cap := by
      rcases atLevel with member | low | all
      · rcases List.mem_cons.mp member with same | member
        · exact .inr (.inl same.le)
        · exact .inl member
      · exact .inr (.inl (by omega))
      · exact .inr (.inr all)
    rw [heldUpTo, induction cuts.tail later]
    have here : (if level ≤ cap then
          (level - start) * ((payers paid level).card : Int)
        else 0) =
        ∑ i, if level ≤ cap ∧ level ≤ paid i then level - start else 0 := by
      split
      case isTrue within =>
        simp only [within, true_and]
        rw [← sum_filter, sum_const, payers, nsmul_eq_mul, mul_comm]
      case isFalse outside => simp [outside]
    rw [here, ← sum_add_distrib]
    apply sum_congr rfl
    intro i _
    by_cases reached : level ≤ paid i
    · by_cases within : level ≤ cap
      · rw [if_pos ⟨within, reached⟩]
        omega
      · rw [if_neg (fun both => within both.1)]
        have low : cap ≤ start := by
          rcases atLevel with member | low | all
          · rcases List.mem_cons.mp member with same | member
            · omega
            · have higher := increasing.2.1 cap member
              omega
          · exact low
          · have bound := all i
            omega
        omega
    · rw [if_neg (fun both => reached both.2)]
      have low := cuts.le_of_lt (not_le.mp reached)
      omega

/-- All levels together hold all that was paid. -/
theorem heldUpTo_total (cuts : Cuts paid 0 levels) (nonneg : ∀ i, 0 ≤ paid i)
    (bound : ∀ i, paid i ≤ cap) : heldUpTo paid cap 0 levels = ∑ i, paid i := by
  rw [heldUpTo_eq cuts (.inr (.inr bound))]
  apply sum_congr rfl
  intro i _
  have positive := nonneg i
  have within := bound i
  omega

end Mozetto.Library.ContributionLevels

/-!
## Side pots

Each level of some contributions is awarded to the best of those who have paid
it and are still in.  A level that nobody is in for is not awarded; what such
levels hold may be added to another one as a bonus.
-/

namespace Mozetto.Library.SidePots

open Finset
open Mozetto.Library.ContributionLevels

variable {ι : Type*}
variable {start level amount : Int} {levels : List Int}
variable {i : ι}

/-! ### The best -/

section Best

variable {better : ι → ι → Prop} [DecidableRel better] {members : Finset ι}

/-- The members that no other member is better than. -/
def best (better : ι → ι → Prop) [DecidableRel better] (members : Finset ι) : Finset ι :=
  members.filter fun i => ∀ j ∈ members, ¬ better j i

theorem notMem_best (out : i ∉ members) : i ∉ best better members :=
  fun wins => out (filter_subset _ _ wins)

end Best

/-! ### Equal shares -/

section Shares

variable [DecidableEq ι] {place : ι → Nat} {winners : Finset ι}

/-- An equal split; odd chips go one each to the winners placed first. -/
def equalShare (place : ι → Nat) (amount : Int) (winners : Finset ι) (i : ι) : Int :=
  if i ∈ winners then
    amount / winners.card + if ((winners.filter fun j => place j < place i).card : Int) <
          amount % winners.card then 1
      else 0
  else 0

theorem equalShare_of_notMem (loses : i ∉ winners) : equalShare place amount winners i = 0 :=
  if_neg loses

/-- Nobody receives more than what is split. -/
theorem equalShare_le (nonneg : 0 ≤ amount) : equalShare place amount winners i ≤ amount := by
  rw [equalShare]
  split
  case isTrue wins =>
    have some : (0 : Int) < winners.card := by
      exact_mod_cast card_pos.mpr ⟨i, wins⟩
    have divided := Int.mul_ediv_add_emod amount winners.card
    have quotient : 0 ≤ amount / winners.card := Int.ediv_nonneg nonneg some.le
    have rest : 0 ≤ amount % winners.card := Int.emod_nonneg _ some.ne'
    have least : 1 * (amount / winners.card) ≤ winners.card * (amount / winners.card) :=
      mul_le_mul_of_nonneg_right some quotient
    split <;> omega
  case isFalse => exact nonneg

end Shares

/-! ### Awards -/

variable [Fintype ι] [DecidableEq ι]
variable {place : ι → Nat} {better : ι → ι → Prop} [DecidableRel better]
variable {paid : ι → Int} {stays : Finset ι} {bonus : Int → Int}

/-- Those who have paid a level and are still in. -/
def inFor (paid : ι → Int) (stays : Finset ι) (level : Int) : Finset ι := payers paid level ∩ stays

@[simp]
theorem mem_inFor : i ∈ inFor paid stays level ↔ level ≤ paid i ∧ i ∈ stays := by
  simp [inFor]

/-- What a party receives of the levels above `start`. -/
def awardFrom (place : ι → Nat) (better : ι → ι → Prop) [DecidableRel better]
    (paid : ι → Int) (stays : Finset ι) (bonus : Int → Int) (i : ι) : Int → List Int → Int
  | _, [] => 0
  | start, level :: levels =>
      equalShare place ((level - start) * (payers paid level).card + bonus level)
          (best better (inFor paid stays level)) i +
        awardFrom place better paid stays bonus i level levels

omit [DecidableEq ι] in
/-- The distinct positive contributions in increasing order. -/
def levelsOf (paid : ι → Int) : List Int :=
  ((univ.image paid).filter fun level => 0 < level).sort (· ≤ ·)

omit [DecidableEq ι] in
theorem mem_levelsOf : level ∈ levelsOf paid ↔ ∃ i, 0 < paid i ∧ paid i = level := by
  simp only [levelsOf, mem_sort, mem_filter, mem_image, mem_univ, true_and]
  constructor
  · rintro ⟨⟨i, rfl⟩, positive⟩
    exact ⟨i, positive, rfl⟩
  · rintro ⟨i, positive, rfl⟩
    exact ⟨⟨i, rfl⟩, positive⟩

omit [DecidableEq ι] in
/-- The distinct contributions cut them. -/
theorem cuts_levelsOf : Cuts paid 0 (levelsOf paid) := by
  constructor
  · rw [List.pairwise_cons]
    constructor
    · intro level member
      rcases mem_levelsOf.mp member with ⟨i, positive, rfl⟩
      exact positive
    · exact (sortedLT_sort _).pairwise
  · intro i positive
    exact mem_levelsOf.mpr ⟨i, positive, rfl⟩

/-- The best of those who have paid a level share it equally. -/
def award (place : ι → Nat) (better : ι → ι → Prop) [DecidableRel better]
    (paid : ι → Int) (stays : Finset ι) (bonus : Int → Int) (i : ι) : Int :=
  awardFrom place better paid stays bonus i 0 (levelsOf paid)

/-- Who is not in receives nothing. -/
theorem awardFrom_of_out (out : i ∉ stays) :
    awardFrom place better paid stays bonus i start levels = 0 := by
  induction levels generalizing start with
  | nil => rfl
  | cons level levels induction =>
    have loses : i ∉ best better (inFor paid stays level) :=
      notMem_best fun member => out (mem_inFor.mp member).2
    rw [awardFrom, equalShare_of_notMem loses, induction, add_zero]

/-- Levels above what a party has paid bring it nothing. -/
theorem awardFrom_of_above (increasing : (start :: levels).Pairwise (· < ·))
    (below : paid i ≤ start) : awardFrom place better paid stays bonus i start levels = 0 := by
  induction levels generalizing start with
  | nil => rfl
  | cons level levels induction =>
    rw [List.pairwise_cons] at increasing
    have first : start < level := increasing.1 level (by simp)
    have loses : i ∉ best better (inFor paid stays level) := by
      apply notMem_best
      intro member
      have reached := (mem_inFor.mp member).1
      omega
    rw [awardFrom, equalShare_of_notMem loses, induction increasing.2 (by omega), add_zero]

omit [DecidableEq ι] in
theorem heldUpTo_nonneg {cap : Int} (increasing : (start :: levels).Pairwise (· < ·)) :
    0 ≤ heldUpTo paid cap start levels := by
  induction levels generalizing start with
  | nil => exact le_rfl
  | cons level levels induction =>
    rw [List.pairwise_cons] at increasing
    have first : start < level := increasing.1 level (by simp)
    have rest := induction increasing.2
    have held : 0 ≤ (level - start) * ((payers paid level).card : Int) :=
      Int.mul_nonneg (by omega) (by omega)
    rw [heldUpTo]
    split <;> omega

/-- A party receives at most what the levels it has paid hold. -/
theorem awardFrom_le (increasing : (start :: levels).Pairwise (· < ·))
    (nonneg : ∀ level, 0 ≤ bonus level) (none : ∀ level, level < paid i → bonus level = 0) :
    awardFrom place better paid stays bonus i start levels ≤
      heldUpTo paid (paid i) start levels + bonus (paid i) := by
  induction levels generalizing start with
  | nil =>
    have extra := nonneg (paid i)
    rw [awardFrom, heldUpTo]
    omega
  | cons level levels induction =>
    rw [List.pairwise_cons] at increasing
    have first : start < level := increasing.1 level (by simp)
    have later : 0 ≤ heldUpTo paid (paid i) level levels := heldUpTo_nonneg increasing.2
    have extra := nonneg (paid i)
    have held : 0 ≤ (level - start) * ((payers paid level).card : Int) :=
      Int.mul_nonneg (by omega) (by omega)
    rw [awardFrom, heldUpTo]
    by_cases reached : level ≤ paid i
    · have share : equalShare place ((level - start) * (payers paid level).card + bonus level)
            (best better (inFor paid stays level)) i ≤
          (level - start) * (payers paid level).card + bonus level :=
        equalShare_le (Int.add_nonneg held (nonneg level))
      rw [if_pos reached]
      rcases lt_or_eq_of_le reached with below | same
      · have rest := induction increasing.2
        have nothing := none level below
        omega
      · rw [awardFrom_of_above increasing.2 same.ge]
        rw [same] at share ⊢
        rw [same] at later
        omega
    · have loses : i ∉ best better (inFor paid stays level) :=
        notMem_best fun member => reached (mem_inFor.mp member).1
      rw [if_neg reached, equalShare_of_notMem loses,
        awardFrom_of_above increasing.2 (not_le.mp reached).le]
      omega

/-! ### Levels nobody is in for -/

/-- The levels above the last one somebody is in for go with that one. -/
def carried (paid : ι → Int) (stays : Finset ι) (level : Int) : Int :=
  if (∃ i ∈ stays, paid i = level) ∧ ∀ i ∈ stays, paid i ≤ level then
    ∑ i, max (paid i - level) 0
  else 0

theorem carried_nonneg : 0 ≤ carried paid stays level := by
  rw [carried]
  split
  · exact sum_nonneg fun i _ => le_max_right _ _
  · exact le_rfl

/-- When every payer is matched by one who stays, nothing is carried. -/
theorem carried_of_matched (matched : ∀ j, ∃ k ∈ stays, paid j ≤ paid k) :
    carried paid stays level = 0 := by
  rw [carried]
  split
  case isTrue top =>
    apply sum_eq_zero
    intro j _
    rcases matched j with ⟨k, stay, bound⟩
    have most := top.2 k stay
    omega
  case isFalse => rfl

/-- An award is at most what everybody has paid up to the same amount. -/
theorem award_le (nonneg : ∀ j, 0 ≤ paid j) (extra : ∀ level, 0 ≤ bonus level)
    (none : ∀ level, level < paid i → bonus level = 0) : award place better paid stays bonus i ≤
    ∑ j, min (paid i) (paid j) + bonus (paid i) := by
  have cuts : Cuts paid 0 (levelsOf paid) := cuts_levelsOf
  have held : heldUpTo paid (paid i) 0 (levelsOf paid) = ∑ j, min (paid i) (paid j) := by
    have atLevel : paid i ∈ levelsOf paid ∨ paid i ≤ 0 ∨ ∀ j, paid j ≤ paid i := by
      rcases lt_or_ge 0 (paid i) with positive | zero
      · exact .inl (mem_levelsOf.mpr ⟨i, positive, rfl⟩)
      · exact .inr (.inl zero)
    rw [heldUpTo_eq cuts atLevel]
    apply sum_congr rfl
    intro j _
    have own := nonneg i
    have other := nonneg j
    omega
  rw [← held]
  exact awardFrom_le cuts.increasing extra none

/-- Only the last level somebody is in for has a bonus. -/
theorem carried_of_lt (stay : i ∈ stays) (below : level < paid i) :
    carried paid stays level = 0 := by
  rw [carried, if_neg]
  rintro ⟨-, most⟩
  have bound := most i stay
  omega

end Mozetto.Library.SidePots
