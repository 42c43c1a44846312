import Mozetto.Engine.Settlements
import Mozetto.Library.SidePots

/-!
# Main and side pots

The layers of `buildPots` are the levels of the contributions.  A seat that is
eligible for a layer is eligible for all lower ones, so layers nobody can win
are the highest ones; their chips go to the last layer that somebody can win.
-/

namespace Mozetto.Engine

open Mozetto.Library.ContributionLevels

variable {seatCount : Nat}
variable {seats : Fin seatCount → SeatState}
variable {contributors : List (Fin seatCount)}
variable {start orphaned level : Int} {levels : List Int}
variable {i : Fin seatCount}

/-! ## Levels -/

/-- What the seats have put in. -/
def totals (seats : Fin seatCount → SeatState) : Fin seatCount → Int := fun i => (seats i).totalBet

@[simp]
theorem mem_contributorsOf : i ∈ contributorsOf seats ↔ 0 < (seats i).totalBet := by
  simp [contributorsOf]

theorem mem_betLevels {amount : Int} : amount ∈ betLevels seats ↔
    ∃ i, 0 < (seats i).totalBet ∧ (seats i).totalBet = amount := by
  simp [betLevels, List.mem_insertionSort]

/-- The levels cut the contributions. -/
theorem cuts_betLevels : Cuts (totals seats) 0 (betLevels seats) := by
  constructor
  · rw [List.pairwise_cons]
    constructor
    · intro amount member
      rcases mem_betLevels.mp member with ⟨i, positive, rfl⟩
      exact positive
    · have sorted : (betLevels seats).Pairwise (· ≤ ·) := List.pairwise_insertionSort _ _
      have distinct : (betLevels seats).Nodup :=
        (List.perm_insertionSort _ _).nodup_iff.mpr (List.nodup_dedup _)
      exact (sorted.and distinct).imp fun both =>
        lt_of_le_of_ne both.1 both.2
  · intro i positive
    exact mem_betLevels.mpr ⟨i, positive, rfl⟩

/-- A layer is shared by the payers of its level. -/
theorem length_inLayer (positive : 0 < level) : ((contributorsOf seats).filter fun i =>
      level ≤ (seats i).totalBet).length =
    (payers (totals seats) level).card := by
  have distinct : ((contributorsOf seats).filter fun i =>
    level ≤ (seats i).totalBet).Nodup :=
    nodup_seatsWith.filter _
  rw [← List.toFinset_card_of_nodup distinct]
  congr 1
  ext i
  simp only [List.mem_toFinset, List.mem_filter, mem_contributorsOf,
    decide_eq_true_eq, mem_payers, totals]
  constructor
  · rintro ⟨-, within⟩
    exact within
  · intro within
    exact ⟨positive.trans_le within, within⟩

/-! ## Layers -/

/-- The layers hold the levels, with the chips of layers nobody can win. -/
theorem sum_layerPots {cap : Int} (cuts : Cuts (totals seats) start levels)
    (nonneg : 0 ≤ start) (bound : ∀ level ∈ levels, level ≤ cap) :
    ((layerPots seats (contributorsOf seats) start orphaned levels).1.map PotLayer.amount).sum +
        (layerPots seats (contributorsOf seats) start orphaned levels).2 =
      orphaned + heldUpTo (totals seats) cap start levels := by
  induction levels generalizing start orphaned with
  | nil => simp [layerPots, heldUpTo]
  | cons level levels induction =>
    have increasing := cuts.increasing
    rw [List.pairwise_cons] at increasing
    have first : start < level := increasing.1 level (by simp)
    have positive : 0 < level := by omega
    have rest :=
      fun orphaned =>
        @induction level orphaned cuts.tail positive.le
          (fun later member => bound later (by simp [member]))
    have amount : (level - start) * (((contributorsOf seats).filter fun i =>
            level ≤ (seats i).totalBet).length : Int) =
        (level - start) * ((payers (totals seats) level).card : Int) := by
      rw [length_inLayer positive]
    have amountNonneg : 0 ≤ (level - start) * ((payers (totals seats) level).card : Int) :=
      Int.mul_nonneg (by omega) (by omega)
    rw [heldUpTo, if_pos (bound level (by simp)), layerPots]
    simp only [amount]
    split
    case isTrue empty =>
      have zero := le_antisymm empty amountNonneg
      rw [rest orphaned, zero, zero_add]
    case isFalse =>
      split
      case isTrue nobody =>
        rw [rest]
        omega
      case isFalse =>
        have tail := rest 0
        simp only [List.map_cons, List.sum_cons]
        omega

theorem sum_addToLast {pots : List (PotLayer seatCount)} (nonempty : pots ≠ []) :
    ((addToLast orphaned pots).map PotLayer.amount).sum =
      (pots.map PotLayer.amount).sum + orphaned := by
  induction pots with
  | nil => exact absurd rfl nonempty
  | cons pot pots induction =>
    cases pots with
    | nil => simp [addToLast]
    | cons next pots =>
      have rest := induction (List.cons_ne_nil _ _)
      simp only [addToLast, List.map_cons, List.sum_cons] at rest ⊢
      omega

/-- A layer that is built can be won by a seat that has not folded. -/
def Winnable (seats : Fin seatCount → SeatState) (pot : PotLayer seatCount) :
    Prop :=
  0 < pot.amount ∧ pot.eligible ≠ [] ∧ ∀ i ∈ pot.eligible,
      (seats i).folded = false ∧ 0 < (seats i).totalBet

theorem winnable_layerPots (nonneg : 0 ≤ orphaned) {pot : PotLayer seatCount}
    (member : pot ∈ (layerPots seats (contributorsOf seats) start orphaned levels).1) :
    Winnable seats pot := by
  induction levels generalizing start orphaned with
  | nil => cases member
  | cons level levels induction =>
    rw [layerPots] at member
    simp only at member
    split at member
    case isTrue => exact induction nonneg member
    case isFalse positive =>
      split at member
      case isTrue =>
        exact induction (by omega) member
      case isFalse somebody =>
        rcases List.mem_cons.mp member with rfl | member
        · refine ⟨by simp only; omega, somebody, ?_⟩
          intro i eligible
          simp only [List.mem_filter, mem_contributorsOf, Bool.not_eq_true'] at eligible
          exact ⟨eligible.2, eligible.1.1⟩
        · exact induction le_rfl member

theorem winnable_addToLast (nonneg : 0 ≤ orphaned) {pots : List (PotLayer seatCount)}
    (winnable : ∀ pot ∈ pots, Winnable seats pot)
    {pot : PotLayer seatCount} (member : pot ∈ addToLast orphaned pots) :
    Winnable seats pot := by
  induction pots with
  | nil => cases member
  | cons first pots induction =>
    cases pots with
    | nil =>
      rw [addToLast, List.mem_singleton] at member
      subst member
      rcases winnable first (by simp) with ⟨positive, rest⟩
      exact ⟨by simp only; omega, rest⟩
    | cons next pots =>
      rw [addToLast] at member
      rcases List.mem_cons.mp member with rfl | member
      · exact winnable _ (by simp)
      · exact induction (fun pot later => winnable pot (by simp [later])) member

theorem winnable_buildPots {pot : PotLayer seatCount} (member : pot ∈ buildPots seats) :
    Winnable seats pot := by
  rw [buildPots] at member
  split at member
  case isTrue positive =>
    exact winnable_addToLast positive.le (fun pot member => winnable_layerPots le_rfl member) member
  case isFalse => exact winnable_layerPots le_rfl member

theorem leftover_nonneg (nonneg : 0 ≤ orphaned) :
    0 ≤ (layerPots seats (contributorsOf seats) start orphaned levels).2 := by
  induction levels generalizing start orphaned with
  | nil => exact nonneg
  | cons level levels induction =>
    simp only [layerPots]
    split
    case isTrue => exact induction nonneg
    case isFalse positive =>
      split
      case isTrue => exact induction (by omega)
      case isFalse => exact induction le_rfl

/-- As long as somebody can win a layer, one is built. -/
theorem layerPots_ne_nil (cuts : Cuts (totals seats) start levels) (nonneg : 0 ≤ start)
    (unfolded : (seats i).folded = false) (above : start < (seats i).totalBet) :
    (layerPots seats (contributorsOf seats) start orphaned levels).1 ≠ [] := by
  cases levels with
  | nil => cases cuts.complete i above
  | cons level levels =>
    have increasing := cuts.increasing
    rw [List.pairwise_cons] at increasing
    have first : start < level := increasing.1 level (by simp)
    have within : level ≤ (seats i).totalBet := by
      by_contra below
      have bound := cuts.le_of_lt (not_le.mp below)
      simp only [totals] at bound
      omega
    have payer : i ∈ (contributorsOf seats).filter fun i =>
          level ≤ (seats i).totalBet := by
      simp only [List.mem_filter, mem_contributorsOf, decide_eq_true_eq]
      exact ⟨by omega, within⟩
    have eligible : i ∈ ((contributorsOf seats).filter fun i =>
            level ≤ (seats i).totalBet).filter fun i =>
          !(seats i).folded := by
      rw [List.mem_filter]
      exact ⟨payer, by simp [unfolded]⟩
    have count := List.length_pos_of_mem payer
    have amount : 0 < (level - start) * (((contributorsOf seats).filter fun i =>
            level ≤ (seats i).totalBet).length : Int) :=
      Int.mul_pos (by omega) (by omega)
    rw [layerPots]
    simp only
    rw [if_neg (not_le.mpr amount), if_neg (List.ne_nil_of_mem eligible)]
    exact List.cons_ne_nil _ _

/-- With a contributor that has not folded, the pots hold everything. -/
theorem sum_buildPots (nonneg : ∀ i, 0 ≤ (seats i).totalBet) (unfolded : (seats i).folded = false)
    (positive : 0 < (seats i).totalBet) : ((buildPots seats).map PotLayer.amount).sum =
    ∑ i, (seats i).totalBet := by
  have bound : ∀ i, totals seats i ≤ ∑ i, (seats i).totalBet := by
    intro i
    exact Finset.single_le_sum (fun j _ => nonneg j) (Finset.mem_univ i)
  have levels : ∀ level ∈ betLevels seats, level ≤ ∑ i, (seats i).totalBet := by
    intro level member
    rcases mem_betLevels.mp member with ⟨i, -, rfl⟩
    exact bound i
  have held := heldUpTo_total cuts_betLevels nonneg bound
  have sum := @sum_layerPots _ seats 0 0 _ _ cuts_betLevels le_rfl levels
  have nonempty := @layerPots_ne_nil _ seats 0 0 _ i cuts_betLevels le_rfl unfolded positive
  have leftover := @leftover_nonneg _ seats 0 0 (betLevels seats) le_rfl
  rw [held, zero_add] at sum
  rw [buildPots]
  split
  case isTrue => exact (sum_addToLast nonempty).trans sum
  case isFalse none =>
    have zero := le_antisymm (not_lt.mp none) leftover
    rw [zero, add_zero] at sum
    exact sum

end Mozetto.Engine
