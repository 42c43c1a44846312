import Mozetto.Engine.Allocation
import Mozetto.Library.SidePots
import Mathlib.Data.Set.Finite.Lattice

/-!
# Who is awarded what at a showdown

The layers of a showdown award each level of the contributions to the best
hands of the seats still in that have paid it.  Levels that only folded seats
have paid are not returned: they go with the last level somebody is in for.
-/

namespace Mozetto.Engine

open Mozetto.Library.ContributionLevels
open Mozetto.Library.Guarded
open Mozetto.Library.RingSearch
open Mozetto.Library.SidePots

variable {seatCount : Nat}
variable {seats : Fin seatCount → SeatState}
variable {board : List (Option Card)}
variable {ranked : List (RankedSeat seatCount)}
variable {layer : PotLayer seatCount}
variable {button : Nat}
variable {start level : Int} {levels : List Int}
variable {i j : Fin seatCount}

/-! ## Comparing hands -/

/-- Different first entries decide. -/
theorem compareScores_of_ne {first second : List Nat} (other : first.headD 0 ≠ second.headD 0) :
    compareScores first second = (first.headD 0 : Int) - second.headD 0 := by
  cases first with
  | cons value first =>
    have different : (value : Int) - second.headD 0 ≠ 0 := by
      rw [List.headD_cons] at other
      omega
    rw [compareScores, if_pos different, List.headD_cons]
  | nil =>
    cases second with
    | nil => exact absurd rfl other
    | cons value second =>
      have positive : value ≠ 0 := fun zero => other zero.symm
      simp [compareScores, positive]

/-- Equal first entries leave it to the others. -/
theorem compareScores_of_eq {first second : List Nat} (same : first.headD 0 = second.headD 0) :
    compareScores first second = compareScores first.tail second.tail := by
  cases first with
  | cons value first =>
    rw [List.headD_cons] at same
    rw [compareScores, same, sub_self, if_neg (by simp), List.tail_cons]
  | nil =>
    cases second with
    | nil => rfl
    | cons value second =>
      have zero : value = 0 := same.symm
      simp [compareScores, zero]

theorem compareScores_nil_nonpos (score : List Nat) : compareScores [] score ≤ 0 := by
  rw [compareScores]
  split <;> omega

theorem compareScores_neg (first second : List Nat) :
    compareScores second first = -compareScores first second := by
  induction first generalizing second with
  | nil =>
    induction second with
    | nil => rfl
    | cons value second induction =>
      have head : (value :: second).headD 0 = value := rfl
      by_cases zero : (value :: second).headD 0 = ([] : List Nat).headD 0
      · have left := compareScores_of_eq zero
        have right := compareScores_of_eq zero.symm
        rw [left, right]
        exact induction
      · have left := compareScores_of_ne zero
        have right := compareScores_of_ne (Ne.symm zero)
        omega
  | cons value first induction =>
    by_cases same : second.headD 0 = (value :: first).headD 0
    · have left := compareScores_of_eq same
      have right := compareScores_of_eq same.symm
      rw [left, right]
      exact induction second.tail
    · have left := compareScores_of_ne same
      have right := compareScores_of_ne (Ne.symm same)
      omega

/-- Being at most as good is transitive. -/
theorem compareScores_trans {first second third : List Nat} (lower : compareScores first second ≤ 0)
    (upper : compareScores second third ≤ 0) : compareScores first third ≤ 0 := by
  induction first generalizing second third with
  | nil => exact compareScores_nil_nonpos third
  | cons value first induction =>
    have head : (value :: first).headD 0 = value := rfl
    by_cases low : (value :: first).headD 0 = second.headD 0
    · rw [compareScores_of_eq low] at lower
      by_cases high : second.headD 0 = third.headD 0
      · rw [compareScores_of_eq high] at upper
        rw [compareScores_of_eq (low.trans high)]
        exact induction lower upper
      · rw [compareScores_of_ne high] at upper
        rw [compareScores_of_ne (low.trans_ne high)]
        omega
    · rw [compareScores_of_ne low] at lower
      by_cases high : second.headD 0 = third.headD 0
      · rw [compareScores_of_ne (high ▸ low)]
        omega
      · rw [compareScores_of_ne high] at upper
        rw [compareScores_of_ne (by omega)]
        omega

/-- The score of the best hand a seat can show. -/
def scoreOf (seats : Fin seatCount → SeatState) (board : List (Option Card))
    (i : Fin seatCount) : List Nat :=
  match rankSeat seats board i with
  | .ok entry => entry.score
  | .error _ => []

/-- The first seat has a better score than the second one. -/
def BetterHand (score : Fin seatCount → List Nat) (j i : Fin seatCount) : Prop :=
  0 < compareScores (score j) (score i)

instance {score : Fin seatCount → List Nat} : DecidableRel (BetterHand score) := fun j i =>
  inferInstanceAs (Decidable (0 < compareScores (score j) (score i)))

theorem score_of_mapM {order : List (Fin seatCount)}
    (ok : order.mapM (rankSeat seats board) = .ok ranked) :
    ∀ entry ∈ ranked, entry.score = scoreOf seats board entry.seatIndex := by
  induction order generalizing ranked with
  | nil =>
    rw [List.mapM_nil, pure_eq_ok_iff] at ok
    subst ok
    simp
  | cons i order induction =>
    rw [List.mapM_cons, bind_eq_ok_iff] at ok
    rcases ok with ⟨entry, first, ok⟩
    rw [bind_eq_ok_iff] at ok
    rcases ok with ⟨others, rest, ok⟩
    rw [pure_eq_ok_iff] at ok
    subst ok
    intro shown member
    rcases List.mem_cons.mp member with rfl | later
    · have seat := rankSeat_eq_ok first
      rw [scoreOf, seat, first]
    · exact induction rest shown later

/-! ## The winners of a layer -/

theorem buttonRank_injective : Function.Injective (@buttonRank seatCount button) := by
  intro i j same
  exact (List.idxOf_inj (mem_ring button i)).mp same

instance : Std.Total fun a b : RankedSeat seatCount =>
    compareScores b.score a.score ≤ 0 where
  total a b := by
    have opposite := compareScores_neg a.score b.score
    omega

instance : IsTrans (RankedSeat seatCount) fun a b =>
    compareScores b.score a.score ≤ 0 where
  trans _ _ _ first second := compareScores_trans second first

/-- The hands of the seats that are eligible for a layer. -/
def eligibleHands (ranked : List (RankedSeat seatCount)) (layer : PotLayer seatCount) :
    List (RankedSeat seatCount) :=
  layer.eligible.filterMap fun i =>
    ranked.find? fun entry => entry.seatIndex = i

theorem seats_eligibleHands (shown : ∀ i ∈ layer.eligible, i ∈ ranked.map RankedSeat.seatIndex) :
    (eligibleHands ranked layer).map RankedSeat.seatIndex =
      layer.eligible := by
  rw [eligibleHands]
  generalize layer.eligible = eligible at shown ⊢
  induction eligible with
  | nil => rfl
  | cons i eligible induction =>
    rcases exists_handOf (shown i (by simp)) with ⟨entry, found⟩
    have seat : entry.seatIndex = i := by
      simpa using List.find?_some found
    rw [handOf] at found
    rw [List.filterMap_cons, found, List.map_cons, seat,
      induction fun j later => shown j (by simp [later])]

theorem mem_eligibleHands {entry : RankedSeat seatCount}
    (member : entry ∈ eligibleHands ranked layer) : entry ∈ ranked := by
  rcases List.mem_filterMap.mp member with ⟨i, -, found⟩
  exact List.mem_of_find?_eq_some found

/-- The winners of a layer are the best of its eligible seats. -/
theorem mem_layerWinners
    (scores : ∀ entry ∈ ranked, entry.score = scoreOf seats board entry.seatIndex)
    (shown : ∀ i ∈ layer.eligible, i ∈ ranked.map RankedSeat.seatIndex) :
    i ∈ (layerWinners ranked button layer).map RankedSeat.seatIndex ↔
      i ∈ best (BetterHand (scoreOf seats board)) layer.eligible.toFinset := by
  have seatsOf := seats_eligibleHands shown
  have perm := List.perm_insertionSort
    (fun a b : RankedSeat seatCount => compareScores b.score a.score ≤ 0)
    (eligibleHands ranked layer)
  have sorted := List.pairwise_insertionSort
    (fun a b : RankedSeat seatCount => compareScores b.score a.score ≤ 0)
    (eligibleHands ranked layer)
  have hand : ∀ j ∈ layer.eligible, ∃ entry ∈ eligibleHands ranked layer, entry.seatIndex = j := by
    intro j eligible
    rw [← seatsOf] at eligible
    exact List.mem_map.mp eligible
  rw [layerWinners]
  rw [show (layer.eligible.filterMap fun i =>
    ranked.find? fun entry => entry.seatIndex = i) =
    eligibleHands ranked layer from rfl]
  simp only [best, Finset.mem_filter, List.mem_toFinset]
  generalize (eligibleHands ranked layer).insertionSort (fun a b : RankedSeat seatCount =>
        compareScores b.score a.score ≤ 0) = contenders at perm sorted ⊢
  cases contenders with
  | nil =>
    have none : layer.eligible = [] := by
      rw [← seatsOf, List.perm_nil.mp perm.symm]
      rfl
    simp [none]
  | cons top rest =>
    rw [List.pairwise_cons] at sorted
    have topIn : top ∈ eligibleHands ranked layer := perm.mem_iff.mp List.mem_cons_self
    have most : ∀ entry ∈ eligibleHands ranked layer,
        compareScores entry.score top.score ≤ 0 := by
      intro entry member
      rcases List.mem_cons.mp (perm.mem_iff.mpr member) with rfl | later
      · rw [compareScores_self]
      · exact sorted.1 entry later
    simp only [List.mem_map, List.mem_insertionSort, List.mem_filter, decide_eq_true_eq]
    constructor
    · rintro ⟨entry, ⟨member, equal⟩, rfl⟩
      have inside := perm.mem_iff.mp member
      constructor
      · rw [← seatsOf]
        exact List.mem_map_of_mem inside
      · intro j eligible
        rcases hand j eligible with ⟨other, otherIn, rfl⟩
        have opposite := compareScores_neg entry.score top.score
        have bound : compareScores other.score entry.score ≤ 0 :=
          compareScores_trans (most other otherIn) (by omega)
        rw [BetterHand, ← scores other (mem_eligibleHands otherIn),
          ← scores entry (mem_eligibleHands inside)]
        omega
    · rintro ⟨eligible, unbeaten⟩
      rcases hand i eligible with ⟨entry, inside, rfl⟩
      refine ⟨entry, ⟨perm.mem_iff.mpr inside, ?_⟩, rfl⟩
      have topEligible : top.seatIndex ∈ layer.eligible := by
        rw [← seatsOf]
        exact List.mem_map_of_mem topIn
      have notBetter := unbeaten top.seatIndex topEligible
      rw [BetterHand, ← scores top (mem_eligibleHands topIn),
        ← scores entry (mem_eligibleHands inside)] at notBetter
      have opposite := compareScores_neg entry.score top.score
      have bound := most entry inside
      omega

instance : Std.Total fun a b : RankedSeat seatCount =>
    buttonRank button a.seatIndex ≤ buttonRank button b.seatIndex where
  total _ _ := le_total _ _

instance : IsTrans (RankedSeat seatCount) fun a b =>
    buttonRank button a.seatIndex ≤ buttonRank button b.seatIndex where
  trans _ _ _ first second := first.trans second

/-- The winners of a layer stand in the order after the button. -/
theorem pairwise_layerWinners (distinct : layer.eligible.Nodup)
    (shown : ∀ i ∈ layer.eligible, i ∈ ranked.map RankedSeat.seatIndex) :
    ((layerWinners ranked button layer).map RankedSeat.seatIndex).Pairwise
      fun i j => buttonRank button i < buttonRank button j := by
  have seatsOf := seats_eligibleHands shown
  have perm := List.perm_insertionSort
    (fun a b : RankedSeat seatCount => compareScores b.score a.score ≤ 0)
    (eligibleHands ranked layer)
  rw [layerWinners]
  rw [show (layer.eligible.filterMap fun i =>
    ranked.find? fun entry => entry.seatIndex = i) =
    eligibleHands ranked layer from rfl]
  generalize (eligibleHands ranked layer).insertionSort (fun a b : RankedSeat seatCount =>
        compareScores b.score a.score ≤ 0) = contenders at perm ⊢
  cases contenders with
  | nil => exact List.Pairwise.nil
  | cons top rest =>
    dsimp only
    rw [List.pairwise_map]
    have ordered := List.pairwise_insertionSort (fun a b : RankedSeat seatCount =>
      buttonRank button a.seatIndex ≤ buttonRank button b.seatIndex)
      ((top :: rest).filter fun entry =>
        compareScores entry.score top.score = 0)
    have seatsDistinct : (((top :: rest).filter fun entry =>
          decide (compareScores entry.score top.score = 0)).insertionSort
        fun a b =>
          buttonRank button a.seatIndex ≤ buttonRank button b.seatIndex).Pairwise
        fun a b => a.seatIndex ≠ b.seatIndex := by
      rw [← List.pairwise_map]
      show List.Nodup _
      rw [((List.perm_insertionSort _ _).map _).nodup_iff]
      refine List.Nodup.sublist (List.filter_sublist.map RankedSeat.seatIndex) ?_
      rw [(perm.map _).nodup_iff, seatsOf]
      exact distinct
    refine (ordered.and seatsDistinct).imp ?_
    intro a b both
    exact lt_of_le_of_ne both.1 fun same =>
      both.2 (buttonRank_injective same)

/-! ## Shares of a layer -/

/-- Shares with odd chips, handed out in an order. -/
theorem credited_sharesFrom {order : List (Fin seatCount)} {share remainder : Int}
    (sorted : order.Pairwise fun i j => buttonRank button i < buttonRank button j)
    (nonneg : 0 ≤ remainder) :
    credited (order.zip (sharesFrom share remainder order.length)) i = if i ∈ order then
        share + if ((order.filter fun j =>
              buttonRank button j < buttonRank button i).length : Int) <
              remainder then 1
          else 0
      else 0 := by
  induction order generalizing remainder with
  | nil => rfl
  | cons first order induction =>
    rw [List.pairwise_cons] at sorted
    have rest := @induction (if 0 < remainder then remainder - 1 else remainder) sorted.2
      (by split <;> omega)
    rw [List.length_cons, sharesFrom, List.zip_cons_cons, credited_cons, rest]
    by_cases here : first = i
    · subst here
      have absent : first ∉ order := by
        intro later
        exact lt_irrefl _ (sorted.1 first later)
      have nobody : (first :: order).filter
            (fun j => buttonRank button j < buttonRank button first) = [] := by
        rw [List.filter_eq_nil_iff]
        intro j member
        rcases List.mem_cons.mp member with rfl | later
        · simp
        · have after := sorted.1 j later
          simp only [decide_eq_true_eq]
          omega
      rw [nobody, if_neg absent]
      simp
    · have other : i ≠ first := fun same => here same.symm
      rw [if_neg here, zero_add]
      simp only [List.mem_cons, other, false_or]
      by_cases later : i ∈ order
      · have before := sorted.1 i later
        rw [if_pos later, if_pos later, List.filter_cons_of_pos (by simpa using before),
          List.length_cons]
        split <;> split <;> split <;> omega
      · rw [if_neg later, if_neg later]

/-- Handing out shares in order is an equal split. -/
theorem credited_splitPotShares {order : List (Fin seatCount)} {amount : Int}
    (sorted : order.Pairwise fun i j => buttonRank button i < buttonRank button j)
    (nonneg : 0 ≤ amount) :
    credited (order.zip (splitPotShares amount order.length)) i =
      equalShare (buttonRank button) amount order.toFinset i := by
  have distinct : order.Nodup :=
    sorted.imp fun before same => by
      rw [same] at before
      exact lt_irrefl _ before
  have places : ((order.toFinset.filter fun j =>
        buttonRank button j < buttonRank button i).card : Int) =
      (order.filter fun j =>
        buttonRank button j < buttonRank button i).length := by
    have same : (order.toFinset.filter fun j =>
          buttonRank button j < buttonRank button i) =
        (order.filter fun j =>
          buttonRank button j < buttonRank button i).toFinset := by
      ext j
      simp
    rw [same, List.toFinset_card_of_nodup (distinct.filter _)]
  have rest : amount - amount / order.length * order.length = amount % order.length := by
    have divided := Int.mul_ediv_add_emod amount order.length
    rw [Int.mul_comm] at divided
    omega
  rw [splitPotShares, Int.tdiv_eq_ediv_of_nonneg nonneg]
  rw [equalShare, places, List.toFinset_card_of_nodup distinct]
  simp only [List.mem_toFinset]
  by_cases empty : order = []
  · subst empty
    rfl
  · have some : (order.length : Int) ≠ 0 := by
      simpa using empty
    rw [rest, credited_sharesFrom sorted (Int.emod_nonneg _ some)]

/-- A layer is split equally among its best hands. -/
theorem credited_layerAwards
    (scores : ∀ entry ∈ ranked, entry.score = scoreOf seats board entry.seatIndex)
    (shown : ∀ i ∈ layer.eligible, i ∈ ranked.map RankedSeat.seatIndex)
    (distinct : layer.eligible.Nodup) (positive : 0 < layer.amount)
    (somebody : layer.eligible ≠ []) :
    credited (entriesOf (layerAwards ranked button layer)) i =
      equalShare (buttonRank button) layer.amount
        (best (BetterHand (scoreOf seats board)) layer.eligible.toFinset) i := by
  have sorted := @pairwise_layerWinners _ _ _ button distinct shown
  have winners : ((layerWinners ranked button layer).map RankedSeat.seatIndex).toFinset =
      best (BetterHand (scoreOf seats board)) layer.eligible.toFinset := by
    ext i
    rw [List.mem_toFinset]
    exact mem_layerWinners scores shown
  have entries : entriesOf (layerAwards ranked button layer) =
      ((layerWinners ranked button layer).map RankedSeat.seatIndex).zip (splitPotShares layer.amount
          ((layerWinners ranked button layer).map RankedSeat.seatIndex).length) := by
    rw [layerAwards, if_neg (by simp [somebody]; omega), entriesOf,
      List.map_map, List.zip_map_left, List.length_map]
    rfl
  rw [entries, credited_splitPotShares sorted positive.le, winners]

/-! ## All layers -/

/-- The seats that have not folded. -/
def staying (seats : Fin seatCount → SeatState) : Finset (Fin seatCount) :=
  Finset.univ.filter fun i => (seats i).folded = false

@[simp]
theorem mem_staying : i ∈ staying seats ↔ (seats i).folded = false := by
  simp [staying]

/-- What a list of layers awards to a seat. -/
def awardedBy (ranked : List (RankedSeat seatCount)) (button : Nat)
    (pots : List (PotLayer seatCount)) (i : Fin seatCount) : Int :=
  credited (entriesOf (pots.flatMap (layerAwards ranked button))) i

theorem awardedBy_cons {pots : List (PotLayer seatCount)} :
    awardedBy ranked button (layer :: pots) i =
      credited (entriesOf (layerAwards ranked button layer)) i +
        awardedBy ranked button pots i := by
  rw [awardedBy, List.flatMap_cons, entriesOf, List.map_append, credited_append]
  rfl

/-- The seats in for a level are those eligible for its layer. -/
theorem eligible_toFinset (positive : 0 < level) : (((contributorsOf seats).filter fun i =>
        level ≤ (seats i).totalBet).filter fun i =>
      !(seats i).folded).toFinset =
    inFor (totals seats) (staying seats) level := by
  ext i
  simp only [List.mem_toFinset, List.mem_filter, mem_contributorsOf,
    decide_eq_true_eq, Bool.not_eq_true', mem_inFor, totals, mem_staying]
  constructor
  · rintro ⟨⟨-, reached⟩, unfolded⟩
    exact ⟨reached, unfolded⟩
  · rintro ⟨reached, unfolded⟩
    exact ⟨⟨positive.trans_le reached, reached⟩, unfolded⟩

theorem betLevels_eq : betLevels seats = levelsOf (totals seats) := by
  have first := (@cuts_betLevels _ seats).increasing
  have second := (@cuts_levelsOf _ _ (totals seats)).increasing
  rw [List.pairwise_cons] at first second
  apply List.Perm.eq_of_pairwise
    (fun a b _ _ less greater => absurd (less.trans greater) (lt_irrefl a)) first.2 second.2
  rw [List.perm_ext_iff_of_nodup (first.2.imp fun less => less.ne)
    (second.2.imp fun less => less.ne)]
  intro level
  rw [mem_betLevels, mem_levelsOf]
  rfl

/-- Nobody is in for the levels above what every seat still in has paid. -/
theorem awardFrom_of_nobody {bonus : Int → Int} (increasing : (start :: levels).Pairwise (· < ·))
    (below : ∀ j, (seats j).folded = false → (seats j).totalBet ≤ start) :
    awardFrom (buttonRank button) (BetterHand (scoreOf seats board)) (totals seats)
      (staying seats) bonus i start levels = 0 := by
  by_cases unfolded : (seats i).folded = false
  · exact awardFrom_of_above increasing (below i unfolded)
  · exact awardFrom_of_out fun member => unfolded (mem_staying.mp member)

theorem no_layerPots {orphaned : Int} (increasing : (start :: levels).Pairwise (· < ·))
    (below : ∀ j, (seats j).folded = false → (seats j).totalBet ≤ start) :
    (layerPots seats (contributorsOf seats) start orphaned levels).1 = [] := by
  induction levels generalizing start orphaned with
  | nil => rfl
  | cons level levels induction =>
    rw [List.pairwise_cons] at increasing
    have first : start < level := increasing.1 level (by simp)
    have rest (orphaned : Int) :=
      @induction level orphaned increasing.2 fun j unfolded => (below j unfolded).trans first.le
    have nobody : ((contributorsOf seats).filter fun j =>
          level ≤ (seats j).totalBet).filter
        (fun j => !(seats j).folded) = [] := by
      rw [List.filter_eq_nil_iff]
      intro j member unfolded
      simp only [List.mem_filter, decide_eq_true_eq] at member
      have bound := below j (by simpa using unfolded)
      omega
    simp only [layerPots, nobody, if_true]
    split
    · exact rest _
    · exact rest _

/-- Layers that nobody can win leave all their chips over. -/
theorem leftover_of_nobody {orphaned : Int}
    (cuts : Cuts (totals seats) start levels) (nonneg : 0 ≤ start)
    (below : ∀ j, (seats j).folded = false → (seats j).totalBet ≤ start) :
    (layerPots seats (contributorsOf seats) start orphaned levels).2 =
      orphaned + ∑ j, max ((seats j).totalBet - start) 0 := by
  rcases (levels.toFinset ∪ Finset.univ.image (totals seats)).bddAbove
    with ⟨cap, bound⟩
  have levelBound : ∀ level ∈ levels, level ≤ cap := by
    intro level member
    apply bound
    simp [member]
  have paidBound : ∀ j, totals seats j ≤ cap := by
    intro j
    apply bound
    simp
  have sum := @sum_layerPots _ seats start orphaned levels cap cuts nonneg levelBound
  rw [no_layerPots cuts.increasing below, List.map_nil, List.sum_nil,
    zero_add, heldUpTo_eq cuts (.inr (.inr paidBound))] at sum
  rw [sum]
  congr 1
  apply Finset.sum_congr rfl
  intro j _
  have within := paidBound j
  rw [totals] at within ⊢
  rw [min_eq_right within]

/-- The bonus of the last layer that somebody can win. -/
theorem carried_eq (stays : (seats i).folded = false) (same : (seats i).totalBet = level)
    (most : ∀ j, (seats j).folded = false → (seats j).totalBet ≤ level) :
    carried (totals seats) (staying seats) level = ∑ j, max ((seats j).totalBet - level) 0 := by
  rw [carried, if_pos]
  · rfl
  · refine ⟨⟨i, mem_staying.mpr stays, same⟩, ?_⟩
    intro j member
    exact most j (mem_staying.mp member)

theorem addToLast_cons {orphaned : Int} {pots : List (PotLayer seatCount)} (more : pots ≠ []) :
    addToLast orphaned (layer :: pots) = layer :: addToLast orphaned pots := by
  cases pots with
  | nil => exact absurd rfl more
  | cons next pots => rfl

/-- The layers above a level award what the levels above it do. -/
theorem awardedBy_layerPots
    (scores : ∀ entry ∈ ranked, entry.score = scoreOf seats board entry.seatIndex)
    (shown : ∀ i, (seats i).folded = false → i ∈ ranked.map RankedSeat.seatIndex)
    (cuts : Cuts (totals seats) start levels) (nonneg : 0 ≤ start) :
    awardedBy ranked button (addToLast (layerPots seats (contributorsOf seats) start 0 levels).2
          (layerPots seats (contributorsOf seats) start 0 levels).1) i =
      awardFrom (buttonRank button) (BetterHand (scoreOf seats board)) (totals seats)
        (staying seats) (carried (totals seats) (staying seats)) i start
        levels := by
  induction levels generalizing start with
  | nil => rfl
  | cons level levels induction =>
    have increasing := cuts.increasing
    rw [List.pairwise_cons] at increasing
    have first : start < level := increasing.1 level (by simp)
    have positive : 0 < level := by omega
    by_cases nobody : ∀ j, (seats j).folded = false → (seats j).totalBet ≤ start
    · rw [no_layerPots cuts.increasing nobody, awardFrom_of_nobody cuts.increasing nobody]
      rfl
    · push Not at nobody
      rcases nobody with ⟨k, unfolded, above⟩
      have reached : level ≤ (seats k).totalBet := by
        by_contra below
        have bound := cuts.le_of_lt (not_le.mp below)
        rw [totals] at bound
        omega
      have payer : k ∈ (contributorsOf seats).filter fun i =>
            level ≤ (seats i).totalBet := by
        simp only [List.mem_filter, mem_contributorsOf, decide_eq_true_eq]
        exact ⟨by omega, reached⟩
      have eligible : ((contributorsOf seats).filter fun i =>
            level ≤ (seats i).totalBet).filter
          (fun i => !(seats i).folded) ≠ [] := by
        apply List.ne_nil_of_mem (a := k)
        rw [List.mem_filter]
        exact ⟨payer, by simp [unfolded]⟩
      have count := List.length_pos_of_mem payer
      have amount : 0 < (level - start) * (((contributorsOf seats).filter fun i =>
              level ≤ (seats i).totalBet).length : Int) :=
        Int.mul_pos (by omega) (by omega)
      have held : (level - start) * (((contributorsOf seats).filter fun i =>
              level ≤ (seats i).totalBet).length : Int) =
          (level - start) * ((payers (totals seats) level).card : Int) := by
        rw [length_inLayer positive]
      have share (amount : Int) (some : 0 < amount) :=
        @credited_layerAwards _ seats board ranked ⟨amount, (contributorsOf seats).filter fun i =>
              level ≤ (seats i).totalBet,
            ((contributorsOf seats).filter fun i =>
              level ≤ (seats i).totalBet).filter
              fun i => !(seats i).folded⟩
          button i scores
          (fun j member => shown j (by
            simpa using (List.mem_filter.mp member).2))
          ((nodup_seatsWith.filter _).filter _) some eligible
      simp only [eligible_toFinset positive] at share
      simp only [layerPots]
      rw [if_neg (not_le.mpr amount), if_neg eligible, awardFrom]
      by_cases last : ∀ j, (seats j).folded = false → (seats j).totalBet ≤ level
      · have most : (seats k).totalBet = level := le_antisymm (last k unfolded) reached
        have left :=
          @leftover_of_nobody _ seats level levels 0 cuts.tail positive.le last
        rw [zero_add] at left
        have chips : 0 ≤ ∑ j, max ((seats j).totalBet - level) 0 :=
          Finset.sum_nonneg fun j _ => le_max_right _ _
        rw [no_layerPots cuts.tail.increasing last, left, addToLast,
          awardedBy_cons, share _ (by dsimp only; omega),
          awardFrom_of_nobody cuts.tail.increasing last, carried_eq unfolded most last, held]
        simp [awardedBy, entriesOf]
      · push Not at last
        rcases last with ⟨j, stays, higher⟩
        have more :=
          @layerPots_ne_nil _ seats level 0 levels j cuts.tail positive.le stays higher
        have none : carried (totals seats) (staying seats) level = 0 :=
          carried_of_lt (mem_staying.mpr stays) higher
        rw [addToLast_cons more, awardedBy_cons,
          share _ (by omega), induction cuts.tail positive.le, none, held]

/-- The layers of a showdown award what the reference does. -/
theorem awardedBy_buildPots
    (scores : ∀ entry ∈ ranked, entry.score = scoreOf seats board entry.seatIndex)
    (shown : ∀ i, (seats i).folded = false → i ∈ ranked.map RankedSeat.seatIndex) :
    awardedBy ranked button (buildPots seats) i =
      award (buttonRank button) (BetterHand (scoreOf seats board)) (totals seats)
        (staying seats) (carried (totals seats) (staying seats)) i := by
  have all :=
    @awardedBy_layerPots _ seats board ranked button 0 (betLevels seats) i
      scores shown cuts_betLevels le_rfl
  rw [award, ← betLevels_eq, ← all, buildPots]
  split
  case isTrue => rfl
  case isFalse none =>
    have leftover := @leftover_nonneg _ seats 0 0 (betLevels seats) le_rfl
    have zero := le_antisymm (not_lt.mp none) leftover
    rw [zero]
    congr 1
    generalize (layerPots seats (contributorsOf seats) 0 0 (betLevels seats)).1 = pots
    induction pots with
    | nil => rfl
    | cons pot pots induction =>
      cases pots with
      | nil => rw [addToLast, add_zero]
      | cons next pots => rw [addToLast, ← induction]

end Mozetto.Engine
