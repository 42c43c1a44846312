import Mozetto.Engine.Cards
import Mozetto.Library.AdjacentDedup
import Mathlib.Data.List.Induction

/-!
# Hand evaluation in Rust

`rank.rs` of the crate `poker-eval`.  Cards, categories and ranked hands are
those of the engine in TypeScript; a vector of bytes is a list of numbers.
-/

namespace Mozetto.PokerEval

open Mozetto.Engine (Card HandCategory RankedHand rankValue windows)
open Mozetto.Library.AdjacentDedup

/-- Compare entry by entry; missing entries count as zero. -/
def compareScores (a b : List Nat) : Int :=
  ((List.range (max a.length b.length)).findSome? fun i =>
    let d := (a.getD i 0 : Int) - b.getD i 0
    if d ≠ 0 then some d else none).getD 0

def combinations : List Card → Nat → List (List Card)
  | _, 0 => [[]]
  | [], _ + 1 => []
  | head :: tail, k + 1 =>
    if (head :: tail).length < k + 1 then []
    else
      (combinations tail k).map (head :: ·) ++ combinations tail (k + 1)

def isStraight (vals : List Nat) : Option Nat :=
  let uniq := dedupAdjacent (vals.insertionSort (· ≥ ·))
  let uniq := if 14 ∈ uniq then uniq ++ [1] else uniq
  let first :=
    (windows uniq).find? fun slice =>
      slice.getD 0 0 - slice.getD 4 0 = 4 &&
        (dedupAdjacent (slice.insertionSort (· ≤ ·))).length = 5
  match first with
  | some slice =>
    some (if slice.getD 0 0 = 14 ∧ slice.getD 4 0 = 1 then 5
      else slice.getD 0 0)
  | none =>
    let asc := dedupAdjacent (vals.insertionSort (· ≤ ·))
    let withWheel := if 14 ∈ asc then 1 :: asc else asc
    let second :=
      (windows withWheel).find? fun slice =>
        [1, 2, 3, 4].all fun j => slice.getD j 0 = slice.getD 0 0 + j
    second.map fun slice =>
      if slice.getD 4 0 = 14 ∧ slice.getD 0 0 = 10 then 14
      else slice.getD 4 0

/-- Count one more occurrence of a value. -/
def bump : List (Nat × Nat) → Nat → List (Nat × Nat)
  | [], value => [(value, 1)]
  | (key, count) :: counts, value =>
    if key = value then (key, count + 1) :: counts
    else (key, count) :: bump counts value

/-- The values by how often they occur, then by size. -/
def counts (vals : List Nat) : List (Nat × Nat) :=
  (vals.foldl bump []).insertionSort fun a b =>
    b.2 < a.2 ∨ b.2 = a.2 ∧ b.1 ≤ a.1

/-- The values of `counts` that occur once. -/
def kickers (counts : List (Nat × Nat)) : List Nat :=
  (counts.filter fun entry => entry.2 = 1).map Prod.fst

/-- Rank exactly five cards. -/
def rankFive (cards : List Card) : RankedHand :=
  let vals := (cards.map fun card => rankValue card.rank).insertionSort (· ≥ ·)
  let flush := cards.all fun card => some card.suit = cards.head?.map Card.suit
  let counts := counts vals
  let first := counts.getD 0 (0, 0)
  let second := counts.getD 1 (0, 0)
  let kicker := (kickers counts).headD 0
  match flush, isStraight vals with
  | true, some straightHigh =>
    { category := .straightFlush
      score := [HandCategory.straightFlush.score, straightHigh]
      label :=
        if straightHigh = 14 then "Royal flush" else "Straight flush" }
  | flush, straightHigh =>
    if first.2 = 4 then
      { category := .fourKind
        score := [HandCategory.fourKind.score, first.1, kicker]
        label := "Four of a kind" }
    else if first.2 = 3 ∧ second.2 = 2 then
      { category := .fullHouse
        score := [HandCategory.fullHouse.score, first.1, second.1]
        label := "Full house" }
    else if flush then
      { category := .flush
        score := HandCategory.flush.score :: vals
        label := "Flush" }
    else
      match straightHigh with
      | some straightHigh =>
        { category := .straight
          score := [HandCategory.straight.score, straightHigh]
          label := "Straight" }
      | none =>
        if first.2 = 3 then
          { category := .threeKind
            score := HandCategory.threeKind.score :: first.1 :: kickers counts
            label := "Three of a kind" }
        else if first.2 = 2 ∧ second.2 = 2 then
          { category := .twoPair
            score :=
              [HandCategory.twoPair.score, max first.1 second.1, min first.1 second.1, kicker]
            label := "Two pair" }
        else if first.2 = 2 then
          { category := .pair
            score := HandCategory.pair.score :: first.1 :: kickers counts
            label := "Pair" }
        else
          { category := .highCard
            score := HandCategory.highCard.score :: vals
            label := "High card" }

/-- The best of several hands, the earliest one of equally good hands. -/
def bestRanked (hands : List RankedHand) : Option RankedHand :=
  hands.foldl (fun best ranked =>
    match best with
    | none => some ranked
    | some best =>
      if compareScores ranked.score best.score > 0 then some ranked
      else some best)
    none

/-- A short hand repeats its first card; `none` where the code panics. -/
def bestHand (hole board : List Card) : Option RankedHand :=
  let all := hole ++ board
  if all.length < 5 then
    all.head?.map fun pad =>
      rankFive (all ++ List.replicate (5 - all.length) pad)
  else bestRanked ((combinations all 5).map rankFive)

/-! ## Agreement with the evaluation in TypeScript -/

theorem findSome_range_succ {α : Type} (count : Nat) (f : Nat → Option α) :
    (List.range (count + 1)).findSome? f =
      (f 0).or ((List.range count).findSome? fun i => f (i + 1)) := by
  rw [List.range_succ_eq_map, List.findSome?_cons, List.findSome?_map]
  cases f 0 <;> rfl

theorem compareScores_eq (a b : List Nat) : compareScores a b = Engine.compareScores a b := by
  induction a generalizing b with
  | nil =>
    rw [Engine.compareScores]
    induction b with
    | nil => rfl
    | cons head tail induction =>
      rw [compareScores] at induction ⊢
      rw [List.length_cons, List.length_nil, Nat.zero_max, findSome_range_succ, List.find?_cons]
      rw [List.length_nil, Nat.zero_max] at induction
      by_cases zero : head = 0
      · subst zero
        simpa using induction
      · simp [zero]
  | cons first rest induction =>
    rw [Engine.compareScores, compareScores]
    cases b with
    | nil =>
      have next := induction []
      rw [compareScores] at next
      simp only [List.length_cons, List.length_nil, Nat.max_zero, findSome_range_succ] at next ⊢
      by_cases zero : first = 0
      · subst zero
        simpa using next
      · simp [zero]
    | cons head tail =>
      have next := induction tail
      rw [compareScores] at next
      rw [List.length_cons, List.length_cons, Nat.succ_max_succ, findSome_range_succ]
      by_cases same : (first : Int) - head = 0
      · simpa [same] using next
      · simp [same]

theorem combinations_eq (items : List Card) (count : Nat) :
    combinations items count = Engine.combinations items count := by
  have short (items : List Card) (count : Nat) (few : items.length < count) :
      Engine.combinations items count = [] := by
    induction items generalizing count with
    | nil =>
      cases count with
      | zero => cases few
      | succ count => rfl
    | cons head tail induction =>
      cases count with
      | zero => cases few
      | succ count =>
        rw [List.length_cons] at few
        rw [Engine.combinations, induction count (by omega), induction (count + 1) (by omega)]
        rfl
  induction items generalizing count with
  | nil => cases count <;> rfl
  | cons head tail induction =>
    cases count with
    | zero => rfl
    | succ count =>
      rw [combinations]
      split
      case isTrue few => rw [short _ _ few]
      case isFalse =>
        rw [Engine.combinations, induction count, induction (count + 1)]

theorem isStraight_eq (vals : List Nat) : isStraight vals = Engine.isStraight vals := by
  have span (slice : List Nat) : slice.getD 0 0 - slice.getD 4 0 = 4 ↔
      slice.getD 0 0 = slice.getD 4 0 + 4 := by
    omega
  unfold isStraight
  simp only [dedupAdjacent_insertionSort, List.length_insertionSort, span]
  rfl

/-- Counting in one pass and counting each value apart are the same. -/
theorem foldl_bump (vals : List Nat) : vals.foldl bump [] = Engine.countValues vals := by
  have distinct (vals : List Nat) : vals.reverse.dedup.reverse.Nodup :=
    List.nodup_reverse.mpr (List.nodup_dedup _)
  have counted (values : List Nat) (value : Nat) (vals : List Nat) (nodup : values.Nodup) :
      bump (values.map fun key => (key, vals.count key)) value = if value ∈ values then
          values.map fun key => (key, (vals ++ [value]).count key)
        else
          (values.map fun key => (key, (vals ++ [value]).count key)) ++ [(value, 1)] := by
    induction values with
    | nil => rfl
    | cons key values induction =>
      rw [List.nodup_cons] at nodup
      rw [List.map_cons, bump]
      by_cases same : key = value
      · subst same
        have others : (values.map fun other => (other, vals.count other)) =
            values.map fun other =>
              (other, (vals ++ [key]).count other) := by
          apply List.map_congr_left
          intro other member
          have differs : key ≠ other := by
            rintro rfl
            exact nodup.1 member
          simp [differs]
        simp [others]
      · have differs : value ≠ key := Ne.symm same
        rw [if_neg same, induction nodup.2]
        simp [differs]
        split <;> simp
  induction vals using List.reverseRecOn with
  | nil => rfl
  | append_singleton vals value induction =>
    rw [List.foldl_append, induction, List.foldl_cons, List.foldl_nil,
      Engine.countValues, counted _ _ _ (distinct vals), Engine.countValues]
    have member : value ∈ vals.reverse.dedup.reverse ↔ value ∈ vals := by
      simp
    by_cases present : value ∈ vals
    · rw [if_pos (member.mpr present), List.reverse_append]
      have same : ([value].reverse ++ vals.reverse).dedup =
          vals.reverse.dedup :=
        List.dedup_cons_of_mem (List.mem_reverse.mpr present)
      rw [same]
    · rw [if_neg (mt member.mp present), List.reverse_append]
      have more : ([value].reverse ++ vals.reverse).dedup = value :: vals.reverse.dedup :=
        List.dedup_cons_of_notMem (fun inside => present (List.mem_reverse.mp inside))
      rw [more, List.reverse_cons, List.map_append]
      simp [List.count_eq_zero_of_not_mem present]

theorem counts_eq (vals : List Nat) : counts vals = Engine.byCount vals := by
  rw [counts, foldl_bump]
  rfl

theorem rankFive_eq (cards : List Card) : rankFive cards = Engine.rankFive cards := by
  simp only [rankFive, Engine.rankFive, isStraight_eq, counts_eq]
  rfl

theorem bestRanked_eq (hands : List RankedHand) :
    bestRanked hands = Engine.bestRanked hands none := by
  have all (best : Option RankedHand) : hands.foldl (fun best ranked =>
          match best with
          | none => some ranked
          | some best =>
            if compareScores ranked.score best.score > 0 then
              some ranked
            else some best)
        best =
      Engine.bestRanked hands best := by
    induction hands generalizing best with
    | nil => cases best <;> rfl
    | cons hand hands induction =>
      rw [List.foldl_cons]
      cases best with
      | none => exact induction _
      | some best =>
        rw [Engine.bestRanked, ← compareScores_eq]
        exact induction _
  exact all none

theorem bestHand_eq (hole board : List Card) :
    bestHand hole board = Engine.bestOf (hole ++ board) := by
  have ranking : rankFive = Engine.rankFive := funext rankFive_eq
  simp only [bestHand, Engine.bestOf, combinations_eq, bestRanked_eq, ranking]

end Mozetto.PokerEval
