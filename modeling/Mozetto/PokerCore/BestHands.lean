import Mozetto.Engine.HandShapes
import Mozetto.Engine.Hands
import Mozetto.PokerCore.Rank

/-!
# Best hands

The best hand of at least five cards is the one with the greatest score among
all choices of five, in both evaluators.  It depends on which cards there are
only, and more cards do not make it worse.
-/

namespace Mozetto.PokerEval

open Mozetto.Engine
open Mozetto.PaddedOrder

/-! ## Scores and hands -/

/-- Cards that are there can all be read. -/
theorem mapM_some (cards : List Card) : (cards.map some).mapM id = some cards := by
  induction cards with
  | nil => rfl
  | cons card cards induction =>
    rw [List.map_cons, List.mapM_cons, induction]
    rfl

theorem Suited.of_perm {cards others : List Card}
    (suited : Suited cards) (perm : others.Perm cards) : Suited others :=
  fun first member second other =>
    suited first (perm.mem_iff.mp member) second (perm.mem_iff.mp other)

/-- The order of the cards does not matter. -/
theorem rankFive_perm {cards others : List Card} (perm : cards.Perm others) :
    Engine.rankFive cards = Engine.rankFive others := by
  have values : sortedValues cards = sortedValues others := by
    apply List.Perm.eq_of_pairwise' (sortedValues_descending cards) (sortedValues_descending others)
    exact (sortedValues_perm cards).trans ((perm.map _).trans (sortedValues_perm others).symm)
  have flush : flushOf cards = flushOf others := by
    rw [Bool.eq_iff_iff, flushOf_iff, flushOf_iff]
    exact ⟨fun suited => Suited.of_perm suited perm.symm, fun suited => Suited.of_perm suited perm⟩
  rw [rankFive_eq_ranked, rankFive_eq_ranked, values, flush]

/-- The label that goes with a category and a score. -/
def labelOf (category : HandCategory) (score : List Nat) : String :=
  match category with
  | .highCard => "High card"
  | .pair => "Pair"
  | .twoPair => "Two pair"
  | .threeKind => "Three of a kind"
  | .straight => "Straight"
  | .flush => "Flush"
  | .fullHouse => "Full house"
  | .fourKind => "Four of a kind"
  | .straightFlush =>
    if score.getD 1 0 = 14 then "Royal flush" else "Straight flush"

def Labelled (hand : RankedHand) : Prop := hand.label = labelOf hand.category hand.score

theorem labelled_ite {condition : Prop} [Decidable condition] {first second : RankedHand}
    (one : Labelled first) (other : Labelled second) :
    Labelled (if condition then first else second) := by
  split
  · exact one
  · exact other

/-- Each category has its label. -/
theorem labelled_ranked (flush : Bool) (straight : Option Nat) (counts : List (Nat × Nat))
    (vals : List Nat) : Labelled (ranked flush straight counts vals) := by
  have label {hand : RankedHand} (equal : hand.label = labelOf hand.category hand.score) :
      Labelled hand := equal
  cases straight with
  | none =>
    cases flush <;>
    · apply labelled_ite
      · exact label rfl
      · apply labelled_ite
        · exact label rfl
        · apply labelled_ite
          · exact label rfl
          · repeat' apply labelled_ite
            all_goals exact label rfl
  | some high =>
    cases flush
    · apply labelled_ite
      · exact label rfl
      · apply labelled_ite
        · exact label rfl
        · apply labelled_ite
          · exact label rfl
          · exact label rfl
    · exact label rfl

/-- A score tells the hand. -/
theorem rankFive_eq_of_score {cards others : List Card} (five : cards.length = 5)
    (otherFive : others.length = 5)
    (same : (Engine.rankFive cards).score = (Engine.rankFive others).score) :
    Engine.rankFive cards = Engine.rankFive others := by
  rcases exists_classified five with ⟨category, kickers, classified⟩
  rcases exists_classified otherFive with ⟨other, rest, otherClassified⟩
  have one := rankFive_of_classified five classified
  have two := rankFive_of_classified otherFive otherClassified
  have category : (Engine.rankFive cards).category = (Engine.rankFive others).category := by
    rw [one.1, two.1]
    rw [one.2, two.2] at same
    have scores := (List.cons.inj same).1
    cases category <;> cases other <;> first | rfl | cases scores
  have labels := labelled_ranked (flushOf cards)
    (Engine.isStraight (sortedValues cards)) (byCount (sortedValues cards)) (sortedValues cards)
  have otherLabels := labelled_ranked (flushOf others)
    (Engine.isStraight (sortedValues others)) (byCount (sortedValues others)) (sortedValues others)
  rw [← rankFive_eq_ranked, Labelled] at labels otherLabels
  rw [category, same, ← otherLabels] at labels
  calc
    Engine.rankFive cards = ⟨(Engine.rankFive cards).category, (Engine.rankFive cards).score,
          (Engine.rankFive cards).label⟩ := rfl
    _ = ⟨(Engine.rankFive others).category, (Engine.rankFive others).score,
          (Engine.rankFive others).label⟩ := by
        rw [category, same, labels]
    _ = Engine.rankFive others := rfl

/-- How many kickers a category has. -/
def kickerCount : HandCategory → Nat
  | .straightFlush => 1
  | .fourKind => 2
  | .fullHouse => 2
  | .flush => 5
  | .straight => 1
  | .threeKind => 3
  | .twoPair => 3
  | .pair => 4
  | .highCard => 5

theorem Shape.length_kickers {values kickers : List Nat} {category : HandCategory}
    (shape : Shape values category kickers) : kickers.length = kickerCount category := by
  cases shape <;> rfl

theorem length_kickers {cards : List Card} {category : HandCategory} {kickers : List Nat}
    (five : cards.length = 5) (classified : Classified cards category kickers) :
    kickers.length = kickerCount category := by
  cases classified with
  | straightFlush | straight => rfl
  | strong shape | plain _ _ shape => exact Shape.length_kickers shape
  | flush _ _ _ _ perm =>
    exact perm.length_eq.trans ((List.length_map _).trans five)

theorem category_eq_of_score {category other : HandCategory}
    (same : category.score = other.score) : category = other := by
  cases category <;> cases other <;> first | rfl | cases same

/-- Hands are ordered by category, then by their kickers. -/
theorem compareScores_classified {first second : List Card} {category other : HandCategory}
    {kickers others : List Nat} (five : first.length = 5) (otherFive : second.length = 5)
    (classified : Classified first category kickers)
    (otherClassified : Classified second other others) :
    (0 < Engine.compareScores (Engine.rankFive first).score (Engine.rankFive second).score ↔
        other.score < category.score ∨ other = category ∧ List.Lex (· < ·) others kickers) ∧
      (Engine.compareScores (Engine.rankFive first).score (Engine.rankFive second).score = 0 ↔
        category = other ∧ kickers = others) := by
  rw [compareScores_pos_iff, compareScores_eq_zero_iff, (rankFive_of_classified five classified).2,
    (rankFive_of_classified otherFive otherClassified).2, padded_cons_lt_iff, padded_cons_eq_iff]
  have lengths : category = other → others.length = kickers.length := by
    rintro rfl
    rw [length_kickers five classified, length_kickers otherFive otherClassified]
  constructor
  · apply or_congr_right
    constructor
    · rintro ⟨score, less⟩
      have same := category_eq_of_score score
      exact ⟨same, (padded_lt_iff_lex (lengths same.symm)).mp less⟩
    · rintro ⟨rfl, less⟩
      exact ⟨rfl, (padded_lt_iff_lex (lengths rfl)).mpr less⟩
  · constructor
    · rintro ⟨score, equal⟩
      have same := category_eq_of_score score
      exact ⟨same, padded_injective_of_length (lengths same).symm equal⟩
    · rintro ⟨rfl, rfl⟩
      exact ⟨rfl, rfl⟩

/-! ## The best of all choices -/

/-- The hand is of five of the cards, and none of five has a greater score. -/
structure Best (cards : List Card) (best : RankedHand) : Prop where
  found : ∃ five : List Card, five.Subperm cards ∧ five.length = 5 ∧ Engine.rankFive five = best
  greatest : ∀ five : List Card, five.Subperm cards → five.length = 5 →
    Engine.compareScores (Engine.rankFive five).score best.score ≤ 0

theorem Best.of_perm {cards others : List Card} {best : RankedHand}
    (isBest : Best cards best) (perm : cards.Perm others) :
    Best others best := by
  rcases isBest.found with ⟨five, inside, length, equal⟩
  refine ⟨⟨five, inside.trans perm.subperm, length, equal⟩, ?_⟩
  intro chosen within count
  exact isBest.greatest chosen (within.trans perm.symm.subperm) count

/-- There is one best hand. -/
theorem Best.unique {cards : List Card} {best other : RankedHand}
    (isBest : Best cards best) (isOther : Best cards other) : best = other := by
  rcases isBest.found with ⟨five, inside, length, rfl⟩
  rcases isOther.found with ⟨rest, within, count, rfl⟩
  apply rankFive_eq_of_score length count
  have forth := compareScores_nonpos_iff.mp (isOther.greatest five inside length)
  have back := compareScores_nonpos_iff.mp (isBest.greatest rest within count)
  have same := compareScores_eq_zero_iff.mpr (le_antisymm forth back)
  rcases exists_classified length with ⟨category, kickers, classified⟩
  rcases exists_classified count with ⟨otherCategory, others, second⟩
  rcases (compareScores_classified length count classified second).2.mp same with ⟨rfl, rfl⟩
  rw [(rankFive_of_classified length classified).2, (rankFive_of_classified count second).2]

/-- More cards are not worse. -/
theorem Best.mono {cards others : List Card} {best better : RankedHand}
    (isBest : Best cards best) (isBetter : Best others better) (more : cards.Subperm others) :
    0 ≤ Engine.compareScores better.score best.score := by
  rcases isBest.found with ⟨five, inside, length, rfl⟩
  rw [compareScores_nonneg_iff]
  exact compareScores_nonpos_iff.mp (isBetter.greatest five (inside.trans more) length)

/-- The search finds the best hand. -/
theorem bestOf_best {cards : List Card} (enough : 5 ≤ cards.length) :
    ∃ best, bestOf cards = some best ∧ Best cards best := by
  have hands : ((Engine.combinations cards 5).map Engine.rankFive) ≠ [] := by
    have first : cards.take 5 ∈ Engine.combinations cards 5 :=
      mem_combinations_iff.mpr ⟨List.take_sublist 5 cards, List.length_take_of_le enough⟩
    exact fun empty =>
      absurd (List.mem_map_of_mem first) (empty ▸ List.not_mem_nil)
  rcases bestRanked_none hands with ⟨best, member, equal, greatest⟩
  refine ⟨best, ?_, ?_, ?_⟩
  · rw [bestOf, if_neg (Nat.not_lt.mpr enough)]
    exact equal
  · rcases List.mem_map.mp member with ⟨five, chosen, ranks⟩
    rcases mem_combinations_iff.mp chosen with ⟨sublist, length⟩
    exact ⟨five, sublist.subperm, length, ranks⟩
  · rintro five ⟨same, perm, sublist⟩ length
    have chosen : same ∈ Engine.combinations cards 5 :=
      mem_combinations_iff.mpr ⟨sublist, perm.length_eq.trans length⟩
    rw [← rankFive_perm perm, compareScores_nonpos_iff]
    exact greatest _ (List.mem_map_of_mem chosen)

/-- Both evaluators give the best hand of a split of the cards. -/
theorem bestHand_of_best {cards hole board : List Card} {best : RankedHand}
    (enough : 5 ≤ cards.length) (isBest : Best cards best) (split : (hole ++ board).Perm cards) :
    Engine.bestHand (hole.map some) (board.map some) = .ok best ∧
      bestHand hole board = some best := by
  have more : 5 ≤ (hole ++ board).length := by
    rw [split.length_eq]
    exact enough
  rcases bestOf_best more with ⟨found, equal, isFound⟩
  have same := (isFound.of_perm split).unique isBest
  subst same
  refine ⟨?_, ?_⟩
  · simp only [Engine.bestHand, ← List.map_append, mapM_some, Option.bind_some, equal]
  · rw [bestHand_eq]
    exact equal

/--
The best hand of at least five cards is the greatest of all choices of five,
for every order of the cards and every split between hole and board; a card
more does not make it worse.  Hands of five cards compare by their category
and then by its kickers.  Both evaluators agree in all this.
-/
theorem best_hands_exact
    (cards : List Card) (enough : 5 ≤ cards.length) :
    (∃ best, Best cards best ∧
      (∀ hole board : List Card, (hole ++ board).Perm cards →
        Engine.bestHand (hole.map some) (board.map some) = .ok best ∧
          bestHand hole board = some best) ∧
      ∀ card, ∃ better, Best (card :: cards) better ∧
        0 ≤ Engine.compareScores better.score best.score ∧
        ∀ hole board : List Card, (hole ++ board).Perm (card :: cards) →
          Engine.bestHand (hole.map some) (board.map some) = .ok better ∧
            bestHand hole board = some better) ∧
    (∀ five : List Card, five.length = 5 →
      ∃ category kickers, Classified five category kickers ∧
        Outcome (Engine.rankFive five) category kickers ∧
        ∀ other others, Classified five other others →
          other = category ∧ others = kickers) ∧
    (∀ first second category kickers other others,
      first.length = 5 → second.length = 5 →
      Classified first category kickers → Classified second other others →
        (0 < Engine.compareScores (Engine.rankFive first).score
              (Engine.rankFive second).score ↔
            other.score < category.score ∨
              other = category ∧ List.Lex (· < ·) others kickers) ∧
          (Engine.compareScores (Engine.rankFive first).score
              (Engine.rankFive second).score = 0 ↔
            category = other ∧ kickers = others)) ∧
    (∀ five : List Card, rankFive five = Engine.rankFive five) ∧
    ∀ first second : List Nat,
      compareScores first second = Engine.compareScores first second := by
  refine ⟨?_, ?_, ?_, rankFive_eq, compareScores_eq⟩
  · rcases bestOf_best enough with ⟨best, _, isBest⟩
    refine ⟨best, isBest,
      fun _ _ split => bestHand_of_best enough isBest split, ?_⟩
    intro card
    have more : 5 ≤ (card :: cards).length := Nat.le_succ_of_le enough
    rcases bestOf_best more with ⟨better, _, isBetter⟩
    exact ⟨better, isBetter,
      isBest.mono isBetter (List.sublist_cons_self card cards).subperm,
      fun _ _ split => bestHand_of_best more isBetter split⟩
  · intro five length
    rcases exists_classified length with ⟨category, kickers, classified⟩
    have outcome := rankFive_of_classified length classified
    refine ⟨category, kickers, classified, outcome, ?_⟩
    intro other others again
    have second := rankFive_of_classified length again
    refine ⟨second.1.symm.trans outcome.1, ?_⟩
    exact (List.cons.inj (second.2.symm.trans outcome.2)).2
  · intro first second category kickers other others five otherFive one two
    exact compareScores_classified five otherFive one two

namespace Replays

/-- Two hole cards with a board that makes a wheel and a higher straight. -/
def dealt : List Card :=
  [⟨.ace, .c⟩, ⟨.six, .d⟩, ⟨.two, .h⟩, ⟨.three, .s⟩, ⟨.four, .c⟩, ⟨.five, .d⟩, ⟨.king, .h⟩]

theorem best_hands_exact_dealt :
    5 ≤ dealt.length ∧ ∃ best, Best dealt best :=
  ⟨by decide,
    (best_hands_exact dealt (by decide)).1.imp fun _ both => both.1⟩

end Replays

end Mozetto.PokerEval
