import Mathlib.Data.List.Sort
import Mathlib.Data.List.Dedup
import Mathlib.Tactic.Common

/-!
# Cards and hands

The deck of `cards.ts` with its commitment and shuffle, and the five-card
ranking of `hand-rank.ts`.  The hash functions are parameters.
-/

namespace Mozetto.Engine

/-! ## Cards -/

inductive Rank where
  | two | three | four | five | six | seven | eight | nine
  | ten | jack | queen | king | ace
deriving DecidableEq, Repr

inductive Suit where
  | c | d | h | s
deriving DecidableEq, Repr

structure Card where
  rank : Rank
  suit : Suit
deriving DecidableEq, Repr

def rankValue : Rank → Nat
  | .two => 2
  | .three => 3
  | .four => 4
  | .five => 5
  | .six => 6
  | .seven => 7
  | .eight => 8
  | .nine => 9
  | .ten => 10
  | .jack => 11
  | .queen => 12
  | .king => 13
  | .ace => 14

def ranks : List Rank :=
  [.two, .three, .four, .five, .six, .seven, .eight, .nine, .ten, .jack, .queen, .king, .ace]

def suits : List Suit := [.c, .d, .h, .s]

def fullDeck : List Card := suits.flatMap fun suit => ranks.map fun rank => ⟨rank, suit⟩

/-- The letter of a rank. -/
def Rank.letter : Rank → String
  | two => "2"
  | three => "3"
  | four => "4"
  | five => "5"
  | six => "6"
  | seven => "7"
  | eight => "8"
  | nine => "9"
  | ten => "T"
  | jack => "J"
  | queen => "Q"
  | king => "K"
  | ace => "A"

def Suit.letter : Suit → String
  | c => "c"
  | d => "d"
  | h => "h"
  | s => "s"

def cardKey (card : Card) : String := card.rank.letter ++ card.suit.letter

/-- 0 for a two, 12 for an ace. -/
def rankIndex (rank : Rank) : Nat := rankValue rank - 2

def suitIndex (suit : Suit) : Nat := suits.idxOf suit

/-- The canonical code of a card, by suit first. -/
def cardCode (card : Card) : Nat := suitIndex card.suit * 13 + rankIndex card.rank

def cardFromCode (code : Nat) : Option Card := do
  let suit ← suits[code / 13]?
  let rank ← ranks[code % 13]?
  return ⟨rank, suit⟩

/-- A card can be read back from its code. -/
@[simp]
theorem cardFromCode_cardCode (card : Card) : cardFromCode (cardCode card) = some card := by
  rcases card with ⟨rank, suit⟩
  cases suit <;> cases rank <;> rfl

/-- Different cards have different codes. -/
theorem cardCode_injective : Function.Injective cardCode := by
  intro card other equal
  have read := congrArg cardFromCode equal
  rw [cardFromCode_cardCode, cardFromCode_cardCode] at read
  exact Option.some.inj read

theorem cardCode_lt (card : Card) : cardCode card < 52 := by
  rcases card with ⟨rank, suit⟩
  cases suit <;> cases rank <;> decide

/--
The hash functions of `node:crypto` the deck is built with: the first four
bytes of an HMAC as a number, and the hexadecimal digest of a text.
-/
structure Hashes where
  hmacUInt32 : String → String → Nat
  sha256Hex : String → String

/-- Publish the hash of the seed before dealing. -/
def commitSeed (hashes : Hashes) (serverSeed : String) : String := hashes.sha256Hex serverSeed

def swap (deck : List Card) (i j : Nat) : List Card :=
  match deck[i]?, deck[j]? with
  | some first, some second => (deck.set i second).set j first
  | _, _ => deck

/-- The Fisher–Yates loop from position `i` down. -/
def shuffleFrom (next : Nat → Nat) : Nat → Nat → List Card → List Card
  | 0, _, deck => deck
  | i + 1, counter, deck =>
      shuffleFrom next i (counter + 1) (swap deck (i + 1) (next counter % (i + 2)))

def shuffleDeck (hashes : Hashes) (serverSeed handId : String) : List Card :=
  shuffleFrom (fun counter =>
      hashes.hmacUInt32 serverSeed (handId ++ ":" ++ toString counter))
    (fullDeck.length - 1) 0 fullDeck

@[simp]
theorem length_swap {deck : List Card} {i j : Nat} : (swap deck i j).length = deck.length := by
  unfold swap
  split <;> simp

@[simp]
theorem length_shuffleFrom {next : Nat → Nat} {i counter : Nat} {deck : List Card} :
    (shuffleFrom next i counter deck).length = deck.length := by
  induction i generalizing counter deck with
  | zero => rfl
  | succ i induction => rw [shuffleFrom, induction, length_swap]

/-- A shuffled deck has all its cards left to deal. -/
theorem length_shuffleDeck {hashes : Hashes} {serverSeed handId : String} :
    (shuffleDeck hashes serverSeed handId).length = 52 := by
  rw [shuffleDeck, length_shuffleFrom]
  rfl

/-! ## Five cards -/

inductive HandCategory where
  | highCard | pair | twoPair | threeKind | straight | flush
  | fullHouse | fourKind | straightFlush
deriving DecidableEq, Repr

def HandCategory.score : HandCategory → Nat
  | highCard => 0
  | pair => 1
  | twoPair => 2
  | threeKind => 3
  | straight => 4
  | flush => 5
  | fullHouse => 6
  | fourKind => 7
  | straightFlush => 8

/-- Scores are compared lexicographically. -/
structure RankedHand where
  category : HandCategory
  score : List Nat
  label : String
deriving DecidableEq, Repr

def combinations {α : Type} : List α → Nat → List (List α)
  | _, 0 => [[]]
  | [], _ + 1 => []
  | head :: tail, k + 1 =>
      (combinations tail k).map (head :: ·) ++ combinations tail (k + 1)

/-- The stretches of five consecutive entries. -/
def windows : List Nat → List (List Nat)
  | [] => []
  | value :: rest =>
      if 5 ≤ (value :: rest).length then
        (value :: rest).take 5 :: windows rest
      else []

def isStraight (vals : List Nat) : Option Nat :=
  let uniq := vals.dedup.insertionSort (· ≥ ·)
  let uniq := if 14 ∈ uniq then uniq ++ [1] else uniq
  let first :=
    (windows uniq).find? fun slice =>
      slice.getD 0 0 = slice.getD 4 0 + 4 && slice.dedup.length = 5
  match first with
  | some slice =>
      some (if slice.getD 0 0 = 14 ∧ slice.getD 4 0 = 1 then 5
        else slice.getD 0 0)
  | none =>
      let asc := vals.dedup.insertionSort (· ≤ ·)
      let withWheel := if 14 ∈ asc then 1 :: asc else asc
      let second :=
        (windows withWheel).find? fun slice =>
          [1, 2, 3, 4].all fun j => slice.getD j 0 = slice.getD 0 0 + j
      second.map fun slice =>
        if slice.getD 4 0 = 14 ∧ slice.getD 0 0 = 10 then 14
        else slice.getD 4 0

/-- How often each value occurs, in the order of first occurrence. -/
def countValues (vals : List Nat) : List (Nat × Nat) :=
  (vals.reverse.dedup.reverse).map fun value => (value, vals.count value)

/-- The values by how often they occur, then by size. -/
def byCount (vals : List Nat) : List (Nat × Nat) :=
  (countValues vals).insertionSort fun a b =>
    b.2 < a.2 ∨ b.2 = a.2 ∧ b.1 ≤ a.1

/-- The values of `counts` that occur once. -/
def kickers (counts : List (Nat × Nat)) : List Nat :=
  (counts.filter fun entry => entry.2 = 1).map Prod.fst

/-- Rank exactly five cards. -/
def rankFive (cards : List Card) : RankedHand :=
  let vals := (cards.map fun card => rankValue card.rank).insertionSort (· ≥ ·)
  let flush := cards.all fun card => some card.suit = cards.head?.map Card.suit
  let counts := byCount vals
  let first := counts.getD 0 (0, 0)
  let second := counts.getD 1 (0, 0)
  let kicker := (kickers counts).headD 0
  match flush, isStraight vals with
  | true, some straightHigh =>
      { category := .straightFlush
        score := [HandCategory.straightFlush.score, straightHigh]
        label :=
          if straightHigh = 14 then "Royal flush" else "Straight flush" }
  | flush, straightHigh =>
      if first.2 = 4 then
        { category := .fourKind
          score := [HandCategory.fourKind.score, first.1, kicker]
          label := "Four of a kind" }
      else if first.2 = 3 ∧ second.2 = 2 then
        { category := .fullHouse
          score := [HandCategory.fullHouse.score, first.1, second.1]
          label := "Full house" }
      else if flush then
        { category := .flush
          score := HandCategory.flush.score :: vals
          label := "Flush" }
      else
        match straightHigh with
        | some straightHigh =>
            { category := .straight
              score := [HandCategory.straight.score, straightHigh]
              label := "Straight" }
        | none =>
            if first.2 = 3 then
              { category := .threeKind
                score := HandCategory.threeKind.score :: first.1 :: kickers counts
                label := "Three of a kind" }
            else if first.2 = 2 ∧ second.2 = 2 then
              { category := .twoPair
                score :=
                  [HandCategory.twoPair.score, max first.1 second.1, min first.1 second.1, kicker]
                label := "Two pair" }
            else if first.2 = 2 then
              { category := .pair
                score := HandCategory.pair.score :: first.1 :: kickers counts
                label := "Pair" }
            else
              { category := .highCard
                score := HandCategory.highCard.score :: vals
                label := "High card" }

/-- Compare entry by entry; missing entries count as zero. -/
def compareScores : List Nat → List Nat → Int
  | [], bs =>
      match bs.find? (· ≠ 0) with
      | none => 0
      | some b => -b
  | a :: as, bs =>
      if (a : Int) - bs.headD 0 ≠ 0 then (a : Int) - bs.headD 0
      else compareScores as bs.tail

/-- The best of several hands, the earliest one of equally good hands. -/
def bestRanked : List RankedHand → Option RankedHand → Option RankedHand
  | [], best => best
  | ranked :: rest, none => bestRanked rest (some ranked)
  | ranked :: rest, some best =>
      bestRanked rest (if compareScores ranked.score best.score > 0 then some ranked
        else some best)

/-- The best five of the given cards; a short hand repeats its first card. -/
def bestOf (all : List Card) : Option RankedHand :=
  if all.length < 5 then
    all.head?.map fun pad =>
      rankFive (all ++ List.replicate (5 - all.length) pad)
  else bestRanked ((combinations all 5).map rankFive) none

example :
    (bestOf
      [⟨.two, .h⟩, ⟨.three, .s⟩, ⟨.ace, .c⟩, ⟨.ace, .d⟩, ⟨.king, .c⟩,
        ⟨.king, .d⟩, ⟨.queen, .h⟩]).map RankedHand.score =
      some [2, 14, 13, 12] := by
  decide +kernel

end Mozetto.Engine
