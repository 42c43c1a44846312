import Mozetto.Engine.Rake
import Mozetto.Library.Guarded
import Mozetto.Library.RingSearch
import Mozetto.Library.TransitionSystem
import Mathlib.Data.Finset.Insert
import Mathlib.Data.Fintype.Card

/-!
# The hold'em engine

`holdem.ts`: the state of a table, what its functions read from it, and the
calls that change it.  A table has a fixed number of seats, and the seat with
index `i` is entry `i` of its array; `find` by an index is a lookup.
-/

namespace Mozetto.Engine

open Mozetto.Library.RingSearch

/-! ## The state -/

inductive PokerAction where
  | fold | check | call | bet | raise | allIn
deriving DecidableEq, Repr

def PokerAction.name : PokerAction → String
  | fold => "fold"
  | check => "check"
  | call => "call"
  | bet => "bet"
  | raise => "raise"
  | allIn => "all_in"

inductive Street where
  | waiting | dealing | preflop | flop | turn | river | showdown | settlement
deriving DecidableEq, Repr

/-- A card drawn from an empty deck is undefined. -/
structure SeatState where
  playerId : String
  agentId : String
  stack : Int
  bet : Int
  totalBet : Int
  hole : Option (List (Option Card))
  folded : Bool
  allIn : Bool
  sitOut : Bool
deriving DecidableEq

structure LegalAction where
  action : PokerAction
  minAmount : Option Int
  maxAmount : Option Int
deriving DecidableEq

structure TableConfig where
  tableId : String
  smallBlind : Int
  bigBlind : Int
  rakePct : Float
  rakeCap : Option Int
deriving DecidableEq

/-- Chips in a layer, who put them in, and who can win them. -/
structure PotLayer (seatCount : Nat) where
  amount : Int
  contributors : List (Fin seatCount)
  eligible : List (Fin seatCount)
deriving DecidableEq

structure Pay (seatCount : Nat) where
  seatIndex : Fin seatCount
  amount : Int
  label : String
deriving DecidableEq

structure HoldemState (seatCount : Nat) where
  config : TableConfig
  handId : Option String
  handNumber : Nat
  street : Street
  button : Nat
  deck : List Card
  board : List (Option Card)
  pot : Int
  seats : Fin seatCount → SeatState
  actingIndex : Option (Fin seatCount)
  currentBet : Int
  minRaise : Int
  lastAggressor : Option (Fin seatCount)
  firstToAct : Option (Fin seatCount)
  serverSeed : Option String
  seedCommit : Option String
  winners : List (Pay seatCount)
  rake : Int
  sessionRake : Int
  actedThisStreet : Finset (Fin seatCount)
  lastRaiseComplete : Bool

structure Reveal (seatCount : Nat) where
  seatIndex : Fin seatCount
  cards : List (Option Card)
  label : String
deriving DecidableEq

inductive EngineEvent (seatCount : Nat) where
  | handStarted (handId : String) (handNumber : Nat) (seedCommit : String) (button : Nat)
  | blindsPosted (smallBlind bigBlind : Fin seatCount × Int) (potAfter : Int)
  | holeCardsDealt (cards : List (Fin seatCount × List (Option Card)))
  | playerActed (seatIndex : Fin seatCount) (action : PokerAction)
      (amount : Option Int) (potAfter potBefore : Int) (street : Street)
  | streetDealt (street : Street) (cards : List (Option Card))
  | potUpdated (pot : Int)
  | uncalledBetReturned (seatIndex : Fin seatCount) (amount : Int) (street : Street)
  | showdownRevealed (reveals : List (Reveal seatCount))
  | handSettled (winners : List (Pay seatCount)) (rake : Int)
      (rakeTabs grossAwards netAwards : List (Fin seatCount × Int))
      (uncalledReturned : Option (Fin seatCount × Int)) (seedReveal : Option String)
  | stacksUpdated (updated : List (Fin seatCount × Int))
deriving DecidableEq

/-- What a call returns, unless it throws. -/
abbrev Transition (seatCount : Nat) :=
  Except EngineError (HoldemState seatCount × List (EngineEvent seatCount))

variable {seatCount : Nat}

/-! ## Seats -/

/-- The first seat behind a place whose state has a property. -/
def nextSeat (seats : Fin seatCount → SeatState) (start : Nat)
    (pred : SeatState → Bool) : Option (Fin seatCount) := nextPlace start fun i => pred (seats i)

def seatsAfterButton (button seatCount : Nat) : List (Fin seatCount) := ring seatCount button

/-- The seats with a property, in the order of the array. -/
def seatsWith (seats : Fin seatCount → SeatState) (pred : SeatState → Bool) :
    List (Fin seatCount) := (List.finRange seatCount).filter fun i => pred (seats i)

/-- The seats that have not folded. -/
def liveSeats (seats : Fin seatCount → SeatState) : List (Fin seatCount) :=
  seatsWith seats fun seat => !seat.folded

/-- A seat pays at most its stack, and is all in when that is gone. -/
def takeChips (seat : SeatState) (amount : Int) : SeatState × Int :=
  let paid := if seat.stack < amount then seat.stack else amount
  ({ seat with
      stack := seat.stack - paid
      bet := seat.bet + paid
      totalBet := seat.totalBet + paid
      allIn := if seat.stack - paid = 0 then true else seat.allIn },
    paid)

def createTable (config : TableConfig) (seatCount : Nat) : HoldemState seatCount where
  config := config
  handId := none
  handNumber := 0
  street := .waiting
  button := seatCount - 1
  deck := []
  board := []
  pot := 0
  seats _ :=
    { playerId := ""
      agentId := ""
      stack := 0
      bet := 0
      totalBet := 0
      hole := none
      folded := true
      allIn := false
      sitOut := true }
  actingIndex := none
  currentBet := 0
  minRaise := config.bigBlind
  lastAggressor := none
  firstToAct := none
  serverSeed := none
  seedCommit := none
  winners := []
  rake := 0
  sessionRake := 0
  actedThisStreet := ∅
  lastRaiseComplete := true

/-- Change the seat with the given index, if there is one. -/
def mapSeat (state : HoldemState seatCount) (seatIndex : Nat)
    (change : SeatState → SeatState) : HoldemState seatCount :=
  { state with
    seats := fun i =>
      if i.val = seatIndex then change (state.seats i) else state.seats i }

def seatPlayer (state : HoldemState seatCount) (seatIndex : Nat)
    (playerId agentId : String) (stack : Int) : HoldemState seatCount :=
  mapSeat state seatIndex fun seat =>
    { seat with
      playerId := playerId
      agentId := agentId
      stack := stack
      folded := false
      allIn := false
      sitOut := false
      bet := 0
      totalBet := 0
      hole := none }

def clearSeat (state : HoldemState seatCount) (seatIndex : Nat) :
    HoldemState seatCount :=
  mapSeat state seatIndex fun seat =>
    { seat with
      playerId := ""
      agentId := ""
      stack := 0
      sitOut := true
      folded := true
      hole := none
      bet := 0
      totalBet := 0
      allIn := false }

/-- Fold a seated player without clearing their identity yet. -/
def foldSeat (state : HoldemState seatCount) (seatIndex : Nat) :
    HoldemState seatCount :=
  mapSeat state seatIndex fun seat =>
    { seat with folded := true, hole := none, allIn := false }

/-- `Boolean(state.handId)`: the empty text does not count. -/
def HoldemState.hasHandId (state : HoldemState seatCount) : Bool :=
  state.handId ≠ none && state.handId ≠ some ""

def HoldemState.midHand (state : HoldemState seatCount) : Bool :=
  state.hasHandId && state.street ≠ .waiting && state.street ≠ .settlement

/-- Mid-hand, sitting out also folds. -/
def setSitOut (state : HoldemState seatCount) (seatIndex : Nat) (sitOut : Bool) :
    HoldemState seatCount :=
  mapSeat state seatIndex fun seat =>
    if sitOut then
      { seat with
        sitOut := true
        folded := if state.midHand then true else seat.folded
        hole := if state.midHand then none else seat.hole
        allIn := if state.midHand then false else seat.allIn }
    else { seat with sitOut := false }

/-! ## Dealing -/

/-- The next cards of a deck; those it does not have are undefined. -/
def drawCards (deck : List Card) (count : Nat) : List (Option Card) :=
  (List.range count).map fun i => deck[i]?

/-- Seats with the hole cards dealt so far, and the deck left. -/
structure Dealt (seatCount : Nat) where
  seats : Fin seatCount → SeatState
  deck : List Card
  cards : List (Fin seatCount × List (Option Card))

/-- Two cards for a seat, unless it is folded. -/
def dealHole (dealt : Dealt seatCount) (i : Fin seatCount) :
    Dealt seatCount :=
  if (dealt.seats i).folded then dealt
  else
    { seats :=
        Function.update dealt.seats i { dealt.seats i with hole := some (drawCards dealt.deck 2) }
      deck := dealt.deck.drop 2
      cards := dealt.cards ++ [(i, drawCards dealt.deck 2)] }

def dealHoles (seats : Fin seatCount → SeatState) (deck : List Card) :
    Dealt seatCount :=
  (List.finRange seatCount).foldl dealHole ⟨seats, deck, []⟩

/-- A seat that is dealt into the next hand. -/
def SeatState.eligible (seat : SeatState) : Bool :=
  !seat.sitOut && seat.playerId ≠ "" && 0 < seat.stack

/-- A seat at the beginning of a hand. -/
def SeatState.forHand (seat : SeatState) : SeatState :=
  { seat with
    bet := 0
    totalBet := 0
    allIn := false
    hole := none
    folded := seat.sitOut || seat.playerId = "" || seat.stack ≤ 0 }

/-- The blinds of a hand: two seats, and what they pay. -/
def postBlinds (config : TableConfig) (seats : Fin seatCount → SeatState) (sb bb : Fin seatCount) :
    (Fin seatCount → SeatState) × Int × Int :=
  let sbPost := takeChips (seats sb) config.smallBlind
  let seats := Function.update seats sb sbPost.1
  let bbPost := takeChips (seats bb) config.bigBlind
  (Function.update seats bb bbPost.1, sbPost.2, bbPost.2)

def startHand (hashes : Hashes) (state : HoldemState seatCount)
    (serverSeed handId : String) : Transition seatCount :=
  match seatsWith state.seats SeatState.eligible with
  | first :: _ :: others =>
      let button :=
        (nextSeat state.seats state.button fun seat =>
          !seat.sitOut && 0 < seat.stack).getD first
      let seats := fun i => (state.seats i).forHand
      let headsUp := others = []
      let nextUnfolded := fun start : Fin seatCount =>
        nextSeat seats start fun seat => !seat.folded
      let blinds :=
        if headsUp then
          (nextUnfolded button).map fun bb => (button, bb)
        else
          (nextUnfolded button).bind fun sb =>
            (nextUnfolded sb).map fun bb => (sb, bb)
      match blinds with
      | none => .error .undefinedRead
      | some (sb, bb) =>
          let posts := postBlinds state.config seats sb bb
          let pot := posts.2.1 + posts.2.2
          let dealt := dealHoles posts.1 (shuffleDeck hashes serverSeed handId)
          let actingIndex :=
            if headsUp then some sb
            else
              nextSeat dealt.seats bb fun seat => !seat.folded && !seat.allIn
          .ok
            ({ state with
                handId := some handId
                handNumber := state.handNumber + 1
                button := button
                deck := dealt.deck
                board := []
                pot := pot
                street := .preflop
                serverSeed := some serverSeed
                seedCommit := some (commitSeed hashes serverSeed)
                winners := []
                rake := 0
                currentBet := state.config.bigBlind
                minRaise := state.config.bigBlind
                actedThisStreet := ∅
                lastRaiseComplete := true
                seats := dealt.seats
                lastAggressor := some bb
                actingIndex := actingIndex
                firstToAct := actingIndex },
              [.handStarted handId (state.handNumber + 1) (commitSeed hashes serverSeed) button,
                .blindsPosted (sb, posts.2.1) (bb, posts.2.2) pot, .potUpdated pot,
                .holeCardsDealt dealt.cards])
  | _ => .error .needPlayers

def resetStreetBets (state : HoldemState seatCount) :
    HoldemState seatCount :=
  { state with
    seats := fun i => { state.seats i with bet := 0 }
    currentBet := 0
    minRaise := state.config.bigBlind
    lastAggressor := none
    actedThisStreet := ∅
    lastRaiseComplete := true }

/-- Burn a card and turn over `count` cards. -/
def dealBoard (state : HoldemState seatCount) (count : Nat) (street : Street) :
    HoldemState seatCount × List (Option Card) :=
  let deck := state.deck.drop 1
  let cards := drawCards deck count
  let next :=
    resetStreetBets
      { state with
        deck := deck.drop count
        board := state.board ++ cards
        street := street }
  let first :=
    nextSeat next.seats next.button fun seat =>
      !seat.folded && !seat.allIn && 0 < seat.stack
  ({ next with actingIndex := first, firstToAct := first }, cards)

/-! ## Betting -/

def bettingActions (state : HoldemState seatCount) (seat : SeatState) (capped : Bool) :
    List LegalAction :=
  let toCall := state.currentBet - seat.bet
  let allIn := LegalAction.mk .allIn (some seat.stack) (some seat.stack)
  let call := LegalAction.mk .call (some toCall) (some toCall)
  if toCall ≤ 0 then
    ⟨.check, none, none⟩ :: if 0 < seat.stack && !capped then
        [⟨.bet, some (min state.config.bigBlind seat.stack), some seat.stack⟩, allIn]
      else []
  else
    ⟨.fold, none, none⟩ :: if toCall < seat.stack then
        call :: if !capped then
            [⟨.raise, some (min (state.currentBet + state.minRaise - seat.bet) seat.stack),
                some seat.stack⟩, allIn]
          else []
      else if seat.stack = toCall then [allIn, call]
      else [allIn]

def getLegalActions (state : HoldemState seatCount) : List LegalAction :=
  match state.actingIndex with
  | none => []
  | some i =>
      let seat := state.seats i
      if seat.folded || seat.allIn then []
      else
        bettingActions state seat (!state.lastRaiseComplete && i ∈ state.actedThisStreet)

/-! ## Pots -/

/-- The layers above `prev`, and the chips of layers nobody can win. -/
def layerPots (seats : Fin seatCount → SeatState) (contributors : List (Fin seatCount)) :
    Int → Int → List Int → List (PotLayer seatCount) × Int
  | _, orphaned, [] => ([], orphaned)
  | prev, orphaned, level :: levels =>
      let inLayer := contributors.filter fun i => level ≤ (seats i).totalBet
      let amount := (level - prev) * inLayer.length
      if amount ≤ 0 then layerPots seats contributors level orphaned levels
      else
        let eligible := inLayer.filter fun i => !(seats i).folded
        if eligible = [] then
          layerPots seats contributors level (orphaned + amount) levels
        else
          let rest := layerPots seats contributors level 0 levels
          (⟨amount + orphaned, inLayer, eligible⟩ :: rest.1, rest.2)

def addToLast (orphaned : Int) : List (PotLayer seatCount) → List (PotLayer seatCount)
  | [] => []
  | [pot] => [{ pot with amount := pot.amount + orphaned }]
  | pot :: next :: pots => pot :: addToLast orphaned (next :: pots)

/-- The seats that have put chips in. -/
def contributorsOf (seats : Fin seatCount → SeatState) : List (Fin seatCount) :=
  seatsWith seats fun seat => 0 < seat.totalBet

/-- The distinct positive contributions in increasing order. -/
def betLevels (seats : Fin seatCount → SeatState) : List Int :=
  ((contributorsOf seats).map fun i =>
      (seats i).totalBet).dedup.insertionSort (· ≤ ·)

/-- Main and side pots from what each seat put in this hand. -/
def buildPots (seats : Fin seatCount → SeatState) : List (PotLayer seatCount) :=
  let built := layerPots seats (contributorsOf seats) 0 0 (betLevels seats)
  if 0 < built.2 then addToLast built.2 built.1 else built.1

def sharesFrom (share : Int) : Int → Nat → List Int
  | _, 0 => []
  | remainder, winners + 1 =>
      (share + if 0 < remainder then 1 else 0) ::
        sharesFrom share (if 0 < remainder then remainder - 1 else remainder) winners

/-- Odd chips are awarded in the order of the winners. -/
def splitPotShares (amount : Int) (winnerCount : Nat) : List Int :=
  let share := amount.tdiv winnerCount
  sharesFrom share (amount - share * winnerCount) winnerCount

/-- The seats that put chips in, the largest contribution first. -/
def byContribution (seats : Fin seatCount → SeatState) : List (Fin seatCount) :=
  (contributorsOf seats).insertionSort fun a b =>
    (seats b).totalBet ≤ (seats a).totalBet

def topContributorSeat (seats : Fin seatCount → SeatState) : Option (Fin seatCount) :=
  match byContribution seats with
  | first :: second :: _ =>
      if (seats first).totalBet = (seats second).totalBet then none
      else some first
  | contributors => contributors.head?

def uncalledFromTotals (seats : Fin seatCount → SeatState) : Int :=
  match byContribution seats with
  | top :: second :: _ =>
      if (seats top).folded then 0
      else if (seats top).totalBet = (seats second).totalBet then 0
      else max ((seats top).totalBet - (seats second).totalBet) 0
  | _ => 0

/-- The part of the sole survivor's street bet that nobody matched. -/
def uncalledBetAmount (seats : Fin seatCount → SeatState) (winner : Fin seatCount) : Int :=
  if (seats winner).bet ≤ 0 then 0
  else
    let maxOther :=
      (List.finRange seatCount).foldl (fun maxOther i =>
          if i = winner then maxOther
          else if (seats i).bet > maxOther then (seats i).bet
          else maxOther)
        0
    max ((seats winner).bet - maxOther) 0

end Mozetto.Engine
