import Mozetto.Engine.Holdem

/-!
# Settling and playing a hand

The rest of `holdem.ts`: showdowns, hands won by folds, run-outs, and the
dispatch of an action.
-/

namespace Mozetto.Engine

open Mozetto.Library.RingSearch
open Mozetto.Library.TransitionSystem

variable {seatCount : Nat}

/-! ## Showdowns -/

/-- How late a seat comes after the button. -/
def buttonRank (button : Nat) (i : Fin seatCount) : Nat :=
  (seatsAfterButton button seatCount).idxOf i

/-- No seat pays more rake than it was awarded. -/
def clampShare (award share : Int) : Int :=
  let share := if share > award then award else share
  if share < 0 then 0 else share

/-- Proportional shares; the last seat is charged what is left. -/
def tabsFrom (handRake totalGross : Int) : Int → List (Pay seatCount) → List (Pay seatCount × Int)
  | _, [] => []
  | allocated, [pay] =>
      [(pay, clampShare pay.amount (handRake - allocated))]
  | allocated, pay :: next :: pays =>
      let share := clampShare pay.amount ((pay.amount * handRake).tdiv totalGross)
      (pay, share) :: tabsFrom handRake totalGross (allocated + share) (next :: pays)

/-- The remainder goes to seats with award headroom. -/
def topUpTabs : Int → List (Pay seatCount × Int) → List (Pay seatCount × Int)
  | _, [] => []
  | remaining, (pay, tab) :: tabs =>
      if remaining ≤ 0 then (pay, tab) :: tabs
      else if pay.amount - tab ≤ 0 then
        (pay, tab) :: topUpTabs remaining tabs
      else
        (pay, tab + min remaining (pay.amount - tab)) ::
          topUpTabs (remaining - min remaining (pay.amount - tab)) tabs

/-- The seats of `grossPays` are distinct. -/
def allocateRakeByAwards (grossPays : List (Pay seatCount)) (handRake : Int) (button : Nat) :
    List (Fin seatCount × Int) :=
  let totalGross := (grossPays.map Pay.amount).sum
  if handRake ≤ 0 ∨ grossPays = [] ∨ totalGross ≤ 0 then []
  else
    let ordered :=
      grossPays.insertionSort fun a b =>
        buttonRank button a.seatIndex ≤ buttonRank button b.seatIndex
    let tabs := tabsFrom handRake totalGross 0 ordered
    let remaining := handRake - (tabs.map Prod.snd).sum
    (topUpTabs remaining tabs).map fun tab => (tab.1.seatIndex, tab.2)

/-- A seat at the showdown with its best hand. -/
structure RankedSeat (seatCount : Nat) where
  seatIndex : Fin seatCount
  cards : List (Option Card)
  label : String
  score : List Nat

def bestHand (hole board : List (Option Card)) :
    Except EngineError RankedHand :=
  match ((hole ++ board).mapM id).bind bestOf with
  | none => .error .undefinedRead
  | some hand => .ok hand

def rankSeat (seats : Fin seatCount → SeatState) (board : List (Option Card))
    (i : Fin seatCount) : Except EngineError (RankedSeat seatCount) :=
  let cards := (seats i).hole.getD []
  match bestHand cards board with
  | .error err => .error err
  | .ok hand => .ok ⟨i, cards, hand.label, hand.score⟩

/-- The seats that show their cards. -/
def showdownSeats (seats : Fin seatCount → SeatState) : List (Fin seatCount) :=
  seatsWith seats fun seat => !seat.folded && seat.hole.isSome

/-- Who wins a layer, in the order after the button. -/
def layerWinners (ranked : List (RankedSeat seatCount)) (button : Nat)
    (layer : PotLayer seatCount) : List (RankedSeat seatCount) :=
  let contenders :=
    (layer.eligible.filterMap fun i =>
        ranked.find? fun entry => entry.seatIndex = i).insertionSort
      fun a b => compareScores b.score a.score ≤ 0
  match contenders with
  | [] => []
  | top :: _ =>
      (contenders.filter fun entry =>
          compareScores entry.score top.score = 0).insertionSort
        fun a b =>
          buttonRank button a.seatIndex ≤ buttonRank button b.seatIndex

/-- What each winner of a layer receives. -/
def layerAwards (ranked : List (RankedSeat seatCount)) (button : Nat)
    (layer : PotLayer seatCount) : List (Pay seatCount) :=
  if layer.amount ≤ 0 ∨ layer.eligible = [] then []
  else
    let winners := layerWinners ranked button layer
    (winners.zip (splitPotShares layer.amount winners.length)).map
      fun award => ⟨award.1.seatIndex, award.2, award.1.label⟩

/-- Record an award; a seat keeps the place of its first one. -/
def addWon : List (Pay seatCount) → Pay seatCount → List (Pay seatCount)
  | [], award => [award]
  | pay :: won, award =>
      if pay.seatIndex = award.seatIndex then
        ⟨pay.seatIndex, pay.amount + award.amount, award.label⟩ :: won
      else pay :: addWon won award

/-- Change the stack of one seat. -/
def moveStack (seats : Fin seatCount → SeatState) (i : Fin seatCount)
    (amount : Int) : Fin seatCount → SeatState :=
  Function.update seats i { seats i with stack := (seats i).stack + amount }

def tabOf (rakeTabs : List (Fin seatCount × Int)) (i : Fin seatCount) :
    Int :=
  ((rakeTabs.find? fun tab => tab.1 = i).map Prod.snd).getD 0

/-- The awards of all layers, in the order they are made. -/
def showdownAwards (state : HoldemState seatCount) (ranked : List (RankedSeat seatCount)) :
    List (Pay seatCount) := (buildPots state.seats).flatMap (layerAwards ranked state.button)

/-- The pot a showdown is about; without layers it is the counted one. -/
def potPool (state : HoldemState seatCount) : Int :=
  let totalPot := ((buildPots state.seats).map PotLayer.amount).sum
  if 0 < totalPot then totalPot else state.pot

/-- The seats after the awards are paid and the rake is taken. -/
def settledSeats (seats : Fin seatCount → SeatState) (awards : List (Pay seatCount))
    (rakeTabs : List (Fin seatCount × Int)) : Fin seatCount → SeatState :=
  rakeTabs.foldl (fun seats tab => moveStack seats tab.1 (-tab.2)) (awards.foldl
      (fun seats award => moveStack seats award.seatIndex award.amount) seats)

def settleShowdown (state : HoldemState seatCount) :
    Transition seatCount := do
  let live := showdownSeats state.seats
  let ranked ← live.mapM (rankSeat state.seats state.board)
  let uncalled := uncalledFromTotals state.seats
  let uncalledReturned :=
    if 0 < uncalled then
      (topContributorSeat state.seats).map fun i => (i, uncalled)
    else none
  let rake ← computeRakeFromPct (max (potPool state - uncalled) 0)
      state.config.rakePct state.config.rakeCap live.length none
  let awards := showdownAwards state ranked
  let grossPays := awards.foldl addWon []
  let rakeTabs := allocateRakeByAwards grossPays rake state.button
  let seats := settledSeats state.seats awards rakeTabs
  let pays :=
    grossPays.map fun pay =>
      { pay with amount := pay.amount - tabOf rakeTabs pay.seatIndex }
  .ok
    ({ state with
        seats := seats
        pot := 0
        rake := rake
        sessionRake := state.sessionRake + rake
        winners := pays
        street := .settlement
        actingIndex := none },
      .showdownRevealed (ranked.map fun entry =>
            ⟨entry.seatIndex, entry.cards, entry.label⟩) ::
        (uncalledReturned.toList.map fun returned =>
          .uncalledBetReturned returned.1 returned.2 state.street) ++
        [.handSettled pays rake rakeTabs (grossPays.map fun pay => (pay.seatIndex, pay.amount))
            (pays.map fun pay => (pay.seatIndex, pay.amount)) uncalledReturned state.serverSeed,
          .stacksUpdated ((List.finRange seatCount).map fun i => (i, (seats i).stack))])

/-! ## Hands won by folds -/

/-- An equal split; odd chips are charged in the order after the button. -/
def allocateRakeAmongWinners (winnerSeatIndexes : List (Fin seatCount)) (handRake : Int)
    (button : Nat) : List (Fin seatCount × Int) :=
  if handRake ≤ 0 ∨ winnerSeatIndexes = [] then []
  else
    let unique :=
      winnerSeatIndexes.reverse.dedup.reverse.insertionSort fun a b =>
        buttonRank button a ≤ buttonRank button b
    unique.zip (splitPotShares handRake unique.length)

/-- A seat that can win a hand without showing it. -/
def SeatState.claims (seat : SeatState) : Bool :=
  !seat.folded && seat.playerId ≠ "" && !seat.sitOut

/-- Award the pot to the sole remaining seat. -/
def foldWin (state : HoldemState seatCount) : Transition seatCount :=
  match (List.finRange seatCount).find? fun i => (state.seats i).claims with
  | none =>
      .ok
        ({ state with
            pot := 0
            street := .settlement
            actingIndex := none
            winners := [] },
          [])
  | some winner => do
      let uncalled := uncalledBetAmount state.seats winner
      let eligiblePot := max (state.pot - uncalled) 0
      let rake ← computeRakeFromPct eligiblePot state.config.rakePct
          state.config.rakeCap 1 (some (state.board.length = 0))
      let netAward := max (eligiblePot - rake) 0
      let rakeTabs := allocateRakeAmongWinners [winner] rake state.button
      let seats := fun i =>
        if i = winner then
          { state.seats i with
            stack := (state.seats i).stack + uncalled + netAward
            bet := 0 }
        else { state.seats i with bet := 0 }
      let pays := [⟨winner, netAward, "Won without showdown"⟩]
      .ok
        ({ state with
            seats := seats
            pot := 0
            rake := rake
            sessionRake := state.sessionRake + rake
            winners := pays
            street := .settlement
            actingIndex := none },
          (if 0 < uncalled then
            [.uncalledBetReturned winner uncalled state.street]
          else []) ++ [.handSettled pays rake rakeTabs [(winner, eligiblePot)] [(winner, netAward)]
                (if 0 < uncalled then some (winner, uncalled) else none) state.serverSeed,
              .stacksUpdated ((List.finRange seatCount).map fun i =>
                  (i, (seats i).stack))])

/-! ## Run-outs -/

/-- The live seats that are not all in. -/
def contenders (seats : Fin seatCount → SeatState) : List (Fin seatCount) :=
  (liveSeats seats).filter fun i => !(seats i).allIn

def isAllInRunout (state : HoldemState seatCount) : Bool :=
  let live :=
    seatsWith state.seats fun seat => !seat.folded && seat.playerId ≠ ""
  let canAct :=
    live.filter fun i =>
      !(state.seats i).allIn && 0 < (state.seats i).stack
  state.hasHandId && state.street ≠ .waiting &&
    state.street ≠ .settlement && state.street ≠ .showdown && 2 ≤ live.length && canAct.length ≤ 1

/-- Turn over the next cards of the board, if it is not complete. -/
def nextBoard (state : HoldemState seatCount) :
    Option (HoldemState seatCount × EngineEvent seatCount) :=
  let dealing := fun count street =>
    let dealt := dealBoard state count street
    some (dealt.1, EngineEvent.streetDealt street dealt.2)
  if state.board.length = 0 then dealing 3 .flop
  else if state.board.length = 3 then dealing 1 .turn
  else if state.board.length = 4 then dealing 1 .river
  else none

def continueRunout (state : HoldemState seatCount) :
    Transition seatCount :=
  let state := { state with actingIndex := none }
  let live := liveSeats state.seats
  if live.length = 1 then foldWin state
  else if live.length < 2 then
    .ok ({ state with street := .settlement, pot := 0 }, [])
  else
    match nextBoard state with
    | some (dealt, event) =>
        .ok ({ dealt with actingIndex := none }, [event])
    | none => settleShowdown { state with street := .showdown }

/-- Run a call and put events in front of its own. -/
def withEvents (events : List (EngineEvent seatCount))
    (transition : Transition seatCount) : Transition seatCount :=
  transition.map fun result => (result.1, events ++ result.2)

def maybeRunout (state : HoldemState seatCount)
    (events : List (EngineEvent seatCount)) : Transition seatCount :=
  if (liveSeats state.seats).length = 1 then
    withEvents events (foldWin state)
  else if 1 < (contenders state.seats).length then
    if state.actingIndex ≠ none then .ok (state, events)
    else
      match nextBoard state with
      | some (dealt, event) => .ok (dealt, events ++ [event])
      | none =>
          if state.street = .river ∨ 5 ≤ state.board.length then
            withEvents events (settleShowdown { state with street := .showdown })
          else .ok (state, events)
  else if 5 ≤ state.board.length then
    withEvents events (settleShowdown { state with street := .showdown })
  else .ok ({ state with actingIndex := none }, events)

/-! ## Actions -/

def streetComplete (state : HoldemState seatCount) : Bool :=
  let active := contenders state.seats
  (liveSeats state.seats).length ≤ 1 || active = [] ||
    ((active.all fun i => (state.seats i).bet = state.currentBet) &&
      active.all fun i => i ∈ state.actedThisStreet)

/-- The acting seat pays `amount` into the pot. -/
def payIn (state : HoldemState seatCount) (i : Fin seatCount) (amount : Int) :
    HoldemState seatCount × Int :=
  let taken := takeChips (state.seats i) amount
  ({ state with
      seats := Function.update state.seats i taken.1
      pot := state.pot + taken.2 },
    taken.2)

def foldAt (seats : Fin seatCount → SeatState) (i : Fin seatCount) : Fin seatCount → SeatState :=
  Function.update seats i { seats i with folded := true }

/-- What an offered action does before the turn passes on. -/
def wager (state : HoldemState seatCount) (i : Fin seatCount)
    (offer : LegalAction) (amount : Option Int) : HoldemState seatCount × Int :=
  let seat := state.seats i
  match offer.action with
  | .fold =>
      ({ state with
          seats := foldAt state.seats i
          actedThisStreet := insert i state.actedThisStreet },
        0)
  | .check =>
      ({ state with actedThisStreet := insert i state.actedThisStreet }, 0)
  | .call =>
      let paid := payIn state i (state.currentBet - seat.bet)
      ({ paid.1 with actedThisStreet := insert i state.actedThisStreet }, paid.2)
  | .bet =>
      let betAmt := (amount.orElse fun _ => offer.minAmount).getD state.config.bigBlind
      let paid := payIn state i betAmt
      ({ paid.1 with
          minRaise := paid.2
          currentBet := (paid.1.seats i).bet
          lastAggressor := some i
          lastRaiseComplete := true
          actedThisStreet := {i} },
        paid.2)
  | .raise =>
      let target :=
        (amount.orElse fun _ => offer.minAmount).getD (state.currentBet + state.minRaise - seat.bet)
      let paid := payIn state i target
      let raiseSize := (paid.1.seats i).bet - state.currentBet
      ({ paid.1 with
          minRaise :=
            if state.minRaise ≤ raiseSize then raiseSize
            else state.minRaise
          currentBet := (paid.1.seats i).bet
          lastAggressor := some i
          lastRaiseComplete := true
          actedThisStreet := {i} },
        paid.2)
  | .allIn =>
      let paid := payIn state i seat.stack
      let bet := (paid.1.seats i).bet
      let raiseSize := bet - state.currentBet
      if state.currentBet < bet then
        if state.minRaise ≤ raiseSize then
          ({ paid.1 with
              minRaise := raiseSize
              currentBet := bet
              lastAggressor := some i
              lastRaiseComplete := true
              actedThisStreet := {i} },
            paid.2)
        else
          ({ paid.1 with
              currentBet := bet
              lastRaiseComplete := false
              actedThisStreet := insert i state.actedThisStreet },
            paid.2)
      else
        ({ paid.1 with
            actedThisStreet := insert i state.actedThisStreet },
          paid.2)

/-- The seat behind `i` that has to act next. -/
def nextToAct (state : HoldemState seatCount) (i : Fin seatCount) : Option (Fin seatCount) :=
  nextPlace i fun j =>
    !(state.seats j).folded && !(state.seats j).allIn &&
      ((state.seats j).bet < state.currentBet || j ∉ state.actedThisStreet)

/-- Pass the turn on, deal the next street or settle. -/
def passTurn (state : HoldemState seatCount) (i : Fin seatCount)
    (events : List (EngineEvent seatCount)) : Transition seatCount :=
  if streetComplete state then
    if state.street = .river then
      withEvents events (settleShowdown { state with street := .showdown })
    else maybeRunout { state with actingIndex := none } events
  else
    match nextToAct state i with
    | none => maybeRunout { state with actingIndex := none } events
    | some j => .ok ({ state with actingIndex := some j }, events)

/-- An amount outside the bounds of an offer. -/
def LegalAction.refuses (offer : LegalAction) (amount : Option Int) :
    Option EngineError :=
  match offer.minAmount, offer.maxAmount, amount with
  | some minAmount, some maxAmount, some amount =>
      if amount < minAmount ∨ maxAmount < amount then
        some (.illegalAmount amount offer.action.name minAmount maxAmount)
      else none
  | _, _, _ => none

def applyAction (state : HoldemState seatCount) (action : PokerAction)
    (amount : Option Int) : Transition seatCount :=
  match state.actingIndex with
  | none => .error .nobodyToAct
  | some i =>
      match (getLegalActions state).find? fun offer => offer.action = action
      with
      | none => .error (.illegalAction action.name)
      | some offer =>
          match offer.refuses amount with
          | some err => .error err
          | none =>
              let wagered := wager state i offer amount
              passTurn wagered.1 i [.playerActed i action
                    (if wagered.2 = 0 then none else some wagered.2)
                    wagered.1.pot state.pot state.street, .potUpdated wagered.1.pot]

/-! ## The engine as a transition system -/

inductive EngineCall where
  | seatPlayer (seatIndex : Nat) (playerId agentId : String) (stack : Int)
  | clearSeat (seatIndex : Nat)
  | foldSeat (seatIndex : Nat)
  | setSitOut (seatIndex : Nat) (sitOut : Bool)
  | startHand (serverSeed handId : String)
  | applyAction (action : PokerAction) (amount : Option Int)
  | continueRunout
deriving DecidableEq

def transition (hashes : Hashes) (state : HoldemState seatCount) : EngineCall → Transition seatCount
  | .seatPlayer seatIndex playerId agentId stack =>
      .ok (seatPlayer state seatIndex playerId agentId stack, [])
  | .clearSeat seatIndex => .ok (clearSeat state seatIndex, [])
  | .foldSeat seatIndex => .ok (foldSeat state seatIndex, [])
  | .setSitOut seatIndex sitOut =>
      .ok (setSitOut state seatIndex sitOut, [])
  | .startHand serverSeed handId => startHand hashes state serverSeed handId
  | .applyAction action amount => applyAction state action amount
  | .continueRunout => continueRunout state

/-- The state after a call. -/
def step (hashes : Hashes) (state : HoldemState seatCount) (call : EngineCall) :
    Except EngineError (HoldemState seatCount) := (transition hashes state call).map Prod.fst

/-- Tables from their creation on. -/
def engine (hashes : Hashes) (seatCount : Nat) :
    System (HoldemState seatCount) EngineCall EngineError where
  initial state := ∃ config, state = createTable config seatCount
  step := step hashes

/-! ## Small tables -/

/-- Hashes that leave every cut of the deck at its first card. -/
def plainHashes : Hashes where
  hmacUInt32 _ _ := 0
  sha256Hex _ := "commitment"

def plainTable (seatCount : Nat) : HoldemState seatCount :=
  createTable
    { tableId := "table"
      smallBlind := 5
      bigBlind := 10
      rakePct := 0.05
      rakeCap := some 30 }
    seatCount

/-- Players sit down with these stacks, in order, and are dealt a hand. -/
def dealPlain (stackSizes : List Int) : List EngineCall :=
  (stackSizes.zipIdx.map fun entry =>
      .seatPlayer entry.2 "p" "a" entry.1) ++ [.startHand "seed" "hand"]

theorem plainTable_reachable {allowed} : (engine plainHashes seatCount).Reachable allowed
    (plainTable seatCount) := .start ⟨_, rfl⟩

end Mozetto.Engine
