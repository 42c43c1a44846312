import Mozetto.Engine.Offers
import Mozetto.Engine.ForcedFolds
import Mozetto.GameServer.SitOuts
import Mozetto.GameServer.TableEscrow

/-!
# Turns that are awaited

`actForCurrent` captures the legal actions of the acting seat, waits for a
decision and applies it.  While it waits, players top up, sit out and leave;
each of these changes the table between two awaits of its own, so that a
top-up writes the stack it read when it began.  Amounts of decisions are
dollars, as doubles; amounts of the engine are chips.
-/

namespace Mozetto.GameServer.Turns

open Mozetto.Database
open Mozetto.Engine
open Mozetto.GameServer.SitOuts

variable {seatCount : Nat}

/-! ## Amounts -/

inductive TurnError where
  | notFinite
  | unsafeChips (chips : Int)
  | noActionPending
  | notSeated
  | notYourTurn
  | illegalAction (action : PokerAction) (legalNow : List PokerAction)
deriving DecidableEq

def TurnError.message : TurnError → String
  | .notFinite => "usdToChips: not finite"
  | .unsafeChips chips =>
      "chipsToNumber: " ++ toString chips ++ " exceeds safe integer range"
  | .noActionPending => "No action pending — wait for your clock"
  | .notSeated => "Not seated"
  | .notYourTurn => "Not your turn"
  | .illegalAction action legalNow =>
      "Illegal action: " ++ action.name ++ ". Legal now: " ++
        if legalNow = [] then "none"
        else ", ".intercalate (legalNow.map PokerAction.name)

/-- `Number.MAX_SAFE_INTEGER`. -/
def maxSafeInteger : Int := 2 ^ 53 - 1

def SafeInteger (chips : Int) : Prop := -maxSafeInteger ≤ chips ∧ chips ≤ maxSafeInteger

instance (chips : Int) : Decidable (SafeInteger chips) := inferInstanceAs (Decidable (_ ∧ _))

def chipsToNumber (chips : Int) : Except TurnError Float :=
  if SafeInteger chips then
    .ok (if 0 ≤ chips then chips.toNat.toUInt64.toFloat
      else -(-chips).toNat.toUInt64.toFloat)
  else .error (.unsafeChips chips)

def chipsToUsd (chips : Int) : Except TurnError Float :=
  (chipsToNumber chips).map fun number => number / 100

/-- `Math.round(usd * 100)`, refused where it is not finite. -/
def usdToChips (usd : Float) : Except TurnError Int :=
  match mathRound (usd * 100) with
  | some chips => .ok chips
  | none => .error .notFinite

/-! ## Decisions -/

structure SeatDecision where
  action : PokerAction
  amount : Option Float
  reasonCode : String

/-- Whether the action is one of the offers. -/
def isOffered (legal : List LegalAction) (action : PokerAction) : Bool :=
  legal.any fun offer => offer.action = action

def findOffer (legal : List LegalAction) (action : PokerAction) :
    Option LegalAction :=
  legal.find? fun offer => offer.action = action

/-- An amount that may be absent, as dollars. -/
def amountUsd : Option Int → Except TurnError (Option Float)
  | none => .ok none
  | some chips => (chipsToUsd chips).map some

def amountChips : Option Float → Except TurnError (Option Int)
  | none => .ok none
  | some usd => (usdToChips usd).map some

/-- `fold ?? check ?? legal[0]`. -/
def foldFirst (legal : List LegalAction) (reasonCode : String) :
    Except TurnError SeatDecision :=
  let fallback :=
    (findOffer legal .fold).orElse fun _ =>
      (findOffer legal .check).orElse fun _ => legal.head?
  match fallback with
  | none => .ok ⟨.fold, none, reasonCode⟩
  | some offer =>
      (amountUsd offer.minAmount).map fun amount =>
        ⟨offer.action, amount, reasonCode⟩

/-- The decision when the clock of a player runs out. -/
def timeoutFallback (state : HoldemState seatCount) :
    Except TurnError SeatDecision :=
  foldFirst (getLegalActions state) "timeout_fallback"

/-- The decision when the turn of a player is cancelled. -/
def clearPendingHuman (legal : List LegalAction) (replaced : Bool) :
    Except TurnError SeatDecision :=
  foldFirst legal (if replaced then "turn_replaced" else "turn_cancelled")

/-- Raise an amount below a bound to it. -/
def atLeast : Option Int → Option Float → Except TurnError (Option Float)
  | some minAmount, some usd => do
      let chips ← usdToChips usd
      if chips < minAmount then amountUsd (some minAmount) else .ok (some usd)
  | _, amount => .ok amount

/-- Lower an amount above a bound to it. -/
def atMost : Option Int → Option Float → Except TurnError (Option Float)
  | some maxAmount, some usd => do
      let chips ← usdToChips usd
      if maxAmount < chips then amountUsd (some maxAmount) else .ok (some usd)
  | _, amount => .ok amount

/-- The amount that a player's action starts from, before it is bounded. -/
def askedAmount (offer : LegalAction) (amount : Option Float) : Except TurnError (Option Float) :=
  match offer.action, amount with
  | .bet, some usd => .ok (some usd)
  | .raise, some usd => .ok (some usd)
  | .allIn, some usd => .ok (some usd)
  | _, _ => amountUsd offer.minAmount

/-- The action of a player whose turn is pending at a seat. -/
def submitPlayerAction (state : HoldemState seatCount) (pendingSeat : Option (Fin seatCount))
    (userId : String) (action : PokerAction) (amount : Option Float) :
    Except TurnError SeatDecision :=
  match pendingSeat with
  | none => .error .noActionPending
  | some pending =>
      match (List.finRange seatCount).find? fun i =>
          (state.seats i).playerId = userId && !(state.seats i).sitOut
      with
      | none => .error .notSeated
      | some i =>
          if state.actingIndex ≠ some i ∨ pending ≠ i then
            .error .notYourTurn
          else
            match findOffer (getLegalActions state) action with
            | none =>
                .error (.illegalAction action ((getLegalActions state).map LegalAction.action))
            | some offer => do
                let asked ← askedAmount offer amount
                let raised ← atLeast offer.minAmount asked
                let bounded ← atMost offer.maxAmount raised
                return ⟨action, bounded, "human"⟩

/-! ## What happens while a turn is awaited -/

/-- A top-up between the read of the seat and the write of its stack. -/
structure BegunTopUp (seatCount : Nat) where
  seatIndex : Fin seatCount
  stack : Int
  chips : Nat
deriving DecidableEq

structure AwaitedTable (seatCount : Nat) where
  table : SitOuts.TableRuntime seatCount
  begun : List (BegunTopUp seatCount)

/-- The parts of top-ups, sit-outs and leaves between two awaits.  A leave
folds the seat, passes the turn, and clears the seat. -/
inductive AwaitedCall (seatCount : Nat) where
  | beginTopUp (userId : String) (chips : Nat) (opts : TopUpOptions)
  | writeTopUp (index : Nat)
  | setPlayerSitOut (userId : String) (sitOut : Bool)
  | foldLeaver (seatIndex : Fin seatCount)
  | passLeaver (seatIndex : Fin seatCount)
  | clearLeaver (seatIndex : Fin seatCount)
  | settleIfOnePlayerLeft
  | resetToWaiting

namespace AwaitedTable

variable (awaited : AwaitedTable seatCount)

def state : HoldemState seatCount := awaited.table.state

def withState (state : HoldemState seatCount) : AwaitedTable seatCount :=
  { awaited with table := { awaited.table with state } }

/-- The checks of a top-up, made on the seat it has read. -/
def beginTopUp (userId : String) (chips : Nat) (opts : TopUpOptions) :
    AwaitedTable seatCount :=
  match awaited.table.seatOf userId with
  | none => awaited
  | some i =>
      let stack := (awaited.state.seats i).stack
      if awaited.table.onchain ∧ ¬ opts.onchainRebuyDone ∨ awaited.table.maxStack < stack + chips ∨
          awaited.table.queuesTopUp opts ∨ userId = "" then
        awaited
      else { awaited with begun := awaited.begun ++ [⟨i, stack, chips⟩] }

/-- The write of a top-up, with the stack it has read. -/
def writeStack (state : HoldemState seatCount) (topUp : BegunTopUp seatCount) :
    HoldemState seatCount :=
  mapSeat state topUp.seatIndex fun seat =>
    { seat with
      stack := topUp.stack + topUp.chips
      sitOut := false
      folded := if state.street ≠ .waiting then seat.folded else false }

def writeTopUp (index : Nat) : AwaitedTable seatCount :=
  match awaited.begun[index]? with
  | none => awaited
  | some topUp =>
      { awaited.withState (writeStack awaited.state topUp) with
        begun := awaited.begun.eraseIdx index }

/-- Award the pot if one seat is left; a throw leaves the table alone. -/
def awardIfAlone (state : HoldemState seatCount) : HoldemState seatCount :=
  match settleIfOnePlayerLeft state with
  | some (.ok result) => result.1
  | _ => state

/-- A call that throws changes nothing. -/
def step : AwaitedCall seatCount → AwaitedTable seatCount
  | .beginTopUp userId chips opts => awaited.beginTopUp userId chips opts
  | .writeTopUp index => awaited.writeTopUp index
  | .setPlayerSitOut userId sitOut =>
      match awaited.table.setPlayerSitOut userId sitOut with
      | .ok table => { awaited with table }
      | .error _ => awaited
  | .foldLeaver seatIndex =>
      if awaited.state.midHand ∧ (awaited.state.seats seatIndex).folded = false then
        awaited.withState (awardIfAlone (foldSeat awaited.state seatIndex))
      else awaited
  | .passLeaver seatIndex =>
      awaited.withState (passLeaver awaited.state seatIndex)
  | .clearLeaver seatIndex =>
      awaited.withState (clearSeat awaited.state seatIndex)
  | .settleIfOnePlayerLeft =>
      awaited.withState (awardIfAlone awaited.state)
  | .resetToWaiting =>
      { awaited with table := awaited.table.resetToWaiting fun _ => none }

/-- Calls one after the other. -/
def run (calls : List (AwaitedCall seatCount)) : AwaitedTable seatCount := calls.foldl step awaited

end AwaitedTable

/-! ## The turn -/

/-- The repair of a decision whose action was not offered. -/
def repaired (legal : List LegalAction) (decided : SeatDecision) :
    Except TurnError SeatDecision :=
  if isOffered legal decided.action then .ok decided
  else foldFirst legal "forced_legal"

/-- `recordHandAction` is given the amount as a number. -/
def recordedAmount (amount : Option Int) : Except TurnError (Option Float) :=
  match amount with
  | none => .ok none
  | some chips => (chipsToNumber chips).map some

/-- The turn of the seat is over: `actForCurrent` returns. -/
def TurnOver (after : HoldemState seatCount) (seatIndex : Fin seatCount) :
    Prop :=
  after.actingIndex ≠ some seatIndex ∨ after.street = .waiting ∨ after.hasHandId = false

instance (after : HoldemState seatCount) (seatIndex : Fin seatCount) :
    Decidable (TurnOver after seatIndex) := inferInstanceAs (Decidable (_ ∨ _))

/-- What `actForCurrent` passes to `applyAction`, for the legal actions it
captured before it waited; nothing if it returns without applying. -/
def actForCurrent (before after : HoldemState seatCount) (seatIndex : Fin seatCount)
    (decided : SeatDecision) : Except TurnError (Option (PokerAction × Option Int)) :=
  let legal := getLegalActions before
  if legal = [] then .ok none
  else if TurnOver after seatIndex then .ok none
  else do
    let final ← repaired legal decided
    let amount ← amountChips final.amount
    let _ ← recordedAmount amount
    return some (final.action, amount)

/-- The turn does not void the hand: nothing is thrown, and what is passed to
`applyAction` is offered, with its amount within the bounds. -/
def KeepsHand (after : HoldemState seatCount)
    (outcome : Except TurnError (Option (PokerAction × Option Int))) : Prop :=
  match outcome with
  | .error _ => False
  | .ok none => True
  | .ok (some call) => PlayCall after (.applyAction call.1 call.2)

instance (after : HoldemState seatCount)
    (outcome : Except TurnError (Option (PokerAction × Option Int))) :
    Decidable (KeepsHand after outcome) :=
  match outcome with
  | .error _ => isFalse id
  | .ok none => isTrue trivial
  | .ok (some call) =>
      inferInstanceAs (Decidable (PlayCall after (.applyAction call.1 call.2)))

end Mozetto.GameServer.Turns
