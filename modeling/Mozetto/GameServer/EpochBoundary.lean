import Mozetto.Database.EpochRotation
import Mozetto.GameServer.SitOuts
import Mozetto.GameServer.TableEscrow

/-!
# Applying an epoch boundary

`applyEpochBoundary` of the game server: the plan of the queued seat changes
is written down as applied, and then carried out with the operations of the
table.  A top-up that is refused throws and ends the boundary, a join that is
refused is only logged.  Queries and the event log are taken to succeed.
-/

namespace Mozetto.GameServer.Boundary

open Mozetto.Engine
open Mozetto.Database

variable {seatCount : Nat}

/-! ## The table -/

/-- What is known of the custody session of a table.  `openSession` is the
session of the table if it is opened or playing, `loadable` the one that
`loadOnchainSession` would find. -/
structure Custody where
  sessionId : Option String
  loadable : Option String
  openSession : Option String
  disableNewSeats : Bool
  pauseAfterHand : Bool
  sealedPlayers : List String
  finishedPlayers : List String
  handsDealt : Bool
  ticketsQueued : Bool

/-- A running table with its limits in dollars, the users with an active
session, and what `lockBuyIn` finds available to them, in cents. -/
structure BoundaryTable (seatCount : Nat) where
  table : SitOuts.TableRuntime seatCount
  matchClosed : Bool
  minBuyIn : Float
  maxBuyIn : Float
  bigBlind : Float
  sessions : String → Bool
  available : String → Int
  custody : Custody

inductive BoundaryError where
  | invalidTopUp
  | notSeated
  | custodyPath
  | aboveTableCap
  | noActiveSession
  | insufficientBalance
  | buyInOutOfRange
  | matchOver
  | sessionNotOpen
  | sealedTable
  | alreadyLeft
  | alreadySeated
  | seatNotAvailable
deriving DecidableEq, Repr

/-- `Math.round(usd * 100)`; columns hold finite numbers. -/
def usdToChips (usd : Float) : Int := (mathRound (usd * 100)).getD 0

namespace BoundaryTable

variable (game : BoundaryTable seatCount)

def seat (i : Fin seatCount) : SeatState := game.table.state.seats i

def withState (state : HoldemState seatCount) : BoundaryTable seatCount :=
  { game with table := { game.table with state := state } }

/-- The seats with a player. -/
def occupied : List (Fin seatCount) :=
  seatsWith game.table.state.seats fun seat => seat.playerId ≠ ""

def epochParticipants : List EpochParticipant :=
  game.occupied.map fun i =>
    { ownerId := (game.seat i).playerId
      seatIndex := i.val
      stack := Float.ofInt (game.seat i).stack
      allIn := (game.seat i).allIn
      agentId := some (game.seat i).agentId }

/-- `loadOnchainSession`, where no session is known yet. -/
def loadOnchainSession : BoundaryTable seatCount :=
  { game with
    custody :=
      { game.custody with
        sessionId := game.custody.sessionId.or game.custody.loadable } }

/-! ## Leaving -/

/-- The cash-out of everybody left, when the match is closed. -/
def vacateAll : BoundaryTable seatCount :=
  let state := game.table.state
  let cleared :=
    { state with
      seats := fun i =>
        if (state.seats i).playerId = "" then state.seats i
        else (clearSeat state i).seats i }
  { game with
    table := { game.table with state := cleared }.resetToWaiting fun _ => none
    matchClosed := true
    sessions := fun userId =>
      game.sessions userId && (game.table.seatOf userId).isNone }

def closeOnchainTableAfterUndermannedLeave : BoundaryTable seatCount :=
  let loaded := game.loadOnchainSession
  if loaded.custody.sessionId = none then loaded
  else if !game.custody.handsDealt && game.custody.ticketsQueued then loaded
  else loaded.vacateAll

/-- The seat is cleared, and the stack released to its player. -/
def vacate (userId : String) (i : Fin seatCount) :
    BoundaryTable seatCount :=
  let stack := (game.seat i).stack
  let cleared := game.withState (clearSeat game.table.state i)
  { cleared with
    sessions := Function.update game.sessions userId false
    available :=
      if game.sessions userId ∧ 0 < stack ∧ ¬ game.table.onchain then
        Function.update game.available userId (game.available userId + stack)
      else game.available }

/-- A street without a hand is cleaned up when fewer than two can play. -/
def resetIfAlone : BoundaryTable seatCount :=
  let remaining := seatsWith game.table.state.seats SeatState.eligible
  if remaining.length < 2 ∧ game.table.state.street ≠ .waiting ∧
      game.table.state.street ≠ .settlement then
    { game with table := game.table.resetToWaiting fun _ => none }
  else game

/-- `leaveUnlocked` between hands. -/
def leaveUnlocked (userId : String) : BoundaryTable seatCount :=
  match (game.table.seatOf userId).filter fun i =>
      (game.seat i).playerId ≠ "" with
  | none =>
      let closed := { game with sessions := Function.update game.sessions userId false }
      if game.table.onchain then closed.loadOnchainSession else closed
  | some i =>
      let left := (game.vacate userId i).resetIfAlone
      let seatedAfter := left.occupied.length
      if left.table.onchain ∧ (seatedAfter = 0 ∨ left.table.isHeadsUpTable ∧ seatedAfter < 2) then
        left.closeOnchainTableAfterUndermannedLeave
      else left

/-! ## Topping up -/

/-- Why `topUp` throws.  The boundary does not say that custody was paid. -/
def topUpRefusal (userId : String) (amount : Float) : Option BoundaryError :=
  if ¬ 0 < amount then some .invalidTopUp
  else
    match game.table.seatOf userId with
    | none => some .notSeated
    | some i =>
        let maxStackUsd := game.bigBlind * 100
        let currentUsd := chipsToUsd (game.seat i).stack.toNat
        if game.table.onchain then some .custodyPath
        else if maxStackUsd + 1e-9 < currentUsd + amount then
          some .aboveTableCap
        else if ¬ game.sessions userId then some .noActiveSession
        else if game.available userId < usdToChips amount then
          some .insufficientBalance
        else none

/-- The chips of a top-up that is not refused. -/
def payTopUp (userId : String) (amount : Float) : BoundaryTable seatCount :=
  match game.table.seatOf userId with
  | none => game
  | some i =>
      { game with
        table := game.table.addChips i (usdToChips amount)
        available :=
          Function.update game.available userId (game.available userId - usdToChips amount) }

def topUp (userId : String) (amount : Float) : Except BoundaryError (BoundaryTable seatCount) :=
  match game.topUpRefusal userId amount with
  | some err => .error err
  | none => .ok (game.payTopUp userId amount)

/-! ## Joining -/

/-- The checks of a join before it takes over the session of the table. -/
def earlyRefusal (buyIn : Float) : Option BoundaryError :=
  if buyIn < game.minBuyIn ∨ game.maxBuyIn < buyIn then
    some .buyInOutOfRange
  else if game.matchClosed then some .matchOver
  else if game.table.onchain ∧ game.custody.openSession = none then
    some .sessionNotOpen
  else none

/-- A new session of the table opens its match again. -/
def takeSession : BoundaryTable seatCount :=
  if game.table.onchain then
    { game with
      matchClosed :=
        game.matchClosed && (game.custody.sessionId = none ||
            game.custody.sessionId = game.custody.openSession)
      custody := { game.custody with sessionId := game.custody.openSession } }
  else game

def alreadySeated (userId : String) : Bool :=
  (List.finRange seatCount).any fun i =>
    (game.seat i).playerId = userId && !(game.seat i).sitOut

def emptySeat (assignedSeat : Int) : Option (Fin seatCount) :=
  (List.finRange seatCount).find? fun i =>
    (i.val : Int) = assignedSeat && (game.seat i).playerId = ""

/-- The checks of a join that come after. -/
def lateRefusal (userId : String) (buyIn : Float) (assignedSeat : Int) :
    Option BoundaryError :=
  let sealedTable :=
    game.table.onchain && game.table.isHeadsUpTable && game.custody.sealedPlayers ≠ []
  if sealedTable ∧ userId ∉ game.custody.sealedPlayers then
    some .sealedTable
  else if sealedTable ∧ userId ∈ game.custody.finishedPlayers then
    some .alreadyLeft
  else if game.alreadySeated userId then none
  else if (game.table.seatOf userId).isSome then some .alreadySeated
  else if game.emptySeat assignedSeat = none then some .seatNotAvailable
  else if game.available userId < usdToChips buyIn then
    some .insufficientBalance
  else none

/-- The player sits down with the buy-in. -/
def seatJoiner (userId agentId : String) (buyIn : Float) (assignedSeat : Int) :
    BoundaryTable seatCount :=
  match game.emptySeat assignedSeat with
  | none => game
  | some i =>
      { game.withState (seatPlayer game.table.state i userId agentId (usdToChips buyIn)) with
        sessions := Function.update game.sessions userId true
        available :=
          Function.update game.available userId (game.available userId - usdToChips buyIn) }

/-- `joinUnlocked` at a boundary: the table it leaves, and what it throws. -/
def joinUnlocked (userId agentId : String) (buyIn : Float) (assignedSeat : Int) :
    BoundaryTable seatCount × Option BoundaryError :=
  match game.earlyRefusal buyIn with
  | some err => (game, some err)
  | none =>
      let game := game.takeSession
      match game.lateRefusal userId buyIn assignedSeat with
      | some err => (game, some err)
      | none =>
          if game.alreadySeated userId then (game, none)
          else (game.seatJoiner userId agentId buyIn assignedSeat, none)

end BoundaryTable

/-! ## The boundary -/

/-- `String(payload.agentConfigId ?? "")` of a payload. -/
abbrev PayloadReader := String → String

def agentConfigOf (reader : PayloadReader) (change : QueuedSeatChange) :
    String :=
  change.agentConfigId.getD (reader change.payload)

namespace BoundaryTable

variable (game : BoundaryTable seatCount)

/-- The plan of `rotateEpochAtBoundary`, which has marked its `appliedIds`. -/
def plan (localeCompare : String → String → Int) (currentEpoch : Nat)
    (pending : List QueuedSeatChange) : EpochBoundaryPlan :=
  planEpochBoundary localeCompare currentEpoch
    (game.epochParticipants.map fun p => { p with allIn := false }) pending seatCount

def applyLeave (leave : QueuedSeatChange) : BoundaryTable seatCount :=
  game.leaveUnlocked leave.ownerId

/-- The first top-up that is refused throws out of the loop. -/
def applyTopUps : BoundaryTable seatCount → List QueuedSeatChange →
    BoundaryTable seatCount × Option BoundaryError
  | game, [] => (game, none)
  | game, top :: topUps =>
      let amount := top.amount.getD 0
      if 0 < amount then
        match game.topUp top.ownerId amount with
        | .error err => (game, some err)
        | .ok after => applyTopUps after topUps
      else applyTopUps game topUps

def controlBlocksJoins : Bool :=
  game.custody.sessionId ≠ none && (game.custody.disableNewSeats || game.custody.pauseAfterHand)

/-- A queued join that is passed over. -/
def skips (reader : PayloadReader) (blocked : Bool) (join : QueuedSeatChange) :
    Bool :=
  game.matchClosed || blocked || !decide (0 < join.amount.getD 0) ||
    join.agentId.getD "" = "" || agentConfigOf reader join = ""

/-- A join that throws is logged. -/
def applyJoin (reader : PayloadReader) (blocked : Bool)
    (game : BoundaryTable seatCount) (join : QueuedSeatChange) :
    BoundaryTable seatCount :=
  if game.skips reader blocked join then game
  else
    (game.joinUnlocked join.ownerId (join.agentId.getD "")
      (join.amount.getD 0) (join.seatIndex.getD 0)).1

/-- Carrying out a plan: the table it leaves, and what it throws. -/
def carryOut (reader : PayloadReader) (plan : EpochBoundaryPlan) :
    BoundaryTable seatCount × Option BoundaryError :=
  let left := plan.leaves.foldl applyLeave game
  let topped := applyTopUps left plan.topUps
  if topped.2 = none then
    let blocked := topped.1.controlBlocksJoins
    (plan.joins.foldl (applyJoin reader blocked) topped.1, none)
  else topped

/-- Nothing is planned in the middle of a hand. -/
def applyEpochBoundary (localeCompare : String → String → Int) (reader : PayloadReader)
    (currentEpoch : Nat) (pending : List QueuedSeatChange) :
    BoundaryTable seatCount × Option BoundaryError :=
  if game.table.state.midHand then (game, none)
  else game.carryOut reader (game.plan localeCompare currentEpoch pending)

end BoundaryTable

/-! ## What a boundary records -/

/-- The chips that a plan adds for a player. -/
def toppedUp (topUps : List QueuedSeatChange) (ownerId : String) : Int :=
  ((topUps.filter fun top => top.ownerId = ownerId).map fun top =>
    usdToChips (top.amount.getD 0)).sum

/-- The leaver's seat is empty, or somebody was planned to take it. -/
def LeftTable (before after : BoundaryTable seatCount) (plan : EpochBoundaryPlan)
    (ownerId : String) : Prop :=
  ∀ i, (before.seat i).playerId = ownerId →
    (after.seat i).playerId = "" ∨ ∃ join ∈ plan.joins, join.seatIndex = some (i.val : Int) ∧
          (after.seat i).playerId = join.ownerId

/-- The stack has grown by the top-ups planned for it. -/
def StackGrown (before after : BoundaryTable seatCount) (plan : EpochBoundaryPlan)
    (ownerId : String) : Prop :=
  ∃ i, (before.seat i).playerId = ownerId ∧ (after.seat i).playerId = ownerId ∧
      (after.seat i).stack = (before.seat i).stack + toppedUp plan.topUps ownerId

/-- The joiner sits in the planned seat with the planned buy-in. -/
def SatDown (after : BoundaryTable seatCount) (planned : QueuedSeatChange) : Prop :=
  ∃ i : Fin seatCount, planned.seatIndex = some (i.val : Int) ∧
      (after.seat i).playerId = planned.ownerId ∧
      (after.seat i).stack = usdToChips (planned.amount.getD 0)

/-- A change has taken effect at the table. -/
def TookEffect (before after : BoundaryTable seatCount) (plan : EpochBoundaryPlan)
    (change : QueuedSeatChange) : Prop :=
  match change.changeType with
  | .leave => LeftTable before after plan change.ownerId
  | .topUp => StackGrown before after plan change.ownerId
  | .join =>
      ∃ planned ∈ plan.joins, planned.id = change.id ∧ SatDown after planned

/-- Every change that a boundary marks as applied has taken effect. -/
def DoesWhatItRecords (before after : BoundaryTable seatCount) (plan : EpochBoundaryPlan)
    (pending : List QueuedSeatChange) : Prop :=
  ∀ change ∈ pending, change.id ∈ plan.appliedIds → TookEffect before after plan change

instance (before after : BoundaryTable seatCount) (plan : EpochBoundaryPlan)
    (ownerId : String) : Decidable (LeftTable before after plan ownerId) :=
  inferInstanceAs (Decidable (∀ i, (before.seat i).playerId = ownerId →
        (after.seat i).playerId = "" ∨ ∃ join ∈ plan.joins, join.seatIndex = some (i.val : Int) ∧
              (after.seat i).playerId = join.ownerId))

instance (before after : BoundaryTable seatCount) (plan : EpochBoundaryPlan)
    (ownerId : String) : Decidable (StackGrown before after plan ownerId) :=
  inferInstanceAs (Decidable (∃ i, (before.seat i).playerId = ownerId ∧
          (after.seat i).playerId = ownerId ∧ (after.seat i).stack =
            (before.seat i).stack + toppedUp plan.topUps ownerId))

instance (after : BoundaryTable seatCount) (planned : QueuedSeatChange) :
    Decidable (SatDown after planned) :=
  inferInstanceAs (Decidable (∃ i : Fin seatCount, planned.seatIndex = some (i.val : Int) ∧
          (after.seat i).playerId = planned.ownerId ∧
          (after.seat i).stack = usdToChips (planned.amount.getD 0)))

instance (before after : BoundaryTable seatCount) (plan : EpochBoundaryPlan)
    (change : QueuedSeatChange) : Decidable (TookEffect before after plan change) :=
  match kind : change.changeType with
  | .leave =>
      decidable_of_iff (LeftTable before after plan change.ownerId)
        (by simp only [TookEffect, kind])
  | .topUp =>
      decidable_of_iff (StackGrown before after plan change.ownerId)
        (by simp only [TookEffect, kind])
  | .join =>
      decidable_of_iff (∃ planned ∈ plan.joins, planned.id = change.id ∧ SatDown after planned)
        (by simp only [TookEffect, kind])

instance (before after : BoundaryTable seatCount) (plan : EpochBoundaryPlan)
    (pending : List QueuedSeatChange) : Decidable (DoesWhatItRecords before after plan pending) :=
  inferInstanceAs (Decidable (∀ change ∈ pending, change.id ∈ plan.appliedIds →
          TookEffect before after plan change))

/-! ## No change is refused -/

/-- No top-up is refused when its turn comes. -/
def TopUpsAccepted : BoundaryTable seatCount → List QueuedSeatChange → Prop
  | _, [] => True
  | game, top :: topUps =>
      game.topUpRefusal top.ownerId (top.amount.getD 0) = none ∧
        TopUpsAccepted (game.payTopUp top.ownerId (top.amount.getD 0)) topUps

/-- The table after top-ups that are not refused. -/
def payTopUps (game : BoundaryTable seatCount) (topUps : List QueuedSeatChange) :
    BoundaryTable seatCount :=
  topUps.foldl (fun game top => game.payTopUp top.ownerId (top.amount.getD 0)) game

/-- A join that is carried out. -/
def JoinAccepted (reader : PayloadReader) (blocked : Bool)
    (game : BoundaryTable seatCount) (join : QueuedSeatChange) : Prop :=
  game.skips reader blocked join = false ∧ game.earlyRefusal (join.amount.getD 0) = none ∧
    game.takeSession.alreadySeated join.ownerId = false ∧
    game.takeSession.lateRefusal join.ownerId (join.amount.getD 0) (join.seatIndex.getD 0) = none

instance (reader : PayloadReader) (blocked : Bool)
    (game : BoundaryTable seatCount) (join : QueuedSeatChange) :
    Decidable (JoinAccepted reader blocked game join) :=
  inferInstanceAs (Decidable (_ = _ ∧ _ = _ ∧ _ = _ ∧ _ = _))

/-- No join is passed over or refused when its turn comes. -/
def JoinsAccepted (reader : PayloadReader) (blocked : Bool) :
    BoundaryTable seatCount → List QueuedSeatChange → Prop
  | _, [] => True
  | game, join :: joins =>
      JoinAccepted reader blocked game join ∧ JoinsAccepted reader blocked
          (game.takeSession.seatJoiner join.ownerId (join.agentId.getD "")
            (join.amount.getD 0) (join.seatIndex.getD 0))
          joins

/-- No planned change is refused. -/
def PlanAccepted (reader : PayloadReader) (game : BoundaryTable seatCount)
    (plan : EpochBoundaryPlan) : Prop :=
  let left := plan.leaves.foldl BoundaryTable.applyLeave game
  let topped := payTopUps left plan.topUps
  TopUpsAccepted left plan.topUps ∧ JoinsAccepted reader topped.controlBlocksJoins topped plan.joins

def decideTopUpsAccepted (topUps : List QueuedSeatChange) : ∀ game : BoundaryTable seatCount,
    Decidable (TopUpsAccepted game topUps) :=
  match topUps with
  | [] => fun _ => isTrue trivial
  | _ :: topUps => fun _ =>
      let _ := fun game : BoundaryTable seatCount =>
        decideTopUpsAccepted topUps game
      inferInstanceAs (Decidable (_ = _ ∧ TopUpsAccepted _ topUps))

def decideJoinsAccepted (reader : PayloadReader) (blocked : Bool) (joins : List QueuedSeatChange) :
    ∀ game : BoundaryTable seatCount, Decidable (JoinsAccepted reader blocked game joins) :=
  match joins with
  | [] => fun _ => isTrue trivial
  | _ :: joins => fun _ =>
      let _ := fun game : BoundaryTable seatCount =>
        decideJoinsAccepted reader blocked joins game
      inferInstanceAs (Decidable (JoinAccepted _ _ _ _ ∧ JoinsAccepted reader blocked _ joins))

instance (game : BoundaryTable seatCount) (topUps : List QueuedSeatChange) :
    Decidable (TopUpsAccepted game topUps) := decideTopUpsAccepted topUps game

instance (reader : PayloadReader) (blocked : Bool)
    (game : BoundaryTable seatCount) (joins : List QueuedSeatChange) :
    Decidable (JoinsAccepted reader blocked game joins) :=
  decideJoinsAccepted reader blocked joins game

instance (reader : PayloadReader) (game : BoundaryTable seatCount) (plan : EpochBoundaryPlan) :
    Decidable (PlanAccepted reader game plan) :=
  inferInstanceAs (Decidable (TopUpsAccepted _ _ ∧ JoinsAccepted _ _ _ _))

end Mozetto.GameServer.Boundary
