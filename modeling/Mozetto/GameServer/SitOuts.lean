import Mozetto.Engine.NextBlinds
import Mozetto.Engine.ForcedFolds
import Mathlib.Data.Finset.Filter

/-!
# Sitting out and coming back

The seats of a running table: players sit out, ask to come back, add chips,
join and leave, and hands are dealt between them.  Who comes back waits for
the big blind.  Checks that only refuse a call (buy-in window, balance,
custody) are left out, and a hand is played by the calls of the runtime.
-/

namespace Mozetto.GameServer.SitOuts

open Mozetto.Engine
open Mozetto.Library.TransitionSystem

variable {seatCount : Nat}

/-! ## The table -/

/-- `maxStack` is the cap of 100 big blinds, in chips. -/
structure TableRuntime (seatCount : Nat) where
  onchain : Bool
  variantId : String
  maxStack : Int
  state : HoldemState seatCount
  awaitingBigBlind : List (Fin seatCount)

inductive SeatError where
  | notSeated
  | alreadySeated
  | noOpenSeat
  | seatNotAvailable (assignedSeat : Nat)
  | custodyPath
  | aboveTableCap
  | noActiveSession
  | handRunning
  | engine (err : EngineError)

structure TopUpOptions where
  forceImmediate : Bool
  onchainRebuyDone : Bool

namespace TableRuntime

variable (table : TableRuntime seatCount)

def isHeadsUpTable : Bool :=
  table.variantId = "nlhe_hu" || seatCount = 2

def seatOf (userId : String) : Option (Fin seatCount) :=
  (List.finRange seatCount).find? fun i =>
    (table.state.seats i).playerId = userId

/-- `awaitingBigBlind` is a set that remembers the order of insertion. -/
def await (i : Fin seatCount) : TableRuntime seatCount :=
  { table with
    awaitingBigBlind :=
      if table.awaitingBigBlind.contains i then table.awaitingBigBlind
      else table.awaitingBigBlind ++ [i] }

def dropAwaiting (i : Fin seatCount) : TableRuntime seatCount :=
  { table with
    awaitingBigBlind := table.awaitingBigBlind.filter fun j => j ≠ i }

/-- A seat is dealt in again. -/
def letIn (i : Fin seatCount) : TableRuntime seatCount :=
  { table.dropAwaiting i with state := setSitOut table.state i false }

/-- Sit out, or come back: at once for the big blind, else wait for it. -/
def setPlayerSitOut (userId : String) (sitOut : Bool) : Except SeatError (TableRuntime seatCount) :=
  match table.seatOf userId with
  | none => .error .notSeated
  | some i =>
      if sitOut then
        .ok { table.dropAwaiting i with state := setSitOut table.state i true }
      else if nextBigBlind table.state [i] = some i then
        .ok (table.letIn i)
      else .ok (table.await i)

def releaseSeat (i : Fin seatCount) : TableRuntime seatCount :=
  let seat := table.state.seats i
  if seat.playerId = "" ∨ seat.stack ≤ 0 then table.dropAwaiting i
  else if nextBigBlind table.state [i] = some i then table.letIn i
  else table

def releaseSeatsAwaitingBigBlind : TableRuntime seatCount :=
  table.awaitingBigBlind.foldl releaseSeat table

/-- A top-up during a hand is queued for the next epoch. -/
def queuesTopUp (opts : TopUpOptions) : Bool :=
  table.state.midHand && !opts.forceImmediate && !table.onchain

/-- A busted seat between hands waits, if others can bring the blind around. -/
def waitsAfterTopUp (i : Fin seatCount) : Bool :=
  let otherActive := seatsWith table.state.seats SeatState.eligible |>.filter fun j => j ≠ i
  (table.state.seats i).stack ≤ 0 && table.state.street = .waiting &&
    !(table.isHeadsUpTable || otherActive.length < 2)

/-- The new chips let the seat in, unless it is told to wait. -/
def addChips (i : Fin seatCount) (chips : Int) : TableRuntime seatCount :=
  let seat := table.state.seats i
  let nextStack := seat.stack + chips
  let paid :=
    mapSeat table.state i fun s =>
      { s with
        stack := nextStack
        sitOut := false
        folded := if table.state.street ≠ .waiting then s.folded else false }
  if table.waitsAfterTopUp i then
    { table.await i with
      state :=
        mapSeat paid i fun s =>
          { s with
            stack := nextStack
            sitOut := true
            folded := true
            hole := none } }
  else if seat.stack ≤ 0 ∧ table.state.street = .waiting then
    { table.dropAwaiting i with state := paid }
  else { table with state := paid }

/-- Nobody has a session under the empty name. -/
def topUp (userId : String) (chips : Nat) (opts : TopUpOptions) :
    Except SeatError (TableRuntime seatCount) :=
  match table.seatOf userId with
  | none => .error .notSeated
  | some i =>
      if table.onchain ∧ ¬ opts.onchainRebuyDone then .error .custodyPath
      else if table.maxStack < (table.state.seats i).stack + chips then
        .error .aboveTableCap
      else if table.queuesTopUp opts then .ok table
      else if userId = "" then .error .noActiveSession
      else .ok (table.addChips i chips)

/-- A join during a hand is queued; the idempotent one changes nothing. -/
def joinUnlocked (userId agentId : String) (buyIn : Int) (assignedSeat : Option Nat)
    (forceImmediate : Bool) : Except SeatError (TableRuntime seatCount) :=
  let already :=
    (List.finRange seatCount).any fun i =>
      (table.state.seats i).playerId = userId && !(table.state.seats i).sitOut
  if already then .ok table
  else if (table.seatOf userId).isSome then .error .alreadySeated
  else if table.state.midHand && !forceImmediate then .ok table
  else
    match (List.finRange seatCount).find? fun i =>
        (assignedSeat.all fun seat => i.val = seat) &&
          (table.state.seats i).playerId = ""
    with
    | none =>
        .error (assignedSeat.elim .noOpenSeat .seatNotAvailable)
    | some empty =>
        .ok
          { table with
            state := seatPlayer table.state empty userId agentId buyIn }

/-- Leaving once the seat has been folded; during a hand it is queued. -/
def leaveUnlocked (userId : String) (forceImmediate : Bool) :
    Except SeatError (TableRuntime seatCount) :=
  match table.seatOf userId with
  | none => .ok table
  | some i =>
      if userId = "" then .ok table
      else if table.state.midHand && !forceImmediate then .ok table
      else .ok { table with state := clearSeat table.state i }

/-- Broke players sit out until they top up. -/
def sitOutBroke : TableRuntime seatCount :=
  { table with
    state :=
      { table.state with
        seats := fun i =>
          let s := table.state.seats i
          if s.playerId ≠ "" ∧ s.stack ≤ 0 then
            { s with sitOut := true, folded := true, hole := none }
          else s } }

def resetToWaiting (restoreStacks : Fin seatCount → Option Int) :
    TableRuntime seatCount :=
  { table with
    state :=
      { table.state with
        street := .waiting
        handId := none
        actingIndex := none
        board := []
        pot := 0
        currentBet := 0
        winners := []
        deck := []
        seats := fun i =>
          let s := table.state.seats i
          let stack := (restoreStacks i).getD s.stack
          { s with
            stack := stack
            bet := 0
            totalBet := 0
            hole := none
            folded := s.sitOut || s.playerId = "" || stack ≤ 0
            allIn := false } } }

end TableRuntime

/-! ## Runs of a table -/

/-- What happens at a table.  A hand begins with the release of the seats that
wait, goes on with queued changes of the seats, and ends with the deal. -/
inductive SeatCall (seatCount : Nat) where
  | setPlayerSitOut (userId : String) (sitOut : Bool)
  | topUp (userId : String) (chips : Nat) (opts : TopUpOptions)
  | join (userId agentId : String) (buyIn : Int) (assignedSeat : Option Nat) (forceImmediate : Bool)
  | leave (userId : String) (forceImmediate : Bool)
  | releaseSeatsAwaitingBigBlind
  | deal (handNumber : Nat) (seed name : String)
  | play (call : RuntimeCall seatCount)
  | sitOutBroke
  | resetToWaiting (restoreStacks : Fin seatCount → Option Int)

/-- The deal of `beginHand`, between hands; `name` is the rest of the hand's
identifier. -/
def TableRuntime.deal (hashes : Hashes) (table : TableRuntime seatCount)
    (handNumber : Nat) (seed name : String) : Transition seatCount :=
  startHand hashes { table.state with handNumber := handNumber } seed
    ("hand_" ++ name)

def SeatCall.perform (hashes : Hashes) (table : TableRuntime seatCount) :
    SeatCall seatCount → Except SeatError (TableRuntime seatCount)
  | .setPlayerSitOut userId sitOut => table.setPlayerSitOut userId sitOut
  | .topUp userId chips opts => table.topUp userId chips opts
  | .join userId agentId buyIn assignedSeat forceImmediate =>
      table.joinUnlocked userId agentId buyIn assignedSeat forceImmediate
  | .leave userId forceImmediate => table.leaveUnlocked userId forceImmediate
  | .releaseSeatsAwaitingBigBlind => .ok table.releaseSeatsAwaitingBigBlind
  | .deal handNumber seed name =>
      if table.state.midHand then .error .handRunning
      else
        ((table.deal hashes handNumber seed name).mapError .engine).map
          fun result => { table with state := result.1 }
  | .play call =>
      ((runtimeStep table.state call).mapError .engine).map fun state =>
        { table with state := state }
  | .sitOutBroke => .ok table.sitOutBroke
  | .resetToWaiting restoreStacks => .ok (table.resetToWaiting restoreStacks)

/-- A table, and the seats whose players sat out while a hand was dealt and
have not been dealt in since. -/
structure SeatHistory (seatCount : Nat) where
  table : TableRuntime seatCount
  missed : Finset (Fin seatCount)

/-- A deal is missed by who sits out; otherwise a seat is forgotten when its
player changes. -/
def SeatHistory.missedAfter (run : SeatHistory seatCount) (after : TableRuntime seatCount) :
    SeatCall seatCount → Finset (Fin seatCount)
  | .deal _ _ _ =>
      Finset.univ.filter fun i =>
        (run.table.state.seats i).playerId ≠ "" ∧ (run.table.state.seats i).eligible = false ∧
          ((run.table.state.seats i).sitOut = true ∨ i ∈ run.missed)
  | _ =>
      run.missed.filter fun i =>
        (after.state.seats i).playerId = (run.table.state.seats i).playerId

def SeatHistory.step (hashes : Hashes) (run : SeatHistory seatCount)
    (call : SeatCall seatCount) : Except SeatError (SeatHistory seatCount) :=
  (call.perform hashes run.table).map fun after =>
    ⟨after, run.missedAfter after call⟩

/-- Tables from the moment they are loaded: nobody has missed a hand. -/
def tableRuns (hashes : Hashes) (seatCount : Nat) :
    System (SeatHistory seatCount) (SeatCall seatCount) SeatError where
  initial run :=
    run.missed = ∅ ∧ run.table.awaitingBigBlind = [] ∧
      run.table.state.midHand = false ∧ VacantSitOut run.table.state.seats
  step := SeatHistory.step hashes

/-! ## Nobody dodges the big blind -/

/-- The seats that are dealt cards. -/
def dealtSeats : EngineEvent seatCount → List (Fin seatCount)
  | .holeCardsDealt cards => cards.map Prod.fst
  | _ => []

def bigBlindOf : EngineEvent seatCount → Option (Fin seatCount)
  | .blindsPosted _ bigBlind _ => some bigBlind.1
  | _ => none

/-- A seat is dealt cards in a hand. -/
def DealtIn (events : List (EngineEvent seatCount)) (i : Fin seatCount) :
    Prop :=
  ∃ event ∈ events, i ∈ dealtSeats event

def PostsBigBlind (events : List (EngineEvent seatCount)) (i : Fin seatCount) : Prop :=
  ∃ event ∈ events, bigBlindOf event = some i

instance (events : List (EngineEvent seatCount)) (i : Fin seatCount) :
    Decidable (DealtIn events i) :=
  inferInstanceAs (Decidable (∃ event ∈ events, i ∈ dealtSeats event))

instance (events : List (EngineEvent seatCount)) (i : Fin seatCount) :
    Decidable (PostsBigBlind events i) :=
  inferInstanceAs (Decidable (∃ event ∈ events, bigBlindOf event = some i))

/-- Whoever missed a hand posts the big blind in the next one, if dealt in. -/
def NoDodge (hashes : Hashes) (run : SeatHistory seatCount) : Prop :=
  ∀ handNumber seed name after events, run.table.state.midHand = false →
      run.table.deal hashes handNumber seed name = .ok (after, events) →
      ∀ i ∈ run.missed, DealtIn events i → PostsBigBlind events i

/-- More than two seats are dealt in at every deal. -/
def SeatCall.Crowded (run : SeatHistory seatCount) : SeatCall seatCount → Prop
  | .deal _ _ _ =>
      2 < (seatsWith run.table.state.seats SeatState.eligible).length
  | _ => True

/-- The seats that a release lets in. -/
def TableRuntime.released (table : TableRuntime seatCount) : List (Fin seatCount) :=
  (List.finRange seatCount).filter fun i =>
    (table.state.seats i).sitOut && !(table.releaseSeatsAwaitingBigBlind.state.seats i).sitOut

/-- A seat that missed a hand does not come back without waiting. -/
def SeatCall.Waits (run : SeatHistory seatCount) : SeatCall seatCount → Prop
  | .topUp userId _ opts =>
      ∀ i ∈ run.table.seatOf userId, i ∈ run.missed → (run.table.state.seats i).sitOut = true →
          run.table.queuesTopUp opts = true ∨ run.table.waitsAfterTopUp i = true
  | .releaseSeatsAwaitingBigBlind => run.table.released.length ≤ 1
  | _ => True

/-- The big blind stays with every seat that is back and has yet to post it,
once no hand is running. -/
def SeatHistory.StaysBigBlind
    (run : SeatHistory seatCount) (after : TableRuntime seatCount) : Prop :=
  after.state.midHand = false → ∀ i ∈ run.missed, (run.table.state.seats i).sitOut = false →
        (after.state.seats i).eligible = true → nextBigBlind after.state [] = some i

/-- A call that lets nobody come back for free. -/
structure SeatCall.Fair (hashes : Hashes) (run : SeatHistory seatCount)
    (call : SeatCall seatCount) : Prop where
  waits : call.Waits run
  stays : ∀ after, call.perform hashes run.table = .ok after → run.StaysBigBlind after

instance (run : SeatHistory seatCount) (call : SeatCall seatCount) : Decidable (call.Crowded run) :=
  match call with
  | .deal _ _ _ =>
      inferInstanceAs (Decidable (2 < (seatsWith run.table.state.seats SeatState.eligible).length))
  | .setPlayerSitOut _ _ | .topUp _ _ _ | .join _ _ _ _ _ | .leave _ _
  | .releaseSeatsAwaitingBigBlind | .play _ | .sitOutBroke
  | .resetToWaiting _ => isTrue trivial

instance (run : SeatHistory seatCount) (call : SeatCall seatCount) : Decidable (call.Waits run) :=
  match call with
  | .topUp userId _ opts =>
      inferInstanceAs (Decidable (∀ i ∈ run.table.seatOf userId,
            i ∈ run.missed → (run.table.state.seats i).sitOut = true →
              run.table.queuesTopUp opts = true ∨ run.table.waitsAfterTopUp i = true))
  | .releaseSeatsAwaitingBigBlind =>
      inferInstanceAs (Decidable (run.table.released.length ≤ 1))
  | .setPlayerSitOut _ _ | .join _ _ _ _ _ | .leave _ _ | .deal _ _ _
  | .play _ | .sitOutBroke | .resetToWaiting _ => isTrue trivial

instance (run : SeatHistory seatCount) (after : TableRuntime seatCount) :
    Decidable (run.StaysBigBlind after) :=
  inferInstanceAs (Decidable (after.state.midHand = false → ∀ i ∈ run.missed,
          (run.table.state.seats i).sitOut = false → (after.state.seats i).eligible = true →
            nextBigBlind after.state [] = some i))

theorem mem_toOption_iff {ε σ : Type} {result : Except ε σ} {value : σ} :
    value ∈ result.toOption ↔ result = .ok value := by
  cases result with
  | error err => simp [Except.toOption]
  | ok other => simp [Except.toOption]

instance (hashes : Hashes) (run : SeatHistory seatCount)
    (call : SeatCall seatCount) : Decidable (call.Fair hashes run) :=
  decidable_of_iff (call.Waits run ∧ ∀ after ∈ (call.perform hashes run.table).toOption,
        run.StaysBigBlind after) ⟨fun fair =>
        ⟨fair.1, fun after performed =>
          fair.2 after (mem_toOption_iff.mpr performed)⟩,
      fun fair =>
        ⟨fair.waits, fun after mem =>
          fair.stays after (mem_toOption_iff.mp mem)⟩⟩

end Mozetto.GameServer.SitOuts
