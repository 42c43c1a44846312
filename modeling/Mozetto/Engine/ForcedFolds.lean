import Mozetto.Engine.Termination

/-!
# Forced folds

What the runtime does to a hand between the actions of the players: it folds
the seat of a player who sits out or leaves, clears the turn of a seat that
has nothing to do, runs the board out and awards the pot to the only seat
left.  A seat that sits out on its own turn keeps the turn; a seat that leaves
passes it to the first seat that can act.
-/

namespace Mozetto.Engine

open Mozetto.Library.RingSearch
open Mozetto.Library.TransitionSystem

variable {seatCount : Nat}

/-! ## The runtime -/

/-- The seats that `settleIfOnePlayerLeft` counts. -/
def claimants (seats : Fin seatCount → SeatState) : List (Fin seatCount) :=
  seatsWith seats SeatState.claims

/-- Award the pot if one seat is left in a hand. -/
def settleIfOnePlayerLeft (state : HoldemState seatCount) : Option (Transition seatCount) :=
  if (claimants state.seats).length = 1 ∧ state.midHand then
    some (foldWin state)
  else none

/-- The first seat in the order of the array that could act instead. -/
def legalNext (seats : Fin seatCount → SeatState) (seatIndex : Fin seatCount) :
    Option (Fin seatCount) :=
  (List.finRange seatCount).find? fun i =>
    (seats i).claims && !(seats i).allIn && i ≠ seatIndex

/-- The turn of the seat is passed on. -/
def passLeaver (state : HoldemState seatCount) (seatIndex : Fin seatCount) :
    HoldemState seatCount :=
  if state.actingIndex = some seatIndex then
    { state with actingIndex := legalNext state.seats seatIndex }
  else state

/-- `leaveUnlocked` in a hand: fold, then award the pot or pass the turn on. -/
def foldLeaver (state : HoldemState seatCount) (seatIndex : Fin seatCount) :
    Except EngineError (HoldemState seatCount) :=
  if state.midHand ∧ (state.seats seatIndex).folded = false then
    (settleIfOnePlayerLeft (foldSeat state seatIndex)).elim
      (.ok (passLeaver (foldSeat state seatIndex) seatIndex)) (Except.map Prod.fst)
  else .ok state

/-- What the runtime does to a hand. -/
inductive RuntimeCall (seatCount : Nat) where
  | act (action : PokerAction) (amount : Option Int)
  | advanceRunout
  | award
  | clearTurn
  | sitOut (seatIndex : Fin seatCount)
  | leave (seatIndex : Fin seatCount)

def runtimeStep (state : HoldemState seatCount) :
    RuntimeCall seatCount → Except EngineError (HoldemState seatCount)
  | .act action amount => (applyAction state action amount).map Prod.fst
  | .advanceRunout => (continueRunout state).map Prod.fst
  | .award => (foldWin state).map Prod.fst
  | .clearTurn => .ok { state with actingIndex := none }
  | .sitOut seatIndex => .ok (setSitOut state seatIndex true)
  | .leave seatIndex => foldLeaver state seatIndex

theorem map_fst_eq_ok {transition : Transition seatCount} {after : HoldemState seatCount}
    (ok : transition.map Prod.fst = .ok after) : ∃ events, transition = .ok (after, events) := by
  cases transition with
  | error err => cases ok
  | ok result =>
    rcases result with ⟨reached, events⟩
    cases ok
    exact ⟨events, rfl⟩

/-- One hand of a table that the runtime plays. -/
def runtimeHand (hashes : Hashes) (table : HoldemState seatCount) (serverSeed handId : String) :
    System (HoldemState seatCount) (RuntimeCall seatCount) EngineError where
  initial state := ∃ events, startHand hashes table serverSeed handId = .ok (state, events)
  step := runtimeStep

/-! ## What the runtime may do -/

/-- A run-out is due: nobody can bet any more, or the board is complete. -/
def RunoutDue (state : HoldemState seatCount) : Prop :=
  isAllInRunout state = true ∨ 5 ≤ state.board.length

instance (state : HoldemState seatCount) : Decidable (RunoutDue state) :=
  inferInstanceAs (Decidable (isAllInRunout state = true ∨ 5 ≤ state.board.length))

/-- The calls of a hand; a forced fold leaves somebody in. -/
def RuntimeCall.Legal (state : HoldemState seatCount) : RuntimeCall seatCount → Prop
  | .act action amount => PlayCall state (.applyAction action amount)
  | .advanceRunout =>
      state.actingIndex = none ∧ state.street ≠ .settlement ∧ RunoutDue state
  | .award =>
      state.street ≠ .settlement ∧ (liveSeats state.seats).length = 1
  | .clearTurn => state.actingIndex ≠ none ∧ getLegalActions state = []
  | .sitOut seatIndex =>
      liveSeats (setSitOut state seatIndex true).seats ≠ []
  | .leave seatIndex => liveSeats (foldSeat state seatIndex).seats ≠ []

/--
The call leaves a seat with something to do: the only seat left does not fold,
and a seat does not sit out on its turn while others could still bet.
-/
def RuntimeCall.KeepsTurn (state : HoldemState seatCount) : RuntimeCall seatCount → Prop
  | .act action _ => action = .fold → 2 ≤ (liveSeats state.seats).length
  | .sitOut seatIndex =>
      state.actingIndex = some seatIndex → 5 ≤ state.board.length ∨
          (contenders (setSitOut state seatIndex true).seats).length ≤ 1
  | _ => True

/-- A forced fold is one of a seat that is still in. -/
def RuntimeCall.FoldsSomebody (state : HoldemState seatCount) : RuntimeCall seatCount → Prop
  | .sitOut seatIndex =>
      state.midHand = true ∧ (state.seats seatIndex).folded = false
  | .leave seatIndex =>
      state.midHand = true ∧ (state.seats seatIndex).folded = false
  | _ => True

instance (state : HoldemState seatCount) (call : RuntimeCall seatCount) :
    Decidable (call.Legal state) :=
  match call with
  | .act action amount =>
      inferInstanceAs (Decidable (PlayCall state (.applyAction action amount)))
  | .advanceRunout =>
      inferInstanceAs (Decidable (state.actingIndex = none ∧ state.street ≠ .settlement ∧
            RunoutDue state))
  | .award =>
      inferInstanceAs (Decidable (state.street ≠ .settlement ∧ (liveSeats state.seats).length = 1))
  | .clearTurn =>
      inferInstanceAs (Decidable (state.actingIndex ≠ none ∧ getLegalActions state = []))
  | .sitOut seatIndex =>
      inferInstanceAs (Decidable (liveSeats (setSitOut state seatIndex true).seats ≠ []))
  | .leave seatIndex =>
      inferInstanceAs (Decidable (liveSeats (foldSeat state seatIndex).seats ≠ []))

instance (state : HoldemState seatCount) (call : RuntimeCall seatCount) :
    Decidable (call.KeepsTurn state) :=
  match call with
  | .act action _ =>
      inferInstanceAs (Decidable (action = .fold → 2 ≤ (liveSeats state.seats).length))
  | .advanceRunout => isTrue trivial
  | .award => isTrue trivial
  | .clearTurn => isTrue trivial
  | .sitOut seatIndex =>
      inferInstanceAs (Decidable (state.actingIndex = some seatIndex → 5 ≤ state.board.length ∨
              (contenders (setSitOut state seatIndex true).seats).length ≤ 1))
  | .leave _ => isTrue trivial

/-- The runtime has a next step that succeeds. -/
inductive Proceeds (state : HoldemState seatCount) : Prop where
  | acts (action : PokerAction) (amount : Option Int)
      (offered : PlayCall state (.applyAction action amount))
      (accepted : ∃ result, applyAction state action amount = .ok result)
  | runsOut (due : RunoutDue state) (accepted : ∃ result, continueRunout state = .ok result)
  | awards (live : (liveSeats state.seats).length = 1)
      (accepted : ∃ result, foldWin state = .ok result)

end Mozetto.Engine

/-!
## Who sits where

Playing a hand moves chips, folds seats and passes the turn.  It leaves every
player in their seat, and it lets nobody back in who sits out.
-/

namespace Mozetto.Engine

variable {seatCount : Nat}
variable {state after : HoldemState seatCount}
variable {seats changed : Fin seatCount → SeatState}
variable {events : List (EngineEvent seatCount)}
variable {i j : Fin seatCount}

/-- Every player keeps the seat, and who sits out goes on sitting out. -/
def KeepsSitters (seats changed : Fin seatCount → SeatState) : Prop :=
  ∀ i, (changed i).playerId = (seats i).playerId ∧
      ((seats i).sitOut = true → (changed i).sitOut = true)

theorem KeepsSitters.refl : KeepsSitters seats seats := fun _ => ⟨rfl, id⟩

theorem KeepsSitters.trans {last : Fin seatCount → SeatState} (first : KeepsSitters seats changed)
    (second : KeepsSitters changed last) : KeepsSitters seats last := by
  intro i
  exact ⟨(second i).1.trans (first i).1, fun out => (second i).2 ((first i).2 out)⟩

/-- A change of one seat that keeps its player. -/
theorem keepsSitters_update {seat : SeatState} (player : seat.playerId = (seats i).playerId)
    (out : seat.sitOut = (seats i).sitOut) : KeepsSitters seats (Function.update seats i seat) := by
  intro j
  by_cases same : j = i
  · subst same
    rw [Function.update_self]
    exact ⟨player, fun sits => out.trans sits⟩
  · rw [Function.update_of_ne same]
    exact ⟨rfl, id⟩

theorem keepsSitters_mapSeat {seatIndex : Nat} {change : SeatState → SeatState}
    (kept : ∀ seat, (change seat).playerId = seat.playerId ∧
          (seat.sitOut = true → (change seat).sitOut = true)) :
    KeepsSitters state.seats (mapSeat state seatIndex change).seats := by
  intro i
  simp only [mapSeat]
  split
  · exact kept _
  · exact ⟨rfl, id⟩

/-! ### The calls of a hand -/

theorem keepsSitters_wager {offer : LegalAction} {amount : Option Int} :
    KeepsSitters state.seats (wager state i offer amount).1.seats := by
  have paid (amount : Int) : KeepsSitters state.seats (payIn state i amount).1.seats :=
    keepsSitters_update rfl rfl
  rw [wager]
  cases offer.action with
  | fold => exact keepsSitters_update rfl rfl
  | check => exact .refl
  | call => exact paid _
  | bet => exact paid _
  | raise => exact paid _
  | allIn =>
    simp only
    split
    · split
      · exact paid _
      · exact paid _
    · exact paid _

theorem keepsSitters_nextBoard {dealt : HoldemState seatCount} {event : EngineEvent seatCount}
    (board : nextBoard state = some (dealt, event)) : KeepsSitters state.seats dealt.seats := by
  rcases nextBoard_eq_some board with ⟨count, street, -, rfl, -⟩
  exact fun _ => ⟨rfl, id⟩

theorem keepsSitters_foldWin (ok : foldWin state = .ok (after, events)) :
    KeepsSitters state.seats after.seats := by
  rcases foldWin_eq_ok ok with unclaimed | ⟨winner, rake, effect⟩
  · rw [unclaimed.rest]
    exact .refl
  · intro i
    rw [effect.seats]
    simp only
    split <;> exact ⟨rfl, id⟩

theorem keepsSitters_settleShowdown (ok : settleShowdown state = .ok (after, events)) :
    KeepsSitters state.seats after.seats := by
  rcases settleShowdown_eq_ok ok with ⟨ranked, rake, effect⟩
  intro i
  rw [effect.seats, settledSeats_apply]
  exact ⟨rfl, id⟩

theorem Passes.keepsSitters (passes : Passes state i after events) :
    KeepsSitters state.seats after.seats := by
  cases passes with
  | turn k incomplete next => exact .refl
  | waits closes live few short => exact .refl
  | stalls closes many noBoard short => exact .refl
  | deals closes live many board => exact keepsSitters_nextBoard board
  | folds closes live settled => exact keepsSitters_foldWin settled
  | shows acting last settled =>
    have kept := keepsSitters_settleShowdown settled
    exact kept

theorem RunsOut.keepsSitters (runs : RunsOut state after events) :
    KeepsSitters state.seats after.seats := by
  cases runs with
  | folds live settled => exact keepsSitters_foldWin settled
  | abandons live => exact .refl
  | deals live board =>
    have kept := keepsSitters_nextBoard board
    exact kept
  | shows live noBoard settled =>
    have kept := keepsSitters_settleShowdown settled
    exact kept

/-! ### The runtime -/

theorem keepsSitters_foldLeaver (ok : foldLeaver state i = .ok after) :
    KeepsSitters state.seats after.seats := by
  have folded : KeepsSitters state.seats (foldSeat state i).seats :=
    keepsSitters_mapSeat fun seat => ⟨rfl, id⟩
  simp only [foldLeaver] at ok
  split at ok
  case isTrue =>
    rw [settleIfOnePlayerLeft] at ok
    split at ok
    case isTrue =>
      cases won : foldWin (foldSeat state i) with
      | error err =>
        rw [won] at ok
        cases ok
      | ok result =>
        rw [won] at ok
        cases ok
        exact folded.trans (keepsSitters_foldWin won)
    case isFalse =>
      cases ok
      refine folded.trans ?_
      simp only [passLeaver]
      split <;> exact .refl
  case isFalse =>
    cases ok
    exact .refl

/-- What the runtime does to a hand lets nobody back in. -/
theorem keepsSitters_runtimeStep {call : RuntimeCall seatCount}
    (ok : runtimeStep state call = .ok after) : KeepsSitters state.seats after.seats := by
  cases call with
  | act action amount =>
    rcases map_fst_eq_ok ok with ⟨events, applied⟩
    rcases applyAction_eq_ok applied with ⟨i, offer, own, -, -, -, -, passes, -⟩
    exact keepsSitters_wager.trans passes.keepsSitters
  | advanceRunout =>
    rcases map_fst_eq_ok ok with ⟨events, applied⟩
    exact (continueRunout_eq_ok applied).keepsSitters
  | award =>
    rcases map_fst_eq_ok ok with ⟨events, applied⟩
    exact keepsSitters_foldWin applied
  | clearTurn =>
    cases ok
    exact .refl
  | sitOut seatIndex =>
    cases ok
    exact keepsSitters_mapSeat fun seat => ⟨rfl, fun _ => rfl⟩
  | leave seatIndex => exact keepsSitters_foldLeaver ok

end Mozetto.Engine
