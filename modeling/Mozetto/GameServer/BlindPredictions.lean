import Mozetto.GameServer.BigBlindReturns

/-!
# The blinds are predicted

At a table as it is loaded and played, nobody's seat ever sits in.  Wherever
`startHand` deals a hand it then takes the button and the blinds that
`nextBlindSeats` named, and letting a seat in that sits out changes both
alike.
-/

namespace Mozetto.GameServer.SitOuts

open Mozetto.Engine
open Mozetto.Library.Guarded
open Mozetto.Library.TransitionSystem

variable {seatCount : Nat}

/-! ## Tables from their load on -/

/-- An occupied row of `table_seats`; the load skips those without an owner
or an agent. -/
structure SeatRow (seatCount : Nat) where
  seatIndex : Fin seatCount
  ownerId : String
  agentId : String
  stack : Int
  owned : ownerId ≠ ""

/-- The seats of the rows are taken one after another. -/
def loadSeats (config : TableConfig) (rows : List (SeatRow seatCount)) :
    HoldemState seatCount :=
  rows.foldl (fun state row =>
      seatPlayer state row.seatIndex row.ownerId row.agentId row.stack)
    (createTable config seatCount)

namespace TableRuntime

variable (table : TableRuntime seatCount)

def releaseHeadsUpSeat (i : Fin seatCount) : TableRuntime seatCount :=
  let seat := table.state.seats i
  if seat.playerId ≠ "" ∧ 0 < seat.stack then table.letIn i else table

/-- Before a round of its loop a heads-up table lets in whoever waits. -/
def releaseHeadsUp : TableRuntime seatCount :=
  if table.isHeadsUpTable then
    table.awaitingBigBlind.foldl releaseHeadsUpSeat table
  else table

end TableRuntime

inductive TableCall (seatCount : Nat) where
  | seat (call : SeatCall seatCount)
  | releaseHeadsUp

def TableCall.perform (hashes : Hashes) (table : TableRuntime seatCount) :
    TableCall seatCount → Except SeatError (TableRuntime seatCount)
  | .seat call => call.perform hashes table
  | .releaseHeadsUp => .ok table.releaseHeadsUp

/-- All runs of a table from its load. -/
def loadedRuns (hashes : Hashes) (seatCount : Nat) :
    System (TableRuntime seatCount) (TableCall seatCount) SeatError where
  initial table :=
    table.awaitingBigBlind = [] ∧ ∃ config rows, table.state = loadSeats config rows
  step table call := call.perform hashes table

/-! ## Nobody's seat sits out -/

section Vacant

variable {hashes : Hashes}
variable {table after : TableRuntime seatCount}
variable {i : Fin seatCount}

theorem vacantSitOut_loadSeats {config : TableConfig} {rows : List (SeatRow seatCount)} :
    VacantSitOut (loadSeats config rows).seats := by
  refine List.foldlRecOn (motive := fun state : HoldemState seatCount =>
    VacantSitOut state.seats)
    rows _ (fun i _ => rfl) fun state vacant row _ i empty => ?_
  by_cases same : i.val = row.seatIndex.val
  · simp only [seatPlayer, mapSeat, if_pos same] at empty
    exact absurd empty row.owned
  · simp only [seatPlayer, mapSeat, if_neg same] at empty ⊢
    exact vacant i empty

/-- Only players are let in. -/
theorem vacantSitOut_releaseHeadsUp (vacant : VacantSitOut table.state.seats) :
    VacantSitOut table.releaseHeadsUp.state.seats := by
  rw [TableRuntime.releaseHeadsUp]
  split
  · refine List.foldlRecOn (motive := fun other : TableRuntime seatCount =>
        VacantSitOut other.state.seats)
      _ _ vacant fun other vacant i _ j empty => ?_
    rw [TableRuntime.releaseHeadsUpSeat] at empty ⊢
    split at empty
    case isTrue seated =>
      rw [if_pos seated, sitOut_letIn]
      rw [letIn_seat] at empty
      by_cases same : j = i
      · subst same
        exact absurd empty seated.1
      · rw [if_neg same]
        exact vacant j empty
    case isFalse empties =>
      rw [if_neg empties]
      exact vacant j empty
  · exact vacant

theorem vacantSitOut_perform {call : SeatCall seatCount} (vacant : VacantSitOut table.state.seats)
    (ok : call.perform hashes table = .ok after) : VacantSitOut after.state.seats := by
  cases call with
  | setPlayerSitOut userId sitOut =>
    have fairly : LetsInFairly ∅ table after := letsInFairly_setPlayerSitOut vacant ok
    exact fairly.vacant
  | topUp userId chips opts =>
    have fairly : LetsInFairly ∅ table after :=
      letsInFairly_topUp vacant (fun i _ owes => absurd owes (Finset.notMem_empty i)) ok
    exact fairly.vacant
  | join userId agentId buyIn assignedSeat forceImmediate =>
    have fairly : LetsInFairly ∅ table after := letsInFairly_joinUnlocked vacant ok
    exact fairly.vacant
  | leave userId forceImmediate =>
    have fairly : LetsInFairly ∅ table after := letsInFairly_leaveUnlocked vacant ok
    exact fairly.vacant
  | releaseSeatsAwaitingBigBlind =>
    cases ok
    have released := @releasedSoFar_release _ table
    intro i empty
    rw [released.seats i] at empty
    rw [released.players i empty]
    exact vacant i empty
  | deal handNumber seed name =>
    rcases perform_deal_eq_ok ok with ⟨events, -, dealt⟩
    rcases startHand_eq_ok dealt with ⟨button, sb, bb, started⟩
    intro i empty
    rw [(started.sitting i).1] at empty
    rw [(started.sitting i).2]
    exact vacant i empty
  | play call =>
    rcases map_eq_ok_iff.mp ok with ⟨state, played, rfl⟩
    have keeps := keepsSitters_runtimeStep (mapError_eq_ok_iff.mp played)
    intro i empty
    exact (keeps i).2 (vacant i ((keeps i).1.symm.trans empty))
  | sitOutBroke =>
    cases ok
    intro i empty
    have keeps := @keepsSitters_sitOutBroke _ table i
    exact keeps.2 (vacant i (keeps.1.symm.trans empty))
  | resetToWaiting restoreStacks =>
    cases ok
    exact vacant

/-- At every table that was loaded, nobody's seat sits out. -/
theorem vacantSitOut_of_reachable
    (reached : (loadedRuns hashes seatCount).Reachable AnyCall table) :
    VacantSitOut table.state.seats := by
  refine @System.Reachable.invariant _ _ _ _ _
    (fun state : TableRuntime seatCount => VacantSitOut state.state.seats) ?_ ?_ _ reached
  · rintro state ⟨-, config, rows, loaded⟩
    rw [loaded]
    exact vacantSitOut_loadSeats
  · intro before call after vacant _ stepped
    cases call with
    | seat call => exact vacantSitOut_perform vacant stepped
    | releaseHeadsUp =>
      cases stepped
      exact vacantSitOut_releaseHeadsUp vacant

end Vacant

/-! ## The prediction -/

/-- A hand that starts takes the button and the blinds of a prediction. -/
def Predicts (hashes : Hashes) (predicted : Option (BlindSeats seatCount))
    (state : HoldemState seatCount) : Prop :=
  ∀ serverSeed handId after events, startHand hashes state serverSeed handId = .ok (after, events) →
      ∃ blinds small big pot cards, predicted = some blinds ∧ events =
            [.handStarted handId (state.handNumber + 1)
                (commitSeed hashes serverSeed) blinds.button,
              .blindsPosted (blinds.sb, small) (blinds.bb, big) pot,
              .potUpdated pot, .holeCardsDealt cards]

theorem predicts_of_vacantUndealt {hashes : Hashes} {state : HoldemState seatCount}
    (vacant : VacantUndealt state.seats) : Predicts hashes (nextBlindSeats state []) state := by
  intro serverSeed handId after events dealt
  rcases startHand_posts vacant dealt with ⟨blinds, small, big, pot, cards, predicted, listed, -⟩
  exact ⟨blinds, small, big, pot, cards, predicted, listed⟩

theorem nextBlindSeats_setSitOut {state : HoldemState seatCount} {i : Fin seatCount} :
    nextBlindSeats (setSitOut state i false) [] = nextBlindSeats state [i] := by
  rw [nextBlindSeats, eligibleWith_setSitOut]
  rfl

/--
At a loaded table every hand that starts posts the predicted blinds, and so
does every hand after a seat that has a player is let in.
-/
theorem nextBlindSeats_predicts
    {hashes : Hashes} {table : TableRuntime seatCount}
    (reached : (loadedRuns hashes seatCount).Reachable AnyCall table) :
    Predicts hashes (nextBlindSeats table.state []) table.state ∧
      ∀ i,
        (table.state.seats i).playerId ≠ "" ∨
            (table.state.seats i).stack ≤ 0 →
          Predicts hashes (nextBlindSeats table.state [i])
            (setSitOut table.state i false) := by
  have vacant := vacantSitOut_of_reachable reached
  constructor
  · exact predicts_of_vacantUndealt vacant.undealt
  · intro i seated
    rw [← nextBlindSeats_setSitOut]
    exact predicts_of_vacantUndealt (vacant.letIn seated)

/-- Three players with 500 chips each, one of whom sits out. -/
def threePlayers : TableRuntime 3 where
  onchain := false
  variantId := "nlhe_6max"
  maxStack := 1000
  state :=
    loadSeats (plainTable 3).config ((List.finRange 3).zipWith
        (fun i (occupant : { id : String // id ≠ "" }) =>
          ⟨i, occupant, "agent", 500, occupant.property⟩)
        [⟨"a", by decide⟩, ⟨"b", by decide⟩, ⟨"c", by decide⟩])
  awaitingBigBlind := []

theorem nextBlindSeats_predicts_threePlayers :
    ∃ table,
      (loadedRuns plainHashes 3).Reachable AnyCall table ∧
        (table.state.seats 2).sitOut = true ∧
          Predicts plainHashes (nextBlindSeats table.state []) table.state ∧
            Predicts plainHashes (nextBlindSeats table.state [2])
              (setSitOut table.state 2 false) := by
  have start :
      (loadedRuns plainHashes 3).Reachable AnyCall threePlayers :=
    .start ⟨rfl, _, _, rfl⟩
  have played :
      ((loadedRuns plainHashes 3).replay AnyCall threePlayers
        [.seat (.setPlayerSitOut "c" true)]).any (fun table =>
          decide
            ((table.state.seats 2).sitOut = true ∧
              (table.state.seats 2).playerId ≠ "")) = true := by
    decide +kernel
  rcases start.exists_replay played with ⟨table, reached, observed⟩
  rcases of_decide_eq_true observed with ⟨out, seated⟩
  have predicts := nextBlindSeats_predicts reached
  exact ⟨table, reached, out, predicts.1, predicts.2 2 (.inl seated)⟩

end Mozetto.GameServer.SitOuts
