import Mozetto.Engine.Dealing

/-!
# The blinds of the next hand

`nextBlindSeats` says who would post the blinds if a hand were dealt right
now, and if some of the seats that sit out were dealt in.  The hand that is
dealt then posts them where it says.
-/

namespace Mozetto.Engine

open Mozetto.Library.RingSearch

variable {seatCount : Nat}
variable {hashes : Hashes}
variable {state after : HoldemState seatCount}
variable {seats : Fin seatCount → SeatState}
variable {events : List (EngineEvent seatCount)}
variable {serverSeed handId : String}
variable {i j : Fin seatCount}

/-! ## The prediction -/

structure BlindSeats (seatCount : Nat) where
  button : Fin seatCount
  sb : Fin seatCount
  bb : Fin seatCount
  headsUp : Bool
deriving DecidableEq

/-- The button and the blinds among the seats dealt in. -/
def blindsAmong (isEligible : Fin seatCount → Bool) (lastButton : Nat) :
    Option (BlindSeats seatCount) :=
  match (List.finRange seatCount).filter isEligible with
  | first :: _ :: others =>
      let button := (nextPlace lastButton isEligible).getD first
      let headsUp := others = []
      (nextPlace button isEligible).bind fun afterButton =>
        if headsUp then some ⟨button, button, afterButton, true⟩
        else
          (nextPlace afterButton isEligible).map fun bb =>
            ⟨button, afterButton, bb, false⟩
  | _ => none

/-- A seat that is dealt in, when those in `extra` are too. -/
def eligibleWith (seats : Fin seatCount → SeatState) (extra : List (Fin seatCount))
    (i : Fin seatCount) : Bool :=
  (seats i).playerId ≠ "" && 0 < (seats i).stack && (!(seats i).sitOut || extra.contains i)

/-- Who would post the blinds if a hand were dealt right now. -/
def nextBlindSeats (state : HoldemState seatCount) (extraEligibleSeats : List (Fin seatCount)) :
    Option (BlindSeats seatCount) :=
  blindsAmong (eligibleWith state.seats extraEligibleSeats) state.button

/-- The seat that would post the big blind. -/
def nextBigBlind (state : HoldemState seatCount)
    (extraEligibleSeats : List (Fin seatCount)) : Option (Fin seatCount) :=
  (nextBlindSeats state extraEligibleSeats).map BlindSeats.bb

theorem eligibleWith_nil : eligibleWith seats [] i = (seats i).eligible := by
  simp only [eligibleWith, SeatState.eligible, List.not_mem_nil, decide_false, Bool.or_false]
  cases (seats i).sitOut <;> simp

/-- Letting a seat in makes the prediction with it the one without. -/
theorem eligibleWith_setSitOut : eligibleWith (setSitOut state j false).seats [] =
    eligibleWith state.seats [j] := by
  funext i
  simp only [eligibleWith, setSitOut, mapSeat, Bool.false_eq_true, if_false,
    List.not_mem_nil, decide_false, Bool.or_false, List.mem_singleton]
  by_cases same : i = j
  · subst same
    simp
  · have other : i.val ≠ j.val := fun equal => same (Fin.ext equal)
    simp [other, same]

theorem nextBigBlind_setSitOut :
    nextBigBlind (setSitOut state j false) [] = nextBigBlind state [j] := by
  rw [nextBigBlind, nextBlindSeats, eligibleWith_setSitOut]
  rfl

/-! ## The hand that is dealt -/

/-- Nobody's seat sits out. -/
def VacantSitOut (seats : Fin seatCount → SeatState) : Prop :=
  ∀ i, (seats i).playerId = "" → (seats i).sitOut = true

/-- Nobody's seat sits out, or has nothing to post. -/
def VacantUndealt (seats : Fin seatCount → SeatState) : Prop :=
  ∀ i, (seats i).playerId = "" → (seats i).sitOut = true ∨ (seats i).stack ≤ 0

theorem VacantSitOut.undealt (vacant : VacantSitOut seats) :
    VacantUndealt seats :=
  fun i empty => .inl (vacant i empty)

/-- A seat is let in that has a player, or nothing to post. -/
theorem VacantSitOut.letIn (vacant : VacantSitOut state.seats)
    (seated :
      (state.seats j).playerId ≠ "" ∨ (state.seats j).stack ≤ 0) :
    VacantUndealt (setSitOut state j false).seats := by
  intro i empty
  by_cases same : i = j
  · subst same
    simp only [setSitOut, mapSeat, if_true, Bool.false_eq_true, if_false] at empty ⊢
    exact .inr (seated.resolve_left fun player => player empty)
  · have other : i.val ≠ j.val := fun equal => same (Fin.ext equal)
    simp only [setSitOut, mapSeat, if_neg other] at empty ⊢
    exact .inl (vacant i empty)

/-- Only seats that are in the hand are dealt cards. -/
theorem unfolded_of_mem_cards {deck : List Card} {cards : List (Fin seatCount × List (Option Card))}
    {order : List (Fin seatCount)} {hole : List (Option Card)}
    (dealt : (i, hole) ∈ (dealFrom seats deck cards order).cards) :
    (i, hole) ∈ cards ∨ (seats i).folded = false := by
  induction order generalizing seats deck cards with
  | nil => exact .inl dealt
  | cons j order induction =>
    have rest :=
      @induction (dealHole ⟨seats, deck, cards⟩ j).seats (dealHole ⟨seats, deck, cards⟩ j).deck
        (dealHole ⟨seats, deck, cards⟩ j).cards dealt
    rw [dealHole_apply] at rest
    rcases rest with before | unfolded
    · rw [dealHole] at before
      cases folded : (seats j).folded with
      | true =>
        rw [folded, if_pos rfl] at before
        exact .inl before
      | false =>
        rw [folded] at before
        simp only [Bool.false_eq_true, if_false, List.mem_append,
          List.mem_singleton, Prod.mk.injEq] at before
        rcases before with before | ⟨rfl, -⟩
        · exact .inl before
        · exact .inr folded
    · exact .inr unfolded

/-- A deal leaves everybody in their seats. -/
theorem Started.sitting {button sb bb : Fin seatCount}
    (started : Started hashes state after serverSeed handId button sb bb) (i : Fin seatCount) :
    (after.seats i).playerId = (state.seats i).playerId ∧
      (after.seats i).sitOut = (state.seats i).sitOut := by
  rcases started.seats_apply i with ⟨hole, same⟩
  rcases @postBlinds_apply seatCount (handSeats state) state.config sb bb i with
    ⟨_, _, _, _, posted⟩
  rw [same, posted]
  exact ⟨rfl, rfl⟩

/-- The cards of a hand go to the seats dealt in. -/
theorem eligible_of_mem_cards {sb bb : Fin seatCount} {deck : List Card} {hole : List (Option Card)}
    (dealt : (i, hole) ∈ (dealHoles (postBlinds state.config (handSeats state) sb bb).1
          deck).cards) :
    (state.seats i).eligible = true := by
  rcases unfolded_of_mem_cards dealt with nothing | unfolded
  · cases nothing
  · rcases @postBlinds_apply seatCount (handSeats state) state.config sb bb i with
      ⟨_, _, _, _, posted⟩
    rw [posted] at unfolded
    have dealtIn := folded_handSeats.symm.trans unfolded
    rwa [Bool.not_eq_false'] at dealtIn

/-- A hand posts the blinds where they were predicted. -/
theorem startHand_posts (vacant : VacantUndealt state.seats)
    (ok : startHand hashes state serverSeed handId = .ok (after, events)) :
    ∃ blinds small big pot cards, nextBlindSeats state [] = some blinds ∧ events =
          [.handStarted handId (state.handNumber + 1) (commitSeed hashes serverSeed) blinds.button,
            .blindsPosted (blinds.sb, small) (blinds.bb, big) pot,
            .potUpdated pot, .holeCardsDealt cards] ∧
        ∀ i hole, (i, hole) ∈ cards → (state.seats i).eligible = true := by
  have chosen : (nextSeat state.seats state.button fun seat =>
        !seat.sitOut && decide (0 < seat.stack)) =
      nextPlace state.button fun i => (state.seats i).eligible := by
    apply congrArg (nextPlace state.button)
    funext i
    simp only [SeatState.eligible]
    by_cases empty : (state.seats i).playerId = ""
    · rcases vacant i empty with out | broke
      · simp [out]
      · simp [empty, Int.not_lt.mpr broke]
    · simp [empty]
  have unfolded (start : Nat) : (nextSeat (fun i => (state.seats i).forHand) start fun seat =>
        !seat.folded) =
      nextPlace start fun i => (state.seats i).eligible := by
    apply congrArg (nextPlace start)
    funext i
    show (!(handSeats state i).folded) = (state.seats i).eligible
    rw [folded_handSeats, Bool.not_not]
  have predicted : nextBlindSeats state [] =
      blindsAmong (fun i => (state.seats i).eligible) state.button :=
    congrArg (blindsAmong · state.button) (funext fun i => eligibleWith_nil)
  rw [predicted, blindsAmong]
  rw [startHand, chosen] at ok
  simp only [unfolded] at ok
  cases players : seatsWith state.seats SeatState.eligible with
  | nil => simp [players] at ok
  | cons first rest =>
    cases rest with
    | nil => simp [players] at ok
    | cons second others =>
      rw [players] at ok
      rw [seatsWith] at players
      rw [players]
      simp only at ok ⊢
      generalize (nextPlace state.button fun i =>
            (state.seats i).eligible).getD first = button at ok ⊢
      cases next : nextPlace button fun i => (state.seats i).eligible with
      | none =>
        rw [next] at ok
        simp at ok
      | some afterButton =>
        rw [next] at ok
        rw [Option.bind_some]
        by_cases headsUp : others = []
        · simp only [headsUp, if_true, Option.map_some] at ok ⊢
          cases ok
          exact ⟨_, _, _, _, _, rfl, rfl, fun i hole dealt => eligible_of_mem_cards dealt⟩
        · simp only [headsUp, if_false, Option.bind_some] at ok ⊢
          cases big : nextPlace afterButton fun i =>
            (state.seats i).eligible with
          | none =>
            rw [big] at ok
            simp at ok
          | some bb =>
            rw [big] at ok
            cases ok
            exact ⟨_, _, _, _, _, rfl, rfl, fun i hole dealt => eligible_of_mem_cards dealt⟩

end Mozetto.Engine
