import Mozetto.Engine.Raises
import Mathlib.Algebra.Order.BigOperators.Group.Finset

/-!
# Hands being played

What holds of a table while a hand is played: no stack and no bet is negative,
the pot is what the seats have put in, and stacks and pot add up to the chips
the hand began with.
-/

namespace Mozetto.Engine

variable {seatCount : Nat}
variable {hashes : Hashes}
variable {state wagered after table : HoldemState seatCount}
variable {seats : Fin seatCount → SeatState}
variable {serverSeed handId : String}
variable {action : PokerAction} {amount : Option Int}
variable {funds : Int} {config : TableConfig}
variable {i j : Fin seatCount}

/-! ## Chips -/

/-- The chips in the stacks of all seats. -/
def chips (seats : Fin seatCount → SeatState) : Int := ∑ i, (seats i).stack

/-- The chips the seats have put in during the hand. -/
def committed (seats : Fin seatCount → SeatState) : Int := ∑ i, (seats i).totalBet

/-- A payment moves chips from the stack to what is put in. -/
theorem chips_pay {paid : Int} : chips (Function.update seats i (paySeat (seats i) paid)) =
    chips seats - paid := by
  have moved : ∀ j, (Function.update seats i (paySeat (seats i) paid) j).stack =
        (seats j).stack - if j = i then paid else 0 := by
    intro j
    by_cases same : j = i
    · subst same
      simp [paySeat]
    · simp [same]
  simp only [chips, moved, Finset.sum_sub_distrib, Finset.sum_ite_eq', Finset.mem_univ, if_true]

theorem committed_pay {paid : Int} : committed (Function.update seats i (paySeat (seats i) paid)) =
    committed seats + paid := by
  have moved : ∀ j, (Function.update seats i (paySeat (seats i) paid) j).totalBet =
        (seats j).totalBet + if j = i then paid else 0 := by
    intro j
    by_cases same : j = i
    · subst same
      simp [paySeat]
    · simp [same]
  simp only [committed, moved, Finset.sum_add_distrib, Finset.sum_ite_eq', Finset.mem_univ, if_true]

/-! ## A seat in a hand -/

/-- What holds of every seat while a hand is played. -/
structure SeatInPlay (seat : SeatState) : Prop where
  stack : 0 ≤ seat.stack
  bet : 0 ≤ seat.bet
  within : seat.bet ≤ seat.totalBet
  player : seat.folded = false → seat.playerId ≠ ""
  chips : seat.folded = false → seat.allIn = false → 0 < seat.stack

/-- A seat pays what it has. -/
theorem SeatInPlay.pay {seat : SeatState} {paid : Int} (inPlay : SeatInPlay seat)
    (nonneg : 0 ≤ paid) (enough : paid ≤ seat.stack) : SeatInPlay (paySeat seat paid) := by
  have stack := inPlay.stack
  have bet := inPlay.bet
  have within := inPlay.within
  constructor
  · show 0 ≤ seat.stack - paid
    omega
  · show 0 ≤ seat.bet + paid
    omega
  · show seat.bet + paid ≤ seat.totalBet + paid
    omega
  · exact inPlay.player
  · intro unfolded notAllIn
    simp only [paySeat] at unfolded notAllIn ⊢
    split at notAllIn
    · cases notAllIn
    · have positive := inPlay.chips unfolded notAllIn
      omega

/-- The bet of a street is taken in. -/
theorem SeatInPlay.clearBet {seat : SeatState} (inPlay : SeatInPlay seat) :
    SeatInPlay { seat with bet := 0 } :=
  { inPlay with
    bet := le_rfl
    within := inPlay.bet.trans inPlay.within }

/-- A folded seat keeps its chips. -/
theorem SeatInPlay.folded {seat : SeatState} {hole : Option (List (Option Card))}
    {allIn sitOut : Bool} (inPlay : SeatInPlay seat) :
    SeatInPlay
      { seat with
        folded := true
        hole := hole
        allIn := allIn
        sitOut := sitOut } := by
  refine ⟨inPlay.stack, inPlay.bet, inPlay.within, ?_, ?_⟩
  · intro unfolded
    cases unfolded
  · intro unfolded
    cases unfolded

/-! ## A table in a hand -/

/-- The board that belongs to a street of a hand. -/
def BoardFits : Street → Nat → Prop
  | .preflop, length => length = 0
  | .flop, length => length = 3
  | .turn, length => length = 4
  | .river, length => length = 5
  | _, _ => False

/-- A hand that is played for some chips. -/
structure Playing (funds : Int) (config : TableConfig) (state : HoldemState seatCount) : Prop where
  config : state.config = config
  seats : ∀ i, SeatInPlay (state.seats i)
  cards : ∀ i, (state.seats i).folded = false → (state.seats i).hole.isSome = true
  pot : state.pot = committed state.seats
  funds : chips state.seats + state.pot = funds
  currentBet : 0 ≤ state.currentBet
  minRaise : 0 ≤ state.minRaise
  board : BoardFits state.street state.board.length
  rake : state.rake = 0

/-- Nobody acts or has acted, as far as the chips are concerned. -/
theorem Playing.turn {acting : Option (Fin seatCount)} {acted : Finset (Fin seatCount)}
    (playing : Playing funds config state) :
    Playing funds config { state with actingIndex := acting, actedThisStreet := acted } :=
  { playing with }

theorem Playing.not_settled (playing : Playing funds config state) :
    state.street ≠ .settlement := by
  intro settled
  have fits := playing.board
  rw [settled] at fits
  exact fits

/-- A payment of the acting seat. -/
theorem Playing.paid {paid currentBet minRaise : Int} (playing : Playing funds config state)
    (nonneg : 0 ≤ paid) (enough : paid ≤ (state.seats i).stack)
    (current : 0 ≤ currentBet) (least : 0 ≤ minRaise)
    {aggressor : Option (Fin seatCount)} {complete : Bool} {acted : Finset (Fin seatCount)} :
    Playing funds config
      { paidIn state i paid with
        minRaise := minRaise
        currentBet := currentBet
        lastAggressor := aggressor
        lastRaiseComplete := complete
        actedThisStreet := acted } := by
  have total := playing.funds
  have pot := playing.pot
  refine
    { config := playing.config
      seats := ?_
      cards := ?_
      pot := ?_
      funds := ?_
      currentBet := current
      minRaise := least
      board := playing.board
      rake := playing.rake }
  · intro j
    by_cases same : j = i
    · subst same
      rw [show _ = paySeat (state.seats j) paid from paidIn_self]
      exact (playing.seats j).pay nonneg enough
    · rw [show _ = state.seats j from paidIn_of_ne same]
      exact playing.seats j
  · intro j
    by_cases same : j = i
    · subst same
      rw [show _ = paySeat (state.seats j) paid from paidIn_self]
      exact playing.cards j
    · rw [show _ = state.seats j from paidIn_of_ne same]
      exact playing.cards j
  · show state.pot + paid = committed (Function.update _ _ _)
    rw [committed_pay, pot]
  · show chips (Function.update _ _ _) + (state.pot + paid) = funds
    rw [chips_pay]
    omega

/-- A wager keeps the hand. -/
theorem Wagers.playing (wagers : Wagers state i action amount wagered)
    (playing : Playing funds config state) (blind : 0 ≤ config.bigBlind) :
    Playing funds config wagered := by
  have stack := (playing.seats i).stack
  have bet := (playing.seats i).bet
  have least := playing.minRaise
  have current := playing.currentBet
  have big : 0 ≤ state.config.bigBlind := by
    rw [playing.config]
    exact blind
  cases wagers with
  | fold behind =>
    have held : chips (foldAt state.seats i) = chips state.seats := by
      apply Finset.sum_congr rfl
      intro j _
      rw [foldAt_eq]
    have totals : committed (foldAt state.seats i) = committed state.seats := by
      apply Finset.sum_congr rfl
      intro j _
      rw [foldAt_eq]
    refine { playing with seats := ?_, cards := ?_, pot := ?_, funds := ?_ }
    · intro j
      show SeatInPlay (foldAt state.seats i j)
      by_cases same : j = i
      · subst same
        rw [foldAt, Function.update_self]
        exact (playing.seats j).folded
      · rw [foldAt_of_ne same]
        exact playing.seats j
    · intro j
      show (foldAt state.seats i j).folded = false → (foldAt state.seats i j).hole.isSome = true
      by_cases same : j = i
      · subst same
        intro unfolded
        rw [foldAt_self] at unfolded
        cases unfolded
      · rw [foldAt_of_ne same]
        exact playing.cards j
    · exact playing.pot.trans totals.symm
    · rw [held]
      exact playing.funds
  | check matched => exact playing.turn
  | call behind enough =>
    exact playing.paid behind.le enough current least
  | bet matched some free paid low high chosen =>
    have nonneg : 0 ≤ paid := by omega
    exact playing.paid nonneg high (by omega) nonneg
  | raise behind more free paid low high chosen =>
    unfold fullRaise toCall at *
    have nonneg : 0 ≤ paid := by omega
    exact playing.paid nonneg high (by omega) (by omega)
  | shoveFull more free full =>
    exact playing.paid stack le_rfl (by omega) (by omega)
  | shoveShort more free short =>
    exact playing.paid stack le_rfl (by omega) least
  | callAllIn behind short =>
    exact playing.paid stack le_rfl current least

/-! ## Calls between actions -/

/-- The next street of a hand is dealt. -/
theorem Playing.dealt {dealt : HoldemState seatCount} {event : EngineEvent seatCount}
    (playing : Playing funds config state) (blind : 0 ≤ config.bigBlind)
    (board : nextBoard state = some (dealt, event)) :
    Playing funds config dealt := by
  have reset := bettingReset_of_nextBoard board
  rcases nextBoard_eq_some board with ⟨count, street, follows, rfl, -⟩
  refine
    { config := playing.config
      seats := fun i => (playing.seats i).clearBet
      cards := playing.cards
      pot := playing.pot
      funds := playing.funds
      currentBet := reset.currentBet.ge
      minRaise := ?_
      board := ?_
      rake := playing.rake }
  · rw [reset.minRaise, playing.config]
    exact blind
  · rw [reset.board]
    rcases follows with ⟨length, -, rfl⟩ | ⟨length, -, rfl⟩ | ⟨length, -, rfl⟩
    · rw [if_pos length]
      rfl
    · rw [length]
      rfl
    · rw [length]
      rfl

/-- What a call between actions may do to a seat. -/
def ForcedOut (change : SeatState → SeatState) : Prop :=
  ∀ seat, (change seat).stack = seat.stack ∧ (change seat).totalBet = seat.totalBet ∧
      (SeatInPlay seat → SeatInPlay (change seat)) ∧ ((change seat).folded = false →
        seat.folded = false ∧ (change seat).hole = seat.hole)

theorem forcedOut_foldSeat :
    ForcedOut fun seat =>
      { seat with folded := true, hole := none, allIn := false } :=
  fun _ =>
    ⟨rfl, rfl, fun inPlay => inPlay.folded, fun unfolded => by
      cases unfolded⟩

theorem forcedOut_setSitOut {midHand sitOut : Bool} :
    ForcedOut fun seat =>
      if sitOut then
        { seat with
          sitOut := true
          folded := if midHand then true else seat.folded
          hole := if midHand then none else seat.hole
          allIn := if midHand then false else seat.allIn }
      else { seat with sitOut := false } := by
  intro seat
  cases sitOut with
  | false =>
    exact ⟨rfl, rfl, fun inPlay => { inPlay with }, fun unfolded => ⟨unfolded, rfl⟩⟩
  | true =>
    cases midHand with
    | false =>
      exact ⟨rfl, rfl, fun inPlay => { inPlay with }, fun unfolded => ⟨unfolded, rfl⟩⟩
    | true =>
      refine ⟨rfl, rfl, fun inPlay => inPlay.folded, fun unfolded => ?_⟩
      cases unfolded

theorem chips_mapSeat {seatIndex : Nat} {change : SeatState → SeatState}
    (forced : ForcedOut change) :
    chips (mapSeat state seatIndex change).seats = chips state.seats := by
  apply Finset.sum_congr rfl
  intro i _
  simp only [mapSeat]
  split
  · exact (forced _).1
  · rfl

theorem committed_mapSeat {seatIndex : Nat} {change : SeatState → SeatState}
    (forced : ForcedOut change) : committed (mapSeat state seatIndex change).seats =
    committed state.seats := by
  apply Finset.sum_congr rfl
  intro i _
  simp only [mapSeat]
  split
  · exact (forced _).2.1
  · rfl

theorem Playing.mapSeat {seatIndex : Nat} {change : SeatState → SeatState}
    (playing : Playing funds config state) (forced : ForcedOut change) :
    Playing funds config (mapSeat state seatIndex change) := by
  refine { playing with seats := ?_, cards := ?_, pot := ?_, funds := ?_ }
  · intro i
    simp only [Engine.mapSeat]
    split
    · exact (forced _).2.2.1 (playing.seats i)
    · exact playing.seats i
  · intro i
    simp only [Engine.mapSeat]
    split
    · intro unfolded
      rcases (forced _).2.2.2 unfolded with ⟨before, hole⟩
      rw [hole]
      exact playing.cards i before
    · exact playing.cards i
  · rw [committed_mapSeat forced]
    exact playing.pot
  · rw [chips_mapSeat forced]
    exact playing.funds

/-! ## The start of a hand -/

theorem handSeats_inPlay (nonneg : 0 ≤ (table.seats i).stack) : SeatInPlay (handSeats table i) := by
  refine ⟨nonneg, le_rfl, le_rfl, ?_, ?_⟩
  · intro unfolded
    simp only [handSeats, SeatState.forHand, Bool.or_eq_false_iff,
      decide_eq_false_iff_not] at unfolded
    exact unfolded.1.2
  · intro unfolded _
    simp only [handSeats, SeatState.forHand, Bool.or_eq_false_iff,
      decide_eq_false_iff_not] at unfolded
    exact not_le.mp unfolded.2

/-- The seats after a payment of one of them. -/
theorem inPlay_update {paid : Int} (inPlay : ∀ j, SeatInPlay (seats j)) (nonneg : 0 ≤ paid)
    (enough : paid ≤ (seats i).stack) (j : Fin seatCount) :
    SeatInPlay (Function.update seats i (paySeat (seats i) paid) j) := by
  by_cases same : j = i
  · subst same
    rw [Function.update_self]
    exact (inPlay j).pay nonneg enough
  · rw [Function.update_of_ne same]
    exact inPlay j

/-- Every seat that is dealt in holds cards. -/
theorem Started.cards {button sb bb : Fin seatCount}
    (started : Started hashes table after serverSeed handId button sb bb)
    (i : Fin seatCount) (unfolded : (after.seats i).folded = false) :
    (after.seats i).hole.isSome = true := by
  have dealt :=
    @hole_dealFrom seatCount (postBlinds table.config (handSeats table) sb bb).1 i
      (shuffleDeck hashes serverSeed handId) [] (List.finRange seatCount)
      (List.nodup_finRange seatCount)
  have same : (dealFrom (postBlinds table.config (handSeats table) sb bb).1
      (shuffleDeck hashes serverSeed handId) [] (List.finRange seatCount)).seats = after.seats :=
    started.seats.symm
  rw [same] at dealt
  rcases dealt with ⟨-, absent | folded⟩ | ⟨-, used, dealt, -⟩
  · exact absurd (List.mem_finRange i) absent
  · rcases started.seats_apply i with ⟨hole, alike⟩
    rw [alike] at unfolded
    rw [folded] at unfolded
    cases unfolded
  · rw [dealt]
    rfl

/-- A hand begins with the chips in the stacks. -/
theorem Started.playing {button sb bb : Fin seatCount}
    (started : Started hashes table after serverSeed handId button sb bb)
    (nonneg : ∀ i, 0 ≤ (table.seats i).stack) (small : 0 ≤ table.config.smallBlind)
    (big : 0 ≤ table.config.bigBlind) : Playing (chips table.seats) table.config after := by
  rcases @postBlinds_eq seatCount (handSeats table) table.config sb bb with
    ⟨first, second, firstIs, secondIs, posted⟩
  have seats := started.seats_apply
  rw [posted] at seats
  have inPlay : ∀ i, SeatInPlay (handSeats table i) := fun i => handSeats_inPlay (nonneg i)
  have firstNonneg : 0 ≤ first := by
    have := (inPlay sb).stack
    omega
  have firstEnough : first ≤ (handSeats table sb).stack := by omega
  have firstPaid := inPlay_update inPlay firstNonneg firstEnough
  have secondNonneg : 0 ≤ second := by
    have := (firstPaid bb).stack
    omega
  have secondEnough : second ≤ (Function.update (handSeats table) sb
        (paySeat (handSeats table sb) first) bb).stack := by
    omega
  have bothPaid := inPlay_update firstPaid secondNonneg secondEnough
  have pot : after.pot = first + second := by
    rw [started.pot, posted]
  have totals : committed after.seats = 0 + first + second := by
    have none : committed (handSeats table) = 0 := Finset.sum_eq_zero fun _ _ => rfl
    rw [← none, ← committed_pay, ← committed_pay]
    apply Finset.sum_congr rfl
    intro i _
    rcases seats i with ⟨hole, same⟩
    rw [same]
  have held : chips after.seats = chips table.seats - first - second := by
    have kept : chips (handSeats table) = chips table.seats := rfl
    rw [← kept, ← chips_pay, ← chips_pay]
    apply Finset.sum_congr rfl
    intro i _
    rcases seats i with ⟨hole, same⟩
    rw [same]
  have rest := started.rest
  refine
    { config := by rw [rest]
      seats := ?_
      cards := ?_
      pot := by omega
      funds := by omega
      currentBet := by rw [rest]; exact big
      minRaise := by rw [rest]; exact big
      board := by rw [rest]; rfl
      rake := by rw [rest] }
  · intro i
    rcases seats i with ⟨hole, same⟩
    rw [same]
    exact { bothPaid i with }
  · exact started.cards

end Mozetto.Engine
