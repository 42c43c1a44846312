import Mozetto.Engine.Offers
import Mozetto.Library.TransitionSystem
import Mathlib.Data.Prod.Lex

/-!
# Hands that end

A hand that is played with the calls the engine offers cannot stall and ends
in a settlement.  A table has to charge a big blind, its rake has to be a
number of basis points, the deck has to suffice, and the hand needs an
identifier; heads-up, the button has to be at a seat with a player.
-/

namespace Mozetto.Engine

open Mozetto.Library.RingSearch
open Mozetto.Library.TransitionSystem

variable {seatCount : Nat}
variable {hashes : Hashes}
variable {state before wagered after table : HoldemState seatCount}
variable {seats : Fin seatCount → SeatState}
variable {serverSeed handId : String}
variable {events : List (EngineEvent seatCount)}
variable {action : PokerAction} {amount : Option Int}
variable {call : EngineCall}
variable {config : TableConfig}
variable {i j : Fin seatCount}

/-! ## Hands that are played -/

/-- Only a seat that is all in has nothing left. -/
structure Solvent (seat : SeatState) : Prop where
  stack : 0 ≤ seat.stack
  chips : seat.allIn = false → 0 < seat.stack

theorem Solvent.pay {seat : SeatState} {paid : Int} (enough : paid ≤ seat.stack) :
    Solvent (paySeat seat paid) := by
  constructor
  · show 0 ≤ seat.stack - paid
    omega
  · intro notAllIn
    simp only [paySeat] at notAllIn ⊢
    split at notAllIn
    · cases notAllIn
    · omega

/-- What holds of a seat that is still in. -/
structure InGame (seat : SeatState) : Prop extends Solvent seat where
  player : seat.playerId ≠ ""
  hand : HoldsHand seat

/-- The cards that are burned or turned over until the river is complete. -/
def cardsToCome : Nat → Nat
  | 0 => 8
  | 3 => 4
  | 4 => 2
  | _ => 0

/-- A hand that is neither settled nor in want of cards. -/
structure HandGoing (config : TableConfig) (state : HoldemState seatCount) : Prop where
  seats : ∀ i, (state.seats i).folded = false → InGame (state.seats i)
  someLive : liveSeats state.seats ≠ []
  named : state.hasHandId = true
  minRaise : 0 < state.minRaise
  fits : BoardFits state.street state.board.length
  board : AllDrawn state.board
  deck : cardsToCome state.board.length ≤ state.deck.length
  config : state.config = config

/-- A seat that has to call or has not acted. -/
structure Awaited (state : HoldemState seatCount) (i : Fin seatCount) : Prop where
  unfolded : (state.seats i).folded = false
  notAllIn : (state.seats i).allIn = false
  owes : (state.seats i).bet < state.currentBet ∨ i ∉ state.actedThisStreet

/-- Somebody has to act, or nobody can bet any more. -/
structure Underway (config : TableConfig) (state : HoldemState seatCount) : Prop
    extends HandGoing config state where
  live : 2 ≤ (liveSeats state.seats).length
  turn : (∃ i, state.actingIndex = some i ∧ Awaited state i) ∨ (contenders state.seats).length ≤ 1 ∧
        ∀ i, state.actingIndex = some i → (state.seats i).allIn = true

/-- A settled hand, with a complete board or one seat left. -/
structure Ended (state : HoldemState seatCount) : Prop where
  street : state.street = .settlement
  acting : state.actingIndex = none
  how : state.board.length = 5 ∨ ∃ winner, OnlyLive state.seats winner

theorem HandGoing.street_ne (going : HandGoing config state) : state.street ≠ .settlement := by
  intro settled
  have fits := going.fits
  rw [settled] at fits
  exact fits

theorem HandGoing.showable (going : HandGoing config state)
    (finite : ∃ bps, rakePctToBps config.rakePct = .finite bps) :
    Showable state := by
  refine ⟨fun i unfolded => (going.seats i unfolded).hand, going.board, ?_⟩
  rw [going.config]
  exact finite

/-- Somebody who can act has to. -/
theorem Underway.awaited (underway : Underway config state) (acting : state.actingIndex = some i)
    (notAllIn : (state.seats i).allIn = false) :
    Awaited state i := by
  rcases underway.turn with ⟨j, actingJ, awaited⟩ | ⟨-, allIn⟩
  · rw [acting, Option.some.injEq] at actingJ
    subst actingJ
    exact awaited
  · rw [allIn i acting] at notAllIn
    cases notAllIn

/-! ## Wagers -/

/-- What a wager costs: the seat, its right to check, or chips. -/
inductive Costs (state wagered : HoldemState seatCount) (i : Fin seatCount) : Prop where
  | folds (seats : wagered.seats = foldAt state.seats i)
  | checks (seats : wagered.seats = state.seats)
      (acted : wagered.actedThisStreet = insert i state.actedThisStreet)
      (first : i ∉ state.actedThisStreet)
  | pays (paid : Int) (positive : 0 < paid) (enough : paid ≤ (state.seats i).stack)
      (seats : wagered.seats = Function.update state.seats i (paySeat (state.seats i) paid))

/-- What a wager leaves as it is. -/
structure SameHand (before after : HoldemState seatCount) : Prop where
  config : after.config = before.config
  handId : after.handId = before.handId
  street : after.street = before.street
  board : after.board = before.board
  deck : after.deck = before.deck

theorem Wagers.sameHand (wagers : Wagers state i action amount wagered) :
    SameHand state wagered := by
  cases wagers <;> exact ⟨rfl, rfl, rfl, rfl, rfl⟩

/-- Every wager but a check of a seat that has acted costs something. -/
theorem Wagers.costs_of_first (wagers : Wagers state i action amount wagered)
    (chips : 0 < (state.seats i).stack)
    (blind : 0 < state.config.bigBlind) (minRaise : 0 < state.minRaise)
    (first : action = .check → i ∉ state.actedThisStreet) :
    Costs state wagered i ∧ 0 < wagered.minRaise := by
  cases wagers with
  | fold behind => exact ⟨.folds rfl, minRaise⟩
  | check matched => exact ⟨.checks rfl rfl (first rfl), minRaise⟩
  | call behind enough => exact ⟨.pays _ behind enough rfl, minRaise⟩
  | bet matched some free paid low high chosen =>
    have positive : 0 < paid := by omega
    exact ⟨.pays paid positive high rfl, positive⟩
  | raise behind more free paid low high chosen =>
    have reach : fullRaise state i = toCall state i + state.minRaise := by
      unfold fullRaise toCall
      omega
    have positive : 0 < paid := by omega
    exact ⟨.pays paid positive high rfl, lt_of_lt_of_le minRaise (le_max_left _ _)⟩
  | shoveFull more free full =>
    exact ⟨.pays _ chips le_rfl rfl, lt_of_lt_of_le minRaise full⟩
  | shoveShort more free short =>
    exact ⟨.pays _ chips le_rfl rfl, minRaise⟩
  | callAllIn behind short =>
    exact ⟨.pays _ chips le_rfl rfl, minRaise⟩

/-- Every wager of an awaited seat costs it something. -/
theorem Wagers.costs (wagers : Wagers state i action amount wagered)
    (awaited : Awaited state i) (chips : 0 < (state.seats i).stack)
    (blind : 0 < state.config.bigBlind) (minRaise : 0 < state.minRaise) :
    Costs state wagered i ∧ 0 < wagered.minRaise := by
  apply wagers.costs_of_first chips blind minRaise
  rintro rfl
  cases wagers with
  | check matched =>
    rcases awaited.owes with behind | first
    · unfold toCall at matched
      omega
    · exact first

/-- Seats that are still in after a wager were so before. -/
theorem Costs.inGame (costs : Costs state wagered i)
    (seats : ∀ j, (state.seats j).folded = false → InGame (state.seats j))
    (j : Fin seatCount) (unfolded : (wagered.seats j).folded = false) :
    InGame (wagered.seats j) := by
  cases costs with
  | folds same =>
    rw [same] at unfolded ⊢
    by_cases here : j = i
    · subst here
      rw [foldAt_self] at unfolded
      cases unfolded
    · rw [foldAt_of_ne here] at unfolded ⊢
      exact seats j unfolded
  | checks same acted first =>
    rw [same] at unfolded ⊢
    exact seats j unfolded
  | pays paid positive enough same =>
    rw [same] at unfolded ⊢
    by_cases here : j = i
    · subst here
      rw [Function.update_self] at unfolded ⊢
      have stays := seats j unfolded
      exact { stays with toSolvent := .pay enough }
    · rw [Function.update_of_ne here] at unfolded ⊢
      exact seats j unfolded

theorem Costs.folded_eq (costs : Costs state wagered i) (other : j ≠ i) :
    (wagered.seats j).folded = (state.seats j).folded := by
  cases costs with
  | folds same => rw [same, foldAt_of_ne other]
  | checks same acted first => rw [same]
  | pays paid positive enough same => rw [same, Function.update_of_ne other]

/-- One wager does not leave a hand without seats. -/
theorem Costs.someLive (costs : Costs state wagered i) (live : 2 ≤ (liveSeats state.seats).length) :
    liveSeats wagered.seats ≠ [] := by
  have distinct : (liveSeats state.seats).Nodup := nodup_liveSeats
  have another : ∃ j ∈ liveSeats state.seats, j ≠ i := by
    cases listed : liveSeats state.seats with
    | nil =>
      rw [listed] at live
      cases live
    | cons first rest =>
      cases rest with
      | nil =>
        rw [listed] at live
        exact absurd live (by simp)
      | cons second others =>
        rw [listed] at distinct
        by_cases same : first = i
        · refine ⟨second, by simp, ?_⟩
          rintro rfl
          subst same
          simp at distinct
        · exact ⟨first, by simp, same⟩
  rcases another with ⟨j, member, other⟩
  rw [mem_liveSeats, ← costs.folded_eq other, ← mem_liveSeats] at member
  exact List.ne_nil_of_mem member

/-- A wager that leaves somebody in keeps the hand going. -/
theorem HandGoing.of_costs (going : HandGoing config state) (costs : Costs state wagered i)
    (same : SameHand state wagered) (minRaise : 0 < wagered.minRaise)
    (someLive : liveSeats wagered.seats ≠ []) : HandGoing config wagered where
  seats := costs.inGame going.seats
  someLive := someLive
  named := by
    rw [HoldemState.hasHandId, same.handId]
    exact going.named
  minRaise := minRaise
  fits := by
    rw [same.street, same.board]
    exact going.fits
  board := by
    rw [same.board]
    exact going.board
  deck := by
    rw [same.board, same.deck]
    exact going.deck
  config := same.config.trans going.config

/-- A wager keeps the hand going. -/
theorem Underway.going_of_wagers (underway : Underway config state) (awaited : Awaited state i)
    (blind : 0 < config.bigBlind) (wagers : Wagers state i action amount wagered) :
    HandGoing config wagered ∧ Costs state wagered i := by
  have chips := (underway.seats i awaited.unfolded).chips awaited.notAllIn
  have big : 0 < state.config.bigBlind := by
    rw [underway.config]
    exact blind
  rcases wagers.costs awaited chips big underway.minRaise with ⟨costs, minRaise⟩
  exact ⟨underway.toHandGoing.of_costs costs wagers.sameHand minRaise
        (costs.someLive underway.live), costs⟩

/-! ## The next street -/

/-- The next street needs the cards that are left for it. -/
theorem HandGoing.dealt {dealt : HoldemState seatCount} {event : EngineEvent seatCount}
    (going : HandGoing config state) (blind : 0 < config.bigBlind)
    (board : nextBoard state = some (dealt, event)) : HandGoing config dealt ∧
    state.board.length < dealt.board.length ∧ liveSeats dealt.seats = liveSeats state.seats ∧
    contenders dealt.seats = contenders state.seats := by
  have reset := bettingReset_of_nextBoard board
  have deck := going.deck
  rcases nextBoard_eq_some board with ⟨count, street, follows, rfl, -⟩
  have enough : count + 1 ≤ state.deck.length := by
    rcases follows with ⟨length, rfl, -⟩ | ⟨length, rfl, -⟩ | ⟨length, rfl, -⟩ <;>
      rw [length, cardsToCome] at deck <;> omega
  have left : (dealBoard state count street).1.deck.length = state.deck.length - 1 - count := by
    simp [dealBoard, resetStreetBets]
    omega
  have longer := reset.board
  refine
    ⟨{ seats := fun i unfolded => { going.seats i unfolded with }
       someLive := going.someLive
       named := going.named
       minRaise := ?_
       fits := ?_
       board := ?_
       deck := ?_
       config := reset.config.trans going.config },
      ?_, rfl, rfl⟩
  · rw [reset.minRaise, going.config]
    exact blind
  · rw [longer]
    rcases follows with ⟨length, -, rfl⟩ | ⟨length, -, rfl⟩ | ⟨length, -, rfl⟩
    · rw [if_pos length]
      rfl
    · rw [length]
      rfl
    · rw [length]
      rfl
  · apply going.board.append
    apply allDrawn_drawCards
    rw [List.length_drop]
    omega
  · rw [longer, left]
    rcases follows with ⟨length, rfl, -⟩ | ⟨length, rfl, -⟩ | ⟨length, rfl, -⟩ <;>
      rw [length, cardsToCome] at deck <;> simp [length, cardsToCome] <;>
      omega
  · rw [longer]
    split <;> omega

/-- The first seat that can still bet acts on a new street. -/
theorem awaited_of_nextBoard {dealt : HoldemState seatCount} {event : EngineEvent seatCount}
    (going : HandGoing config state) (board : nextBoard state = some (dealt, event))
    (many : 1 < (contenders state.seats).length) :
    ∃ i, dealt.actingIndex = some i ∧ Awaited dealt i := by
  rcases nextBoard_eq_some board with ⟨count, street, -, rfl, -⟩
  have some : contenders state.seats ≠ [] := by
    intro none
    rw [none] at many
    cases many
  rcases List.exists_mem_of_ne_nil _ some with ⟨j, member⟩
  rw [mem_contenders] at member
  have able : (!(state.seats j).folded && !(state.seats j).allIn &&
      decide (0 < (state.seats j).stack)) = true := by
    have chips := (going.seats j member.1).chips member.2
    simp [member.1, member.2, chips]
  rcases @exists_nextPlace seatCount state.button (fun j =>
        !(state.seats j).folded && !(state.seats j).allIn && decide (0 < (state.seats j).stack))
      j able with ⟨i, found⟩
  have holds := nextPlace_holds found
  simp only [Bool.and_eq_true, Bool.not_eq_true'] at holds
  refine ⟨i, found, holds.1.1, holds.1.2, .inr ?_⟩
  exact Finset.notMem_empty i

/-! ## What a call leads to -/

/-- The hand goes on as it is or with the next street, or ends. -/
inductive Continues (config : TableConfig) (state after : HoldemState seatCount) : Prop where
  | stays (underway : Underway config after) (seats : after.seats = state.seats)
      (acted : after.actedThisStreet = state.actedThisStreet) (board : after.board = state.board)
  | deals (underway : Underway config after) (board : state.board.length < after.board.length)
  | ends (ended : Ended after)

theorem length_board_le
    {street : Street} {length : Nat} (fits : BoardFits street length) : length ≤ 5 := by
  cases street <;> simp only [BoardFits] at fits <;> omega

/-- A complete board is that of the river. -/
theorem HandGoing.length_board (going : HandGoing config state)
    (full : state.street = .river ∨ 5 ≤ state.board.length) : state.board.length = 5 := by
  have fits := going.fits
  rcases full with river | long
  · rw [river] at fits
    exact fits
  · exact le_antisymm (length_board_le fits) long

theorem ended_of_settleShowdown (full : state.board.length = 5)
    (ok : settleShowdown state = .ok (after, events)) : Ended after := by
  rcases settleShowdown_eq_ok ok with ⟨ranked, rake, effect⟩
  rw [effect.rest]
  exact ⟨rfl, rfl, .inl full⟩

theorem ended_of_foldWin (live : (liveSeats state.seats).length = 1)
    (ok : foldWin state = .ok (after, events)) : Ended after := by
  rcases length_liveSeats_eq_one_iff.mp live with ⟨winner, only⟩
  rcases foldWin_eq_ok ok with unclaimed | ⟨claimant, rake, effect⟩
  · rw [unclaimed.rest]
    exact ⟨rfl, rfl, .inr ⟨winner, only⟩⟩
  · have same (j : Fin seatCount) : (after.seats j).folded = (state.seats j).folded := by
      rw [effect.seats]
      dsimp only
      split <;> rfl
    have onlyAfter : OnlyLive after.seats winner := by
      intro j
      rw [same]
      exact only j
    have rest := effect.rest
    exact ⟨by rw [rest], by rw [rest], .inr ⟨winner, onlyAfter⟩⟩

theorem HandGoing.twoLive (going : HandGoing config state)
    (live : (liveSeats state.seats).length ≠ 1) : 2 ≤ (liveSeats state.seats).length := by
  have some := List.length_pos_iff.mpr going.someLive
  omega

theorem Passes.continues (passes : Passes state i after events)
    (going : HandGoing config state) (blind : 0 < config.bigBlind) :
    Continues config state after := by
  have waiting : HandGoing config { state with actingIndex := none } := { going with }
  cases passes with
  | turn j incomplete next =>
    have holds := nextPlace_holds next
    simp only [Bool.and_eq_true, Bool.not_eq_true', Bool.or_eq_true, decide_eq_true_eq] at holds
    have awaited : Awaited state j := ⟨holds.1.1, holds.1.2, holds.2⟩
    have live : 2 ≤ (liveSeats state.seats).length := by
      simp only [streetComplete, Bool.or_eq_false_iff, decide_eq_false_iff_not] at incomplete
      omega
    refine .stays { going with live := live, turn := .inl ?_ } rfl rfl rfl
    exact ⟨j, rfl, { awaited with }⟩
  | waits closes live few short =>
    refine .stays { going with live := ?_, turn := .inr ?_ } rfl rfl rfl
    · exact going.twoLive live
    · refine ⟨few, ?_⟩
      intro j acting
      cases acting
  | stalls closes many noBoard short =>
    exfalso
    have fits := going.fits
    simp only [nextBoard] at noBoard
    cases reached : state.street <;> rw [reached] at fits <;>
      simp only [BoardFits] at fits <;> simp [fits] at noBoard short
  | deals closes live many board =>
    rcases waiting.dealt blind board with ⟨dealt, longer, sameLive, sameContenders⟩
    refine .deals { dealt with live := ?_, turn := .inl ?_ } longer
    · rw [sameLive]
      exact going.twoLive live
    · exact awaited_of_nextBoard waiting board many
  | folds closes live settled => exact .ends (ended_of_foldWin live settled)
  | shows acting last settled =>
    refine .ends (ended_of_settleShowdown ?_ settled)
    rcases last with ⟨river, -⟩ | ⟨-, -, full⟩
    · exact going.length_board (.inl river)
    · exact going.length_board full

/-- Who can still bet in a hand, as a run-out counts them. -/
theorem HandGoing.isAllInRunout_iff (going : HandGoing config state) : isAllInRunout state = true ↔
    2 ≤ (liveSeats state.seats).length ∧ (contenders state.seats).length ≤ 1 := by
  have live : (seatsWith state.seats fun seat =>
    !seat.folded && seat.playerId ≠ "") = liveSeats state.seats := by
    apply List.filter_congr
    intro j _
    cases folded : (state.seats j).folded with
    | true => simp [folded]
    | false => simp [folded, (going.seats j folded).player]
  have able : ((liveSeats state.seats).filter fun j =>
        !(state.seats j).allIn && decide (0 < (state.seats j).stack)) =
      contenders state.seats := by
    apply List.filter_congr
    intro j member
    rw [mem_liveSeats] at member
    cases allIn : (state.seats j).allIn with
    | true => rfl
    | false => simp [(going.seats j member).chips allIn]
  have fits := going.fits
  simp only [isAllInRunout, live, able, going.named]
  cases reached : state.street <;> rw [reached] at fits <;>
    simp only [BoardFits] at fits <;> simp

theorem RunsOut.continues (runsOut : RunsOut state after events)
    (underway : Underway config state) (blind : 0 < config.bigBlind)
    (few : (contenders state.seats).length ≤ 1) : Continues config state after ∧
    (after.street ≠ .settlement → state.board.length < after.board.length) := by
  have live := underway.live
  have waiting : HandGoing config { state with actingIndex := none } := { underway with }
  cases runsOut with
  | folds one settled => omega
  | abandons none =>
    rw [none] at live
    cases live
  | deals live board =>
    rcases waiting.dealt blind board with ⟨dealt, longer, sameLive, sameContenders⟩
    refine ⟨.deals { dealt with live := ?_, turn := .inr ?_ } longer, ?_⟩
    · show 2 ≤ (liveSeats _).length
      rw [sameLive]
      exact live
    · show (contenders _).length ≤ 1 ∧ ∀ j, none = some j → _
      rw [sameContenders]
      refine ⟨few, ?_⟩
      intro j acting
      cases acting
    · intro _
      exact longer
  | shows live noBoard settled =>
    have full : state.board.length = 5 := by
      have fits := underway.fits
      simp only [nextBoard] at noBoard
      cases reached : state.street <;> rw [reached] at fits <;>
        simp only [BoardFits] at fits <;> simp [fits] at noBoard ⊢
    have ended : Ended after := by
      refine ended_of_settleShowdown ?_ settled
      exact full
    refine ⟨.ends ended, ?_⟩
    intro running
    exact absurd ended.street running

/-! ## The rank of a hand -/

/-- What a seat that is still in can lose: its chips and its place. -/
def SeatState.atStake (seat : SeatState) : Nat := if seat.folded then 0 else seat.stack.toNat + 1

/-- What all seats can lose. -/
def atStake (seats : Fin seatCount → SeatState) : Nat := ∑ i, (seats i).atStake

/-- The live seats that have not acted on this street. -/
def toSpeak (state : HoldemState seatCount) : Finset (Fin seatCount) :=
  (Finset.univ.filter fun i => (state.seats i).folded = false) \ state.actedThisStreet

/-- The streets left, then what can be lost, then who has not acted. -/
def handRank (state : HoldemState seatCount) : ℕ ×ₗ ℕ ×ₗ ℕ :=
  toLex (if state.street = .settlement then 0 else 6 - state.board.length,
      toLex (atStake state.seats, (toSpeak state).card))

theorem handRank_lt_of_streets (running : before.street ≠ .settlement)
    (short : before.board.length ≤ 5)
    (later : after.street = .settlement ∨ before.board.length < after.board.length) :
    handRank after < handRank before := by
  rw [handRank, handRank, Prod.Lex.toLex_lt_toLex]
  left
  rw [if_neg running]
  rcases later with settled | longer
  · rw [if_pos settled]
    have left : 0 < 6 - before.board.length := by omega
    exact left
  · have fewer : 6 - after.board.length < 6 - before.board.length := by
      omega
    dsimp only
    split
    · omega
    · exact fewer

theorem handRank_congr (street : after.street = .settlement ↔ before.street = .settlement)
    (seats : after.seats = before.seats) (acted : after.actedThisStreet = before.actedThisStreet)
    (board : after.board = before.board) : handRank after = handRank before := by
  simp only [handRank, toSpeak, seats, acted, board, street]

/-- A change of one seat changes the stakes by that of the seat. -/
theorem atStake_update_lt {seat : SeatState} (less : seat.atStake < (seats i).atStake) :
    atStake (Function.update seats i seat) < atStake seats := by
  apply Finset.sum_lt_sum
  · intro j _
    by_cases same : j = i
    · subst same
      rw [Function.update_self]
      exact less.le
    · rw [Function.update_of_ne same]
  · refine ⟨i, Finset.mem_univ i, ?_⟩
    rw [Function.update_self]
    exact less

/-- What a wager costs lowers the rank. -/
theorem Costs.handRank_lt (costs : Costs state wagered i) (same : SameHand state wagered)
    (unfolded : (state.seats i).folded = false) : handRank wagered < handRank state := by
  rw [handRank, handRank, Prod.Lex.toLex_lt_toLex, same.street, same.board]
  right
  refine ⟨rfl, ?_⟩
  rw [Prod.Lex.toLex_lt_toLex]
  cases costs with
  | folds seats =>
    left
    rw [seats]
    apply atStake_update_lt
    simp [SeatState.atStake, unfolded]
  | checks seats acted first =>
    right
    refine ⟨by rw [seats], Finset.card_lt_card ?_⟩
    rw [toSpeak, toSpeak, seats, acted]
    rw [Finset.ssubset_iff_of_subset (Finset.sdiff_subset_sdiff (Finset.Subset.refl _)
        (Finset.subset_insert _ _))]
    refine ⟨i, ?_, ?_⟩
    · simp [unfolded, first]
    · simp
  | pays paid positive enough seats =>
    left
    rw [seats]
    apply atStake_update_lt
    simp only [SeatState.atStake, paySeat, unfolded, Bool.false_eq_true, if_false]
    omega

/-! ## One call -/

/-- A hand that is played, until it is settled. -/
def Played (config : TableConfig) (state : HoldemState seatCount) : Prop :=
  Underway config state ∨ Ended state

theorem Continues.played (continues : Continues config state after) : Played config after := by
  cases continues with
  | stays underway seats acted board => exact .inl underway
  | deals underway board => exact .inl underway
  | ends ended => exact .inr ended

/-- What an outcome leads to has no higher rank. -/
theorem Continues.handRank_le (continues : Continues config state after)
    (going : HandGoing config state) : handRank after ≤ handRank state := by
  have short := length_board_le going.fits
  cases continues with
  | stays underway seats acted board =>
    apply le_of_eq
    apply handRank_congr _ seats acted board
    constructor
    · intro settled
      exact absurd settled underway.street_ne
    · intro settled
      exact absurd settled going.street_ne
  | deals underway board =>
    exact (handRank_lt_of_streets going.street_ne short (.inr board)).le
  | ends ended =>
    exact (handRank_lt_of_streets going.street_ne short (.inl ended.street)).le

/-- A call that is offered lowers the rank. -/
theorem played_step (played : Played config state) (blind : 0 < config.bigBlind)
    (offered : PlayCall state call) (ok : step hashes state call = .ok after) :
    Played config after ∧ handRank after < handRank state := by
  rcases step_eq_ok ok with ⟨events, ok⟩
  cases call with
  | seatPlayer seatIndex playerId agentId stack => cases offered
  | clearSeat seatIndex => cases offered
  | foldSeat seatIndex => cases offered
  | setSitOut seatIndex sitOut => cases offered
  | startHand serverSeed handId => cases offered
  | applyAction action amount =>
    rcases applyAction_wagers ok with
      ⟨i, wagered, own, acting, unfolded, notAllIn, wagers, passes⟩
    rcases played with underway | ended
    · have awaited := underway.awaited acting notAllIn
      rcases underway.going_of_wagers awaited blind wagers with ⟨going, costs⟩
      have continues := passes.continues going blind
      refine ⟨continues.played, ?_⟩
      exact lt_of_le_of_lt (continues.handRank_le going)
          (costs.handRank_lt wagers.sameHand unfolded)
    · rw [ended.acting] at acting
      cases acting
  | continueRunout =>
    rcases played with underway | ended
    · have few := (underway.isAllInRunout_iff.mp offered).2
      rcases (continueRunout_eq_ok ok).continues underway blind few with ⟨continues, later⟩
      refine ⟨continues.played, ?_⟩
      apply handRank_lt_of_streets underway.street_ne (length_board_le underway.fits)
      by_cases settled : after.street = .settlement
      · exact .inl settled
      · exact .inr (later settled)
    · simp [PlayCall, isAllInRunout, ended.street] at offered

/-! ## The start of a hand -/

/-- A table and an identifier with which a hand can be played to its end. -/
structure Playable (table : HoldemState seatCount) (handId : String) : Prop where
  bigBlind : 0 < table.config.bigBlind
  bps : ∃ bps, rakePctToBps table.config.rakePct = .finite bps
  named : handId ≠ ""
  deck : (seatsWith table.seats SeatState.eligible).length ≤ 22
  headsUp : (seatsWith table.seats SeatState.eligible).length = 2 →
      ∀ i, (table.seats i).sitOut = false → 0 < (table.seats i).stack →
        (table.seats i).playerId ≠ ""

/-- The blinds and the cards change neither who is in nor who sits there. -/
theorem Started.seat_eq {button sb bb : Fin seatCount}
    (started : Started hashes table after serverSeed handId button sb bb) (i : Fin seatCount) :
    (after.seats i).folded = (handSeats table i).folded ∧
      (after.seats i).playerId = (handSeats table i).playerId := by
  rcases started.seats_apply i with ⟨hole, same⟩
  rcases @postBlinds_apply seatCount (handSeats table) table.config sb bb i with
    ⟨_, _, _, _, posted⟩
  rw [same, posted]
  exact ⟨rfl, rfl⟩

theorem Started.folded_eq {button sb bb : Fin seatCount}
    (started : Started hashes table after serverSeed handId button sb bb) (i : Fin seatCount) :
    (after.seats i).folded = !(table.seats i).eligible :=
  (started.seat_eq i).1.trans folded_handSeats

theorem Started.liveSeats_eq {button sb bb : Fin seatCount}
    (started : Started hashes table after serverSeed handId button sb bb) :
    liveSeats after.seats = seatsWith table.seats SeatState.eligible := by
  apply List.filter_congr
  intro i _
  show (!(after.seats i).folded) = (table.seats i).eligible
  rw [started.folded_eq, Bool.not_not]

/-- After the blinds only a seat that is all in has nothing left. -/
theorem Started.solvent {button sb bb : Fin seatCount}
    (started : Started hashes table after serverSeed handId button sb bb)
    (unfolded : (after.seats i).folded = false) : Solvent (after.seats i) := by
  have eligible : (table.seats i).eligible = true := by
    rw [started.folded_eq] at unfolded
    simpa using unfolded
  simp only [SeatState.eligible, Bool.and_eq_true, decide_eq_true_eq] at eligible
  have before : Solvent (handSeats table i) := ⟨eligible.2.le, fun _ => eligible.2⟩
  rcases started.seats_apply i with ⟨hole, same⟩
  rcases @postBlinds_eq seatCount (handSeats table) table.config sb bb with
    ⟨small, big, smallIs, bigIs, posted⟩
  have solvent : Solvent ((postBlinds table.config (handSeats table) sb bb).1 i) := by
    rw [posted]
    dsimp only
    by_cases atBig : i = bb
    · subst atBig
      rw [Function.update_self]
      apply Solvent.pay
      omega
    · rw [Function.update_of_ne atBig]
      by_cases atSmall : i = sb
      · subst atSmall
        rw [Function.update_self]
        apply Solvent.pay
        omega
      · rw [Function.update_of_ne atSmall]
        exact before
  rw [same]
  exact { solvent with }

/-- Every seat dealt in holds two cards of the deck. -/
theorem Started.hand {button sb bb : Fin seatCount}
    (started : Started hashes table after serverSeed handId button sb bb)
    (few : (seatsWith table.seats SeatState.eligible).length ≤ 22)
    (unfolded : (after.seats i).folded = false) : HoldsHand (after.seats i) := by
  have dealt :=
    @hole_dealFrom seatCount (postBlinds table.config (handSeats table) sb bb).1 i
      (shuffleDeck hashes serverSeed handId) [] (List.finRange seatCount)
      (List.nodup_finRange seatCount)
  have same : (dealFrom (postBlinds table.config (handSeats table) sb bb).1
      (shuffleDeck hashes serverSeed handId) [] (List.finRange seatCount)).seats = after.seats :=
    started.seats.symm
  have posted (j : Fin seatCount) : ((postBlinds table.config (handSeats table) sb bb).1 j).folded =
      (after.seats j).folded := by
    rcases started.seats_apply j with ⟨hole, alike⟩
    rw [alike]
  have live : ((List.finRange seatCount).filter fun j =>
    !((postBlinds table.config (handSeats table) sb bb).1 j).folded).length ≤ 22 := by
    simp only [posted]
    rw [← started.liveSeats_eq] at few
    exact few
  rw [same] at dealt
  rcases dealt with ⟨-, absent | folded⟩ | ⟨-, used, dealt, within⟩
  · exact absurd (List.mem_finRange i) absent
  · rw [posted, unfolded] at folded
    cases folded
  · refine ⟨_, dealt, ?_, ?_⟩
    · simp [drawCards]
    · apply allDrawn_drawCards
      rw [List.length_drop, length_shuffleDeck]
      omega

/-- Who acts first has to act, or nobody can bet. -/
theorem Started.turn {button sb bb : Fin seatCount}
    (started : Started hashes table after serverSeed handId button sb bb)
    (playable : Playable table handId) : (∃ i, after.actingIndex = some i ∧ Awaited after i) ∨
    (contenders after.seats).length ≤ 1 ∧
      ∀ i, after.actingIndex = some i → (after.seats i).allIn = true := by
  have acting := started.first
  have acted : after.actedThisStreet = ∅ := by rw [started.rest]
  have awaited {i : Fin seatCount} (unfolded : (after.seats i).folded = false)
      (notAllIn : (after.seats i).allIn = false) : Awaited after i := by
    refine ⟨unfolded, notAllIn, .inr ?_⟩
    rw [acted]
    exact Finset.notMem_empty i
  by_cases two : (seatsWith table.seats SeatState.eligible).length = 2
  · rw [if_pos two] at acting
    have atButton : sb = button := by
      rcases started.blinds with ⟨-, same, -⟩ | ⟨three, -⟩
      · exact same
      · omega
    have unfolded : (after.seats sb).folded = false := by
      have button := started.atButton
      rw [Bool.and_eq_true, Bool.not_eq_true', decide_eq_true_eq, ← atButton] at button
      have player := playable.headsUp two sb button.1 button.2
      rw [started.folded_eq]
      simp [SeatState.eligible, button, player]
    cases allIn : (after.seats sb).allIn with
    | false => exact .inl ⟨sb, acting, awaited unfolded allIn⟩
    | true =>
      right
      constructor
      · have live : (liveSeats after.seats).length = 2 := by
          rw [started.liveSeats_eq, two]
        have fewer : (contenders after.seats).length < (liveSeats after.seats).length := by
          apply List.length_filter_lt_length_iff_exists.mpr
          exact ⟨sb, mem_liveSeats.mpr unfolded, by simp [allIn]⟩
        omega
      · intro i same
        rw [acting, Option.some.injEq] at same
        rw [← same]
        exact allIn
  · rw [if_neg two] at acting
    cases found : nextSeat after.seats bb fun seat =>
      !seat.folded && !seat.allIn with
    | some i =>
      left
      have holds := nextPlace_holds found
      simp only [Bool.and_eq_true, Bool.not_eq_true'] at holds
      exact ⟨i, acting.trans found, awaited holds.1 holds.2⟩
    | none =>
      right
      have nobody := nextPlace_eq_none_iff.mp found
      have empty : contenders after.seats = [] := by
        rw [List.eq_nil_iff_forall_not_mem]
        intro i member
        have active := mem_contenders.mp member
        have passed := nobody i
        simp [active] at passed
      constructor
      · rw [empty]
        exact Nat.zero_le 1
      · intro i same
        rw [acting, found] at same
        cases same

/-- The deck has the cards of a board, and those burned for it. -/
theorem Started.eight_le_deck {button sb bb : Fin seatCount}
    (started : Started hashes table after serverSeed handId button sb bb)
    (few : (seatsWith table.seats SeatState.eligible).length ≤ 22) : 8 ≤ after.deck.length := by
  have live := started.liveSeats_eq
  have length :=
    @length_dealFrom seatCount (postBlinds table.config (handSeats table) sb bb).1
      (shuffleDeck hashes serverSeed handId) [] (List.finRange seatCount)
  have same : (dealFrom (postBlinds table.config (handSeats table) sb bb).1
      (shuffleDeck hashes serverSeed handId) [] (List.finRange seatCount)).deck = after.deck :=
    started.deck.symm
  have posted (j : Fin seatCount) : ((postBlinds table.config (handSeats table) sb bb).1 j).folded =
      (after.seats j).folded := by
    rcases started.seats_apply j with ⟨hole, alike⟩
    rw [alike]
  simp only [posted] at length
  replace length : (dealFrom (postBlinds table.config (handSeats table) sb bb).1
      (shuffleDeck hashes serverSeed handId) [] (List.finRange seatCount)).deck.length =
      (shuffleDeck hashes serverSeed handId).length - 2 * (liveSeats after.seats).length := length
  rw [same, length_shuffleDeck, live] at length
  omega

theorem Started.underway {button sb bb : Fin seatCount}
    (started : Started hashes table after serverSeed handId button sb bb)
    (playable : Playable table handId) : Underway table.config after := by
  have live := started.liveSeats_eq
  have players := started.players
  have rest := started.rest
  have deck := started.eight_le_deck playable.deck
  refine
    { seats := fun i unfolded =>
      { toSolvent := started.solvent unfolded
        player := ?_
        hand := started.hand playable.deck unfolded }
      someLive := ?_
      named := ?_
      minRaise := ?_
      fits := ?_
      board := ?_
      deck := ?_
      config := by rw [rest]
      live := by rw [live]; exact players
      turn := started.turn playable }
  · have eligible : (table.seats i).eligible = true := by
      rw [started.folded_eq] at unfolded
      simpa using unfolded
    simp only [SeatState.eligible, Bool.and_eq_true, decide_eq_true_eq] at eligible
    rw [(started.seat_eq i).2]
    exact eligible.1.2
  · rw [← List.length_pos_iff, live]
    omega
  · rw [rest]
    simp [HoldemState.hasHandId, playable.named]
  · rw [rest]
    exact playable.bigBlind
  · rw [rest]
    rfl
  · rw [rest]
    exact List.not_mem_nil
  · rw [show after.board = [] by rw [rest]]
    exact deck

/-! ## Every run of a hand -/

/-- A hand is settled, with a complete board or one seat left. -/
def Over (state : HoldemState seatCount) : Prop :=
  state.street = .settlement ∧ (state.board.length = 5 ∨ ∃ winner, OnlyLive state.seats winner)

/-- How a hand goes that is played with the calls the engine offers. -/
structure HandEnds (hashes : Hashes) (table : HoldemState seatCount)
    (serverSeed handId : String) : Prop where
  proceeds : ∀ state, (handFrom hashes table serverSeed handId).Reachable PlayCall state →
        state.street ≠ .settlement → getLegalActions state ≠ [] ∨ isAllInRunout state = true
  accepted : ∀ state call, (handFrom hashes table serverSeed handId).Reachable PlayCall state →
        PlayCall state call → ∃ after, step hashes state call = .ok after
  complete : ∀ state, (handFrom hashes table serverSeed handId).Reachable PlayCall state →
        state.street = .settlement → Over state
  finite : ∀ states, ¬ (handFrom hashes table serverSeed handId).Endless PlayCall states
  settles : ∀ state, (handFrom hashes table serverSeed handId).Reachable PlayCall state →
        (handFrom hashes table serverSeed handId).Inevitably PlayCall Over state

theorem Underway.proceeds (underway : Underway config state) :
    getLegalActions state ≠ [] ∨ isAllInRunout state = true := by
  rcases underway.turn with ⟨i, acting, awaited⟩ | ⟨few, -⟩
  · left
    exact getLegalActions_ne_nil acting awaited.unfolded awaited.notAllIn
  · right
    exact underway.isAllInRunout_iff.mpr ⟨underway.live, few⟩

/-- Whatever is offered may be called. -/
theorem exists_playCall
    (proceeds : getLegalActions state ≠ [] ∨ isAllInRunout state = true) :
    ∃ call, PlayCall state call := by
  rcases proceeds with offers | runout
  · rcases List.exists_mem_of_ne_nil _ offers with ⟨offer, mem⟩
    refine ⟨.applyAction offer.action none, offer, mem, rfl, ?_⟩
    simp only [LegalAction.refuses]
    split <;> simp_all
  · exact ⟨.continueRunout, runout⟩

theorem Played.accepted (played : Played config state) (blind : 0 < config.bigBlind)
    (finite : ∃ bps, rakePctToBps config.rakePct = .finite bps) (offered : PlayCall state call) :
    ∃ after, step hashes state call = .ok after := by
  have applied : ∃ result, transition hashes state call = .ok result := by
    cases call with
    | seatPlayer seatIndex playerId agentId stack => cases offered
    | clearSeat seatIndex => cases offered
    | foldSeat seatIndex => cases offered
    | setSitOut seatIndex sitOut => cases offered
    | startHand serverSeed handId => cases offered
    | continueRunout =>
      rcases played with underway | ended
      · exact (underway.showable finite).continueRunout
      · simp [PlayCall, isAllInRunout, ended.street] at offered
    | applyAction action amount =>
      have acts : ∃ i, state.actingIndex = some i := by
        rcases offered with ⟨offer, mem, -⟩
        cases acting : state.actingIndex with
        | none => simp [getLegalActions, acting] at mem
        | some i => exact ⟨i, rfl⟩
      rcases acts with ⟨i, acting⟩
      rcases played with underway | ended
      · apply applyAction_ok acting offered
        intro wagered events wagers
        rcases offered with ⟨offer, mem, -⟩
        rcases offered_of_mem acting mem with ⟨unfolded, notAllIn, -⟩
        have awaited := underway.awaited acting notAllIn
        have going := (underway.going_of_wagers awaited blind wagers).1
        exact (going.showable finite).passTurn
      · rw [ended.acting] at acting
        cases acting
  rcases applied with ⟨result, ok⟩
  exact ⟨result.1, by rw [step, ok]; rfl⟩

/-- The rank of a hand falls with every call that is offered. -/
theorem descends_handFrom (playable : Playable table handId) :
    (handFrom hashes table serverSeed handId).Descends PlayCall (Played table.config) handRank := by
  constructor
  · rintro start ⟨events, ok⟩
    rcases startHand_eq_ok ok with ⟨button, sb, bb, started⟩
    exact .inl (started.underway playable)
  · intro before call after played offered ok
    exact played_step played playable.bigBlind offered ok

/--
A hand that can be played to its end neither stalls nor goes on for ever:
whichever offered calls are made, it is settled.
-/
theorem handEnds_of_playable (playable : Playable table handId) :
    HandEnds hashes table serverSeed handId := by
  have descends :=
    @descends_handFrom seatCount hashes table serverSeed handId playable
  have proceeds {state : HoldemState seatCount}
      (played : Played table.config state) (running : ¬ Over state) :
      getLegalActions state ≠ [] ∨ isAllInRunout state = true := by
    rcases played with underway | ended
    · exact underway.proceeds
    · exact absurd ⟨ended.street, ended.how⟩ running
  have accepted {state : HoldemState seatCount} {call : EngineCall}
      (played : Played table.config state)
      (offered : PlayCall state call) :
      ∃ after, step hashes state call = .ok after :=
    played.accepted playable.bigBlind playable.bps offered
  constructor
  · intro state reached running
    apply proceeds (descends.invariant reached)
    intro ended
    exact running ended.1
  · intro state call reached offered
    exact accepted (descends.invariant reached) offered
  · intro state reached settled
    rcases descends.invariant reached with underway | ended
    · exact absurd settled underway.street_ne
    · exact ⟨ended.street, ended.how⟩
  · exact descends.not_endless
  · intro state reached
    apply descends.inevitably _ _ (descends.invariant reached)
    · intro state played running
      exact exists_playCall (proceeds played running)
    · intro state call played offered
      exact accepted played offered

/-! ## Small tables -/

/-- A hand of a small table under an identifier, replayed. -/
def playOffered (table : HoldemState seatCount) (handId : String)
    (calls : List EngineCall) : Option (HoldemState seatCount) :=
  match startHand plainHashes table "seed" handId with
  | .ok (started, _) =>
      (handFrom plainHashes table "seed" handId).replay PlayCall started calls
  | .error _ => none

theorem exists_playOffered {calls : List EngineCall} {observe : HoldemState seatCount → Bool}
    (played : (playOffered table handId calls).any observe = true) : ∃ state,
    (handFrom plainHashes table "seed" handId).Reachable PlayCall state ∧ observe state = true := by
  rw [playOffered] at played
  cases start : startHand plainHashes table "seed" handId with
  | error err =>
    rw [start] at played
    cases played
  | ok result =>
    rcases result with ⟨started, events⟩
    rw [start] at played
    have reached :
        (handFrom plainHashes table "seed" handId).Reachable PlayCall
          started :=
      .start ⟨events, start⟩
    exact reached.exists_replay played

/-- Everybody who can goes all in. -/
def shoves (count : Nat) : List EngineCall := List.replicate count (.applyAction .allIn none)

theorem playable_plain : Playable (seatedPlain 2 [1000, 1000]) "hand" := by
  refine ⟨by decide, ⟨500, by decide +kernel⟩, by decide, ?_, ?_⟩
  · decide +kernel
  · decide +kernel

/-- Two players go all in and are run out. -/
theorem handEnds_of_playable_shoves :
    Playable (seatedPlain 2 [1000, 1000]) "hand" ∧
      HandEnds plainHashes (seatedPlain 2 [1000, 1000]) "seed" "hand" ∧
      ∃ state,
        (handFrom plainHashes (seatedPlain 2 [1000, 1000]) "seed"
            "hand").Reachable PlayCall state ∧
          state.street = .settlement := by
  have played :
      (playOffered (seatedPlain 2 [1000, 1000]) "hand"
          (shoves 2 ++ List.replicate 4 .continueRunout)).any
        (fun state => decide (state.street = .settlement)) = true := by
    decide +kernel
  rcases exists_playOffered played with ⟨state, reached, settled⟩
  exact
    ⟨playable_plain, handEnds_of_playable playable_plain, state, reached,
      of_decide_eq_true settled⟩

/-- Nobody is offered anything, and no run-out is due. -/
def stalled (state : HoldemState seatCount) : Bool :=
  state.street ≠ .settlement && getLegalActions state = [] && !isAllInRunout state

/-- A run-out is due and fails. -/
def failsRunout (state : HoldemState seatCount) : Bool :=
  isAllInRunout state && match step plainHashes state .continueRunout with
    | .ok _ => false
    | .error _ => true

instance : DecidableEq (HoldemState seatCount) := fun one other =>
  decidable_of_iff (one.config = other.config ∧ one.handId = other.handId ∧
      one.handNumber = other.handNumber ∧ one.street = other.street ∧
      one.button = other.button ∧ one.deck = other.deck ∧
      one.board = other.board ∧ one.pot = other.pot ∧
      one.seats = other.seats ∧ one.actingIndex = other.actingIndex ∧
      one.currentBet = other.currentBet ∧ one.minRaise = other.minRaise ∧
      one.lastAggressor = other.lastAggressor ∧ one.firstToAct = other.firstToAct ∧
      one.serverSeed = other.serverSeed ∧
      one.seedCommit = other.seedCommit ∧ one.winners = other.winners ∧
      one.rake = other.rake ∧ one.sessionRake = other.sessionRake ∧
      one.actedThisStreet = other.actedThisStreet ∧ one.lastRaiseComplete = other.lastRaiseComplete)
    (by rw [← HoldemState.mk.injEq])

/-- Two bets of nothing lead back to where they began. -/
def betsNothing (state : HoldemState seatCount) : Bool :=
  let bet := EngineCall.applyAction .bet (some 0)
  match step plainHashes state bet with
  | .error _ => false
  | .ok after =>
      PlayCall state bet && PlayCall after bet && match step plainHashes after bet with
        | .ok again => again = state
        | .error _ => false

theorem exists_endless_of_betsNothing
    (reached :
      (handFrom plainHashes table "seed" handId).Reachable PlayCall state)
    (observed : betsNothing state = true) :
    ∃ states,
      (handFrom plainHashes table "seed" handId).Endless PlayCall
        states := by
  simp only [betsNothing] at observed
  cases first : step plainHashes state (.applyAction .bet (some 0)) with
  | error err => simp [first] at observed
  | ok after =>
    simp only [first, Bool.and_eq_true, decide_eq_true_eq] at observed
    rcases observed with ⟨⟨offered, offeredAfter⟩, observed⟩
    cases second : step plainHashes after (.applyAction .bet (some 0)) with
    | error err => simp [second] at observed
    | ok again =>
      simp only [second, decide_eq_true_eq] at observed
      subst observed
      refine @System.Reachable.exists_endless _ _ _ _ _
          (fun other => other = again ∨ other = after) _ reached (.inl rfl) ?_
      rintro before (rfl | rfl)
      · exact ⟨_, after, offered, first, .inr rfl⟩
      · exact ⟨_, again, offeredAfter, second, .inl rfl⟩

/-- A seat without a player holds the button of a heads-up hand. -/
def withEmptyButton : HoldemState 3 :=
  seatPlayer (seatedPlain 3 [1000, 1000, 1000]) 0 "" "a" 1000

def withoutBigBlind : HoldemState 2 :=
  { seatedPlain 2 [1000, 1000] with
    config := { (plainTable 2).config with bigBlind := 0 } }

def withHugeRake : HoldemState 2 :=
  { seatedPlain 2 [1000, 1000] with
    config := { (plainTable 2).config with rakePct := 1e306 } }

/--
Hands stall when a seat without a player holds the button heads-up or when
the identifier is empty, go on for ever when the big blind is zero, and
cannot be run out when the deck is too short or the rake is infinite.
-/
theorem exists_hand_not_ending :
    (∃ state,
      (handFrom plainHashes withEmptyButton "seed" "hand").Reachable
          PlayCall state ∧
        state.street ≠ .settlement ∧ getLegalActions state = [] ∧
        isAllInRunout state = false) ∧
      (∃ state : HoldemState 2,
        (handFrom plainHashes (seatedPlain 2 [1000, 1000]) "seed"
            "").Reachable PlayCall state ∧
          state.street ≠ .settlement ∧ getLegalActions state = [] ∧
          isAllInRunout state = false) ∧
      (∃ states,
        (handFrom plainHashes withoutBigBlind "seed" "hand").Endless
          PlayCall states) ∧
      (∃ state : HoldemState 23,
        (handFrom plainHashes (seatedPlain 23 (List.replicate 23 10)) "seed"
            "hand").Reachable PlayCall state ∧
          failsRunout state = true) ∧
      ∃ state,
        (handFrom plainHashes withHugeRake "seed" "hand").Reachable PlayCall
            state ∧
          failsRunout state = true := by
  have emptyButton :
      (playOffered withEmptyButton "hand" []).any stalled = true := by
    decide +kernel
  have unnamed :
      (playOffered (seatedPlain 2 [1000, 1000]) "" (shoves 2)).any
        stalled = true := by
    decide +kernel
  have free :
      (playOffered withoutBigBlind "hand"
          (List.replicate 2 (.applyAction .check none) ++
            List.replicate 2 (.applyAction .bet (some 0)))).any
        betsNothing = true := by
    decide +kernel
  have crowded :
      (playOffered (seatedPlain 23 (List.replicate 23 10)) "hand"
          (shoves 22 ++ List.replicate 3 .continueRunout)).any
        failsRunout = true := by
    decide +kernel
  have infinite :
      (playOffered withHugeRake "hand"
          (shoves 2 ++ List.replicate 3 .continueRunout)).any
        failsRunout = true := by
    decide +kernel
  have stalls {count : Nat} {state : HoldemState count}
      (observed : stalled state = true) :
      state.street ≠ .settlement ∧ getLegalActions state = [] ∧
        isAllInRunout state = false := by
    simpa [stalled, and_assoc] using observed
  refine ⟨?_, ?_, ?_, ?_, ?_⟩
  · rcases exists_playOffered emptyButton with ⟨state, reached, observed⟩
    exact ⟨state, reached, stalls observed⟩
  · rcases exists_playOffered unnamed with ⟨state, reached, observed⟩
    exact ⟨state, reached, stalls observed⟩
  · rcases exists_playOffered free with ⟨state, reached, observed⟩
    exact exists_endless_of_betsNothing reached observed
  · exact exists_playOffered crowded
  · exact exists_playOffered infinite

end Mozetto.Engine
