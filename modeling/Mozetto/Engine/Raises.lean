import Mozetto.Engine.Dealing

/-!
# Incomplete all-ins

An all-in for less than a full raise should leave the betting closed to those
who have acted, however it is submitted.  Submitted as `all_in` it does.
Submitted as `raise` or `bet` it counts as complete and clears the acted set,
and a short `bet` lowers the minimum raise below the big blind.
-/

namespace Mozetto.Engine

open Mozetto.Library.RingSearch
open Mozetto.Library.TransitionSystem

variable {seatCount : Nat}
variable {hashes : Hashes}
variable {state before after : HoldemState seatCount}
variable {events : List (EngineEvent seatCount)}
variable {call : EngineCall}
variable {action : PokerAction} {amount : Option Int}
variable {i j : Fin seatCount}

/-! ## What happens to the betting -/

/-- The betting of a street goes on, or its hand is settled. -/
structure BettingKept (before after : HoldemState seatCount) : Prop where
  config : after.config = before.config
  currentBet : after.currentBet = before.currentBet
  minRaise : after.minRaise = before.minRaise
  acted : after.actedThisStreet = before.actedThisStreet
  complete : after.lastRaiseComplete = before.lastRaiseComplete
  bets : ∀ i, (after.seats i).bet = (before.seats i).bet ∨ (after.seats i).bet = 0
  street : after.street = before.street ∨ after.street = .settlement
  board : after.board = before.board

/-- A street whose board has this many cards follows. -/
def NextStreet (length : Nat) (street : Street) : Prop :=
  length = 0 ∧ street = .flop ∨ length = 3 ∧ street = .turn ∨ length = 4 ∧ street = .river

/-- The next street is dealt and its betting begins. -/
structure BettingReset (before after : HoldemState seatCount) : Prop where
  config : after.config = before.config
  currentBet : after.currentBet = 0
  minRaise : after.minRaise = before.config.bigBlind
  acted : after.actedThisStreet = ∅
  complete : after.lastRaiseComplete = true
  bets : ∀ i, (after.seats i).bet = 0
  street : NextStreet before.board.length after.street
  board : after.board.length = if before.board.length = 0 then 3 else before.board.length + 1

theorem bettingReset_of_nextBoard {dealt : HoldemState seatCount} {event : EngineEvent seatCount}
    (board : nextBoard state = some (dealt, event)) :
    BettingReset state dealt := by
  rcases nextBoard_eq_some board with ⟨count, street, follows, rfl, -⟩
  constructor
  · rfl
  · rfl
  · rfl
  · rfl
  · rfl
  · exact fun i => rfl
  · rcases follows with ⟨length, -, rfl⟩ | ⟨length, -, rfl⟩ | ⟨length, -, rfl⟩
    · exact .inl ⟨length, rfl⟩
    · exact .inr (.inl ⟨length, rfl⟩)
    · exact .inr (.inr ⟨length, rfl⟩)
  · rcases follows with ⟨length, rfl, -⟩ | ⟨length, rfl, -⟩ | ⟨length, rfl, -⟩ <;>
      simp [dealBoard, resetStreetBets, drawCards, length]

theorem bettingKept_of_foldWin (ok : foldWin state = .ok (after, events)) :
    BettingKept state after := by
  rcases foldWin_eq_ok ok with unclaimed | ⟨winner, rake, effect⟩
  · rw [unclaimed.rest]
    exact ⟨rfl, rfl, rfl, rfl, rfl, fun i => .inl rfl, .inr rfl, rfl⟩
  · have seats := effect.seats
    rw [effect.rest]
    refine ⟨rfl, rfl, rfl, rfl, rfl, fun i => .inr ?_, .inr rfl, rfl⟩
    simp only [seats]
    split <;> rfl

theorem bettingKept_of_settleShowdown (ok : settleShowdown state = .ok (after, events)) :
    BettingKept state after := by
  rcases settleShowdown_eq_ok ok with ⟨ranked, rake, effect⟩
  have seats := effect.seats
  rw [effect.rest]
  refine ⟨rfl, rfl, rfl, rfl, rfl, fun i => .inl ?_, .inr rfl, rfl⟩
  simp only [seats]
  rw [settledSeats_apply]

/-- Only the next street resets the betting. -/
theorem Passes.betting (passes : Passes state i after events) : BettingKept state after ∨
    BettingReset state after ∧ Closes state i ∧ 1 < (contenders state.seats).length := by
  cases passes with
  | turn j incomplete next =>
    exact .inl ⟨rfl, rfl, rfl, rfl, rfl, fun i => .inl rfl, .inl rfl, rfl⟩
  | waits closes live few short =>
    exact .inl ⟨rfl, rfl, rfl, rfl, rfl, fun i => .inl rfl, .inl rfl, rfl⟩
  | stalls closes many noBoard short =>
    exact .inl ⟨rfl, rfl, rfl, rfl, rfl, fun i => .inl rfl, .inl rfl, rfl⟩
  | deals closes live many board =>
    have reset := bettingReset_of_nextBoard board
    exact .inr ⟨{ reset with }, closes, many⟩
  | folds closes live settled =>
    have kept := bettingKept_of_foldWin settled
    exact .inl { kept with }
  | shows acting last settled =>
    have kept := bettingKept_of_settleShowdown settled
    refine .inl { kept with street := .inr ?_ }
    rcases settleShowdown_eq_ok settled with ⟨ranked, rake, effect⟩
    rw [effect.rest]

theorem RunsOut.betting (runsOut : RunsOut state after events) :
    BettingKept state after ∨ BettingReset state after := by
  cases runsOut with
  | folds live settled =>
    have kept := bettingKept_of_foldWin settled
    exact .inl { kept with }
  | abandons live =>
    exact .inl ⟨rfl, rfl, rfl, rfl, rfl, fun i => .inl rfl, .inr rfl, rfl⟩
  | deals live board =>
    have reset := bettingReset_of_nextBoard board
    exact .inr { reset with }
  | shows live noBoard settled =>
    have kept := bettingKept_of_settleShowdown settled
    refine .inl { kept with street := .inr ?_ }
    rcases settleShowdown_eq_ok settled with ⟨ranked, rake, effect⟩
    rw [effect.rest]

/-- Changing a seat between actions keeps or clears its bet. -/
theorem bettingKept_of_mapSeat {seatIndex : Nat} {change : SeatState → SeatState}
    (bets : ∀ seat, (change seat).bet = seat.bet ∨ (change seat).bet = 0) :
    BettingKept state (mapSeat state seatIndex change) := by
  refine ⟨rfl, rfl, rfl, rfl, rfl, fun i => ?_, .inl rfl, rfl⟩
  simp only [mapSeat]
  split
  · exact bets _
  · exact .inl rfl

/-! ## Bets in order -/

/--
The minimum raise is at least the big blind, at most one seat (a small blind
above the big one) has more in than the current bet, and the board fits the
street.
-/
structure BetsInOrder (state : HoldemState seatCount) : Prop where
  minRaise : state.config.bigBlind ≤ state.minRaise
  currentBet : 0 ≤ state.currentBet
  above : ∀ j k, toCall state j < 0 → toCall state k < 0 → j = k
  flop : state.street = .flop → state.board.length = 3
  turn : state.street = .turn → state.board.length = 4
  river : state.street = .river → state.board.length = 5

theorem BettingKept.betsInOrder (kept : BettingKept before after) (order : BetsInOrder before) :
    BetsInOrder after := by
  have behind : ∀ j, toCall after j < 0 → toCall before j < 0 := by
    intro j ahead
    have nonneg := order.currentBet
    unfold toCall at ahead ⊢
    rw [kept.currentBet] at ahead
    rcases kept.bets j with same | none
    · rwa [same] at ahead
    · rw [none] at ahead
      omega
  constructor
  · rw [kept.config, kept.minRaise]
    exact order.minRaise
  · rw [kept.currentBet]
    exact order.currentBet
  · intro j k first second
    exact order.above j k (behind j first) (behind k second)
  · intro flop
    rw [kept.board]
    rcases kept.street with same | settled
    · exact order.flop (same ▸ flop)
    · rw [settled] at flop
      cases flop
  · intro turn
    rw [kept.board]
    rcases kept.street with same | settled
    · exact order.turn (same ▸ turn)
    · rw [settled] at turn
      cases turn
  · intro river
    rw [kept.board]
    rcases kept.street with same | settled
    · exact order.river (same ▸ river)
    · rw [settled] at river
      cases river

theorem BettingReset.betsInOrder (reset : BettingReset before after) :
    BetsInOrder after := by
  have length := reset.board
  constructor
  · rw [reset.config, reset.minRaise]
  · rw [reset.currentBet]
  · intro j k ahead
    unfold toCall at ahead
    rw [reset.currentBet, reset.bets j] at ahead
    exact absurd ahead (by decide)
  · intro flop
    rcases reset.street with ⟨empty, -⟩ | ⟨-, turn⟩ | ⟨-, river⟩
    · rw [length, if_pos empty]
    · rw [flop] at turn
      cases turn
    · rw [flop] at river
      cases river
  · intro turn
    rcases reset.street with ⟨-, flop⟩ | ⟨three, -⟩ | ⟨-, river⟩
    · rw [turn] at flop
      cases flop
    · rw [length, three]
      rfl
    · rw [turn] at river
      cases river
  · intro river
    rcases reset.street with ⟨-, flop⟩ | ⟨-, turn⟩ | ⟨four, -⟩
    · rw [river] at flop
      cases flop
    · rw [river] at turn
      cases turn
    · rw [length, four]
      rfl

/-- In order, a street is not dealt twice. -/
theorem BetsInOrder.street_ne (order : BetsInOrder before) (reset : BettingReset before after) :
    after.street ≠ before.street := by
  intro same
  rcases reset.street with ⟨length, street⟩ | ⟨length, street⟩ | ⟨length, street⟩
  · have three := order.flop (same ▸ street)
    omega
  · have four := order.turn (same ▸ street)
    omega
  · have five := order.river (same ▸ street)
    omega

/-! ## Short wagers -/

/-- The whole stack is a raise of the current bet, but not a full one. -/
def Incomplete (state : HoldemState seatCount) (i : Fin seatCount) : Prop :=
  0 < (state.seats i).stack - toCall state i ∧
    (state.seats i).stack - toCall state i < state.minRaise

/-- What a `bet` or a `raise` puts in; without an amount, the least. -/
def betAmount (state : HoldemState seatCount) (i : Fin seatCount) (amount : Option Int) : Int :=
  amount.getD (min state.config.bigBlind (state.seats i).stack)

def raiseAmount (state : HoldemState seatCount) (i : Fin seatCount) (amount : Option Int) : Int :=
  amount.getD (min (fullRaise state i) (state.seats i).stack)

/-- The action puts the whole stack of the acting seat in. -/
def WholeStack (state : HoldemState seatCount) (i : Fin seatCount)
    (action : PokerAction) (amount : Option Int) : Prop :=
  action = .allIn ∨ action = .bet ∧ betAmount state i amount = (state.seats i).stack ∨
      action = .raise ∧ raiseAmount state i amount = (state.seats i).stack

/-- A `raise` or `bet` for less than a full one. -/
def ReopensShort (state : HoldemState seatCount) (i : Fin seatCount)
    (action : PokerAction) (amount : Option Int) : Prop :=
  (action = .raise ∨ action = .bet) ∧ WholeStack state i action amount ∧ (Incomplete state i ∨
      action = .bet ∧ (state.seats i).stack < state.config.bigBlind)

instance (action : PokerAction) (amount : Option Int) :
    Decidable (ReopensShort state i action amount) :=
  inferInstanceAs (Decidable ((action = .raise ∨ action = .bet) ∧ (action = .allIn ∨
            action = .bet ∧ betAmount state i amount = (state.seats i).stack ∨ action = .raise ∧
                raiseAmount state i amount = (state.seats i).stack) ∧
          (0 < (state.seats i).stack - toCall state i ∧
              (state.seats i).stack - toCall state i < state.minRaise ∨ action = .bet ∧
              (state.seats i).stack < state.config.bigBlind)))

/-- The call is such a wager of the acting seat. -/
def shortCall (state : HoldemState seatCount) : EngineCall → Bool
  | .applyAction action amount =>
      state.actingIndex.any fun i => ReopensShort state i action amount
  | _ => false

/-- No call of the run is such a wager, and the blinds are amounts. -/
def FullWagers (state : HoldemState seatCount) (call : EngineCall) : Prop :=
  0 ≤ state.config.bigBlind ∧ shortCall state call = false

instance (call : EngineCall) : Decidable (FullWagers state call) :=
  inferInstanceAs (Decidable (0 ≤ state.config.bigBlind ∧ shortCall state call = false))

theorem FullWagers.long (full : FullWagers state (.applyAction action amount))
    (acting : state.actingIndex = some i) : ¬ ReopensShort state i action amount := by
  have none := full.2
  rw [shortCall, acting, Option.any_some, decide_eq_false_iff_not] at none
  exact none

/-- Wagers that are not short keep the bets in order. -/
theorem Wagers.betsInOrder (wagers : Wagers before i action amount after)
    (order : BetsInOrder before) (nonneg : 0 ≤ before.config.bigBlind)
    (full : ¬ ReopensShort before i action amount) :
    BetsInOrder after := by
  have minRaise := order.minRaise
  have currentBet := order.currentBet
  have aheadOf : ∀ (amount current : Int) (j : Fin seatCount), before.currentBet ≤ current →
      (before.seats i).bet + amount ≤ current → current - (Function.update before.seats i
            (paySeat (before.seats i) amount) j).bet < 0 → toCall before j < 0 := by
    intro amount current j grows within ahead
    by_cases same : j = i
    · subst same
      simp only [Function.update_self, paySeat] at ahead
      omega
    · rw [Function.update_of_ne same] at ahead
      unfold toCall
      omega
  cases wagers with
  | fold behind =>
    refine ⟨minRaise, currentBet, ?_, order.flop, order.turn, order.river⟩
    intro j k first second
    simp only [toCall, foldAt_bet] at first second
    exact order.above j k first second
  | check matched =>
    exact ⟨minRaise, currentBet, order.above, order.flop, order.turn, order.river⟩
  | call behind enough =>
    refine ⟨minRaise, currentBet, ?_, order.flop, order.turn, order.river⟩
    have within : (before.seats i).bet + toCall before i ≤ before.currentBet := by
      unfold toCall
      omega
    intro j k first second
    exact order.above j k (aheadOf _ _ j le_rfl within first) (aheadOf _ _ k le_rfl within second)
  | bet matched chips free paid low high chosen =>
    have large : before.config.bigBlind ≤ paid := by
      by_contra small
      apply full
      refine ⟨.inr rfl, .inr (.inl ⟨rfl, ?_⟩), .inr ⟨rfl, ?_⟩⟩
      · rw [betAmount, ← chosen]
        omega
      · omega
    unfold toCall at matched
    have grows : before.currentBet ≤ (before.seats i).bet + paid := by
      omega
    refine ⟨large, ?_, ?_, order.flop, order.turn, order.river⟩
    · show 0 ≤ (before.seats i).bet + paid
      omega
    · intro j k first second
      exact order.above j k (aheadOf _ _ j grows le_rfl first) (aheadOf _ _ k grows le_rfl second)
  | raise behind more free paid low high chosen =>
    have grows : before.currentBet ≤ (before.seats i).bet + paid := by
      unfold fullRaise at low
      unfold toCall at more
      omega
    refine ⟨?_, ?_, ?_, order.flop, order.turn, order.river⟩
    · exact minRaise.trans (le_max_left _ _)
    · show 0 ≤ (before.seats i).bet + paid
      omega
    · intro j k first second
      exact order.above j k (aheadOf _ _ j grows le_rfl first) (aheadOf _ _ k grows le_rfl second)
  | shoveFull more free raised =>
    have grows : before.currentBet ≤ (before.seats i).bet + (before.seats i).stack := by
      unfold toCall at more
      omega
    refine ⟨?_, ?_, ?_, order.flop, order.turn, order.river⟩
    · exact minRaise.trans raised
    · show 0 ≤ (before.seats i).bet + (before.seats i).stack
      omega
    · intro j k first second
      exact order.above j k (aheadOf _ _ j grows le_rfl first) (aheadOf _ _ k grows le_rfl second)
  | shoveShort more free short =>
    have grows : before.currentBet ≤ (before.seats i).bet + (before.seats i).stack := by
      unfold toCall at more
      omega
    refine ⟨minRaise, ?_, ?_, order.flop, order.turn, order.river⟩
    · show 0 ≤ (before.seats i).bet + (before.seats i).stack
      omega
    · intro j k first second
      exact order.above j k (aheadOf _ _ j grows le_rfl first) (aheadOf _ _ k grows le_rfl second)
  | callAllIn behind short =>
    refine ⟨minRaise, currentBet, ?_, order.flop, order.turn, order.river⟩
    have within : (before.seats i).bet + (before.seats i).stack ≤
        before.currentBet := by
      unfold toCall at short
      omega
    intro j k first second
    exact order.above j k (aheadOf _ _ j le_rfl within first) (aheadOf _ _ k le_rfl within second)

/-- Every outcome of an action keeps the bets in order. -/
theorem Passes.betsInOrder (passes : Passes before i after events) (order : BetsInOrder before) :
    BetsInOrder after := by
  rcases passes.betting with kept | ⟨reset, -, -⟩
  · exact kept.betsInOrder order
  · exact reset.betsInOrder

theorem betsInOrder_of_startHand {serverSeed handId : String} (nonneg : 0 ≤ before.config.bigBlind)
    (ok : startHand hashes before serverSeed handId = .ok (after, events)) :
    BetsInOrder after := by
  rcases startHand_eq_ok ok with ⟨button, sb, bb, started⟩
  have atBlind : ∀ j, toCall after j < 0 → j = sb := by
    intro j ahead
    by_contra other
    have bound := started.bet_le nonneg other
    unfold toCall at ahead
    rw [show after.currentBet = before.config.bigBlind by
      rw [started.rest]] at ahead
    omega
  have rest := started.rest
  constructor
  · rw [rest]
  · rw [rest]
    exact nonneg
  · intro j k first second
    rw [atBlind j first, atBlind k second]
  · intro flop
    rw [rest] at flop
    cases flop
  · intro turn
    rw [rest] at turn
    cases turn
  · intro river
    rw [rest] at river
    cases river

theorem step_config (ok : step hashes before call = .ok after) : after.config = before.config := by
  rcases step_eq_ok ok with ⟨events, ok⟩
  cases call with
  | seatPlayer seatIndex playerId agentId stack =>
    cases ok
    rfl
  | clearSeat seatIndex =>
    cases ok
    rfl
  | foldSeat seatIndex =>
    cases ok
    rfl
  | setSitOut seatIndex sitOut =>
    cases ok
    rfl
  | startHand serverSeed handId =>
    rcases startHand_eq_ok ok with ⟨button, sb, bb, started⟩
    rw [started.rest]
  | applyAction action amount =>
    rcases applyAction_wagers ok with ⟨i, wagered, own, -, -, -, wagers, passes⟩
    have same : wagered.config = before.config := by
      cases wagers <;> rfl
    rcases passes.betting with kept | ⟨reset, -, -⟩
    · rw [kept.config, same]
    · rw [reset.config, same]
  | continueRunout =>
    rcases (continueRunout_eq_ok ok).betting with kept | reset
    · exact kept.config
    · exact reset.config

/-- A step that is not a short `raise` or `bet` keeps the bets in order. -/
theorem betsInOrder_step (order : BetsInOrder before) (full : FullWagers before call)
    (ok : step hashes before call = .ok after) :
    BetsInOrder after := by
  rcases step_eq_ok ok with ⟨events, ok⟩
  cases call with
  | seatPlayer seatIndex playerId agentId stack =>
    cases ok
    exact (bettingKept_of_mapSeat fun seat => .inr rfl).betsInOrder order
  | clearSeat seatIndex =>
    cases ok
    exact (bettingKept_of_mapSeat fun seat => .inr rfl).betsInOrder order
  | foldSeat seatIndex =>
    cases ok
    refine BettingKept.betsInOrder (bettingKept_of_mapSeat ?_) order
    exact fun seat => .inl rfl
  | setSitOut seatIndex sitOut =>
    cases ok
    refine BettingKept.betsInOrder (bettingKept_of_mapSeat fun seat => ?_) order
    left
    split <;> rfl
  | startHand serverSeed handId =>
    exact betsInOrder_of_startHand full.1 ok
  | applyAction action amount =>
    rcases applyAction_wagers ok with ⟨i, wagered, own, acting, -, -, wagers, passes⟩
    exact passes.betsInOrder (wagers.betsInOrder order full.1 (full.long acting))
  | continueRunout =>
    rcases (continueRunout_eq_ok ok).betting with kept | reset
    · exact kept.betsInOrder order
    · exact reset.betsInOrder

theorem betsInOrder_createTable {config : TableConfig} :
    BetsInOrder (createTable config seatCount) := by
  refine ⟨le_rfl, le_rfl, ?_, ?_, ?_, ?_⟩
  · intro j k ahead
    exact absurd ahead (by simp [toCall, createTable])
  · intro flop
    cases flop
  · intro turn
    cases turn
  · intro river
    cases river

/-- In every run without short raises and bets, the bets are in order. -/
theorem betsInOrder_reachable (reached : (engine hashes seatCount).Reachable FullWagers state) :
    BetsInOrder state := by
  apply reached.invariant
  · rintro _ ⟨config, rfl⟩
    exact betsInOrder_createTable
  · intro before call after order full ok
    exact betsInOrder_step order full ok

/-! ## The betting stays closed -/

/-- What an incomplete all-in leaves as it was. -/
structure KeepsClosed (before after : HoldemState seatCount) : Prop where
  incomplete : after.lastRaiseComplete = false
  acted : before.actedThisStreet ⊆ after.actedThisStreet
  minRaise : after.minRaise = before.minRaise

/-- A full wager: a bet of the big blind, or a raise by the minimum. -/
def FullRaise (state : HoldemState seatCount) (i : Fin seatCount)
    (action : PokerAction) (amount : Option Int) : Prop :=
  action = .bet ∧ state.config.bigBlind ≤ betAmount state i amount ∨ action = .raise ∧
        state.minRaise ≤ raiseAmount state i amount - toCall state i ∨ action = .allIn ∧
        state.minRaise ≤ (state.seats i).stack - toCall state i

/-- A call on the given street, in the same hand, that is no full raise. -/
def Quiet (street : Street) (state : HoldemState seatCount) (call : EngineCall) :
    Prop :=
  FullWagers state call ∧ state.street = street ∧
    (∀ serverSeed handId, call ≠ .startHand serverSeed handId) ∧
      ∀ action amount i, call = .applyAction action amount →
        state.actingIndex = some i → ¬ FullRaise state i action amount

/-- A seat is offered no bet and no raise. -/
def NoReraise (state : HoldemState seatCount) (j : Fin seatCount) : Prop :=
  state.actingIndex = some j → ∀ offer ∈ getLegalActions state,
      offer.action ≠ .bet ∧ offer.action ≠ .raise ∧ (offer.action = .allIn →
          (state.seats j).stack ≤ toCall state j)

/-- A capped seat may only fold, check or call. -/
theorem noReraise_of_capped (capped : Capped state j) :
    NoReraise state j := by
  intro acting offer mem
  rcases offered_of_mem acting mem with ⟨-, -, offered⟩
  cases offered with
  | fold behind => simp
  | check matched => simp
  | call behind enough => simp
  | bet matched chips free => exact absurd capped free
  | raise behind more free => exact absurd capped free
  | shove more free => exact absurd capped free
  | callAllIn behind short => simp [short]

/-- Betting goes on while a seat that can act has not matched the bet. -/
theorem not_closes_of_behind (many : 1 < (contenders state.seats).length)
    (contender : j ∈ contenders state.seats) (behind : 0 < toCall state j) : ¬ Closes state i := by
  have active := mem_contenders.mp contender
  unfold toCall at behind
  rintro (⟨complete, -⟩ | ⟨-, nobody⟩)
  · have live : (contenders state.seats).length ≤ (liveSeats state.seats).length :=
      List.length_filter_le _ _
    simp only [streetComplete, Bool.or_eq_true, Bool.and_eq_true,
      decide_eq_true_eq, List.all_eq_true] at complete
    rcases complete with (few | none) | ⟨matched, -⟩
    · omega
    · rw [none] at many
      cases many
    · have equal := matched j contender
      omega
  · have passed := nextPlace_eq_none_iff.mp nobody j
    simp only [active.1, active.2, Bool.not_false, Bool.true_and,
      Bool.or_eq_false_iff, decide_eq_false_iff_not] at passed
    omega

/-- After a raise, at most one other seat is not behind. -/
theorem exists_behind (order : BetsInOrder before)
    (bets : ∀ j, j ∈ contenders after.seats → (after.seats j).bet = (before.seats j).bet)
    (raised : before.currentBet < after.currentBet)
    (many : 1 < (contenders after.seats).length) :
    ∃ j ∈ contenders after.seats, 0 < toCall after j := by
  have distinct : (contenders after.seats).Nodup := nodup_liveSeats.filter _
  cases listed : contenders after.seats with
  | nil =>
    rw [listed] at many
    cases many
  | cons j rest =>
    cases rest with
    | nil =>
      rw [listed] at many
      exact absurd many (by simp)
    | cons k others =>
      rw [listed] at distinct bets
      have betJ := bets j (by simp)
      have betK := bets k (by simp)
      have other : j ≠ k := by
        rintro rfl
        simp at distinct
      by_cases ahead : toCall before j < 0
      · refine ⟨k, by simp, ?_⟩
        have behind : ¬ toCall before k < 0 := fun also => other (order.above j k ahead also)
        unfold toCall at behind ⊢
        omega
      · refine ⟨j, by simp, ?_⟩
        unfold toCall at ahead ⊢
        omega

/-- An incomplete all-in, as a wager and what it leads to. -/
theorem keepsClosed_of_shoveShort {wagered : HoldemState seatCount} (order : BetsInOrder before)
    (same :
      wagered =
        { paidIn before i (before.seats i).stack with
          currentBet := (before.seats i).bet + (before.seats i).stack
          lastRaiseComplete := false
          actedThisStreet := insert i before.actedThisStreet })
    (more : toCall before i < (before.seats i).stack)
    (passes : Passes wagered i after events) :
    KeepsClosed before after := by
  rcases passes.betting with kept | ⟨-, closes, many⟩
  · constructor
    · rw [kept.complete, same]
    · rw [kept.acted, same]
      exact Finset.subset_insert _ _
    · rw [kept.minRaise, same]
      rfl
  · exfalso
    have allIn : (wagered.seats i).allIn = true := by
      rw [same]
      simp [paySeat]
    have others : ∀ j, j ∈ contenders wagered.seats →
        (wagered.seats j).bet = (before.seats j).bet := by
      intro j contender
      have other : j ≠ i := by
        rintro rfl
        rw [mem_contenders, allIn] at contender
        cases contender.2
      rw [same]
      exact congrArg SeatState.bet (paidIn_of_ne other)
    have raised : before.currentBet < wagered.currentBet := by
      rw [same]
      show before.currentBet < (before.seats i).bet + (before.seats i).stack
      unfold toCall at more
      omega
    rcases exists_behind order others raised many with ⟨j, contender, behind⟩
    exact not_closes_of_behind many contender behind closes

/-- Closed to a set of seats. -/
def ClosedTo (acted : Finset (Fin seatCount)) (state : HoldemState seatCount) :
    Prop :=
  state.lastRaiseComplete = false ∧ acted ⊆ state.actedThisStreet

/-- A wager that is neither short nor full leaves the betting closed. -/
theorem Wagers.closedTo {acted : Finset (Fin seatCount)}
    (wagers : Wagers before i action amount after) (closed : ClosedTo acted before)
    (long : ¬ ReopensShort before i action amount) (notFull : ¬ FullRaise before i action amount) :
    ClosedTo acted after := by
  have more : acted ⊆ insert i before.actedThisStreet := closed.2.trans (Finset.subset_insert _ _)
  cases wagers with
  | fold behind => exact ⟨closed.1, more⟩
  | check matched => exact ⟨closed.1, more⟩
  | call behind enough => exact ⟨closed.1, more⟩
  | bet matched chips free paid low high chosen =>
    exfalso
    apply long
    have small : ¬ before.config.bigBlind ≤ paid := by
      intro large
      apply notFull
      left
      rw [betAmount, ← chosen]
      exact ⟨rfl, large⟩
    refine ⟨.inr rfl, .inr (.inl ⟨rfl, ?_⟩), .inr ⟨rfl, ?_⟩⟩
    · rw [betAmount, ← chosen]
      omega
    · omega
  | raise behind moreChips free paid low high chosen =>
    exfalso
    apply long
    have small : ¬ before.minRaise ≤ paid - toCall before i := by
      intro large
      apply notFull
      right
      left
      rw [raiseAmount, ← chosen]
      exact ⟨rfl, large⟩
    have reach : fullRaise before i = toCall before i + before.minRaise := by
      unfold fullRaise toCall
      omega
    refine ⟨.inl rfl, .inr (.inr ⟨rfl, ?_⟩), .inl ⟨?_, ?_⟩⟩
    · rw [raiseAmount, ← chosen]
      omega
    · omega
    · omega
  | shoveFull moreChips free full =>
    exfalso
    exact notFull (.inr (.inr ⟨rfl, full⟩))
  | shoveShort moreChips free short => exact ⟨rfl, more⟩
  | callAllIn behind short => exact ⟨closed.1, more⟩

/-- On one street, the betting stays closed until a full raise. -/
theorem closedTo_step {street : Street} {acted : Finset (Fin seatCount)}
    (order : BetsInOrder before) (quiet : Quiet street before call)
    (ok : step hashes before call = .ok after)
    (same : after.street = street) (closed : ClosedTo acted before) :
    ClosedTo acted after := by
  rcases quiet with ⟨full, onStreet, sameHand, notFull⟩
  rcases step_eq_ok ok with ⟨events, ok⟩
  cases call with
  | seatPlayer seatIndex playerId agentId stack =>
    cases ok
    exact closed
  | clearSeat seatIndex =>
    cases ok
    exact closed
  | foldSeat seatIndex =>
    cases ok
    exact closed
  | setSitOut seatIndex sitOut =>
    cases ok
    exact closed
  | startHand serverSeed handId => exact absurd rfl (sameHand _ _)
  | applyAction action amount =>
    rcases applyAction_wagers ok with ⟨i, wagered, own, acting, -, -, wagers, passes⟩
    have long := full.long acting
    have wageredClosed := wagers.closedTo closed long (notFull action amount i rfl acting)
    have wageredOrder := wagers.betsInOrder order full.1 long
    have wageredStreet : wagered.street = before.street := by
      cases wagers <;> rfl
    rcases passes.betting with kept | ⟨reset, -, -⟩
    · rw [ClosedTo, kept.complete, kept.acted]
      exact wageredClosed
    · refine absurd ?_ (wageredOrder.street_ne reset)
      rw [same, wageredStreet, onStreet]
  | continueRunout =>
    rcases (continueRunout_eq_ok ok).betting with kept | reset
    · rw [ClosedTo, kept.complete, kept.acted]
      exact closed
    · refine absurd ?_ (order.street_ne reset)
      rw [same, onStreet]

/-- Until the street ends or a full raise is made, nobody may re-raise. -/
theorem closedTo_quietRun {acted : Finset (Fin seatCount)} {later : HoldemState seatCount}
    (order : BetsInOrder state) (closed : ClosedTo acted state)
    (run : ((engine hashes seatCount).startingAt state).Reachable (Quiet state.street) later)
    (same : later.street = state.street) :
    ClosedTo acted later := by
  have both : BetsInOrder later ∧ (later.street = state.street → ClosedTo acted later) := by
    refine @System.Reachable.invariant _ _ _ _ _ (fun later =>
          BetsInOrder later ∧ (later.street = state.street → ClosedTo acted later))
        ?_ ?_ _ run
    · intro start initial
      rw [show start = state from initial]
      exact ⟨order, fun _ => closed⟩
    · rintro before call after ⟨order, closed⟩ quiet ok
      exact ⟨betsInOrder_step order quiet.1 ok, fun same =>
        closedTo_step order quiet ok same (closed quiet.2.1)⟩
  exact both.2 same

/-- Somebody acts only at tables whose blinds are amounts. -/
theorem nonneg_of_acting (reached : (engine hashes seatCount).Reachable FullWagers state)
    (acting : state.actingIndex = some i) : 0 ≤ state.config.bigBlind := by
  cases reached with
  | start initial =>
    rcases initial with ⟨config, rfl⟩
    cases acting
  | next reached full ok =>
    rw [step_config ok]
    exact full.1

/--
In every run without short raises and bets, the minimum raise is at least the
big blind, an incomplete all-in keeps the betting closed exactly when it is
submitted as `all_in`, and then nobody who has acted may re-raise on the
street until a full raise is made.
-/
theorem incomplete_allIn_closes
    (reached : (engine hashes seatCount).Reachable FullWagers state) :
    state.config.bigBlind ≤ state.minRaise ∧
      ∀ action amount after events i,
        applyAction state action amount = .ok (after, events) →
        state.actingIndex = some i → WholeStack state i action amount →
        Incomplete state i →
        (KeepsClosed state after ↔ action = .allIn) ∧
          (action = .allIn →
            ∀ later,
              ((engine hashes seatCount).startingAt after).Reachable
                  (Quiet after.street) later →
                later.street = after.street →
                  ∀ j ∈ state.actedThisStreet, NoReraise later j) := by
  have order := betsInOrder_reachable reached
  refine ⟨order.minRaise, ?_⟩
  intro action amount after events i ok acting whole incomplete
  have nonneg := nonneg_of_acting reached acting
  rcases applyAction_wagers ok with
    ⟨k, wagered, own, actingK, -, -, wagers, passes⟩
  rw [acting, Option.some.injEq] at actingK
  subst actingK
  have complete_of :
      wagered.lastRaiseComplete = true → ¬ KeepsClosed state after := by
    intro complete keeps
    have closed := keeps.incomplete
    rcases passes.betting with kept | ⟨reset, -, -⟩
    · rw [kept.complete, complete] at closed
      cases closed
    · rw [reset.complete] at closed
      cases closed
  have closes :
      action = .allIn →
        KeepsClosed state after ∧ BetsInOrder after := by
    intro allIn
    have long : ¬ ReopensShort state i action amount := by
      rintro ⟨raises, -⟩
      rw [allIn] at raises
      rcases raises with raises | raises <;> cases raises
    refine
      ⟨?_, passes.betsInOrder (wagers.betsInOrder order nonneg long)⟩
    cases wagers with
    | shoveFull more free full =>
        unfold Incomplete at incomplete
        omega
    | shoveShort more free short =>
        exact
          keepsClosed_of_shoveShort order rfl
            (lt_of_le_of_lt (le_max_left _ _) more) passes
    | callAllIn behind short =>
        unfold Incomplete at incomplete
        omega
    | _ => cases allIn
  constructor
  · constructor
    · intro keeps
      rcases whole with allIn | ⟨bet, -⟩ | ⟨raise, -⟩
      · exact allIn
      · subst bet
        cases wagers
        exact absurd keeps (complete_of rfl)
      · subst raise
        cases wagers
        exact absurd keeps (complete_of rfl)
    · intro allIn
      exact (closes allIn).1
  · intro allIn later run same j acted
    rcases closes allIn with ⟨keeps, orderAfter⟩
    have closed :=
      closedTo_quietRun orderAfter ⟨keeps.incomplete, keeps.acted⟩ run same
    exact noReraise_of_capped ⟨closed.1, closed.2 acted⟩

/-- The button raises, the small blind calls, and a short stack acts. -/
def raiseBeforeShortStack : List EngineCall :=
  dealPlain [1000, 1000, 25] ++ [.applyAction .raise (some 20), .applyAction .call none]

def shortAllIn (action : PokerAction) (state : HoldemState 3) : Bool :=
  state.actingIndex = some 2 && (state.seats 2).stack = 15 &&
    toCall state 2 = 10 && state.minRaise = 10 && state.config.bigBlind = 10 &&
    match applyAction state action (some 15) with
    | .ok (after, _) => after.lastRaiseComplete == (action != .allIn)
    | .error _ => false

theorem exists_shortAllIn {action : PokerAction} {state : HoldemState 3}
    (observed : shortAllIn action state = true) :
    state.actingIndex = some 2 ∧ (state.seats 2).stack = 15 ∧ Incomplete state 2 ∧ ∃ after events,
          applyAction state action (some 15) = .ok (after, events) ∧
            after.lastRaiseComplete = (action != .allIn) := by
  rw [shortAllIn] at observed
  cases result : applyAction state action (some 15) with
  | error err => simp [result] at observed
  | ok reached =>
    rcases reached with ⟨after, events⟩
    simp only [result, Bool.and_eq_true, decide_eq_true_eq, beq_iff_eq] at observed
    rcases observed with ⟨⟨⟨⟨⟨acting, stack⟩, call⟩, least⟩, -⟩, complete⟩
    refine ⟨acting, stack, ?_, after, events, rfl, complete⟩
    unfold Incomplete
    omega

theorem incomplete_allIn_closes_shortStack :
    ∃ state after events,
      (engine plainHashes 3).Reachable FullWagers state ∧
        applyAction state .allIn (some 15) = .ok (after, events) ∧
        Incomplete state 2 ∧ KeepsClosed state after ∧
        state.config.bigBlind ≤ state.minRaise := by
  have replayed :
      ((engine plainHashes 3).replay FullWagers (plainTable 3)
          raiseBeforeShortStack).any (shortAllIn .allIn) = true := by
    decide +kernel
  rcases plainTable_reachable.exists_replay replayed with
    ⟨state, reached, observed⟩
  rcases exists_shortAllIn observed with
    ⟨acting, -, incomplete, after, events, ok, -⟩
  rcases incomplete_allIn_closes reached with ⟨minRaise, closes⟩
  have keeps :=
    (closes .allIn (some 15) after events 2 ok acting (.inl rfl)
      incomplete).1.mpr rfl
  exact ⟨state, after, events, reached, ok, incomplete, keeps, minRaise⟩

/-- The same chips submitted as `raise` reopen the betting. -/
theorem exists_raise_reopens :
    ∃ state after events,
      (engine plainHashes 3).Reachable AnyCall state ∧
        applyAction state .raise (some 15) = .ok (after, events) ∧
        state.actingIndex = some 2 ∧ WholeStack state 2 .raise (some 15) ∧
        Incomplete state 2 ∧ ¬ KeepsClosed state after := by
  have replayed :
      ((engine plainHashes 3).replay AnyCall (plainTable 3)
          raiseBeforeShortStack).any (shortAllIn .raise) = true := by
    decide +kernel
  rcases plainTable_reachable.exists_replay replayed with
    ⟨state, reached, observed⟩
  rcases exists_shortAllIn observed with
    ⟨acting, stack, incomplete, after, events, ok, complete⟩
  refine ⟨state, after, events, reached, ok, acting, ?_, incomplete, ?_⟩
  · right
    right
    refine ⟨rfl, ?_⟩
    rw [stack]
    rfl
  · intro keeps
    have closed := keeps.incomplete
    rw [complete] at closed
    cases closed

end Mozetto.Engine
