import Mozetto.Engine.ForcedFolds

/-!
# Hands with forced folds

A hand stays playable through forced folds as long as a seat does not sit out
on its own turn while two others could still bet, and the only seat left does
not fold: the runtime always has a next step, and taking its steps settles
the hand with the chips it was played for.
-/

namespace Mozetto.Engine

open Mozetto.Library.RingSearch
open Mozetto.Library.TransitionSystem

variable {seatCount : Nat}
variable {hashes : Hashes}
variable {state wagered after table : HoldemState seatCount}
variable {seats : Fin seatCount → SeatState}
variable {serverSeed handId : String}
variable {events : List (EngineEvent seatCount)}
variable {action : PokerAction} {amount : Option Int}
variable {config : TableConfig} {funds : Int}
variable {i j : Fin seatCount}

/-! ## Chips put in -/

/-- A seat that is in stays at the table; all in, it has chips in the pot. -/
structure Invested (seat : SeatState) : Prop where
  staying : seat.sitOut = false
  backed : seat.allIn = true → 0 < seat.totalBet

theorem Invested.pay {seat : SeatState} {paid : Int} (invested : Invested seat)
    (chips : seat.allIn = false → 0 < seat.stack) (total : 0 ≤ seat.totalBet) (nonneg : 0 ≤ paid) :
    Invested (paySeat seat paid) := by
  refine ⟨invested.staying, ?_⟩
  intro allIn
  show 0 < seat.totalBet + paid
  cases before : seat.allIn with
  | true =>
    have backed := invested.backed before
    omega
  | false =>
    have stack := chips before
    simp only [paySeat, before] at allIn
    split at allIn
    · omega
    · cases allIn

/-- What the seats of a hand have put in. -/
structure Staked (state : HoldemState seatCount) : Prop where
  invested : ∀ i, (state.seats i).folded = false → Invested (state.seats i)
  blinds : state.board.length = 0 → 0 < state.currentBet

/-- Every seat that is in has chips in the pot. -/
def AllPaid (state : HoldemState seatCount) : Prop :=
  ∀ i, (state.seats i).folded = false → 0 < (state.seats i).totalBet

/-- The blinds are put in by seats that stay. -/
theorem Started.staked {button sb bb : Fin seatCount}
    (started : Started hashes table after serverSeed handId button sb bb)
    (playable : Playable table handId) (small : 0 ≤ table.config.smallBlind) :
    Staked after := by
  have rest := started.rest
  constructor
  · intro i unfolded
    have eligible : (table.seats i).eligible = true := by
      rw [started.folded_eq] at unfolded
      simpa using unfolded
    simp only [SeatState.eligible, Bool.and_eq_true, Bool.not_eq_true',
      decide_eq_true_eq] at eligible
    have before : Invested (handSeats table i) := ⟨eligible.1.1, fun allIn => by cases allIn⟩
    rcases started.seats_apply i with ⟨hole, same⟩
    rcases @postBlinds_eq seatCount (handSeats table) table.config sb bb with
      ⟨first, second, firstIs, secondIs, posted⟩
    have stack : 0 < (handSeats table i).stack := eligible.2
    have big := playable.bigBlind
    have invested : Invested ((postBlinds table.config (handSeats table) sb bb).1 i) := by
      rw [posted]
      dsimp only
      have once : Invested (Function.update (handSeats table) sb
              (paySeat (handSeats table sb) first) i) ∧ Solvent
            (Function.update (handSeats table) sb (paySeat (handSeats table sb) first) i) ∧
          0 ≤ (Function.update (handSeats table) sb
            (paySeat (handSeats table sb) first) i).totalBet := by
        by_cases atSmall : i = sb
        · subst atSmall
          rw [Function.update_self]
          have nonneg : 0 ≤ first := by omega
          refine ⟨before.pay (fun _ => stack) le_rfl nonneg, ?_, ?_⟩
          · apply Solvent.pay
            omega
          · show 0 ≤ 0 + first
            omega
        · rw [Function.update_of_ne atSmall]
          exact ⟨before, ⟨stack.le, fun _ => stack⟩, le_rfl⟩
      by_cases atBig : i = bb
      · subst atBig
        rw [Function.update_self]
        have left := once.2.1.stack
        exact once.1.pay once.2.1.chips once.2.2 (by omega)
      · rw [Function.update_of_ne atBig]
        exact once.1
    rw [same]
    exact { invested with }
  · intro _
    rw [rest]
    exact playable.bigBlind

/-- A wager of a seat with chips stakes no less. -/
theorem Wagers.staked (wagers : Wagers state i action amount wagered)
    (staked : Staked state) (playing : Playing funds config state)
    (unfolded : (state.seats i).folded = false) (notAllIn : (state.seats i).allIn = false)
    (blind : 0 < config.bigBlind) (minRaise : 0 < state.minRaise) :
    Staked wagered := by
  have stack := (playing.seats i).chips unfolded notAllIn
  have bet := (playing.seats i).bet
  have total := bet.trans (playing.seats i).within
  have big : 0 < state.config.bigBlind := by
    rw [playing.config]
    exact blind
  have paid {paid : Int} (nonneg : 0 ≤ paid) (j : Fin seatCount)
      (inGame : ((paidIn state i paid).seats j).folded = false) :
      Invested ((paidIn state i paid).seats j) := by
    by_cases here : j = i
    · subst here
      rw [paidIn_self]
      exact (staked.invested j unfolded).pay (fun _ => stack) total nonneg
    · rw [paidIn_of_ne here] at inGame ⊢
      exact staked.invested j inGame
  cases wagers with
  | fold behind =>
    refine ⟨?_, staked.blinds⟩
    intro j inGame
    by_cases here : j = i
    · subst here
      rw [show _ = (foldAt state.seats j j).folded from rfl, foldAt_self] at inGame
      cases inGame
    · rw [show _ = (foldAt state.seats i j).folded from rfl, foldAt_of_ne here] at inGame
      show Invested (foldAt state.seats i j)
      rw [foldAt_of_ne here]
      exact staked.invested j inGame
  | check matched => exact ⟨staked.invested, staked.blinds⟩
  | call behind enough => exact ⟨paid behind.le, staked.blinds⟩
  | bet matched some free chosen low high is =>
    have positive : 0 < chosen := by omega
    exact ⟨paid positive.le, fun _ => Int.add_pos_of_nonneg_of_pos bet positive⟩
  | raise behind more free chosen low high is =>
    unfold fullRaise toCall at *
    have positive : 0 < chosen := by omega
    exact ⟨paid positive.le, fun _ => Int.add_pos_of_nonneg_of_pos bet positive⟩
  | shoveFull more free full =>
    exact ⟨paid stack.le, fun _ => Int.add_pos_of_nonneg_of_pos bet stack⟩
  | shoveShort more free short =>
    exact ⟨paid stack.le, fun _ => Int.add_pos_of_nonneg_of_pos bet stack⟩
  | callAllIn behind short => exact ⟨paid stack.le, staked.blinds⟩

/-- A wager leaves the chips of all seats in the pot. -/
theorem Wagers.totalBet_le (wagers : Wagers state i action amount wagered)
    (playing : Playing funds config state) (unfolded : (state.seats i).folded = false)
    (notAllIn : (state.seats i).allIn = false) (blind : 0 < config.bigBlind) (j : Fin seatCount) :
    (state.seats j).totalBet ≤ (wagered.seats j).totalBet := by
  have stack := (playing.seats i).chips unfolded notAllIn
  have least := playing.minRaise
  have big : 0 < state.config.bigBlind := by
    rw [playing.config]
    exact blind
  have paid {paid : Int} (nonneg : 0 ≤ paid) : (state.seats j).totalBet ≤
      ((paidIn state i paid).seats j).totalBet := by
    by_cases here : j = i
    · subst here
      rw [paidIn_self]
      exact le_add_of_nonneg_right nonneg
    · rw [paidIn_of_ne here]
  cases wagers with
  | fold behind =>
    show _ ≤ (foldAt state.seats i j).totalBet
    rw [foldAt_eq]
  | check matched => exact le_rfl
  | call behind enough => exact paid behind.le
  | bet matched some free chosen low high is => exact paid (by omega)
  | raise behind more free chosen low high is =>
    unfold fullRaise toCall at *
    exact paid (by omega)
  | shoveFull more free full => exact paid stack.le
  | shoveShort more free short => exact paid stack.le
  | callAllIn behind short => exact paid stack.le

/-! ## Whose turn it is -/

/--
A seat that can act has the turn, a run-out is due with nobody to bet, or the
board is complete and the seat with the turn has folded.
-/
inductive TurnKept (state : HoldemState seatCount) : Prop where
  | able (i : Fin seatCount) (acting : state.actingIndex = some i)
      (unfolded : (state.seats i).folded = false) (notAllIn : (state.seats i).allIn = false)
      (paid : state.board.length ≠ 0 → AllPaid state)
  | runsOut (few : (contenders state.seats).length ≤ 1)
      (acting : ∀ i, state.actingIndex = some i → (state.seats i).folded = true ∨
            (state.seats i).allIn = true ∧ state.board.length = 0)
  | shows (full : state.board.length = 5) (paid : AllPaid state)
      (acting : ∀ i, state.actingIndex = some i → (state.seats i).folded = true)

/-- A hand that goes on, whatever forced folds it has seen. -/
structure Interrupted (config : TableConfig) (state : HoldemState seatCount) : Prop
    extends HandGoing config state, Staked state where
  turn : TurnKept state

/-- When the betting of a street has ended, nobody who can bet owes chips. -/
theorem Closes.matched (closes : Closes state i) (many : 1 < (contenders state.seats).length)
    (unfolded : (state.seats j).folded = false) (notAllIn : (state.seats j).allIn = false) :
    state.currentBet ≤ (state.seats j).bet := by
  rcases closes with ⟨complete, -⟩ | ⟨-, nobody⟩
  · have member : j ∈ contenders state.seats := mem_contenders.mpr ⟨unfolded, notAllIn⟩
    have live := @length_contenders_le seatCount state.seats
    have some : contenders state.seats ≠ [] := List.ne_nil_of_mem member
    have crowd : ¬ (liveSeats state.seats).length ≤ 1 := by omega
    simp only [streetComplete, crowd, some, decide_false, Bool.false_or,
      Bool.and_eq_true, List.all_eq_true, decide_eq_true_eq] at complete
    exact (complete.1 j member).ge
  · have passed := nextPlace_eq_none_iff.mp nobody j
    simp only [unfolded, notAllIn, Bool.not_false, Bool.true_and,
      Bool.or_eq_false_iff, decide_eq_false_iff_not, not_lt] at passed
    exact passed.1

/-- When the first street is dealt, every seat that is in has paid. -/
theorem Closes.allPaid (closes : Closes state i) (many : 1 < (contenders state.seats).length)
    (staked : Staked state) (within : ∀ j, (state.seats j).bet ≤ (state.seats j).totalBet)
    (paid : state.board.length ≠ 0 → AllPaid state) : AllPaid state := by
  by_cases first : state.board.length = 0
  · intro j unfolded
    have blind := staked.blinds first
    cases allIn : (state.seats j).allIn with
    | true => exact (staked.invested j unfolded).backed allIn
    | false =>
      have matched := closes.matched many unfolded allIn
      have bound := within j
      omega
  · exact paid first

/-- What passing on the turn leads to: a hand that goes on, or its end. -/
theorem Passes.interrupted (passes : Passes state i after events)
    (going : HandGoing config state) (blind : 0 < config.bigBlind) (staked : Staked state)
    (within : ∀ j, (state.seats j).bet ≤ (state.seats j).totalBet)
    (paid : state.board.length ≠ 0 → AllPaid state) :
    Interrupted config after ∨ after.street = .settlement := by
  cases passes with
  | turn j incomplete next =>
    left
    have holds := nextPlace_holds next
    simp only [Bool.and_eq_true, Bool.not_eq_true', Bool.or_eq_true, decide_eq_true_eq] at holds
    exact
      { going, staked with
        turn := .able j rfl holds.1.1 holds.1.2 paid }
  | waits closes live few short =>
    left
    exact
      { going, staked with
        turn := .runsOut few fun j acting => by cases acting }
  | stalls closes many noBoard short =>
    exfalso
    have fits := going.fits
    simp only [nextBoard] at noBoard
    cases reached : state.street <;> rw [reached] at fits <;>
      simp only [BoardFits] at fits <;> simp [fits] at noBoard short
  | deals closes live many board =>
    left
    have waiting : HandGoing config { state with actingIndex := none } := { going with }
    have reset := bettingReset_of_nextBoard board
    rcases waiting.dealt blind board with ⟨dealt, longer, -, -⟩
    rcases awaited_of_nextBoard waiting board many with ⟨j, acting, awaited⟩
    have all := closes.allPaid many staked within paid
    rcases nextBoard_eq_some board with ⟨count, street, -, rfl, -⟩
    exact
      { dealt with
        invested := fun k unfolded =>
          { staked.invested k unfolded with }
        blinds := fun empty => by
          have long :
              state.board.length < (dealBoard { state with actingIndex := none } count
                  street).1.board.length := longer
          omega
        turn := .able j acting awaited.unfolded awaited.notAllIn fun _ => all }
  | folds closes live settled => exact .inr (ended_of_foldWin live settled).street
  | shows acting last settled =>
    right
    rcases settleShowdown_eq_ok settled with ⟨ranked, rake, effect⟩
    rw [effect.rest]

/-! ## Actions -/

/-- A check of a seat that has acted changes nothing. -/
theorem Wagers.eq_of_idle (wagers : Wagers state i .check amount wagered)
    (acted : i ∈ state.actedThisStreet) : wagered = state := by
  cases wagers with
  | check matched => rw [Finset.insert_eq_of_mem acted]

/-- Passing leaves a seat that is still in as it was. -/
theorem passed_of_unfolded (inGame : ((passed state i action).seats j).folded = false) :
    (passed state i action).seats j = state.seats j := by
  rw [passed] at inGame ⊢
  dsimp only at inGame ⊢
  split at inGame
  · rename_i fold
    rw [if_pos fold]
    by_cases here : j = i
    · rw [here, foldAt_self] at inGame
      cases inGame
    · exact foldAt_of_ne here
  · rename_i keeps
    rw [if_neg keeps]

/-- A seat that is in after a wager was in before. -/
theorem Wagers.unfolded (wagers : Wagers state i action amount wagered)
    (inGame : (wagered.seats j).folded = false) : (state.seats j).folded = false := by
  rw [(wagers.seat_eq j).1] at inGame
  rwa [passed_of_unfolded inGame] at inGame

/-- Only a fold takes the acting seat out of the hand. -/
theorem Wagers.someLive (wagers : Wagers state i action amount wagered)
    (unfolded : (state.seats i).folded = false)
    (another : action = .fold → 2 ≤ (liveSeats state.seats).length) :
    liveSeats wagered.seats ≠ [] := by
  by_cases fold : action = .fold
  · have costs : Costs state wagered i := by
      subst fold
      cases wagers with
      | fold behind => exact .folds rfl
    exact costs.someLive (another fold)
  · apply List.ne_nil_of_mem (a := i)
    rw [mem_liveSeats, (wagers.seat_eq i).1, Engine.passed]
    dsimp only
    rwa [if_neg fold]

/-- A seat that has the turn and can act is one of a hand that has paid. -/
theorem TurnKept.paid_of_able (turn : TurnKept state) (acting : state.actingIndex = some i)
    (unfolded : (state.seats i).folded = false) (notAllIn : (state.seats i).allIn = false) :
    state.board.length ≠ 0 → AllPaid state := by
  cases turn with
  | able j acting' unfolded' notAllIn' paid => exact paid
  | runsOut few idle =>
    rcases idle i acting with folded | ⟨allIn, -⟩
    · rw [unfolded] at folded
      cases folded
    · rw [notAllIn] at allIn
      cases allIn
  | shows full paid idle => exact fun _ => paid

/-- A hand that is played, through forced folds, or settled. -/
def Kept (funds : Int) (config : TableConfig) (state : HoldemState seatCount) :
    Prop :=
  Playing funds config state ∧ Interrupted config state ∨ Settled funds config state

theorem Interrupted.of_wagers (interrupted : Interrupted config state)
    (playing : Playing funds config state) (blind : 0 < config.bigBlind)
    (acting : state.actingIndex = some i) (unfolded : (state.seats i).folded = false)
    (notAllIn : (state.seats i).allIn = false)
    (another : action = .fold → 2 ≤ (liveSeats state.seats).length)
    (wagers : Wagers state i action amount wagered) : HandGoing config wagered ∧ Staked wagered ∧
    (wagered.board.length ≠ 0 → AllPaid wagered) := by
  have chips := (playing.seats i).chips unfolded notAllIn
  have big : 0 < state.config.bigBlind := by
    rw [playing.config]
    exact blind
  have same := wagers.sameHand
  refine ⟨?_, wagers.staked interrupted.toStaked playing unfolded notAllIn blind
      interrupted.minRaise, ?_⟩
  · by_cases idle : action = .check ∧ i ∈ state.actedThisStreet
    · rcases idle with ⟨rfl, acted⟩
      rw [wagers.eq_of_idle acted]
      exact interrupted.toHandGoing
    · have first : action = .check → i ∉ state.actedThisStreet :=
        fun check acted => idle ⟨check, acted⟩
      rcases wagers.costs_of_first chips big interrupted.minRaise first with ⟨costs, minRaise⟩
      exact interrupted.toHandGoing.of_costs costs same minRaise (wagers.someLive unfolded another)
  · intro dealt
    rw [same.board] at dealt
    have paid := interrupted.turn.paid_of_able acting unfolded notAllIn dealt
    intro j inGame
    exact lt_of_lt_of_le (paid j (wagers.unfolded inGame))
        (wagers.totalBet_le playing unfolded notAllIn blind j)

/-- The chips of an action that leaves somebody in are paid to somebody. -/
theorem Interrupted.actionCovered (interrupted : Interrupted config state)
    (acting : state.actingIndex = some i) (unfolded : (state.seats i).folded = false)
    (notAllIn : (state.seats i).allIn = false)
    (another : action = .fold → 2 ≤ (liveSeats state.seats).length) :
    ActionCovered state action amount i := by
  constructor
  · intro river _ _ _
    have dealt : state.board.length ≠ 0 := by
      have fits := interrupted.fits
      rw [river] at fits
      rw [show state.board.length = 5 from fits]
      decide
    have paid := interrupted.turn.paid_of_able acting unfolded notAllIn dealt
    have some : liveSeats (passed state i action).seats ≠ [] := by
      by_cases fold : action = .fold
      · have costs : Costs state (passed state i action) i := by
          apply Costs.folds
          rw [passed, if_pos fold]
        exact costs.someLive (another fold)
      · apply List.ne_nil_of_mem (a := i)
        rw [mem_liveSeats, passed]
        dsimp only
        rwa [if_neg fold]
    rcases List.exists_mem_of_ne_nil _ some with ⟨j, member⟩
    rw [mem_liveSeats] at member
    have same := passed_of_unfolded member
    refine ⟨j, member, ?_⟩
    rw [same] at member ⊢
    exact paid j member
  · rintro - ⟨j, only, out⟩
    have member := (only j).mpr rfl
    have same := passed_of_unfolded member
    rw [same] at member out
    rw [(interrupted.invested j member).staying] at out
    cases out

/-- An action of a hand that goes on. -/
theorem Interrupted.act (interrupted : Interrupted config state)
    (playing : Playing funds config state) (amounts : AmountsNonneg config)
    (nonneg : 0 ≤ config.rakePct) (one : config.rakePct ≤ 1) (blind : 0 < config.bigBlind)
    (another : action = .fold → 2 ≤ (liveSeats state.seats).length)
    (ok : applyAction state action amount = .ok (after, events)) :
    Kept funds config after := by
  rcases applyAction_wagers ok with ⟨i, wagered, own, acting, unfolded, notAllIn, wagers, passes⟩
  rcases interrupted.of_wagers playing blind acting unfolded notAllIn another
      wagers with ⟨going, staked, paid⟩
  have wageredPlays := wagers.playing playing amounts.bigBlind
  have hand :=
    playing.applyAction amounts nonneg one (fun j acting' => by
        rw [acting, Option.some.injEq] at acting'
        subst acting'
        exact interrupted.actionCovered acting unfolded notAllIn another)
      ok
  rcases hand with plays | settled
  · rcases passes.interrupted going blind staked
        (fun j => (wageredPlays.seats j).within) paid with goesOn | settled
    · exact .inl ⟨plays, goesOn⟩
    · exact absurd settled plays.not_settled
  · exact .inr settled

/-! ## Run-outs and awards -/

/-- Seats that cannot bet any more are all in. -/
theorem exists_allIn_of_few (live : 2 ≤ (liveSeats seats).length)
    (few : (contenders seats).length ≤ 1) :
    ∃ j, (seats j).folded = false ∧ (seats j).allIn = true := by
  have fewer : ((liveSeats seats).filter fun j => !(seats j).allIn).length <
      (liveSeats seats).length := by
    show (contenders seats).length < _
    omega
  rcases List.length_filter_lt_length_iff_exists.mp fewer with ⟨j, member, allIn⟩
  exact ⟨j, mem_liveSeats.mp member, by simpa using allIn⟩

theorem Interrupted.not_soleSitsOut (interrupted : Interrupted config state) :
    ¬ SoleSitsOut state.seats := by
  rintro ⟨j, only, out⟩
  rw [(interrupted.invested j ((only j).mpr rfl)).staying] at out
  cases out

/-- A run-out that is due pays its pot to somebody. -/
theorem Interrupted.runoutCovered (interrupted : Interrupted config state)
    (waiting : state.actingIndex = none) : RunoutCovered state := by
  refine ⟨fun settled => absurd settled interrupted.street_ne, fun _ => ?_⟩
  refine ⟨interrupted.someLive, interrupted.not_soleSitsOut, ?_⟩
  intro live _
  cases interrupted.turn with
  | able i acting unfolded notAllIn paid =>
    rw [waiting] at acting
    cases acting
  | runsOut few idle =>
    rcases exists_allIn_of_few live few with ⟨j, unfolded, allIn⟩
    exact ⟨j, unfolded, (interrupted.invested j unfolded).backed allIn⟩
  | shows full paid idle =>
    rcases List.exists_mem_of_ne_nil _ interrupted.someLive with ⟨j, member⟩
    rw [mem_liveSeats] at member
    exact ⟨j, member, paid j member⟩

/-- A run-out that is due. -/
theorem Interrupted.advanceRunout (interrupted : Interrupted config state)
    (playing : Playing funds config state) (amounts : AmountsNonneg config)
    (nonneg : 0 ≤ config.rakePct) (one : config.rakePct ≤ 1)
    (blind : 0 < config.bigBlind) (waiting : state.actingIndex = none) (due : RunoutDue state)
    (ok : continueRunout state = .ok (after, events)) : Kept funds config after ∧
    (after.street = .settlement ∨ state.board.length < after.board.length) := by
  have hand :=
    playing.continueRunout amounts nonneg one (interrupted.runoutCovered waiting) ok
  have idle : HandGoing config { state with actingIndex := none } := { interrupted with }
  cases continueRunout_eq_ok ok with
  | folds live settled =>
    have closed := (ended_of_foldWin live settled).street
    rcases hand with plays | finished
    · exact absurd closed plays.not_settled
    · exact ⟨.inr finished, .inl closed⟩
  | abandons none => exact absurd none interrupted.someLive
  | shows live noBoard settled =>
    rcases settleShowdown_eq_ok settled with ⟨ranked, rake, effect⟩
    have closed : after.street = .settlement := by rw [effect.rest]
    rcases hand with plays | finished
    · exact absurd closed plays.not_settled
    · exact ⟨.inr finished, .inl closed⟩
  | deals live board =>
    rcases idle.dealt blind board with ⟨dealt, longer, -, contenders⟩
    have few : (Engine.contenders state.seats).length ≤ 1 := by
      rcases due with runout | full
      · exact (interrupted.isAllInRunout_iff.mp runout).2
      · have complete := length_board_le dealt.fits
        have long : state.board.length < _ := longer
        omega
    rcases hand with plays | finished
    · rcases nextBoard_eq_some board with ⟨count, street, -, rfl, -⟩
      refine ⟨.inl ⟨plays, ?_⟩, .inr longer⟩
      exact
        { dealt with
          invested := fun k unfolded =>
            { interrupted.invested k unfolded with }
          blinds := fun empty => by
            have long :
                state.board.length < (dealBoard { state with actingIndex := none } count
                    street).1.board.length := longer
            have none : (dealBoard { state with actingIndex := none } count
                street).1.board.length = 0 := empty
            omega
          turn :=
            .runsOut (by rw [← contenders] at few; exact few) fun j acting => by cases acting }
    · exact absurd finished.street dealt.street_ne

/-- The award does not depend on the turn. -/
theorem foldWin_turn {acting : Option (Fin seatCount)} :
    foldWin { state with actingIndex := acting } = foldWin state := rfl

/-- The only seat left is awarded the pot. -/
theorem Interrupted.award (interrupted : Interrupted config state)
    (playing : Playing funds config state) (amounts : AmountsNonneg config)
    (nonneg : 0 ≤ config.rakePct) (one : config.rakePct ≤ 1)
    (live : (liveSeats state.seats).length = 1) (ok : foldWin state = .ok (after, events)) :
    Settled funds config after :=
  playing.foldWin amounts nonneg one live (fun sole => absurd sole interrupted.not_soleSitsOut)
    (foldWin_turn.trans ok)

/-! ## Forced folds of a seat -/

/-- One seat is folded; the turn may have been passed on. -/
structure FoldsSeat (before after : HoldemState seatCount) (i : Fin seatCount) : Prop where
  others : ∀ j, j ≠ i → after.seats j = before.seats j
  folded : (after.seats i).folded = true
  rest :
    after = { before with seats := after.seats, actingIndex := after.actingIndex }

theorem foldsSeat_foldSeat : FoldsSeat state (foldSeat state i) i where
  others := by
    intro j other
    simp [foldSeat, mapSeat, Fin.val_inj, other]
  folded := by simp [foldSeat, mapSeat]
  rest := rfl

theorem foldsSeat_setSitOut (midHand : state.midHand = true) :
    FoldsSeat state (setSitOut state i true) i where
  others := by
    intro j other
    simp [setSitOut, mapSeat, Fin.val_inj, other]
  folded := by simp [setSitOut, mapSeat, midHand]
  rest := rfl

namespace FoldsSeat

variable (folds : FoldsSeat state after i)
include folds

theorem seat_of_unfolded (unfolded : (after.seats j).folded = false) :
    j ≠ i ∧ after.seats j = state.seats j := by
  have other : j ≠ i := by
    rintro rfl
    rw [folds.folded] at unfolded
    cases unfolded
  exact ⟨other, folds.others j other⟩

theorem length_contenders_le :
    (contenders after.seats).length ≤ (contenders state.seats).length := by
  have distinct : (contenders after.seats).Nodup := nodup_liveSeats.filter _
  apply (distinct.subperm ?_).length_le
  intro j member
  rw [mem_contenders] at member ⊢
  rw [(folds.seat_of_unfolded member.1).2] at member
  exact member

theorem allPaid (paid : AllPaid state) : AllPaid after := by
  intro j inGame
  have same := (folds.seat_of_unfolded inGame).2
  rw [same] at inGame ⊢
  exact paid j inGame

theorem going (going : HandGoing config state) (someLive : liveSeats after.seats ≠ []) :
    HandGoing config after := by
  have rest := folds.rest
  exact
    { seats := fun j inGame => by
        have same := (folds.seat_of_unfolded inGame).2
        rw [same] at inGame ⊢
        exact going.seats j inGame
      someLive := someLive
      named := by rw [rest]; exact going.named
      minRaise := by rw [rest]; exact going.minRaise
      fits := by rw [rest]; exact going.fits
      board := by rw [rest]; exact going.board
      deck := by rw [rest]; exact going.deck
      config := by rw [rest]; exact going.config }

theorem staked (staked : Staked state) : Staked after where
  invested := by
    intro j inGame
    have same := (folds.seat_of_unfolded inGame).2
    rw [same] at inGame ⊢
    exact staked.invested j inGame
  blinds := by
    rw [folds.rest]
    exact staked.blinds

theorem board_eq : after.board = state.board := by rw [folds.rest]

/-- The turn after a forced fold that leaves it to the same seat. -/
theorem turnKept (turn : TurnKept state) (fits : BoardFits state.street state.board.length)
    (kept : after.actingIndex = state.actingIndex)
    (passes : state.actingIndex = some i →
        5 ≤ state.board.length ∨ (contenders after.seats).length ≤ 1) :
    TurnKept after := by
  have board := folds.board_eq
  cases turn with
  | able j acting unfolded notAllIn paid =>
    by_cases here : j = i
    · subst here
      have folded : ∀ k, after.actingIndex = some k → (after.seats k).folded = true := by
        intro k acting'
        rw [kept, acting, Option.some.injEq] at acting'
        subst acting'
        exact folds.folded
      rcases passes acting with full | few
      · have complete := le_antisymm (length_board_le fits) full
        apply TurnKept.shows
        · rw [board]
          exact complete
        · apply folds.allPaid
          apply paid
          rw [complete]
          decide
        · exact folded
      · exact .runsOut few fun k acting' => .inl (folded k acting')
    · have same := folds.others j here
      apply TurnKept.able j
      · exact kept.trans acting
      · rw [same]
        exact unfolded
      · rw [same]
        exact notAllIn
      · rw [board]
        intro dealt
        exact folds.allPaid (paid dealt)
  | runsOut few idle =>
    apply TurnKept.runsOut (folds.length_contenders_le.trans few)
    intro j acting
    by_cases here : j = i
    · subst here
      exact .inl folds.folded
    · rw [folds.others j here, board]
      exact idle j (kept.symm.trans acting)
  | shows full paid idle =>
    apply TurnKept.shows
    · rw [board]
      exact full
    · exact folds.allPaid paid
    · intro j acting
      by_cases here : j = i
      · subst here
        exact folds.folded
      · rw [folds.others j here]
        exact idle j (kept.symm.trans acting)

end FoldsSeat

theorem Interrupted.midHand (interrupted : Interrupted config state) : state.midHand = true := by
  have fits := interrupted.fits
  have named := interrupted.named
  simp only [HoldemState.midHand, named, Bool.true_and]
  cases reached : state.street <;> rw [reached] at fits <;>
    simp only [BoardFits] at fits <;> rfl

/-- A seat sits out. -/
theorem Interrupted.sitOut (interrupted : Interrupted config state)
    (playing : Playing funds config state)
    (someLive : liveSeats (setSitOut state i true).seats ≠ [])
    (passes : state.actingIndex = some i → 5 ≤ state.board.length ∨
          (contenders (setSitOut state i true).seats).length ≤ 1) :
    Kept funds config (setSitOut state i true) := by
  have folds : FoldsSeat state (setSitOut state i true) i := foldsSeat_setSitOut interrupted.midHand
  exact .inl ⟨playing.mapSeat forcedOut_setSitOut,
        { folds.going interrupted.toHandGoing someLive, folds.staked interrupted.toStaked with
          turn := folds.turnKept interrupted.turn interrupted.fits rfl passes }⟩

/-- In such a hand the seats left are those that can claim the pot. -/
theorem claimants_eq_liveSeats
    (players : ∀ j, (seats j).folded = false → (seats j).playerId ≠ "")
    (staying : ∀ j, (seats j).folded = false → (seats j).sitOut = false) :
    claimants seats = liveSeats seats := by
  apply List.filter_congr
  intro j _
  cases folded : (seats j).folded with
  | true => simp [SeatState.claims, folded]
  | false =>
    simp [SeatState.claims, folded, players j folded, staying j folded]

/-- The turn after a seat has left. -/
theorem turnKept_passLeaver
    (turn : TurnKept state) (fits : BoardFits state.street state.board.length)
    (unfolded : (state.seats i).folded = false)
    (claims : ∀ j, ((foldSeat state i).seats j).folded = false →
        ((foldSeat state i).seats j).claims = true) :
    TurnKept (passLeaver (foldSeat state i) i) := by
  have folds : FoldsSeat state (foldSeat state i) i := foldsSeat_foldSeat
  rw [passLeaver]
  split
  case isFalse elsewhere =>
    exact folds.turnKept turn fits rfl fun acting => absurd acting elsewhere
  case isTrue acting =>
    have acting : state.actingIndex = some i := acting
    cases next : legalNext (foldSeat state i).seats i with
    | some j =>
      have holds := List.find?_some next
      simp only [SeatState.claims, Bool.and_eq_true, Bool.not_eq_true'] at holds
      refine .able j rfl holds.1.1.1.1 holds.1.2 fun dealt => ?_
      have paid : AllPaid state := by
        cases turn with
        | able k acting' unfolded' notAllIn paid => exact paid dealt
        | runsOut few idle =>
          rcases idle i acting with folded | ⟨-, empty⟩
          · rw [unfolded] at folded
            cases folded
          · exact absurd empty dealt
        | shows full paid idle => exact paid
      exact folds.allPaid paid
    | none =>
      have nobody := List.find?_eq_none.mp next
      have empty : contenders (foldSeat state i).seats = [] := by
        rw [List.eq_nil_iff_forall_not_mem]
        intro j member
        rw [mem_contenders] at member
        have other := (folds.seat_of_unfolded member.1).1
        have passed := nobody j (List.mem_finRange j)
        simp [claims j member.1, member.2, other] at passed
      apply TurnKept.runsOut
      · show (contenders (foldSeat state i).seats).length ≤ 1
        rw [empty]
        exact Nat.zero_le 1
      · intro j acting'
        cases acting'

/-- A seat leaves. -/
theorem Interrupted.leave (interrupted : Interrupted config state)
    (playing : Playing funds config state) (amounts : AmountsNonneg config)
    (nonneg : 0 ≤ config.rakePct) (one : config.rakePct ≤ 1)
    (someLive : liveSeats (foldSeat state i).seats ≠ []) (ok : foldLeaver state i = .ok after) :
    Kept funds config after := by
  have folds : FoldsSeat state (foldSeat state i) i := foldsSeat_foldSeat
  have plays : Playing funds config (foldSeat state i) := playing.mapSeat forcedOut_foldSeat
  have going := folds.going interrupted.toHandGoing someLive
  have staked := folds.staked interrupted.toStaked
  have sameSeats : claimants (foldSeat state i).seats = liveSeats (foldSeat state i).seats :=
    claimants_eq_liveSeats (fun j inGame => (going.seats j inGame).player)
      (fun j inGame => (staked.invested j inGame).staying)
  rw [foldLeaver] at ok
  split at ok
  case isFalse =>
    cases ok
    exact .inl ⟨playing, interrupted⟩
  case isTrue inHand =>
    rw [settleIfOnePlayerLeft] at ok
    split at ok
    case isTrue one' =>
      cases settled : foldWin (foldSeat state i) with
      | error err =>
        rw [settled] at ok
        cases ok
      | ok result =>
        rw [settled] at ok
        cases ok
        have live : (liveSeats (foldSeat state i).seats).length = 1 := by
          rw [← sameSeats]
          exact one'.1
        have notOut : ¬ SoleSitsOut (foldSeat state i).seats := by
          rintro ⟨j, only, out⟩
          rw [(staked.invested j ((only j).mpr rfl)).staying] at out
          cases out
        exact .inr (plays.foldWin amounts nonneg one live (fun sole => absurd sole notOut)
              (foldWin_turn.trans settled))
    case isFalse =>
      cases ok
      have turn :=
        turnKept_passLeaver interrupted.turn interrupted.fits inHand.2 (fun j inGame => by
            have staying := (staked.invested j inGame).staying
            have player := (going.seats j inGame).player
            simp [SeatState.claims, inGame, staying, player])
      left
      have kept :
          ∀ acting : Option (Fin seatCount),
            TurnKept { foldSeat state i with actingIndex := acting } → Playing funds config
                  { foldSeat state i with actingIndex := acting } ∧ Interrupted config
                  { foldSeat state i with actingIndex := acting } :=
        fun acting turn =>
          ⟨{ plays with }, { going, staked with turn := turn }⟩
      rw [passLeaver] at turn ⊢
      split at turn
      case isTrue acting =>
        rw [if_pos acting]
        exact kept _ turn
      case isFalse elsewhere =>
        rw [if_neg elsewhere]
        exact kept _ turn

/-! ## One call -/

theorem Interrupted.clearTurn (interrupted : Interrupted config state)
    (nothing : getLegalActions state = []) :
    Interrupted config { state with actingIndex := none } := by
  have turn : TurnKept { state with actingIndex := none } := by
    cases interrupted.turn with
    | able i acting unfolded notAllIn paid =>
      exact absurd nothing (getLegalActions_ne_nil acting unfolded notAllIn)
    | runsOut few idle => exact .runsOut few fun j acting => by cases acting
    | shows full paid idle =>
      exact .shows full paid fun j acting => by cases acting
  exact { interrupted with turn := turn }

/-- A call that keeps the turn keeps the hand. -/
theorem kept_step {call : RuntimeCall seatCount} (amounts : AmountsNonneg config)
    (nonneg : 0 ≤ config.rakePct) (one : config.rakePct ≤ 1) (blind : 0 < config.bigBlind)
    (kept : Kept funds config state) (admitted : call.Legal state ∧ call.KeepsTurn state)
    (ok : runtimeStep state call = .ok after) :
    Kept funds config after := by
  rcases kept with ⟨playing, interrupted⟩ | finished
  · cases call with
    | act action amount =>
      rcases map_fst_eq_ok ok with ⟨events, applied⟩
      exact interrupted.act playing amounts nonneg one blind admitted.2 applied
    | advanceRunout =>
      rcases map_fst_eq_ok ok with ⟨events, continued⟩
      rcases admitted.1 with ⟨waiting, -, due⟩
      exact (interrupted.advanceRunout playing amounts nonneg one blind waiting due continued).1
    | award =>
      rcases map_fst_eq_ok ok with ⟨events, awarded⟩
      exact .inr (interrupted.award playing amounts nonneg one admitted.1.2 awarded)
    | clearTurn =>
      cases ok
      exact .inl ⟨{ playing with }, interrupted.clearTurn admitted.1.2⟩
    | sitOut seatIndex =>
      cases ok
      exact interrupted.sitOut playing admitted.1 admitted.2
    | leave seatIndex =>
      exact interrupted.leave playing amounts nonneg one admitted.1 ok
  · cases call with
    | act action amount =>
      rcases map_fst_eq_ok ok with ⟨events, applied⟩
      simp [applyAction, finished.acting] at applied
    | advanceRunout => exact absurd finished.street admitted.1.2.1
    | award => exact absurd finished.street admitted.1.1
    | clearTurn => exact absurd finished.acting admitted.1.1
    | sitOut seatIndex =>
      cases ok
      exact .inr (finished.mapSeat forcedOut_setSitOut)
    | leave seatIndex =>
      have ended : state.midHand = false := by
        simp [HoldemState.midHand, finished.street]
      rw [runtimeStep, foldLeaver, if_neg] at ok
      · cases ok
        exact .inr finished
      · rintro ⟨midHand, -⟩
        rw [ended] at midHand
        cases midHand

end Mozetto.Engine
