import Mozetto.Engine.Playing
import Mozetto.Engine.FoldWins
import Mozetto.Engine.Allocation

/-!
# Chips of a hand

A hand pays out exactly the chips it was played for, less the rake, unless it
is settled without anybody to pay: by a showdown of seats that have put
nothing in, by folds to a seat that sits out, or by running out a hand that
nobody is in or that is over already.
-/

namespace Mozetto.Engine

open Mozetto.Library.TransitionSystem

variable {seatCount : Nat}
variable {hashes : Hashes}
variable {state wagered after table : HoldemState seatCount}
variable {seats : Fin seatCount → SeatState}
variable {serverSeed handId : String}
variable {events : List (EngineEvent seatCount)}
variable {action : PokerAction} {amount : Option Int}
variable {call : EngineCall}
variable {funds : Int} {config : TableConfig}
variable {i j : Fin seatCount}

/-! ## Tables -/

/-- Blinds and cap are amounts. -/
structure AmountsNonneg (config : TableConfig) : Prop where
  smallBlind : 0 ≤ config.smallBlind
  bigBlind : 0 ≤ config.bigBlind
  rakeCap : ∀ cap, config.rakeCap = some cap → 0 ≤ cap

/-- The rake of such a table stays within the cap and the pot. -/
theorem computeRakeFromPct_bounds {pot rake : Int} {liveHands : Nat} {endedBeforeFlop : Option Bool}
    (amounts : AmountsNonneg config) (nonneg : 0 ≤ config.rakePct) (one : config.rakePct ≤ 1)
    (computed : computeRakeFromPct pot config.rakePct config.rakeCap liveHands
        endedBeforeFlop = .ok rake)
    (potNonneg : 0 ≤ pot) :
    0 ≤ rake ∧ rake ≤ pot ∧ ∀ cap, config.rakeCap = some cap → rake ≤ cap := by
  rcases rakePctToBps_le nonneg one with ⟨bps, small, finite⟩
  rcases computeRake_bounds computed with ⟨low, capped, bounded⟩
  refine ⟨low, bounded bps finite small potNonneg, ?_⟩
  intro cap same
  exact capped cap same (amounts.rakeCap cap same)

/-! ## Settled hands -/

/-- A hand that is settled for the chips it was played for. -/
structure Settled (funds : Int) (config : TableConfig) (state : HoldemState seatCount) : Prop where
  street : state.street = .settlement
  acting : state.actingIndex = none
  stack : ∀ i, 0 ≤ (state.seats i).stack
  pot : state.pot = 0
  funds : chips state.seats + state.rake = funds
  rake : 0 ≤ state.rake
  capped : ∀ cap, config.rakeCap = some cap → state.rake ≤ cap
  config : state.config = config

theorem Settled.mapSeat {seatIndex : Nat} {change : SeatState → SeatState}
    (settled : Settled funds config state) (forced : ForcedOut change) :
    Settled funds config (mapSeat state seatIndex change) := by
  refine { settled with stack := ?_, funds := ?_ }
  · intro i
    simp only [Engine.mapSeat]
    split
    · rw [(forced _).1]
      exact settled.stack i
    · exact settled.stack i
  · rw [chips_mapSeat forced]
    exact settled.funds

/-- Without a pot a hand may be over at once. -/
theorem Playing.over (playing : Playing funds config state) (amounts : AmountsNonneg config)
    (empty : state.pot = 0) (same : after.config = state.config)
    (seats : after.seats = state.seats) (pot : after.pot = 0) (street : after.street = .settlement)
    (acting : after.actingIndex = none) (rake : after.rake = state.rake) :
    Settled funds config after := by
  have total := playing.funds
  have none := playing.rake
  refine ⟨street, acting, ?_, pot, ?_, ?_, ?_, same.trans playing.config⟩
  · intro i
    rw [seats]
    exact (playing.seats i).stack
  · rw [seats, rake]
    omega
  · omega
  · intro cap capped
    have := amounts.rakeCap cap capped
    omega

/-! ## Hands won by folds -/

/-- The only seat left sits out. -/
def SoleSitsOut (seats : Fin seatCount → SeatState) : Prop :=
  ∃ j, OnlyLive seats j ∧ (seats j).sitOut = true

instance : Decidable (SoleSitsOut seats) :=
  inferInstanceAs (Decidable (∃ j, (∀ k, (seats k).folded = false ↔ k = j) ∧
        (seats j).sitOut = true))

/-- Uncalled chips are among those the winner has put in. -/
theorem uncalledBetAmount_bounds (inPlay : ∀ j, SeatInPlay (seats j)) :
    0 ≤ uncalledBetAmount seats i ∧ uncalledBetAmount seats i ≤ committed seats := by
  rcases @uncalledBetAmount_spec seatCount seats i with ⟨matched, greatest, uncalled⟩
  have nonneg := greatest.2 (Set.mem_insert _ _)
  have within := (inPlay i).within
  have bet := (inPlay i).bet
  have part : (seats i).totalBet ≤ committed seats := by
    apply Finset.single_le_sum _ (Finset.mem_univ i)
    intro j _
    exact (inPlay j).bet.trans (inPlay j).within
  omega

/-- A hand won by folds is paid to a seat that does not sit out. -/
theorem Playing.foldWin (playing : Playing funds config state) (amounts : AmountsNonneg config)
    (nonneg : 0 ≤ config.rakePct) (one : config.rakePct ≤ 1)
    (live : (liveSeats state.seats).length = 1) (paid : SoleSitsOut state.seats → state.pot = 0)
    (ok : foldWin { state with actingIndex := none } = .ok (after, events)) :
    Settled funds config after := by
  rcases length_liveSeats_eq_one_iff.mp live with ⟨sole, only⟩
  rcases foldWin_eq_ok ok with unclaimed | ⟨winner, rake, effect⟩
  · have empty : state.pot = 0 := by
      apply paid
      refine ⟨sole, only, ?_⟩
      have unfolded := (only sole).mpr rfl
      have player := (playing.seats sole).player unfolded
      have unclaims := unclaimed.unclaimed sole
      simpa [SeatState.claims, unfolded, player] using unclaims
    rw [unclaimed.rest]
    exact playing.over amounts empty rfl rfl rfl rfl rfl rfl
  · have uncalled := uncalledBetAmount_bounds (i := winner) playing.seats
    have assessed := effect.assessed
    rw [playing.config] at assessed
    rcases computeRakeFromPct_bounds amounts nonneg one assessed
        (le_max_right _ _) with ⟨low, bounded, capped⟩
    have total := playing.funds
    have pot := playing.pot
    replace bounded : rake ≤ max (state.pot - uncalledBetAmount state.seats winner) 0 := bounded
    have stack (j : Fin seatCount) : (after.seats j).stack = (state.seats j).stack +
          if j = winner then state.pot - rake else 0 := by
      rw [effect.seats]
      by_cases same : j = winner
      · subst same
        simp only [if_true]
        omega
      · simp [same]
    refine ⟨by rw [effect.rest], by rw [effect.rest], ?_, by rw [effect.rest], ?_,
        by rw [effect.rest]; exact low, ?_, by rw [effect.rest]; exact playing.config⟩
    · intro j
      have before := (playing.seats j).stack
      rw [stack]
      split <;> omega
    · have sum : chips after.seats = chips state.seats + (state.pot - rake) := by
        simp only [chips, stack, Finset.sum_add_distrib, Finset.sum_ite_eq',
          Finset.mem_univ, if_true]
      have same : after.rake = rake := by rw [effect.rest]
      omega
    · intro cap equal
      rw [effect.rest]
      exact capped cap equal

/-! ## Showdowns -/

/-- A seat that is still in has put chips in. -/
def Backed (seats : Fin seatCount → SeatState) : Prop :=
  ∃ j, (seats j).folded = false ∧ 0 < (seats j).totalBet

instance : Decidable (Backed seats) :=
  inferInstanceAs (Decidable (∃ j, (seats j).folded = false ∧ 0 < (seats j).totalBet))

theorem map_snd_entriesOf {pays : List (Pay seatCount)} :
    (entriesOf pays).map Prod.snd = pays.map Pay.amount := by
  simp only [entriesOf, List.map_map]
  rfl

/-- The awards of all layers are the chips of the layers. -/
theorem sum_flatMap_layerAwards {ranked : List (RankedSeat seatCount)} {button : Nat}
    {pots : List (PotLayer seatCount)}
    (winnable : ∀ pot ∈ pots, Winnable seats pot ∧
        ∀ i ∈ pot.eligible, i ∈ ranked.map RankedSeat.seatIndex) :
    ((pots.flatMap (layerAwards ranked button)).map Pay.amount).sum =
      (pots.map PotLayer.amount).sum := by
  induction pots with
  | nil => rfl
  | cons pot pots induction =>
    have first := winnable pot (by simp)
    rw [List.flatMap_cons, List.map_append, List.sum_append, sum_layerAwards first.1 first.2,
      induction fun other later => winnable other (by simp [later]), List.map_cons, List.sum_cons]

theorem buildPots_eq_nil (nothing : ∀ i, (seats i).totalBet = 0) : buildPots seats = [] := by
  have levels : betLevels seats = [] := by
    rw [List.eq_nil_iff_forall_not_mem]
    intro level member
    rcases mem_betLevels.mp member with ⟨i, positive, -⟩
    rw [nothing i] at positive
    exact lt_irrefl _ positive
  simp [buildPots, levels, layerPots]

theorem uncalledFromTotals_nonneg : 0 ≤ uncalledFromTotals seats := by
  rw [uncalledFromTotals]
  split
  · split
    · exact le_rfl
    · split
      · exact le_rfl
      · exact le_max_right _ _
  · exact le_rfl

/-- A showdown pays the chips of a hand. -/
theorem Playing.settleShowdown {acting : Option (Fin seatCount)}
    (playing : Playing funds config state) (amounts : AmountsNonneg config)
    (nonneg : 0 ≤ config.rakePct) (one : config.rakePct ≤ 1)
    (backed : state.pot = 0 ∨ Backed state.seats)
    (ok :
      settleShowdown { state with actingIndex := acting, street := .showdown } =
        .ok (after, events)) :
    Settled funds config after := by
  rcases settleShowdown_eq_ok ok with ⟨ranked, rake, effect⟩
  have totals : ∀ i, 0 ≤ (state.seats i).totalBet :=
    fun i => (playing.seats i).bet.trans (playing.seats i).within
  have shown : ∀ i, (state.seats i).folded = false → i ∈ ranked.map RankedSeat.seatIndex := by
    intro i unfolded
    rw [seats_of_mapM effect.hands]
    show i ∈ showdownSeats state.seats
    rw [showdownSeats, mem_seatsWith, playing.cards i unfolded, unfolded]
    rfl
  have awarded : ((showdownAwards state ranked).map Pay.amount).sum =
      ((buildPots state.seats).map PotLayer.amount).sum := by
    apply sum_flatMap_layerAwards
    intro pot member
    have winnable := winnable_buildPots member
    refine ⟨winnable, ?_⟩
    intro i eligible
    exact shown i (winnable.2.2 i eligible).1
  have layers : ((buildPots state.seats).map PotLayer.amount).sum = state.pot := by
    rw [playing.pot]
    rcases backed with empty | ⟨j, unfolded, positive⟩
    · have zero : committed state.seats = 0 := playing.pot.symm.trans empty
      have nothing : ∀ i, (state.seats i).totalBet = 0 := by
        intro i
        exact (Finset.sum_eq_zero_iff_of_nonneg (fun k _ => totals k)).mp zero i (Finset.mem_univ i)
      rw [buildPots_eq_nil nothing, zero]
      rfl
    · exact sum_buildPots totals unfolded positive
  have potNonneg : 0 ≤ state.pot := by
    rw [playing.pot]
    exact Finset.sum_nonneg fun i _ => totals i
  have pool : potPool state = state.pot := by
    simp only [potPool, layers]
    split <;> omega
  have assessed : computeRakeFromPct (max (potPool state - uncalledFromTotals state.seats) 0)
      state.config.rakePct state.config.rakeCap
      (showdownSeats state.seats).length none = .ok rake := effect.assessed
  rw [pool, playing.config] at assessed
  have uncalled := @uncalledFromTotals_nonneg _ state.seats
  rcases computeRakeFromPct_bounds amounts nonneg one assessed
      (le_max_right _ _) with ⟨low, bounded, capped⟩
  have within : rake ≤ state.pot := by omega
  have amountsNonneg : ∀ award ∈ showdownAwards state ranked, 0 ≤ award.amount := by
    intro award member
    rcases List.mem_flatMap.mp member with ⟨layer, -, inside⟩
    exact layerAwards_nonneg inside
  have gross (i : Fin seatCount) : credited
        (entriesOf ((showdownAwards state ranked).foldl addWon [])) i =
      credited (entriesOf (showdownAwards state ranked)) i := by
    rw [credited_foldl_addWon]
    exact zero_add _
  have grossSum : (((showdownAwards state ranked).foldl addWon []).map
      Pay.amount).sum = state.pot := by
    rw [← map_snd_entriesOf, ← sum_credited]
    simp only [gross]
    rw [sum_credited, map_snd_entriesOf, awarded, layers]
  rcases @allocateRakeByAwards_spec _ state.button
      ((showdownAwards state ranked).foldl addWon []) rake
      (foldl_addWon_nonneg amountsNonneg (by simp)) low
      (by rw [grossSum]; exact within) with ⟨charged, charges⟩
  have stack (i : Fin seatCount) : (after.seats i).stack = (state.seats i).stack +
          credited (entriesOf (showdownAwards state ranked)) i - credited (allocateRakeByAwards
            ((showdownAwards state ranked).foldl addWon []) rake state.button) i := by
    rw [effect.seats, settledSeats_apply]
    rfl
  refine ⟨by rw [effect.rest], by rw [effect.rest], ?_, by rw [effect.rest], ?_,
      by rw [effect.rest]; exact low, ?_, by rw [effect.rest]; exact playing.config⟩
  · intro i
    have before := (playing.seats i).stack
    have bounds := charges i
    rw [gross] at bounds
    rw [stack]
    omega
  · have sum : chips after.seats = chips state.seats + state.pot - rake := by
      simp only [chips, stack, Finset.sum_add_distrib, Finset.sum_sub_distrib]
      rw [charged, sum_credited, map_snd_entriesOf, awarded, layers]
    have same : after.rake = rake := by rw [effect.rest]
    have total := playing.funds
    omega
  · intro cap equal
    rw [effect.rest]
    exact capped cap equal

/-! ## Hands from their start on -/

/-- One hand of a table. -/
def handFrom (hashes : Hashes) (table : HoldemState seatCount) (serverSeed handId : String) :
    System (HoldemState seatCount) EngineCall EngineError where
  initial state := ∃ events, startHand hashes table serverSeed handId = .ok (state, events)
  step := step hashes

/-- Some seat neither has folded nor sits out. -/
def SomeoneStays (seats : Fin seatCount → SeatState) : Prop :=
  ∃ j, (seats j).folded = false ∧ (seats j).sitOut = false

instance : Decidable (SomeoneStays seats) :=
  inferInstanceAs (Decidable (∃ j, (seats j).folded = false ∧ (seats j).sitOut = false))

/-- The calls of a hand; forced ones leave somebody in. -/
def HandCall (state : HoldemState seatCount) : EngineCall → Prop
  | .applyAction _ _ => True
  | .continueRunout => True
  | .foldSeat seatIndex => SomeoneStays (foldSeat state seatIndex).seats
  | .setSitOut seatIndex sitOut =>
      SomeoneStays (setSitOut state seatIndex sitOut).seats
  | _ => False

instance : Decidable (HandCall state call) :=
  match call with
  | .applyAction _ _ => isTrue trivial
  | .continueRunout => isTrue trivial
  | .foldSeat seatIndex =>
      inferInstanceAs (Decidable (SomeoneStays (foldSeat state seatIndex).seats))
  | .setSitOut seatIndex sitOut =>
      inferInstanceAs (Decidable (SomeoneStays (setSitOut state seatIndex sitOut).seats))
  | .seatPlayer _ _ _ _ => isFalse id
  | .clearSeat _ => isFalse id
  | .startHand _ _ => isFalse id

/-- The action puts chips in. -/
def putsIn (state : HoldemState seatCount) (amount : Option Int) : PokerAction → Bool
  | .fold => false
  | .check => false
  | .bet => 0 < amount.getD state.config.bigBlind
  | _ => true

/-- The table as an action without chips leaves it. -/
def passed (state : HoldemState seatCount) (i : Fin seatCount)
    (action : PokerAction) : HoldemState seatCount :=
  { state with
    seats := if action = .fold then foldAt state.seats i else state.seats
    actedThisStreet := if action = .bet then {i} else insert i state.actedThisStreet }

/-- Nobody is left to act on the street. -/
def StreetEnds (state : HoldemState seatCount) (i : Fin seatCount) : Prop :=
  streetComplete state = true ∨ nextToAct state i = none

instance : Decidable (StreetEnds state i) :=
  inferInstanceAs (Decidable (streetComplete state = true ∨ nextToAct state i = none))

/-- An action that ends the hand leaves a seat that the pot is paid to. -/
def ActionCovered (state : HoldemState seatCount) (action : PokerAction)
    (amount : Option Int) (i : Fin seatCount) : Prop :=
  (state.street = .river → StreetEnds (passed state i action) i →
      putsIn state amount action = false → state.pot ≠ 0 → Backed (passed state i action).seats) ∧
    (state.street ≠ .river → SoleSitsOut (passed state i action).seats →
      putsIn state amount action = false ∧ state.pot = 0)

instance : Decidable (ActionCovered state action amount i) :=
  inferInstanceAs (Decidable ((state.street = .river → StreetEnds (passed state i action) i →
          putsIn state amount action = false → state.pot ≠ 0 →
            Backed (passed state i action).seats) ∧
        (state.street ≠ .river → SoleSitsOut (passed state i action).seats →
          putsIn state amount action = false ∧ state.pot = 0)))

/-- A run-out goes on with a hand, and its pot is paid to somebody. -/
def RunoutCovered (state : HoldemState seatCount) : Prop :=
  (state.street = .settlement → liveSeats state.seats = []) ∧ (state.pot ≠ 0 →
      liveSeats state.seats ≠ [] ∧ ¬ SoleSitsOut state.seats ∧
        (2 ≤ (liveSeats state.seats).length → state.street = .river → Backed state.seats))

instance : Decidable (RunoutCovered state) :=
  inferInstanceAs (Decidable ((state.street = .settlement → liveSeats state.seats = []) ∧
        (state.pot ≠ 0 → liveSeats state.seats ≠ [] ∧ ¬ SoleSitsOut state.seats ∧
            (2 ≤ (liveSeats state.seats).length → state.street = .river → Backed state.seats))))

/-- The call does not settle the hand without a seat to pay. -/
def Covered (state : HoldemState seatCount) : EngineCall → Prop
  | .applyAction action amount =>
      ∀ i, state.actingIndex = some i → ActionCovered state action amount i
  | .continueRunout => RunoutCovered state
  | _ => True

instance : Decidable (Covered state call) :=
  match call with
  | .applyAction action amount =>
      inferInstanceAs (Decidable (∀ i, state.actingIndex = some i →
            ActionCovered state action amount i))
  | .continueRunout => inferInstanceAs (Decidable (RunoutCovered state))
  | .foldSeat _ => isTrue trivial
  | .setSitOut _ _ => isTrue trivial
  | .seatPlayer _ _ _ _ => isTrue trivial
  | .clearSeat _ => isTrue trivial
  | .startHand _ _ => isTrue trivial

/-! ## One call -/

/-- A hand that is played or settled. -/
def InHand (funds : Int) (config : TableConfig) (state : HoldemState seatCount) :
    Prop :=
  Playing funds config state ∨ Settled funds config state

theorem paidIn_zero (positive : 0 < (state.seats i).stack) : paidIn state i 0 = state := by
  have same : paySeat (state.seats i) 0 = state.seats i := by
    simp only [paySeat, sub_zero, add_zero, if_neg positive.ne']
  rw [paidIn, same, Function.update_eq_self, add_zero]

/-- A wager folds nobody but the acting seat. -/
theorem Wagers.seat_eq (wagers : Wagers state i action amount wagered) (j : Fin seatCount) :
    (wagered.seats j).folded = ((passed state i action).seats j).folded ∧
      (wagered.seats j).sitOut = ((passed state i action).seats j).sitOut := by
  have paid (amount : Int) : ((paidIn state i amount).seats j).folded = (state.seats j).folded ∧
      ((paidIn state i amount).seats j).sitOut = (state.seats j).sitOut := by
    by_cases same : j = i
    · subst same
      rw [paidIn_self]
      exact ⟨rfl, rfl⟩
    · rw [paidIn_of_ne same]
      exact ⟨rfl, rfl⟩
  cases wagers with
  | fold behind => exact ⟨rfl, rfl⟩
  | check matched => exact ⟨rfl, rfl⟩
  | call behind enough => exact paid _
  | bet matched some free chosen low high is => exact paid _
  | raise behind more free chosen low high is => exact paid _
  | shoveFull more free full => exact paid _
  | shoveShort more free short => exact paid _
  | callAllIn behind short => exact paid _

/-- An action that puts chips in backs the pot. -/
theorem Wagers.backed (wagers : Wagers state i action amount wagered)
    (playing : Playing funds config state) (unfolded : (state.seats i).folded = false)
    (notAllIn : (state.seats i).allIn = false) (puts : putsIn state amount action = true) :
    Backed wagered.seats := by
  have stack := (playing.seats i).chips unfolded notAllIn
  have before : 0 ≤ (state.seats i).totalBet := (playing.seats i).bet.trans (playing.seats i).within
  have paid {paid : Int} (positive : 0 < paid) : Backed (paidIn state i paid).seats := by
    refine ⟨i, ?_, ?_⟩
    · rw [paidIn_self]
      exact unfolded
    · rw [paidIn_self]
      show 0 < (state.seats i).totalBet + paid
      omega
  cases wagers with
  | fold behind => cases puts
  | check matched => cases puts
  | call behind enough => exact paid behind
  | bet matched some free chosen low high is =>
    apply paid
    rw [putsIn, decide_eq_true_iff] at puts
    cases amount with
    | none =>
      rw [Option.getD_none] at puts is
      omega
    | some amount =>
      rw [Option.getD_some] at puts is
      omega
  | raise behind more free chosen low high is =>
    have least := playing.minRaise
    apply paid
    unfold fullRaise at low
    unfold toCall at behind
    omega
  | shoveFull more free full => exact paid stack
  | shoveShort more free short => exact paid stack
  | callAllIn behind short => exact paid stack

/-- An action without chips only passes the turn on. -/
theorem Wagers.passed (wagers : Wagers state i action amount wagered)
    (blind : 0 ≤ state.config.bigBlind) (none : putsIn state amount action = false) :
    wagered.pot = state.pot ∧ wagered.seats = (Engine.passed state i action).seats ∧
      wagered.actedThisStreet = (Engine.passed state i action).actedThisStreet ∧
      (wagered.currentBet = state.currentBet ∨
        wagered.seats i = state.seats i ∧ state.currentBet ≤ (state.seats i).bet ∧
          wagered.currentBet = (state.seats i).bet) := by
  cases wagers with
  | fold behind => exact ⟨rfl, rfl, rfl, .inl rfl⟩
  | check matched => exact ⟨rfl, rfl, rfl, .inl rfl⟩
  | bet matched some free chosen low high is =>
    rw [putsIn, decide_eq_false_iff_not, not_lt] at none
    have nothing : chosen = 0 := by
      cases amount with
      | none =>
        rw [Option.getD_none] at none is
        omega
      | some amount =>
        rw [Option.getD_some] at none is
        omega
    subst nothing
    have kept := paidIn_zero some
    have seats : (paidIn state i 0).seats = state.seats := congrArg HoldemState.seats kept
    refine ⟨add_zero _, seats, rfl, .inr ⟨congrFun seats i, ?_, add_zero _⟩⟩
    unfold toCall at matched
    omega
  | call behind enough => cases none
  | raise behind more free chosen low high is => cases none
  | shoveFull more free full => cases none
  | shoveShort more free short => cases none
  | callAllIn behind short => cases none

/-- The end of a street only depends on the seats and the betting. -/
theorem streetEnds_congr {other : HoldemState seatCount} (seats : other.seats = state.seats)
    (acted : other.actedThisStreet = state.actedThisStreet)
    (current : other.currentBet = state.currentBet) : StreetEnds other i ↔ StreetEnds state i := by
  simp only [StreetEnds, streetComplete, nextToAct, seats, acted, current]

/-- On the river a covered action is paid by its showdown. -/
theorem Wagers.covered (wagers : Wagers state i action amount wagered)
    (playing : Playing funds config state) (unfolded : (state.seats i).folded = false)
    (notAllIn : (state.seats i).allIn = false) (blind : 0 ≤ config.bigBlind)
    (covered : ActionCovered state action amount i)
    (river : state.street = .river) (ends : StreetEnds wagered i) :
    wagered.pot = 0 ∨ Backed wagered.seats := by
  have big : 0 ≤ state.config.bigBlind := by
    rw [playing.config]
    exact blind
  cases puts : putsIn state amount action with
  | true =>
    exact .inr (wagers.backed playing unfolded notAllIn puts)
  | false =>
    rcases wagers.passed big puts with ⟨pot, seats, acted, current⟩
    by_cases backed : Backed wagered.seats
    · exact .inr backed
    · left
      rw [pot]
      by_contra chips
      apply backed
      rw [seats]
      refine covered.1 river ?_ puts chips
      have same : wagered.currentBet = state.currentBet := by
        rcases current with same | ⟨seat, matched, own⟩
        · exact same
        · have nothing : ¬ 0 < (state.seats i).totalBet := by
            intro positive
            apply backed
            refine ⟨i, ?_, ?_⟩
            · rw [seat]
              exact unfolded
            · rw [seat]
              exact positive
          have within := (playing.seats i).within
          have nonneg := playing.currentBet
          omega
      exact (streetEnds_congr seats acted same).mp ends

/-- What an action leads to in a hand. -/
theorem Playing.applyAction (playing : Playing funds config state) (amounts : AmountsNonneg config)
    (nonneg : 0 ≤ config.rakePct) (one : config.rakePct ≤ 1)
    (covered : ∀ i, state.actingIndex = some i → ActionCovered state action amount i)
    (ok : applyAction state action amount = .ok (after, events)) :
    InHand funds config after := by
  rcases applyAction_wagers ok with ⟨i, wagered, own, acting, unfolded, notAllIn, wagers, passes⟩
  have wageredPlays := wagers.playing playing amounts.bigBlind
  have coveredHere := covered i acting
  have street : wagered.street = state.street := by
    cases wagers <;> rfl
  cases passes with
  | turn j incomplete next => exact .inl { wageredPlays with }
  | waits closes live few short => exact .inl { wageredPlays with }
  | stalls closes many noBoard short => exact .inl { wageredPlays with }
  | deals closes live many board =>
    have waiting : Playing funds config { wagered with actingIndex := none } :=
      { wageredPlays with }
    exact .inl (waiting.dealt amounts.bigBlind board)
  | folds closes live settled =>
    right
    apply wageredPlays.foldWin amounts nonneg one live _ settled
    intro sole
    have early : state.street ≠ .river := by
      rw [← street]
      rcases closes with ⟨-, early⟩ | ⟨incomplete, -⟩
      · exact early
      · rw [streetComplete_of_live live] at incomplete
        cases incomplete
    have before : SoleSitsOut (Engine.passed state i action).seats := by
      rcases sole with ⟨j, only, sitsOut⟩
      refine ⟨j, ?_, ?_⟩
      · intro k
        rw [← (wagers.seat_eq k).1]
        exact only k
      · rw [← (wagers.seat_eq j).2]
        exact sitsOut
    rcases coveredHere.2 early before with ⟨puts, empty⟩
    have big : 0 ≤ state.config.bigBlind := by
      rw [playing.config]
      exact amounts.bigBlind
    rw [(wagers.passed big puts).1]
    exact empty
  | shows notActing last settled =>
    right
    have ends : wagered.street = .river ∧ StreetEnds wagered i := by
      rcases last with ⟨river, complete⟩ | ⟨closes, -, full⟩
      · exact ⟨river, .inl complete⟩
      · constructor
        · rcases full with river | long
          · exact river
          · have fits := wageredPlays.board
            cases reached : wagered.street <;> rw [reached] at fits <;>
              simp only [BoardFits] at fits <;> first | rfl | omega
        · rcases closes with ⟨complete, -⟩ | ⟨-, nobody⟩
          · exact .inl complete
          · exact .inr nobody
    have paid := wagers.covered playing unfolded notAllIn amounts.bigBlind
      coveredHere (street ▸ ends.1) ends.2
    exact wageredPlays.settleShowdown amounts nonneg one paid settled

/-- What a run-out leads to in a hand. -/
theorem Playing.continueRunout
    (playing : Playing funds config state) (amounts : AmountsNonneg config)
    (nonneg : 0 ≤ config.rakePct) (one : config.rakePct ≤ 1) (covered : RunoutCovered state)
    (ok : continueRunout state = .ok (after, events)) :
    InHand funds config after := by
  have waiting : Playing funds config { state with actingIndex := none } := { playing with }
  cases continueRunout_eq_ok ok with
  | folds live settled =>
    right
    apply playing.foldWin amounts nonneg one live _ settled
    intro sole
    by_contra chips
    exact (covered.2 chips).2.1 sole
  | abandons live =>
    right
    have empty : state.pot = 0 := by
      by_contra chips
      exact (covered.2 chips).1 live
    exact playing.over amounts empty rfl rfl rfl rfl rfl rfl
  | deals live board =>
    left
    have dealt := waiting.dealt amounts.bigBlind board
    exact { dealt with }
  | shows live noBoard settled =>
    right
    have river : state.street = .river := by
      have fits := playing.board
      simp only [nextBoard] at noBoard
      cases reached : state.street <;> rw [reached] at fits <;>
        simp only [BoardFits] at fits
      · simp [fits] at noBoard
      · simp [fits] at noBoard
      · simp [fits] at noBoard
    have paid : state.pot = 0 ∨ Backed state.seats := by
      by_cases empty : state.pot = 0
      · exact .inl empty
      · exact .inr ((covered.2 empty).2.2 live river)
    exact playing.settleShowdown amounts nonneg one paid settled

/-- A settled hand is not settled again. -/
theorem Settled.continueRunout
    (finished : Settled funds config state) (covered : RunoutCovered state)
    (ok : continueRunout state = .ok (after, events)) :
    Settled funds config after := by
  have nobody := covered.1 finished.street
  cases continueRunout_eq_ok ok with
  | folds live settled => simp [nobody] at live
  | abandons live => exact { finished with street := rfl, pot := rfl, acting := rfl }
  | deals live board => simp [nobody] at live
  | shows live noBoard settled => simp [nobody] at live

/-- One call of a hand. -/
theorem inHand_step (amounts : AmountsNonneg config)
    (nonneg : 0 ≤ config.rakePct) (one : config.rakePct ≤ 1)
    (hand : InHand funds config state) (call : EngineCall)
    (admitted : HandCall state call ∧ Covered state call)
    (ok : step hashes state call = .ok after) :
    InHand funds config after := by
  rcases step_eq_ok ok with ⟨events, ok⟩
  cases call with
  | seatPlayer seatIndex playerId agentId stack => cases admitted.1
  | clearSeat seatIndex => cases admitted.1
  | startHand serverSeed handId => cases admitted.1
  | foldSeat seatIndex =>
    cases ok
    rcases hand with playing | finished
    · exact .inl (playing.mapSeat forcedOut_foldSeat)
    · exact .inr (finished.mapSeat forcedOut_foldSeat)
  | setSitOut seatIndex sitOut =>
    cases ok
    rcases hand with playing | finished
    · exact .inl (playing.mapSeat forcedOut_setSitOut)
    · exact .inr (finished.mapSeat forcedOut_setSitOut)
  | applyAction action amount =>
    rcases hand with playing | finished
    · exact playing.applyAction amounts nonneg one admitted.2 ok
    · simp [transition, applyAction, finished.acting] at ok
  | continueRunout =>
    rcases hand with playing | finished
    · exact playing.continueRunout amounts nonneg one admitted.2 ok
    · exact .inr (finished.continueRunout admitted.2 ok)

/-! ## Every run of a hand -/

/-- The chips of a hand are those the table held before it. -/
structure ChipsConserved (table state : HoldemState seatCount) : Prop where
  running : state.street ≠ .settlement → ∑ i, (state.seats i).stack + state.pot =
          ∑ i, (table.seats i).stack ∧ state.pot = ∑ i, (state.seats i).totalBet
  settled : state.street = .settlement → ∑ i, (state.seats i).stack + state.rake =
          ∑ i, (table.seats i).stack ∧ (∀ i, 0 ≤ (state.seats i).stack) ∧ 0 ≤ state.rake ∧
        ∀ cap, table.config.rakeCap = some cap → state.rake ≤ cap

instance (table state : HoldemState seatCount) : Decidable (ChipsConserved table state) :=
  decidable_of_iff ((state.street ≠ .settlement → ∑ i, (state.seats i).stack + state.pot =
            ∑ i, (table.seats i).stack ∧ state.pot = ∑ i, (state.seats i).totalBet) ∧
      (state.street = .settlement → ∑ i, (state.seats i).stack + state.rake =
            ∑ i, (table.seats i).stack ∧ (∀ i, 0 ≤ (state.seats i).stack) ∧ 0 ≤ state.rake ∧
          ∀ cap ∈ table.config.rakeCap, state.rake ≤ cap))
    ⟨fun both => ⟨both.1, both.2⟩, fun kept => ⟨kept.running, kept.settled⟩⟩

/--
The chips of a hand are conserved in every run whose calls do not settle the
hand without a seat to pay.
-/
theorem chipsConserved_of_covered
    (stackNonneg : ∀ i, 0 ≤ (table.seats i).stack)
    (nonneg : 0 ≤ table.config.rakePct) (one : table.config.rakePct ≤ 1)
    (amounts : AmountsNonneg table.config)
    (reached :
      (handFrom hashes table serverSeed handId).Reachable
        (fun state call => HandCall state call ∧ Covered state call) state) :
    ChipsConserved table state := by
  have hand : InHand (chips table.seats) table.config state := by
    refine
      @System.Reachable.invariant _ _ _ _ _
        (InHand (chips table.seats) table.config) ?_ ?_ _ reached
    · rintro start ⟨events, ok⟩
      rcases startHand_eq_ok ok with ⟨button, sb, bb, started⟩
      exact .inl
        (started.playing stackNonneg amounts.smallBlind amounts.bigBlind)
    · intro before call after hand admitted ok
      exact inHand_step amounts nonneg one hand call admitted ok
  rcases hand with playing | finished
  · constructor
    · intro _
      exact ⟨playing.funds, playing.pot⟩
    · intro settled
      exact absurd settled playing.not_settled
  · constructor
    · intro running
      exact absurd finished.street running
    · intro _
      exact ⟨finished.funds, finished.stack, finished.rake, finished.capped⟩

/-- A small table whose players sit with these stacks. -/
def seatedPlain (seatCount : Nat) (stackSizes : List Int) :
    HoldemState seatCount :=
  stackSizes.zipIdx.foldl
    (fun state entry => seatPlayer state entry.2 "p" "a" entry.1)
    (plainTable seatCount)

/-- A replay of a hand from its start on. -/
def playPlain (allowed : HoldemState seatCount → EngineCall → Prop)
    [∀ state call, Decidable (allowed state call)]
    (table : HoldemState seatCount) (calls : List EngineCall) : Option (HoldemState seatCount) :=
  match startHand plainHashes table "seed" "hand" with
  | .ok (started, _) =>
      (handFrom plainHashes table "seed" "hand").replay allowed started calls
  | .error _ => none

theorem exists_playPlain {allowed : HoldemState seatCount → EngineCall → Prop}
    [∀ state call, Decidable (allowed state call)]
    {calls : List EngineCall} {observe : HoldemState seatCount → Bool}
    (played : (playPlain allowed table calls).any observe = true) : ∃ state,
    (handFrom plainHashes table "seed" "hand").Reachable allowed state ∧ observe state = true := by
  rw [playPlain] at played
  cases start : startHand plainHashes table "seed" "hand" with
  | error err =>
    rw [start] at played
    cases played
  | ok result =>
    rcases result with ⟨started, events⟩
    rw [start] at played
    have reached :
        (handFrom plainHashes table "seed" "hand").Reachable allowed
          started :=
      .start ⟨events, start⟩
    exact reached.exists_replay played

/-- Both players check until the river, where the big blind bets. -/
def betOnRiver : List EngineCall :=
  callToFlop ++ checkAround ++ checkAround ++ [.applyAction .bet (some 10)]

theorem amountsNonneg_plain {stackSizes : List Int} :
    AmountsNonneg (seatedPlain seatCount stackSizes).config := by
  have config : (seatedPlain seatCount stackSizes).config = (plainTable seatCount).config := by
    rw [seatedPlain]
    generalize stackSizes.zipIdx = entries
    generalize plainTable seatCount = start
    induction entries generalizing start with
    | nil => rfl
    | cons entry entries induction =>
      rw [List.foldl_cons, induction]
      rfl
  rw [config]
  refine ⟨?_, ?_, ?_⟩
  · show (0 : Int) ≤ 5
    decide
  · show (0 : Int) ≤ 10
    decide
  · intro cap same
    cases same
    decide

/-- A hand that is called down on the river. -/
theorem chipsConserved_of_covered_showdown :
    ∃ state : HoldemState 2,
      (handFrom plainHashes (seatedPlain 2 [1000, 1000]) "seed"
          "hand").Reachable
        (fun state call => HandCall state call ∧ Covered state call)
        state ∧
      state.street = .settlement ∧
      ChipsConserved (seatedPlain 2 [1000, 1000]) state := by
  have played :
      (playPlain (fun state call => HandCall state call ∧ Covered state call)
          (seatedPlain 2 [1000, 1000])
          (betOnRiver ++ [.applyAction .call none])).any
        (fun state => decide (state.street = .settlement)) = true := by
    decide +kernel
  rcases exists_playPlain played with ⟨state, reached, settled⟩
  refine ⟨state, reached, of_decide_eq_true settled, ?_⟩
  exact chipsConserved_of_covered (by decide) (by decide +kernel)
    (by decide +kernel) amountsNonneg_plain reached

/--
The big blind bets on the river and sits out, and the small blind folds: the
hand is settled, and its pot is paid to nobody.
-/
theorem exists_pot_lost :
    ∃ (table state : HoldemState 2),
      (∀ i, 0 ≤ (table.seats i).stack) ∧
        0 ≤ table.config.rakePct ∧ table.config.rakePct ≤ 1 ∧
        AmountsNonneg table.config ∧
        (handFrom plainHashes table "seed" "hand").Reachable HandCall
          state ∧
        ¬ ChipsConserved table state := by
  have played :
      (playPlain HandCall (seatedPlain 2 [1000, 1000])
          (betOnRiver ++
            [.setSitOut 1 true, .applyAction .fold none])).any
        (fun state =>
          decide
            (¬ ChipsConserved (seatedPlain 2 [1000, 1000]) state)) =
        true := by
    decide +kernel
  rcases exists_playPlain played with ⟨state, reached, lost⟩
  exact
    ⟨seatedPlain 2 [1000, 1000], state, by decide, by decide +kernel,
      by decide +kernel, amountsNonneg_plain, reached,
      of_decide_eq_true lost⟩

end Mozetto.Engine
