import Mozetto.Engine.InterruptedHands

/-!
# Every hand with forced folds ends

The rank of a hand falls with every call that keeps the turn, so that a hand
with forced folds is settled, whichever of them are made.  A seat that sits
out on its own turn while two others could still bet leaves a hand that
nothing can be done with.
-/

namespace Mozetto.Engine

open Mozetto.Library.TransitionSystem

variable {seatCount : Nat}
variable {hashes : Hashes}
variable {state wagered after table : HoldemState seatCount}
variable {serverSeed handId : String}
variable {events : List (EngineEvent seatCount)}
variable {action : PokerAction} {amount : Option Int}
variable {config : TableConfig} {funds : Int}
variable {i j : Fin seatCount}

/-! ## The rank of an interrupted hand -/

/-- A seat that could pass without changing anything. -/
structure Idles (state : HoldemState seatCount) (i : Fin seatCount) : Prop where
  unfolded : (state.seats i).folded = false
  notAllIn : (state.seats i).allIn = false
  matched : ¬ (state.seats i).bet < state.currentBet
  acted : i ∈ state.actedThisStreet

open Classical in
/-- How much the turn is in the way of the hand. -/
noncomputable def turnRank (state : HoldemState seatCount) : Nat :=
  state.actingIndex.elim 0 fun i => if Idles state i then 2 else 1

/-- The rank of the hand, then that of the turn. -/
noncomputable def runtimeRank (state : HoldemState seatCount) : (ℕ ×ₗ ℕ ×ₗ ℕ) ×ₗ ℕ :=
  toLex (handRank state, turnRank state)

theorem runtimeRank_lt_of_hand (lower : handRank after < handRank state) :
    runtimeRank after < runtimeRank state := by
  rw [runtimeRank, runtimeRank, Prod.Lex.toLex_lt_toLex]
  exact .inl lower

theorem runtimeRank_lt_of_turn (same : handRank after = handRank state)
    (lower : turnRank after < turnRank state) : runtimeRank after < runtimeRank state := by
  rw [runtimeRank, runtimeRank, Prod.Lex.toLex_lt_toLex]
  exact .inr ⟨same, lower⟩

theorem turnRank_of_none (waiting : state.actingIndex = none) : turnRank state = 0 := by
  rw [turnRank, waiting]
  rfl

theorem turnRank_of_idles (acting : state.actingIndex = some i) (idles : Idles state i) :
    turnRank state = 2 := by
  rw [turnRank, acting, Option.elim_some, if_pos idles]

theorem turnRank_of_not_idles (acting : state.actingIndex = some i) (busy : ¬ Idles state i) :
    turnRank state = 1 := by
  rw [turnRank, acting, Option.elim_some, if_neg busy]

/-- A hand that is underway waits for nobody who could idle. -/
theorem Underway.turnRank_le (underway : Underway config state) : turnRank state ≤ 1 := by
  cases acting : state.actingIndex with
  | none =>
    rw [turnRank_of_none acting]
    exact Nat.zero_le 1
  | some i =>
    apply le_of_eq
    apply turnRank_of_not_idles acting
    intro idles
    have awaited := underway.awaited acting idles.notAllIn
    rcases awaited.owes with behind | first
    · exact idles.matched behind
    · exact first idles.acted

/-- An action brings the hand closer to its end. -/
theorem Interrupted.runtimeRank_act (interrupted : Interrupted config state)
    (playing : Playing funds config state) (blind : 0 < config.bigBlind)
    (another : action = .fold → 2 ≤ (liveSeats state.seats).length)
    (ok : applyAction state action amount = .ok (after, events)) :
    runtimeRank after < runtimeRank state := by
  rcases applyAction_wagers ok with ⟨i, wagered, own, acting, unfolded, notAllIn, wagers, passes⟩
  have going :=
    (interrupted.of_wagers playing blind acting unfolded notAllIn another wagers).1
  have continues := passes.continues going blind
  by_cases idle : action = .check ∧ i ∈ state.actedThisStreet
  · rcases idle with ⟨rfl, acted⟩
    have matched : ¬ (state.seats i).bet < state.currentBet := by
      cases wagers with
      | check matched =>
        unfold toCall at matched
        omega
    have before := turnRank_of_idles acting ⟨unfolded, notAllIn, matched, acted⟩
    rw [wagers.eq_of_idle acted] at continues
    have short := length_board_le interrupted.fits
    cases continues with
    | stays underway seats acted board =>
      apply runtimeRank_lt_of_turn
      · apply handRank_congr _ seats acted board
        constructor
        · intro settled
          exact absurd settled underway.street_ne
        · intro settled
          exact absurd settled interrupted.street_ne
      · rw [before]
        exact Nat.lt_succ_of_le underway.turnRank_le
    | deals underway board =>
      exact runtimeRank_lt_of_hand
          (handRank_lt_of_streets interrupted.street_ne short (.inr board))
    | ends ended =>
      exact runtimeRank_lt_of_hand (handRank_lt_of_streets interrupted.street_ne short
            (.inl ended.street))
  · have chips := (playing.seats i).chips unfolded notAllIn
    have big : 0 < state.config.bigBlind := by
      rw [playing.config]
      exact blind
    have first : action = .check → i ∉ state.actedThisStreet :=
      fun check acted => idle ⟨check, acted⟩
    have costs := (wagers.costs_of_first chips big interrupted.minRaise first).1
    exact runtimeRank_lt_of_hand (lt_of_le_of_lt (continues.handRank_le going)
          (costs.handRank_lt wagers.sameHand unfolded))

/-- A forced fold takes a stake out of the hand. -/
theorem FoldsSeat.handRank_lt (folds : FoldsSeat state after i)
    (unfolded : (state.seats i).folded = false) : handRank after < handRank state := by
  have seats : after.seats = Function.update state.seats i (after.seats i) := by
    funext j
    by_cases here : j = i
    · subst here
      rw [Function.update_self]
    · rw [Function.update_of_ne here, folds.others j here]
  have street : after.street = state.street := by rw [folds.rest]
  rw [handRank, handRank, Prod.Lex.toLex_lt_toLex, street, folds.board_eq]
  right
  refine ⟨rfl, ?_⟩
  rw [Prod.Lex.toLex_lt_toLex]
  left
  dsimp only
  rw [seats]
  apply atStake_update_lt
  simp [SeatState.atStake, unfolded, folds.folded]

/-- The calls that bring a hand to its end. -/
def Advances (state : HoldemState seatCount) (call : RuntimeCall seatCount) :
    Prop :=
  call.Legal state ∧ call.KeepsTurn state ∧ call.FoldsSomebody state

/-- Every call that keeps the turn brings the hand closer to its end. -/
theorem runtimeRank_step {call : RuntimeCall seatCount} (amounts : AmountsNonneg config)
    (nonneg : 0 ≤ config.rakePct) (one : config.rakePct ≤ 1) (blind : 0 < config.bigBlind)
    (kept : Kept funds config state) (admitted : Advances state call)
    (ok : runtimeStep state call = .ok after) : runtimeRank after < runtimeRank state := by
  have later : ∀ {after : HoldemState seatCount}, Interrupted config state →
      (after.street = .settlement ∨ state.board.length < after.board.length) →
        runtimeRank after < runtimeRank state :=
    fun interrupted later =>
      runtimeRank_lt_of_hand (handRank_lt_of_streets interrupted.street_ne
          (length_board_le interrupted.fits) later)
  rcases kept with ⟨playing, interrupted⟩ | finished
  · cases call with
    | act action amount =>
      rcases map_fst_eq_ok ok with ⟨events, applied⟩
      exact interrupted.runtimeRank_act playing blind admitted.2.1 applied
    | advanceRunout =>
      rcases map_fst_eq_ok ok with ⟨events, continued⟩
      rcases admitted.1 with ⟨waiting, -, due⟩
      exact later interrupted (interrupted.advanceRunout playing amounts nonneg one blind
            waiting due continued).2
    | award =>
      rcases map_fst_eq_ok ok with ⟨events, awarded⟩
      exact later interrupted (.inl (ended_of_foldWin admitted.1.2 awarded).street)
    | clearTurn =>
      cases ok
      rcases Option.ne_none_iff_exists'.mp admitted.1.1 with ⟨i, acting⟩
      apply runtimeRank_lt_of_turn
      · rfl
      rw [turnRank_of_none rfl, turnRank_of_not_idles acting]
      · exact Nat.zero_lt_one
      · intro idles
        exact getLegalActions_ne_nil acting idles.unfolded idles.notAllIn admitted.1.2
    | sitOut seatIndex =>
      cases ok
      rcases admitted.2.2 with ⟨midHand, unfolded⟩
      exact runtimeRank_lt_of_hand ((foldsSeat_setSitOut midHand).handRank_lt unfolded)
    | leave seatIndex =>
      rcases admitted.2.2 with ⟨midHand, unfolded⟩
      rw [runtimeStep, foldLeaver, if_pos ⟨midHand, unfolded⟩, settleIfOnePlayerLeft] at ok
      split at ok
      case isTrue one' =>
        cases settled : foldWin (foldSeat state seatIndex) with
        | error err =>
          rw [settled] at ok
          cases ok
        | ok result =>
          rw [settled] at ok
          cases ok
          apply later interrupted
          left
          rcases foldWin_eq_ok settled with unclaimed | ⟨_, _, effect⟩
          · rw [unclaimed.rest]
          · rw [effect.rest]
      case isFalse =>
        cases ok
        have folds : FoldsSeat state (foldSeat state seatIndex) seatIndex := foldsSeat_foldSeat
        apply runtimeRank_lt_of_hand
        rw [passLeaver]
        split
        · exact folds.handRank_lt unfolded
        · exact folds.handRank_lt unfolded
  · have ended : state.midHand = false := by
      simp [HoldemState.midHand, finished.street]
    cases call with
    | act action amount =>
      rcases map_fst_eq_ok ok with ⟨events, applied⟩
      simp [applyAction, finished.acting] at applied
    | advanceRunout => exact absurd finished.street admitted.1.2.1
    | award => exact absurd finished.street admitted.1.1
    | clearTurn => exact absurd finished.acting admitted.1.1
    | sitOut seatIndex =>
      have midHand := admitted.2.2.1
      rw [ended] at midHand
      cases midHand
    | leave seatIndex =>
      have midHand := admitted.2.2.1
      rw [ended] at midHand
      cases midHand

/-! ## What is due is accepted -/

theorem Interrupted.accepts (interrupted : Interrupted config state)
    (playing : Playing funds config state) (blind : 0 < config.bigBlind)
    (finite : ∃ bps, rakePctToBps config.rakePct = .finite bps)
    (offered : PlayCall state (.applyAction action amount))
    (another : action = .fold → 2 ≤ (liveSeats state.seats).length) :
    ∃ result, applyAction state action amount = .ok result := by
  have acts : ∃ i, state.actingIndex = some i := by
    rcases offered with ⟨offer, mem, -⟩
    cases acting : state.actingIndex with
    | none => simp [getLegalActions, acting] at mem
    | some i => exact ⟨i, rfl⟩
  rcases acts with ⟨i, acting⟩
  apply applyAction_ok acting offered
  intro wagered events wagers
  rcases offered with ⟨offer, mem, -⟩
  rcases offered_of_mem acting mem with ⟨unfolded, notAllIn, -⟩
  have going :=
    (interrupted.of_wagers playing blind acting unfolded notAllIn another wagers).1
  exact (going.showable finite).passTurn

/-- Of a seat that has the turn something is wanted, or nothing is. -/
theorem Interrupted.turn_cases (interrupted : Interrupted config state)
    (crowd : (liveSeats state.seats).length ≠ 1) :
    (∃ action amount, PlayCall state (.applyAction action amount)) ∨ RunoutDue state ∧
        (state.actingIndex ≠ none → getLegalActions state = []) := by
  have live : 2 ≤ (liveSeats state.seats).length := interrupted.toHandGoing.twoLive crowd
  have nothing {i : Fin seatCount} (acting : state.actingIndex = some i)
      (out : (state.seats i).folded = true ∨ (state.seats i).allIn = true) :
      getLegalActions state = [] := by
    rw [getLegalActions, acting]
    dsimp only
    rcases out with folded | allIn
    · rw [folded, Bool.true_or, if_pos rfl]
    · rw [allIn, Bool.or_true, if_pos rfl]
  cases interrupted.turn with
  | able i acting unfolded notAllIn paid =>
    left
    rcases List.exists_mem_of_ne_nil _
        (getLegalActions_ne_nil acting unfolded notAllIn) with ⟨offer, mem⟩
    refine ⟨offer.action, none, offer, mem, rfl, ?_⟩
    simp only [LegalAction.refuses]
    split <;> simp_all
  | runsOut few idle =>
    right
    refine ⟨.inl (interrupted.isAllInRunout_iff.mpr ⟨live, few⟩), ?_⟩
    intro acts
    rcases Option.ne_none_iff_exists'.mp acts with ⟨i, acting⟩
    exact nothing acting ((idle i acting).imp_right And.left)
  | shows full paid idle =>
    right
    refine ⟨.inr full.ge, ?_⟩
    intro acts
    rcases Option.ne_none_iff_exists'.mp acts with ⟨i, acting⟩
    exact nothing acting (.inl (idle i acting))

theorem Interrupted.proceeds (interrupted : Interrupted config state)
    (playing : Playing funds config state) (blind : 0 < config.bigBlind)
    (finite : ∃ bps, rakePctToBps config.rakePct = .finite bps) :
    Proceeds state := by
  have showable := interrupted.toHandGoing.showable finite
  by_cases single : (liveSeats state.seats).length = 1
  · exact .awards single (foldWin_ok showable.bps)
  · have live := interrupted.toHandGoing.twoLive single
    rcases interrupted.turn_cases single with ⟨action, amount, offered⟩ | ⟨due, -⟩
    · exact .acts action amount offered
          (interrupted.accepts playing blind finite offered fun _ => live)
    · exact .runsOut due showable.continueRunout

/-- Until the hand is settled some call brings it closer to its end. -/
theorem Interrupted.exists_advances (interrupted : Interrupted config state) :
    ∃ call, Advances state call := by
  by_cases single : (liveSeats state.seats).length = 1
  · exact ⟨.award, ⟨interrupted.street_ne, single⟩, trivial, trivial⟩
  · have live := interrupted.toHandGoing.twoLive single
    rcases interrupted.turn_cases single with ⟨action, amount, offered⟩ | ⟨due, idle⟩
    · exact ⟨.act action amount, offered, fun _ => live, trivial⟩
    · by_cases waiting : state.actingIndex = none
      · exact ⟨.advanceRunout, ⟨waiting, interrupted.street_ne, due⟩, trivial, trivial⟩
      · exact ⟨.clearTurn, ⟨waiting, idle waiting⟩, trivial, trivial⟩

theorem map_fst_ok {transition : Transition seatCount} (ok : ∃ result, transition = .ok result) :
    ∃ after, transition.map Prod.fst = .ok after := by
  rcases ok with ⟨result, rfl⟩
  exact ⟨result.1, rfl⟩

/-- Every such call is accepted. -/
theorem Kept.accepts {call : RuntimeCall seatCount}
    (kept : Kept funds config state) (blind : 0 < config.bigBlind)
    (finite : ∃ bps, rakePctToBps config.rakePct = .finite bps) (admitted : Advances state call) :
    ∃ after, runtimeStep state call = .ok after := by
  have rake (config' : state.config = config) :
      ∃ bps, rakePctToBps state.config.rakePct = .finite bps := by
    rw [config']
    exact finite
  cases call with
  | act action amount =>
    apply map_fst_ok
    rcases kept with ⟨playing, interrupted⟩ | finished
    · exact interrupted.accepts playing blind finite admitted.1 admitted.2.1
    · rcases admitted.1 with ⟨offer, mem, -⟩
      simp [getLegalActions, finished.acting] at mem
  | advanceRunout =>
    apply map_fst_ok
    rcases kept with ⟨playing, interrupted⟩ | finished
    · exact (interrupted.toHandGoing.showable finite).continueRunout
    · exact absurd finished.street admitted.1.2.1
  | award =>
    apply map_fst_ok
    rcases kept with ⟨playing, interrupted⟩ | finished
    · exact foldWin_ok (rake interrupted.config)
    · exact foldWin_ok (rake finished.config)
  | clearTurn => exact ⟨_, rfl⟩
  | sitOut seatIndex => exact ⟨_, rfl⟩
  | leave seatIndex =>
    have config' : state.config = config := by
      rcases kept with ⟨playing, -⟩ | finished
      · exact playing.config
      · exact finished.config
    rw [runtimeStep, foldLeaver]
    split
    · rw [settleIfOnePlayerLeft]
      split
      · exact map_fst_ok (foldWin_ok (rake config'))
      · exact ⟨_, rfl⟩
    · exact ⟨_, rfl⟩

/-! ## Every run of a hand -/

theorem Kept.chipsConserved (kept : Kept (chips table.seats) table.config state) :
    ChipsConserved table state := by
  rcases kept with ⟨playing, -⟩ | finished
  · constructor
    · intro _
      exact ⟨playing.funds, playing.pot⟩
    · intro settled
      exact absurd settled playing.not_settled
  · constructor
    · intro running
      exact absurd finished.street running
    · intro _
      exact ⟨finished.funds, finished.stack, finished.rake, finished.capped⟩

theorem kept_of_startHand (playable : Playable table handId)
    (stackNonneg : ∀ i, 0 ≤ (table.seats i).stack) (amounts : AmountsNonneg table.config)
    (started : startHand hashes table serverSeed handId = .ok (state, events)) :
    Kept (chips table.seats) table.config state := by
  rcases startHand_eq_ok started with ⟨button, sb, bb, started⟩
  have playing := started.playing stackNonneg amounts.smallBlind amounts.bigBlind
  have underway := started.underway playable
  have empty : state.board.length = 0 := by
    rw [started.rest]
    rfl
  left
  refine ⟨playing,
      { underway, started.staked playable amounts.smallBlind with
        turn := ?_ }⟩
  rcases underway.turn with ⟨i, acting, awaited⟩ | ⟨few, allIn⟩
  · exact .able i acting awaited.unfolded awaited.notAllIn fun dealt =>
        absurd empty dealt
  · exact .runsOut few fun i acting => .inr ⟨allIn i acting, empty⟩

/-- A hand that the runtime can always take to its end. -/
structure Unwedged (hashes : Hashes) (table : HoldemState seatCount)
    (serverSeed handId : String) (state : HoldemState seatCount) : Prop where
  proceeds : state.street ≠ .settlement → Proceeds state
  conserved : ChipsConserved table state
  settles : (runtimeHand hashes table serverSeed handId).Inevitably Advances (fun later =>
        later.street = .settlement ∧ ChipsConserved table later)
      state

/-- A replay of a hand that the runtime plays. -/
def playRuntime (allowed : HoldemState seatCount → RuntimeCall seatCount → Prop)
    [∀ state call, Decidable (allowed state call)]
    (table : HoldemState seatCount) (calls : List (RuntimeCall seatCount)) :
    Option (HoldemState seatCount) :=
  match startHand plainHashes table "seed" "hand" with
  | .ok (started, _) =>
      (runtimeHand plainHashes table "seed" "hand").replay allowed started calls
  | .error _ => none

theorem exists_playRuntime {allowed : HoldemState seatCount → RuntimeCall seatCount → Prop}
    [∀ state call, Decidable (allowed state call)] {calls : List (RuntimeCall seatCount)}
    {observe : HoldemState seatCount → Bool}
    (played : (playRuntime allowed table calls).any observe = true) : ∃ state,
    (runtimeHand plainHashes table "seed" "hand").Reachable allowed state ∧
      observe state = true := by
  rw [playRuntime] at played
  cases start : startHand plainHashes table "seed" "hand" with
  | error err =>
    rw [start] at played
    cases played
  | ok result =>
    rcases result with ⟨started, events⟩
    rw [start] at played
    have reached :
        (runtimeHand plainHashes table "seed" "hand").Reachable allowed
          started :=
      .start ⟨events, start⟩
    exact reached.exists_replay played

/-- Three players with a thousand chips each. -/
def threePlayers : HoldemState 3 := seatedPlain 3 [1000, 1000, 1000]

theorem playable_threePlayers : Playable threePlayers "hand" := by
  refine ⟨by decide, ⟨500, by decide +kernel⟩, by decide, ?_, ?_⟩
  · decide +kernel
  · decide +kernel

end Mozetto.Engine
