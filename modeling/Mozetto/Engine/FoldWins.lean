import Mozetto.Engine.Settlements

/-!
# Hands won because everyone else folded

Such a hand should be settled the same way on every street: nothing is
revealed, the uncalled part of the winner's bet is returned, and the rake
follows the rule for hands won by folds.  The dispatch of an action asks for
the river before it counts the live seats, so on the river the hand goes
through a showdown instead.
-/

namespace Mozetto.Engine

open Mozetto.Library.TransitionSystem

variable {seatCount : Nat}
variable {state before after : HoldemState seatCount}
variable {seats : Fin seatCount → SeatState}
variable {events : List (EngineEvent seatCount)}
variable {i winner : Fin seatCount}

/-! ## The rule -/

/-- The part of a seat's bet above every other bet. -/
def Uncalled (seats : Fin seatCount → SeatState) (winner : Fin seatCount) (uncalled : Int) : Prop :=
  ∃ matched, IsGreatest (insert 0 {bet | ∃ j, j ≠ winner ∧ (seats j).bet = bet}) matched ∧
      uncalled = max ((seats winner).bet - matched) 0

/-- Basis points of a pot, rounded down and capped. -/
def ratedRake (pot : Int) (bps : Nat) : Option Int → Int
  | none => max (max pot 0 * bps / 10000) 0
  | some cap => max (min (max pot 0 * bps / 10000) cap) 0

/-- The rake of a hand won by folds: none before the flop. -/
def FoldRake (state : HoldemState seatCount) (pot rake : Int) : Prop :=
  computeRakeFromPct pot state.config.rakePct state.config.rakeCap 1
      (some (state.board.length = 0)) = .ok rake ∧ (state.board = [] → rake = 0) ∧
      (state.board ≠ [] → ∀ bps, rakePctToBps state.config.rakePct = .finite bps →
          rake = ratedRake pot bps state.config.rakeCap)

/-- A hand settled as one that `winner` won by folds. -/
structure SettledByFolds (before after : HoldemState seatCount)
    (events : List (EngineEvent seatCount)) (winner : Fin seatCount) (uncalled : Int) : Prop where
  amount : Uncalled before.seats winner uncalled
  hidden : ∀ reveals, .showdownRevealed reveals ∉ events
  awarded : after.winners.map Pay.seatIndex = [winner]
  rake : FoldRake before (before.pot - uncalled) after.rake
  returned : 0 < uncalled → .uncalledBetReturned winner uncalled before.street ∈ events
  stack : (after.seats winner).stack = (before.seats winner).stack + uncalled +
        max (max (before.pot - uncalled) 0 - after.rake) 0

/-! ## The engine's uncalled bet and rake -/

theorem foldl_max_bet (others : List (Fin seatCount)) (least : Int) : IsGreatest (insert least
      {bet | ∃ j ∈ others, j ≠ winner ∧ (seats j).bet = bet}) (others.foldl (fun maxOther i =>
        if i = winner then maxOther
        else if (seats i).bet > maxOther then (seats i).bet
        else maxOther)
      least) := by
  induction others generalizing least with
  | nil => simp [IsGreatest, upperBounds]
  | cons j others induction =>
    rw [List.foldl_cons]
    have rest := induction (if j = winner then least
      else if (seats j).bet > least then (seats j).bet else least)
    rcases rest with ⟨member, bound⟩
    have above := bound (Set.mem_insert _ _)
    constructor
    · rcases member with equal | ⟨k, later, other, equal⟩
      · rw [equal]
        by_cases own : j = winner
        · simp [own]
        · by_cases higher : (seats j).bet > least
          · right
            refine ⟨j, by simp, own, ?_⟩
            simp [own, higher]
          · left
            simp [own, higher]
      · right
        exact ⟨k, by simp [later], other, equal⟩
    · rintro bet (rfl | ⟨k, member, other, rfl⟩)
      · refine le_trans ?_ above
        split
        · exact le_rfl
        · split <;> omega
      · rcases List.mem_cons.mp member with rfl | later
        · refine le_trans ?_ above
          rw [if_neg other]
          split <;> omega
        · exact bound (.inr ⟨k, later, other, rfl⟩)

/-- The engine computes the uncalled part of a bet. -/
theorem uncalledBetAmount_spec : Uncalled seats winner (uncalledBetAmount seats winner) := by
  have greatest := @foldl_max_bet seatCount seats winner (List.finRange seatCount) 0
  simp only [List.mem_finRange, true_and] at greatest
  refine ⟨_, greatest, ?_⟩
  have nonneg := greatest.2 (Set.mem_insert _ _)
  rw [uncalledBetAmount]
  split
  · omega
  · rfl

/-- The rake formula after the flop. -/
theorem computeRake_afterFlop {pot : Int} {bps : Nat} {rakeCap : Option Int} {liveHands : Nat} :
    computeRake pot (.finite bps) rakeCap liveHands (some false) =
      .ok (ratedRake pot bps rakeCap) := by
  by_cases zero : bps = 0
  · subst zero
    cases rakeCap <;> simp [computeRake, ratedRake]
  · by_cases empty : pot ≤ 0
    · cases rakeCap <;> simp [computeRake, ratedRake, empty]
    · have rounded : max pot 0 * bps / 10000 = (pot * bps).tdiv 10000 := by
        rw [max_eq_left (by omega), Int.tdiv_eq_ediv_of_nonneg]
        exact Int.mul_nonneg (by omega) (by omega)
      simp only [computeRake, Bps.finite.injEq, zero, empty, or_self,
        if_false, Option.some.injEq, Bool.false_eq_true, ne_eq, not_true_eq_false, false_and]
      cases rakeCap with
      | none =>
        rw [ratedRake, rounded]
        simp only [Except.ok.injEq]
        split <;> omega
      | some cap =>
        rw [ratedRake, rounded]
        simp only [Except.ok.injEq]
        split <;> split <;> omega

/-- The clamp of the eligible pot does not change its rake. -/
theorem computeRake_max {pot : Int} {bps : Bps} {rakeCap : Option Int} {liveHands : Nat}
    {endedBeforeFlop : Option Bool} :
    computeRake (max pot 0) bps rakeCap liveHands endedBeforeFlop =
      computeRake pot bps rakeCap liveHands endedBeforeFlop := by
  by_cases empty : pot ≤ 0
  · rw [max_eq_right empty]
    simp [computeRake, empty]
  · rw [max_eq_left (by omega)]

theorem foldRake_of_computeRake {pot rake : Int}
    (computed : computeRakeFromPct (max pot 0) state.config.rakePct
        state.config.rakeCap 1 (some (state.board.length = 0)) = .ok rake) :
    FoldRake state pot rake := by
  rw [computeRakeFromPct, computeRake_max] at computed
  refine ⟨computed, ?_, ?_⟩
  · intro empty
    rw [empty] at computed
    simp only [List.length_nil, decide_true, computeRake] at computed
    split at computed
    · exact (Except.ok.inj computed).symm
    · rw [if_pos trivial] at computed
      exact (Except.ok.inj computed).symm
  · intro dealt bps finite
    have later : decide (state.board.length = 0) = false := by
      simpa using dealt
    rw [later, finite, computeRake_afterFlop] at computed
    exact (Except.ok.inj computed).symm

/-! ## The dispatch -/

theorem streetComplete_of_live (live : (liveSeats state.seats).length = 1) :
    streetComplete state = true := by
  simp [streetComplete, live]

theorem length_contenders_le : (contenders seats).length ≤ (liveSeats seats).length :=
  List.length_filter_le _ _

/-- What a fold leaves unchanged before the turn passes on. -/
theorem wager_fold {offer : LegalAction} {amount : Option Int} (fold : offer.action = .fold) :
    (wager state i offer amount).1 =
      { state with
        seats := foldAt state.seats i
        actedThisStreet := insert i state.actedThisStreet } := by
  rw [wager, fold]

/-- Folding changes no bet. -/
theorem uncalledBetAmount_congr {others : Fin seatCount → SeatState}
    (same : ∀ j, (others j).bet = (seats j).bet) :
    uncalledBetAmount others winner = uncalledBetAmount seats winner := by
  simp only [uncalledBetAmount, same]

/-- A hand won by folds is settled as one, if the winner can claim it. -/
theorem settledByFolds_of_foldWin {rake : Int}
    (effect : FoldWinEffect state after events winner rake)
    (bets : ∀ j, (state.seats j).bet = (before.seats j).bet)
    (stack : (state.seats winner).stack = (before.seats winner).stack)
    (config : state.config = before.config)
    (pot : state.pot = before.pot) (board : state.board = before.board)
    (street : state.street = before.street) : SettledByFolds before after events winner
    (uncalledBetAmount before.seats winner) := by
  have uncalled : uncalledBetAmount state.seats winner = uncalledBetAmount before.seats winner :=
    uncalledBetAmount_congr bets
  have rakeAfter : after.rake = rake := by
    rw [effect.rest]
  constructor
  · exact uncalledBetAmount_spec
  · exact effect.hidden
  · exact effect.winners
  · have computed := effect.assessed
    rw [uncalled, config, pot, board] at computed
    rw [rakeAfter]
    exact foldRake_of_computeRake computed
  · rw [← uncalled, ← street]
    exact effect.returned
  · rw [effect.seats, rakeAfter]
    simp only [if_true]
    rw [uncalled, pot, stack]

/--
After a fold that leaves one live seat, the hand is settled as won by folds
exactly when it was not on the river and the seat can claim the pot.
-/
theorem settledByFolds_iff
    {amount : Option Int}
    (ok : applyAction state .fold amount = .ok (after, events))
    (only : OnlyLive after.seats winner) :
    (∃ uncalled, SettledByFolds state after events winner uncalled) ↔
      state.street ≠ .river ∧ (state.seats winner).playerId ≠ "" ∧
        (state.seats winner).sitOut = false := by
  rcases applyAction_eq_ok ok with
    ⟨i, offer, own, acting, offered, fold, refused, passes, rfl⟩
  have onlyBefore :
      OnlyLive (wager state i offer amount).1.seats winner := by
    intro j
    rw [← passes.folded_eq j]
    exact only j
  rw [wager_fold fold] at passes onlyBefore
  have live := length_liveSeats_eq_one_iff.mpr ⟨winner, onlyBefore⟩
  have complete := streetComplete_of_live live
  have other : winner ≠ i := by
    intro same
    have unfolded := (onlyBefore winner).mpr rfl
    rw [same] at unfolded
    simp at unfolded
  have seat : foldAt state.seats i winner = state.seats winner :=
    foldAt_of_ne other
  have unfolded : (state.seats winner).folded = false := by
    rw [← seat]
    exact (onlyBefore winner).mpr rfl
  cases passes with
  | turn j incomplete next =>
      rw [complete] at incomplete
      cases incomplete
  | waits closes notOne few short => exact absurd live notOne
  | stalls closes many noBoard short =>
      have bound := length_contenders_le.trans_eq live
      omega
  | deals closes notOne many board => exact absurd live notOne
  | folds closes live settled =>
      have street : state.street ≠ .river := by
        rcases closes with ⟨-, early⟩ | ⟨incomplete, -⟩
        · exact early
        · rw [complete] at incomplete
          cases incomplete
      rcases foldWin_eq_ok settled with unclaimed | ⟨sole, rake, effect⟩
      · have nobody := unclaimed.unclaimed winner
        simp only [seat, SeatState.claims, unfolded] at nobody
        constructor
        · rintro ⟨uncalled, settledByFolds⟩
          have awarded := settledByFolds.awarded
          rw [unclaimed.rest] at awarded
          cases awarded
        · rintro ⟨-, player, present⟩
          simp [player, present] at nobody
      · have same := winner_of_onlyLive effect onlyBefore
        subst same
        have claims := effect.claims
        simp only [seat, SeatState.claims, Bool.and_eq_true,
          decide_eq_true_eq, Bool.not_eq_true'] at claims
        refine ⟨fun _ => ⟨street, claims.1.2, claims.2⟩, fun _ => ?_⟩
        have settledByFolds :=
          @settledByFolds_of_foldWin seatCount _ state _ _ _ _ effect
            (fun j => foldAt_bet) (by simp [seat]) rfl rfl rfl rfl
        refine ⟨_, settledByFolds.amount, ?_, settledByFolds.awarded,
          settledByFolds.rake, ?_, settledByFolds.stack⟩
        · intro reveals member
          simp only [List.mem_cons, reduceCtorEq, false_or] at member
          exact settledByFolds.hidden reveals member
        · intro positive
          simp only [List.mem_cons, reduceCtorEq, false_or]
          exact settledByFolds.returned positive
  | shows notActing last settled =>
      have street : state.street = .river := by
        rcases last with ⟨river, -⟩ | ⟨-, notOne, -⟩
        · exact river
        · exact absurd live notOne
      rcases settleShowdown_eq_ok settled with ⟨ranked, rake, effect⟩
      rcases effect.reveals with ⟨reveals, rest, rfl⟩
      constructor
      · rintro ⟨uncalled, settledByFolds⟩
        exact absurd (by simp) (settledByFolds.hidden reveals)
      · rintro ⟨early, -⟩
        exact absurd street early

/-- The small blind calls, and both check until the flop is dealt. -/
def callToFlop : List EngineCall := [.applyAction .call none, .applyAction .check none]

def checkAround : List EngineCall := [.applyAction .check none, .applyAction .check none]

def isReveal : EngineEvent seatCount → Bool
  | .showdownRevealed _ => true
  | _ => false

/-- The fold of the acting seat leaves the other one, with these events. -/
def foldLeaves (observe : List (EngineEvent 2) → Bool) (state : HoldemState 2) : Bool :=
  match applyAction state .fold none with
  | .ok (after, events) =>
      (after.seats 0).folded && !(after.seats 1).folded && observe events
  | .error _ => false

theorem onlyLive_of_foldLeaves {observe : List (EngineEvent 2) → Bool} {state : HoldemState 2}
    (leaves : foldLeaves observe state = true) : ∃ after events,
    applyAction state .fold none = .ok (after, events) ∧
      OnlyLive after.seats 1 ∧ observe events = true := by
  rw [foldLeaves] at leaves
  cases result : applyAction state .fold none with
  | error err =>
    rw [result] at leaves
    cases leaves
  | ok reached =>
    rcases reached with ⟨after, events⟩
    rw [result] at leaves
    simp only [Bool.and_eq_true, Bool.not_eq_true'] at leaves
    refine ⟨after, events, rfl, Fin.forall_fin_two.mpr ⟨?_, ?_⟩, leaves.2⟩
    · simp [leaves.1.1]
    · simp [leaves.1.2]

theorem settledByFolds_iff_flop :
    ∃ state after events uncalled,
      (engine plainHashes 2).Reachable AnyCall state ∧
        applyAction state .fold none = .ok (after, events) ∧
        SettledByFolds state after events 1 uncalled := by
  have replayed :
      (((engine plainHashes 2).replay AnyCall (plainTable 2)
          (dealPlain [1000, 1000] ++ callToFlop ++
            [.applyAction .bet (some 10)])).any fun state =>
        foldLeaves (fun _ => true) state && state.street = .flop &&
          (state.seats 1).playerId ≠ "" && !(state.seats 1).sitOut) =
        true := by
    decide +kernel
  rcases plainTable_reachable.exists_replay replayed with
    ⟨state, reached, observed⟩
  simp only [Bool.and_eq_true, decide_eq_true_eq, Bool.not_eq_true']
    at observed
  rcases observed with ⟨⟨⟨leaves, flop⟩, player⟩, present⟩
  rcases onlyLive_of_foldLeaves leaves with ⟨after, events, ok, only, -⟩
  have early : state.street ≠ .river := by
    rw [flop]
    decide
  rcases (settledByFolds_iff ok only).mpr ⟨early, player, present⟩ with
    ⟨uncalled, settled⟩
  exact ⟨state, after, events, uncalled, reached, ok, settled⟩

/-- On the river the winner's cards are shown. -/
theorem exists_fold_revealed :
    ∃ state after events,
      (engine plainHashes 2).Reachable AnyCall state ∧
        applyAction state .fold none = .ok (after, events) ∧
        OnlyLive after.seats 1 ∧
        ¬ ∃ uncalled, SettledByFolds state after events 1 uncalled := by
  have replayed :
      ((engine plainHashes 2).replay AnyCall (plainTable 2)
          (dealPlain [1000, 1000] ++ callToFlop ++ checkAround ++
            checkAround ++ [.applyAction .bet (some 10)])).any
        (foldLeaves fun events => events.any isReveal) = true := by
    decide +kernel
  rcases plainTable_reachable.exists_replay replayed with
    ⟨state, reached, leaves⟩
  rcases onlyLive_of_foldLeaves leaves with
    ⟨after, events, ok, only, reveals⟩
  refine ⟨state, after, events, reached, ok, only, ?_⟩
  rintro ⟨uncalled, settled⟩
  rw [List.any_eq_true] at reveals
  rcases reveals with ⟨event, member, reveal⟩
  cases event with
  | showdownRevealed cards => exact settled.hidden cards member
  | _ => cases reveal

end Mozetto.Engine
