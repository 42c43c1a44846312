import Mozetto.Engine.ForcedFoldRuns
import Mozetto.GameServer.SubmittedActions

/-!
# Turns of running hands

A hand is played by the calls that the engine offers, with top-ups, sit-outs
and leaves between them.  Whatever happens while a turn is awaited, its
decision is applied without a throw exactly if it keeps the hand.
-/

namespace Mozetto.GameServer.Turns

open Mozetto.Database
open Mozetto.Engine
open Mozetto.GameServer.SitOuts
open Mozetto.Library.TransitionSystem

variable {seatCount : Nat} {i : Fin seatCount}
variable {hashes : Hashes}
variable {before state wagered after table : HoldemState seatCount}
variable {awaited : AwaitedTable seatCount}
variable {serverSeed handId : String}

/-! ## Hands with cards for everybody -/

/-- Who is in holds a hand, and the deck has the cards of the board. -/
structure Dealt (state : HoldemState seatCount) : Prop extends Showable state where
  deck : cardsToCome state.board.length ≤ state.deck.length

/-- A seat that is still in was so before, with the same cards. -/
def HolesKept (before state : HoldemState seatCount) : Prop :=
  ∀ i, (state.seats i).folded = false → (before.seats i).folded = false ∧
      (state.seats i).hole = (before.seats i).hole

theorem Dealt.of_kept (dealt : Dealt before) (holes : HolesKept before state)
    (config : state.config = before.config)
    (board : state.board = before.board) (deck : state.deck = before.deck) : Dealt state where
  hands := by
    intro i unfolded
    rcases holes i unfolded with ⟨stays, hole⟩
    rw [HoldsHand, hole]
    exact dealt.hands i stays
  board := by
    rw [board]
    exact dealt.board
  bps := by
    rw [config]
    exact dealt.bps
  deck := by
    rw [board, deck]
    exact dealt.deck

/-- While the betting stands still, so do the cards. -/
theorem Dealt.of_stands (dealt : Dealt before) (stands : ∀ j, Stands before state j)
    (someSeat : Fin seatCount) (mid : state.midHand = true) : Dealt state := by
  have same (j : Fin seatCount) : SameBetting before state j := by
    rcases stands j with ended | same
    · rw [ended.midHand] at mid
      cases mid
    · exact same
  apply dealt.of_kept
  · intro j unfolded
    have seat := (same j).seat unfolded
    exact ⟨seat.unfolded, seat.hole⟩
  · exact (same someSeat).config
  · exact (same someSeat).board
  · exact (same someSeat).deck

theorem Dealt.of_wagers {action : PokerAction} {amount : Option Int}
    (dealt : Dealt state) (wagers : Wagers state i action amount wagered) :
    Dealt wagered := by
  have same := wagers.sameHand
  apply dealt.of_kept _ same.config same.board same.deck
  have paid {paid : Int} {seats : Fin seatCount → SeatState}
      (pays : seats = Function.update state.seats i (paySeat (state.seats i) paid))
      (j : Fin seatCount) (unfolded : (seats j).folded = false) :
      (state.seats j).folded = false ∧ (seats j).hole = (state.seats j).hole := by
    rw [pays] at unfolded ⊢
    by_cases here : j = i
    · subst here
      rw [Function.update_self] at unfolded ⊢
      exact ⟨unfolded, rfl⟩
    · rw [Function.update_of_ne here] at unfolded ⊢
      exact ⟨unfolded, rfl⟩
  intro j unfolded
  cases wagers with
  | fold behind =>
    by_cases here : j = i
    · subst here
      rw [foldAt_self] at unfolded
      cases unfolded
    · simp only [foldAt_of_ne here] at unfolded ⊢
      exact ⟨unfolded, trivial⟩
  | check matched => exact ⟨unfolded, rfl⟩
  | call | bet | raise | shoveFull | shoveShort | callAllIn =>
    exact paid rfl j unfolded

/-- The next street has its cards, and leaves those of the streets behind. -/
theorem Dealt.of_nextBoard {event : EngineEvent seatCount}
    (dealt : Dealt state) (board : nextBoard state = some (after, event)) :
    Dealt after := by
  have deck := dealt.deck
  rcases nextBoard_eq_some board with ⟨count, street, follows, rfl, -⟩
  have enough : count + 1 ≤ state.deck.length := by
    rcases follows with ⟨length, rfl, -⟩ | ⟨length, rfl, -⟩ | ⟨length, rfl, -⟩ <;>
      rw [length, cardsToCome] at deck <;> omega
  refine ⟨⟨fun j unfolded => dealt.hands j unfolded, ?_, dealt.bps⟩, ?_⟩
  · apply dealt.board.append
    apply allDrawn_drawCards
    rw [List.length_drop]
    omega
  · have longer : (dealBoard state count street).1.board.length = state.board.length + count := by
      simp [dealBoard, resetStreetBets, drawCards]
    have left : (dealBoard state count street).1.deck.length = state.deck.length - 1 - count := by
      simp [dealBoard, resetStreetBets]
      omega
    rw [longer, left]
    rcases follows with ⟨length, rfl, -⟩ | ⟨length, rfl, -⟩ | ⟨length, rfl, -⟩ <;>
      rw [length, cardsToCome] at deck <;> simp [length, cardsToCome] <;>
      omega

/-- A hand that has not come to an end is dealt. -/
def DealtHand (state : HoldemState seatCount) : Prop := state.midHand = true → Dealt state

theorem dealtHand_of_settled (settled : state.street = .settlement) :
    DealtHand state := by
  intro mid
  simp [HoldemState.midHand, settled] at mid

theorem dealtHand_of_foldWin {events : List (EngineEvent seatCount)}
    (ok : foldWin state = .ok (after, events)) : DealtHand after := by
  intro mid
  rw [(handOver_of_award ok).midHand] at mid
  cases mid

theorem dealtHand_of_settleShowdown {events : List (EngineEvent seatCount)}
    (ok : settleShowdown state = .ok (after, events)) : DealtHand after := by
  rcases settleShowdown_eq_ok ok with ⟨ranked, rake, effect⟩
  apply dealtHand_of_settled
  rw [effect.rest]

theorem Dealt.of_passes {events : List (EngineEvent seatCount)}
    (dealt : Dealt state) (passes : Passes state i after events) :
    DealtHand after := by
  cases passes with
  | turn j incomplete next => exact fun _ => { dealt with }
  | waits closes live few short => exact fun _ => { dealt with }
  | stalls closes many noBoard short => exact fun _ => { dealt with }
  | deals closes live many board =>
    have waiting : Dealt { state with actingIndex := none } := { dealt with }
    exact fun _ => waiting.of_nextBoard board
  | folds closes live settled => exact dealtHand_of_foldWin settled
  | shows acting last settled => exact dealtHand_of_settleShowdown settled

theorem Dealt.of_runsOut {events : List (EngineEvent seatCount)}
    (dealt : Dealt state) (runsOut : RunsOut state after events) :
    DealtHand after := by
  cases runsOut with
  | folds live settled => exact dealtHand_of_foldWin settled
  | abandons live => exact dealtHand_of_settled rfl
  | deals live board =>
    have waiting : Dealt { state with actingIndex := none } := { dealt with }
    exact fun _ => { waiting.of_nextBoard board with }
  | shows live noBoard settled => exact dealtHand_of_settleShowdown settled

/-! ## Hands with turns that are awaited -/

/-- What the loop of a table does in a hand, and what happens meanwhile. -/
inductive HandCall (seatCount : Nat) where
  | meanwhile (call : AwaitedCall seatCount)
  | play (call : EngineCall)
  | clearTurn

def awaitedHand (hashes : Hashes) (table : HoldemState seatCount) (serverSeed handId : String) :
    System (AwaitedTable seatCount) (HandCall seatCount) EngineError where
  initial awaited :=
    ∃ events, startHand hashes table serverSeed handId = .ok (awaited.state, events)
  step awaited
    | .meanwhile call => .ok (awaited.step call)
    | .play call => (step hashes awaited.state call).map awaited.withState
    | .clearTurn =>
        .ok (awaited.withState { awaited.state with actingIndex := none })

/-- The engine is called with what it offers, in a hand. -/
def Plays (awaited : AwaitedTable seatCount) : HandCall seatCount → Prop
  | .meanwhile _ => awaited.state.midHand = true
  | .play call => awaited.state.midHand = true ∧ PlayCall awaited.state call
  | .clearTurn => getLegalActions awaited.state = []

instance (awaited : AwaitedTable seatCount) (call : HandCall seatCount) :
    Decidable (Plays awaited call) :=
  match call with
  | .meanwhile _ => inferInstanceAs (Decidable (_ = _))
  | .play _ => inferInstanceAs (Decidable (_ ∧ _))
  | .clearTurn => inferInstanceAs (Decidable (_ = _))

theorem Started.dealt {button sb bb : Fin seatCount}
    (started : Started hashes table after serverSeed handId button sb bb)
    (few : (seatsWith table.seats SeatState.eligible).length ≤ 22)
    (finite : ∃ bps, rakePctToBps table.config.rakePct = .finite bps) :
    Dealt after := by
  have rest := started.rest
  have empty : after.board = [] := by rw [rest]
  refine ⟨⟨fun j unfolded => started.hand few unfolded, ?_, ?_⟩, ?_⟩
  · rw [empty]
    exact List.not_mem_nil
  · rw [rest]
    exact finite
  · rw [empty]
    exact started.eight_le_deck few

theorem dealtHand_play {call : EngineCall} (dealt : Dealt state) (offered : PlayCall state call)
    (ok : step hashes state call = .ok after) : DealtHand after := by
  rcases step_eq_ok ok with ⟨events, ok⟩
  cases call with
  | seatPlayer seatIndex playerId agentId stack => cases offered
  | clearSeat seatIndex => cases offered
  | foldSeat seatIndex => cases offered
  | setSitOut seatIndex sitOut => cases offered
  | startHand serverSeed handId => cases offered
  | applyAction action amount =>
    rcases applyAction_wagers ok with
      ⟨i, wagered, own, acting, unfolded, notAllIn, wagers, passes⟩
    exact (dealt.of_wagers wagers).of_passes passes
  | continueRunout => exact dealt.of_runsOut (continueRunout_eq_ok ok)

/-- Between two calls a hand loses seats, but no cards. -/
theorem dealtHand_meanwhile (someSeat : Fin seatCount) (dealt : Dealt awaited.state)
    (going : awaited.state.midHand = true) (call : AwaitedCall seatCount) :
    DealtHand (awaited.step call).state := by
  have stands (j : Fin seatCount) : Stands awaited.state (awaited.step call).state j :=
    stands_step going (.inr (.refl _)) call
  exact dealt.of_stands stands someSeat

/-- The hands of a table that has cards for everybody are dealt. -/
theorem dealtHand_of_reachable (someSeat : Fin seatCount)
    (few : (seatsWith table.seats SeatState.eligible).length ≤ 22)
    (finite : ∃ bps, rakePctToBps table.config.rakePct = .finite bps)
    (reachable : (awaitedHand hashes table serverSeed handId).Reachable Plays awaited) :
    DealtHand awaited.state := by
  induction reachable with
  | start initial =>
    rcases initial with ⟨events, started⟩
    rcases startHand_eq_ok started with ⟨button, sb, bb, started⟩
    exact fun _ => Started.dealt started few finite
  | @next earlier later call reached admitted accepted dealtHand =>
    cases call with
    | meanwhile call =>
      cases accepted
      exact dealtHand_meanwhile someSeat (dealtHand admitted) admitted call
    | play call =>
      rcases admitted with ⟨going, offered⟩
      simp only [awaitedHand] at accepted
      cases played : Engine.step hashes earlier.state call with
      | error err =>
        rw [played] at accepted
        cases accepted
      | ok reached =>
        rw [played] at accepted
        cases accepted
        exact dealtHand_play (dealtHand going) offered played
    | clearTurn =>
      cases accepted
      intro going
      exact { dealtHand going with }

/-! ## The end of a turn -/

inductive TurnFailure where
  | turn (err : TurnError)
  | engine (err : EngineError)
deriving DecidableEq

/-- `actForCurrent` clears the turn of a seat that has nothing to do, and
returns when the turn is over; else it applies the decision. -/
def endTurn (before after : HoldemState seatCount) (seatIndex : Fin seatCount)
    (decided : SeatDecision) : Except TurnFailure (HoldemState seatCount) :=
  match actForCurrent before after seatIndex decided with
  | .error err => .error (.turn err)
  | .ok none =>
      .ok (if getLegalActions before = [] then { after with actingIndex := none }
        else after)
  | .ok (some (action, amount)) =>
      ((applyAction after action amount).map Prod.fst).mapError .engine

/-- What is not offered is refused. -/
theorem playCall_of_applyAction {action : PokerAction} {amount : Option Int}
    {result : HoldemState seatCount × List (EngineEvent seatCount)}
    (ok : applyAction state action amount = .ok result) :
    PlayCall state (.applyAction action amount) := by
  rcases result with ⟨reached, events⟩
  rcases applyAction_eq_ok ok with ⟨j, offer, own, acting, offered, named, accepted, -⟩
  exact ⟨offer, offered, named, accepted⟩

theorem Dealt.applyAction_ok {action : PokerAction} {amount : Option Int}
    (dealt : Dealt state) (acting : state.actingIndex = some i)
    (offered : PlayCall state (.applyAction action amount)) :
    ∃ result, applyAction state action amount = .ok result := by
  apply Engine.applyAction_ok acting offered
  intro wagered events wagers
  exact (dealt.of_wagers wagers).toShowable.passTurn

/-- With cards for everybody, nothing but a refused decision is thrown. -/
theorem endTurn_isOk_iff (dealt : after.actingIndex = some i → Dealt after)
    {decided : SeatDecision} : (∃ next, endTurn before after i decided = .ok next) ↔
    KeepsHand after (actForCurrent before after i decided) := by
  rw [endTurn]
  cases outcome : actForCurrent before after i decided with
  | error err => simp [KeepsHand]
  | ok call =>
    cases call with
    | none => simp [KeepsHand]
    | some call =>
      rcases call with ⟨action, amount⟩
      have acting : after.actingIndex = some i := by
        by_contra other
        have ended : TurnOver after i := .inl other
        simp [actForCurrent, ended] at outcome
      show (∃ next, ((applyAction after action amount).map Prod.fst).mapError
                TurnFailure.engine = .ok next) ↔ PlayCall after (.applyAction action amount)
      constructor
      · rintro ⟨next, ok⟩
        cases applied : applyAction after action amount with
        | error err =>
          rw [applied] at ok
          cases ok
        | ok result => exact playCall_of_applyAction applied
      · intro offered
        rcases (dealt acting).applyAction_ok acting offered with ⟨result, applied⟩
        rw [applied]
        exact ⟨_, rfl⟩

/-! ## Decisions of players -/

/-- What a player has just submitted can be applied. -/
theorem keepsHand_of_submitted
    (mid : before.midHand = true) (beforeActs : before.actingIndex = some i)
    (stands : Stands before after i) (small : SmallOffers after)
    {pendingSeat : Option (Fin seatCount)} {userId : String}
    {action : PokerAction} {amount : Option Float} {decided : SeatDecision}
    (submitted : submitPlayerAction after pendingSeat userId action amount = .ok decided) :
    KeepsHand after (actForCurrent before after i decided) := by
  rw [keepsHand_iff mid beforeActs stands]
  by_cases acting : after.actingIndex = some i
  · rcases stands with ended | same
    · rw [ended.acting] at acting
      cases acting
    · rcases playCall_of_submitted acting small submitted with ⟨chips, converted, safe, offered⟩
      rcases (playCall_iff acting).mp offered with ⟨unfolded, -, accepts⟩
      refine .inr (.inr ⟨unfolded, fun known => ?_⟩)
      rcases (isOffered_iff beforeActs).mp known with ⟨-, -, accepted⟩
      rw [AmountFits, converted]
      exact ⟨safe, (accepts_iff_allows same unfolded accepted).mp accepts⟩
  · exact .inr (.inl acting)

/-- A decision to fold or to check, without an amount. -/
structure Passive (decided : SeatDecision) : Prop where
  action : decided.action = .fold ∨ decided.action = .check
  amount : decided.amount = none

/-- A decision that nobody has made is to fold or to check. -/
theorem passive_of_foldFirst (acting : state.actingIndex = some i) {reasonCode : String}
    {decided : SeatDecision} (given : foldFirst (getLegalActions state) reasonCode = .ok decided) :
    Passive decided := by
  by_cases empty : getLegalActions state = []
  · rw [empty] at given
    cases given
    exact ⟨.inl rfl, rfl⟩
  · rcases foldFirst_eq acting empty reasonCode with ⟨action, same, passive, -⟩
    rw [same] at given
    cases given
    exact ⟨passive, rfl⟩

/-- To fold or to check keeps the hand unless the seat has been folded. -/
theorem keepsHand_of_passive_iff
    (mid : before.midHand = true) (beforeActs : before.actingIndex = some i)
    (stands : Stands before after i) {decided : SeatDecision} (passive : Passive decided) :
    KeepsHand after (actForCurrent before after i decided) ↔
      getLegalActions before = [] ∨ after.actingIndex ≠ some i ∨
        (after.seats i).folded = false := by
  have fits : AmountFits before after i decided := by
    rw [AmountFits, passive.amount]
    exact ⟨by rintro chips ⟨⟩, allows_passive passive.action (after.seats i).stack none⟩
  rw [keepsHand_iff mid beforeActs stands]
  apply or_congr_right
  apply or_congr_right
  exact ⟨fun allowed => allowed.unfolded, fun unfolded => ⟨unfolded, fun _ => fits⟩⟩

/-! ## Seats that are left alone -/

/-- The call neither sits out, folds, clears nor pays the seat. -/
def Spares (awaited : AwaitedTable seatCount) (i : Fin seatCount) : AwaitedCall seatCount → Prop
  | .beginTopUp _ _ _ => True
  | .writeTopUp index => ∀ topUp ∈ awaited.begun[index]?, topUp.seatIndex ≠ i
  | .setPlayerSitOut userId _ => awaited.table.seatOf userId ≠ some i
  | .foldLeaver j => j ≠ i
  | .passLeaver j => j ≠ i
  | .clearLeaver j => j ≠ i
  | .settleIfOnePlayerLeft => True
  | .resetToWaiting => True

def SparedBy (i : Fin seatCount) : AwaitedTable seatCount → List (AwaitedCall seatCount) → Prop
  | _, [] => True
  | awaited, call :: rest =>
      Spares awaited i call ∧ SparedBy i (awaited.step call) rest

/-- The hand is over, or the seat is as it was. -/
def Untouched (seat : SeatState) (state : HoldemState seatCount) (i : Fin seatCount) : Prop :=
  HandOver state ∨ state.seats i = seat

theorem Untouched.mapSeat {seat : SeatState} (untouched : Untouched seat state i)
    {j : Fin seatCount} (other : j ≠ i) {change : SeatState → SeatState} :
    Untouched seat (mapSeat state j change) i := by
  rcases untouched with ended | same
  · exact .inl ⟨ended.acting, ended.midHand⟩
  · right
    have apart : ¬ i.val = j.val := fun equal => other (Fin.ext equal.symm)
    show (if i.val = j.val then change (state.seats i) else state.seats i) = seat
    rw [if_neg apart]
    exact same

theorem Untouched.awardIfAlone {seat : SeatState} (untouched : Untouched seat state i) :
    Untouched seat (AwaitedTable.awardIfAlone state) i := by
  rw [AwaitedTable.awardIfAlone, Engine.settleIfOnePlayerLeft]
  split_ifs with alone
  · cases awarded : foldWin state with
    | error err => exact untouched
    | ok result =>
      rcases result with ⟨reached, events⟩
      exact .inl (handOver_of_award awarded)
  · exact untouched

theorem untouched_step {seat : SeatState} (untouched : Untouched seat awaited.state i)
    {call : AwaitedCall seatCount} (spares : Spares awaited i call) :
    Untouched seat (awaited.step call).state i := by
  cases call with
  | beginTopUp userId chips opts =>
    show Untouched seat (awaited.beginTopUp userId chips opts).state i
    rwa [state_beginTopUp]
  | writeTopUp index =>
    show Untouched seat (awaited.writeTopUp index).state i
    rw [AwaitedTable.writeTopUp]
    split
    case h_1 => exact untouched
    case h_2 topUp found =>
      show Untouched seat (AwaitedTable.writeStack awaited.state topUp) i
      exact untouched.mapSeat (spares topUp found)
  | setPlayerSitOut userId sitOut =>
    have sits (j : Fin seatCount) (out : Bool) (other : j ≠ i) :
        Untouched seat (setSitOut awaited.state j out) i := untouched.mapSeat other
    simp only [AwaitedTable.step, SitOuts.TableRuntime.setPlayerSitOut]
    cases found : awaited.table.seatOf userId with
    | none => exact untouched
    | some j =>
      have other : j ≠ i := by
        rintro rfl
        exact spares found
      simp only
      split
      case h_1 table performed =>
        revert performed
        split_ifs
        · rintro ⟨⟩
          exact sits j true other
        · rintro ⟨⟩
          exact sits j false other
        · rintro ⟨⟩
          exact untouched
      case h_2 => exact untouched
  | foldLeaver j =>
    rw [AwaitedTable.step]
    split
    · exact (untouched.mapSeat spares).awardIfAlone
    · exact untouched
  | passLeaver j =>
    show Untouched seat (passLeaver awaited.state j) i
    rw [passLeaver]
    split_ifs with acting
    · rcases untouched with ended | same
      · rw [ended.acting] at acting
        cases acting
      · exact .inr same
    · exact untouched
  | clearLeaver j =>
    show Untouched seat (clearSeat awaited.state j) i
    exact untouched.mapSeat spares
  | settleIfOnePlayerLeft => exact untouched.awardIfAlone
  | resetToWaiting =>
    have waiting : (awaited.table.resetToWaiting fun _ => none).state.midHand = false := by
      simp [HoldemState.midHand, SitOuts.TableRuntime.resetToWaiting]
    exact .inl ⟨rfl, waiting⟩

theorem untouched_run {seat : SeatState} {calls : List (AwaitedCall seatCount)}
    (untouched : Untouched seat awaited.state i) (spared : SparedBy i awaited calls) :
    Untouched seat (awaited.run calls).state i := by
  induction calls generalizing awaited with
  | nil => exact untouched
  | cons call rest induction =>
    rcases spared with ⟨spares, spared⟩
    exact induction (untouched_step untouched spares) spared

/-- A seat that was left alone may do what it was offered. -/
theorem keepsHand_of_untouched
    (mid : before.midHand = true) (beforeActs : before.actingIndex = some i)
    (stands : Stands before after i)
    (untouched : Untouched (before.seats i) after i) {decided : SeatDecision}
    (fits : isOffered (getLegalActions before) decided.action = true →
        AmountFits before before i decided) :
    KeepsHand after (actForCurrent before after i decided) := by
  rw [keepsHand_iff mid beforeActs stands]
  by_cases empty : getLegalActions before = []
  · exact .inl empty
  · rcases untouched with ended | same
    · right
      left
      rw [ended.acting]
      exact (Option.some_ne_none i).symm
    · rcases List.exists_mem_of_ne_nil _ empty with ⟨offer, member⟩
      rcases offered_of_mem beforeActs member with ⟨unfolded, -, -⟩
      refine .inr (.inr ⟨?_, fun offered => ?_⟩)
      · rw [same]
        exact unfolded
      · rw [AmountFits, same]
        exact fits offered

/-! ## Every turn of a hand -/

/-- How the turn of a seat ends after the calls made while it was awaited. -/
structure TurnEnds (awaited : AwaitedTable seatCount) (i : Fin seatCount)
    (calls : List (AwaitedCall seatCount)) : Prop where
  keeps : ∀ decided, KeepsHand (awaited.run calls).state
          (actForCurrent awaited.state (awaited.run calls).state i decided) ↔
        getLegalActions awaited.state = [] ∨ (awaited.run calls).state.actingIndex ≠ some i ∨
          StillAllowed awaited.state (awaited.run calls).state i decided
  applied : ∀ decided, (∃ next, endTurn awaited.state (awaited.run calls).state i decided =
            .ok next) ↔ getLegalActions awaited.state = [] ∨
          (awaited.run calls).state.actingIndex ≠ some i ∨
          StillAllowed awaited.state (awaited.run calls).state i decided
  spared : SparedBy i awaited calls → ∀ decided,
        (isOffered (getLegalActions awaited.state) decided.action = true →
          AmountFits awaited.state awaited.state i decided) → ∃ next,
          endTurn awaited.state (awaited.run calls).state i decided = .ok next
  submitted : SmallOffers (awaited.run calls).state → ∀ pendingSeat userId action amount decided,
        submitPlayerAction (awaited.run calls).state pendingSeat userId action
            amount = .ok decided → ∃ next,
            endTurn awaited.state (awaited.run calls).state i decided = .ok next
  givenUp : ∀ decided, Passive decided → ((∃ next,
          endTurn awaited.state (awaited.run calls).state i decided = .ok next) ↔
        getLegalActions awaited.state = [] ∨ (awaited.run calls).state.actingIndex ≠ some i ∨
          ((awaited.run calls).state.seats i).folded = false)
  cancelled : ∀ replaced decided, clearPendingHuman (getLegalActions awaited.state) replaced =
          .ok decided → Passive decided
  timedOut : (awaited.run calls).state.actingIndex = some i → ∀ decided,
        timeoutFallback (awaited.run calls).state = .ok decided → Passive decided

namespace Replays

/-! ## Three players -/

def seatedThree : HoldemState 3 :=
  seatPlayer
    (seatPlayer (seatPlayer (plainTable 3) 0 "ann" "a" 1000) 1 "ben" "b" 1000)
    2 "cleo" "c" 1000

/-- The first turn of a hand. -/
def firstTurn : Option (AwaitedTable 3) :=
  match startHand plainHashes seatedThree "seed" "hand" with
  | .ok (state, _) => some ⟨⟨false, "nlhe_6max", 100000, state, []⟩, []⟩
  | .error _ => none

theorem reachable_firstTurn {awaited : AwaitedTable 3} (dealt : firstTurn = some awaited) :
    (awaitedHand plainHashes seatedThree "seed" "hand").Reachable Plays
      awaited := by
  rw [firstTurn] at dealt
  split at dealt
  case h_1 state events started =>
    cases dealt
    exact .start ⟨events, started⟩
  case h_2 => cases dealt

theorem few_seatedThree : (seatsWith seatedThree.seats SeatState.eligible).length ≤ 22 := by
  decide +kernel

theorem finite_seatedThree : ∃ bps, rakePctToBps seatedThree.config.rakePct = .finite bps :=
  ⟨500, by decide +kernel⟩

/-- Ann is to act: she may sit out, and is folded then, or her agent may raise
by more than she has. -/
theorem exists_firstTurn : ∃ awaited, firstTurn = some awaited ∧
    awaited.state.actingIndex = some 0 ∧ awaited.state.midHand = true ∧
    getLegalActions (awaited.run [.setPlayerSitOut "ann" true]).state = [] ∧
    endTurn awaited.state
        (awaited.run [.setPlayerSitOut "ann" true]).state 0
        ⟨.fold, none, "timeout_fallback"⟩ =
      .error (.engine (.illegalAction "fold")) ∧
    endTurn awaited.state awaited.state 0 ⟨.raise, some 10.01, "agent"⟩ =
      .error (.engine (.illegalAmount 1001 "raise" 20 1000)) := by
  have observed : firstTurn.any (fun awaited =>
          decide (awaited.state.actingIndex = some 0 ∧ awaited.state.midHand = true ∧
              getLegalActions
                  (awaited.run [.setPlayerSitOut "ann" true]).state =
                [] ∧
              endTurn awaited.state
                  (awaited.run [.setPlayerSitOut "ann" true]).state 0
                  ⟨.fold, none, "timeout_fallback"⟩ =
                .error (.engine (.illegalAction "fold")) ∧
              endTurn awaited.state awaited.state 0
                  ⟨.raise, some 10.01, "agent"⟩ =
                .error (.engine (.illegalAmount 1001 "raise" 20 1000)))) =
      true := by
    decide +kernel
  rcases (Option.any_eq_true_iff_get _ _).mp observed with ⟨present, facts⟩
  exact ⟨_, (Option.some_get present).symm, of_decide_eq_true facts⟩

end Replays

end Mozetto.GameServer.Turns
