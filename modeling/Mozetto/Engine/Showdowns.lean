import Mozetto.Engine.Conservation
import Mozetto.Engine.SidePots

/-!
# Showdowns of a hand

Every showdown that a hand comes to awards the reference allocation of its
side pots, in which the chips of levels that only folded seats have paid are
added to the last level that a seat still in has paid.
-/

namespace Mozetto.Engine

open Mozetto.Library.Guarded
open Mozetto.Library.SidePots
open Mozetto.Library.TransitionSystem

variable {seatCount : Nat}
variable {hashes : Hashes}
variable {state before after wagered table : HoldemState seatCount}
variable {serverSeed handId : String}
variable {events : List (EngineEvent seatCount)}
variable {action : PokerAction} {amount : Option Int}
variable {call : EngineCall}
variable {funds : Int} {config : TableConfig}
variable {i j : Fin seatCount}

/-- The calls of a hand, forced ones included. -/
def HandMove (_ : HoldemState seatCount) : EngineCall → Prop
  | .applyAction _ _ => True
  | .continueRunout => True
  | .foldSeat _ => True
  | .setSitOut _ _ => True
  | _ => False

instance : Decidable (HandMove state call) :=
  match call with
  | .applyAction _ _ => isTrue trivial
  | .continueRunout => isTrue trivial
  | .foldSeat _ => isTrue trivial
  | .setSitOut _ _ => isTrue trivial
  | .seatPlayer _ _ _ _ => isFalse id
  | .clearSeat _ => isFalse id
  | .startHand _ _ => isFalse id

/-! ## What the outcomes of an action keep -/

/-- Who is still in, with which cards and which contribution. -/
structure SameSeats (before after : HoldemState seatCount) : Prop where
  folded : ∀ i, (after.seats i).folded = (before.seats i).folded
  hole : ∀ i, (after.seats i).hole = (before.seats i).hole
  totalBet : ∀ i, (after.seats i).totalBet = (before.seats i).totalBet

theorem SameSeats.of_seats (same : after.seats = before.seats) :
    SameSeats before after := by
  refine ⟨?_, ?_, ?_⟩ <;> intro i <;> rw [same]

theorem sameSeats_of_nextBoard {dealt : HoldemState seatCount} {event : EngineEvent seatCount}
    (board : nextBoard state = some (dealt, event)) :
    SameSeats state dealt := by
  rcases nextBoard_eq_some board with ⟨count, street, -, rfl, -⟩
  exact ⟨fun _ => rfl, fun _ => rfl, fun _ => rfl⟩

theorem sameSeats_of_foldWin (ok : foldWin state = .ok (after, events)) :
    SameSeats state after := by
  rcases foldWin_eq_ok ok with unclaimed | ⟨winner, rake, effect⟩
  · rw [unclaimed.rest]
    exact ⟨fun _ => rfl, fun _ => rfl, fun _ => rfl⟩
  · have seats := effect.seats
    refine ⟨?_, ?_, ?_⟩ <;> intro i <;> rw [seats] <;> dsimp only <;>
      split <;> rfl

theorem sameSeats_of_settleShowdown (ok : settleShowdown state = .ok (after, events)) :
    SameSeats state after := by
  rcases settleShowdown_eq_ok ok with ⟨ranked, rake, effect⟩
  refine ⟨?_, ?_, ?_⟩ <;> intro i <;>
    rw [effect.seats, settledSeats_apply]

theorem Passes.sameSeats (passes : Passes state i after events) :
    SameSeats state after := by
  cases passes with
  | turn j incomplete next => exact .of_seats rfl
  | waits closes live few short => exact .of_seats rfl
  | stalls closes many noBoard short => exact .of_seats rfl
  | deals closes live many board =>
    have same := sameSeats_of_nextBoard board
    exact { same with }
  | folds closes live settled =>
    have same := sameSeats_of_foldWin settled
    exact { same with }
  | shows acting last settled =>
    have same := sameSeats_of_settleShowdown settled
    exact { same with }

theorem RunsOut.sameSeats (runsOut : RunsOut state after events) :
    SameSeats state after := by
  cases runsOut with
  | folds live settled =>
    have same := sameSeats_of_foldWin settled
    exact { same with }
  | abandons live => exact .of_seats rfl
  | deals live board =>
    have same := sameSeats_of_nextBoard board
    exact { same with }
  | shows live noBoard settled =>
    have same := sameSeats_of_settleShowdown settled
    exact { same with }

/-! ## Seats with cards -/

/-- Every seat still in holds cards. -/
def HoldsCards (state : HoldemState seatCount) : Prop :=
  ∀ i, (state.seats i).folded = false → (state.seats i).hole.isSome = true

theorem SameSeats.holdsCards (same : SameSeats before after) (cards : HoldsCards before) :
    HoldsCards after := by
  intro i unfolded
  rw [same.folded] at unfolded
  rw [same.hole]
  exact cards i unfolded

/-- A wager gives no seat its cards back. -/
theorem Wagers.holdsCards (wagers : Wagers state i action amount wagered)
    (cards : HoldsCards state) : HoldsCards wagered := by
  have paid (amount : Int) : HoldsCards (paidIn state i amount) := by
    intro j
    by_cases same : j = i
    · subst same
      rw [paidIn_self]
      exact cards j
    · rw [paidIn_of_ne same]
      exact cards j
  cases wagers with
  | fold behind =>
    intro j
    show (foldAt state.seats i j).folded = false → (foldAt state.seats i j).hole.isSome = true
    by_cases same : j = i
    · subst same
      intro unfolded
      rw [foldAt_self] at unfolded
      cases unfolded
    · rw [foldAt_of_ne same]
      exact cards j
  | check matched => exact cards
  | call behind enough => exact paid _
  | bet matched some free chosen low high is => exact paid _
  | raise behind more free chosen low high is => exact paid _
  | shoveFull more free full => exact paid _
  | shoveShort more free short => exact paid _
  | callAllIn behind short => exact paid _

theorem holdsCards_mapSeat {seatIndex : Nat} {change : SeatState → SeatState}
    (cards : HoldsCards state) (forced : ForcedOut change) :
    HoldsCards (mapSeat state seatIndex change) := by
  intro i
  simp only [mapSeat]
  split
  · intro unfolded
    rcases (forced _).2.2.2 unfolded with ⟨stays, hole⟩
    rw [hole]
    exact cards i stays
  · exact cards i

theorem holdsCards_step (cards : HoldsCards state) (move : HandMove state call)
    (ok : step hashes state call = .ok after) : HoldsCards after := by
  rcases step_eq_ok ok with ⟨events, ok⟩
  cases call with
  | seatPlayer seatIndex playerId agentId stack => cases move
  | clearSeat seatIndex => cases move
  | startHand serverSeed handId => cases move
  | foldSeat seatIndex =>
    cases ok
    exact holdsCards_mapSeat cards forcedOut_foldSeat
  | setSitOut seatIndex sitOut =>
    cases ok
    exact holdsCards_mapSeat cards forcedOut_setSitOut
  | applyAction action amount =>
    rcases applyAction_wagers ok with ⟨i, wagered, own, acting, -, -, wagers, passes⟩
    exact passes.sameSeats.holdsCards (wagers.holdsCards cards)
  | continueRunout =>
    exact (continueRunout_eq_ok ok).sameSeats.holdsCards cards

theorem holdsCards_reachable
    (reached : (handFrom hashes table serverSeed handId).Reachable HandMove state) :
    HoldsCards state := by
  refine @System.Reachable.invariant _ _ _ _ _ HoldsCards ?_ ?_ _ reached
  · rintro start ⟨events, ok⟩
    rcases startHand_eq_ok ok with ⟨button, sb, bb, started⟩
    exact started.cards
  · intro before call after cards move ok
    exact holdsCards_step cards move ok

/-! ## Contributions -/

/-- A hand is played, or nobody acts on it any more. -/
def PlayingOrIdle (funds : Int) (config : TableConfig) (state : HoldemState seatCount) :
    Prop :=
  Playing funds config state ∨ state.actingIndex = none ∧ ∀ i, 0 ≤ (state.seats i).totalBet

theorem Playing.totals_nonneg (playing : Playing funds config state) (i : Fin seatCount) :
    0 ≤ (state.seats i).totalBet := (playing.seats i).bet.trans (playing.seats i).within

theorem PlayingOrIdle.totals_nonneg (hand : PlayingOrIdle funds config state) (i : Fin seatCount) :
    0 ≤ (state.seats i).totalBet := by
  rcases hand with playing | ⟨-, nonneg⟩
  · exact playing.totals_nonneg i
  · exact nonneg i

theorem SameSeats.totals_nonneg (same : SameSeats before after)
    (nonneg : ∀ i, 0 ≤ (before.seats i).totalBet) (i : Fin seatCount) :
    0 ≤ (after.seats i).totalBet := by
  rw [same.totalBet]
  exact nonneg i

theorem acting_of_foldWin
    (ok : foldWin { state with actingIndex := none } = .ok (after, events)) :
    after.actingIndex = none := by
  rcases foldWin_eq_ok ok with unclaimed | ⟨winner, rake, effect⟩
  · rw [unclaimed.rest]
  · rw [effect.rest]

theorem acting_of_settleShowdown (ok : settleShowdown state = .ok (after, events)) :
    after.actingIndex = none := by
  rcases settleShowdown_eq_ok ok with ⟨ranked, rake, effect⟩
  rw [effect.rest]

theorem Passes.playingOrIdle (passes : Passes state i after events)
    (playing : Playing funds config state) (blind : 0 ≤ config.bigBlind) :
    PlayingOrIdle funds config after := by
  have nonneg := passes.sameSeats.totals_nonneg playing.totals_nonneg
  cases passes with
  | turn j incomplete next => exact .inl { playing with }
  | waits closes live few short => exact .inl { playing with }
  | stalls closes many noBoard short => exact .inl { playing with }
  | deals closes live many board =>
    have waiting : Playing funds config { state with actingIndex := none } := { playing with }
    exact .inl (waiting.dealt blind board)
  | folds closes live settled =>
    exact .inr ⟨acting_of_foldWin settled, nonneg⟩
  | shows acting last settled =>
    exact .inr ⟨acting_of_settleShowdown settled, nonneg⟩

theorem RunsOut.playingOrIdle (runsOut : RunsOut state after events)
    (hand : PlayingOrIdle funds config state) (blind : 0 ≤ config.bigBlind) :
    PlayingOrIdle funds config after := by
  have nonneg := runsOut.sameSeats.totals_nonneg hand.totals_nonneg
  cases runsOut with
  | folds live settled =>
    exact .inr ⟨acting_of_foldWin settled, nonneg⟩
  | abandons live => exact .inr ⟨rfl, nonneg⟩
  | deals live board =>
    rcases hand with playing | idle
    · have waiting : Playing funds config { state with actingIndex := none } := { playing with }
      have dealt := waiting.dealt blind board
      exact .inl { dealt with }
    · exact .inr ⟨rfl, nonneg⟩
  | shows live noBoard settled =>
    exact .inr ⟨acting_of_settleShowdown settled, nonneg⟩

theorem PlayingOrIdle.mapSeat {seatIndex : Nat} {change : SeatState → SeatState}
    (hand : PlayingOrIdle funds config state) (forced : ForcedOut change) :
    PlayingOrIdle funds config (mapSeat state seatIndex change) := by
  rcases hand with playing | ⟨idle, nonneg⟩
  · exact .inl (playing.mapSeat forced)
  · right
    refine ⟨idle, ?_⟩
    intro i
    simp only [Engine.mapSeat]
    split
    · rw [(forced _).2.1]
      exact nonneg i
    · exact nonneg i

theorem playingOrIdle_step (hand : PlayingOrIdle funds config state) (blind : 0 ≤ config.bigBlind)
    (move : HandMove state call) (ok : step hashes state call = .ok after) :
    PlayingOrIdle funds config after := by
  rcases step_eq_ok ok with ⟨events, ok⟩
  cases call with
  | seatPlayer seatIndex playerId agentId stack => cases move
  | clearSeat seatIndex => cases move
  | startHand serverSeed handId => cases move
  | foldSeat seatIndex =>
    cases ok
    exact hand.mapSeat forcedOut_foldSeat
  | setSitOut seatIndex sitOut =>
    cases ok
    exact hand.mapSeat forcedOut_setSitOut
  | applyAction action amount =>
    rcases applyAction_wagers ok with ⟨i, wagered, own, acting, -, -, wagers, passes⟩
    rcases hand with playing | ⟨idle, -⟩
    · exact passes.playingOrIdle (wagers.playing playing blind) blind
    · rw [idle] at acting
      cases acting
  | continueRunout =>
    exact (continueRunout_eq_ok ok).playingOrIdle hand blind

/-- A hand of a table whose stacks and blinds are amounts. -/
theorem playingOrIdle_reachable (stackNonneg : ∀ i, 0 ≤ (table.seats i).stack)
    (small : 0 ≤ table.config.smallBlind) (big : 0 ≤ table.config.bigBlind)
    (reached : (handFrom hashes table serverSeed handId).Reachable HandMove state) :
    PlayingOrIdle (chips table.seats) table.config state := by
  refine @System.Reachable.invariant _ _ _ _ _
      (PlayingOrIdle (chips table.seats) table.config) ?_ ?_ _ reached
  · rintro start ⟨events, ok⟩
    rcases startHand_eq_ok ok with ⟨button, sb, bb, started⟩
    exact .inl (started.playing stackNonneg small big)
  · intro before call after hand move ok
    exact playingOrIdle_step hand big move ok

/-! ## Showdowns -/

/-- The awards an event records before the rake. -/
def EngineEvent.grossAwards : EngineEvent seatCount → Option (List (Fin seatCount × Int))
  | .handSettled _ _ _ gross _ _ _ => some gross
  | _ => none

def EngineEvent.reveals : EngineEvent seatCount → Bool
  | .showdownRevealed _ => true
  | _ => false

/-- The gross awards of a showdown are those of its layers. -/
theorem grossAwards_of_settleShowdown
    {event : EngineEvent seatCount} {gross : List (Fin seatCount × Int)}
    (ok : settleShowdown state = .ok (after, events))
    (member : event ∈ events) (recorded : event.grossAwards = some gross) : ∃ ranked,
    (showdownSeats state.seats).mapM (rankSeat state.seats state.board) = .ok ranked ∧ gross =
        entriesOf ((showdownAwards state ranked).foldl addWon []) := by
  simp only [settleShowdown, bind_eq_ok_iff] at ok
  rcases ok with ⟨ranked, hands, rake, assessed, equal⟩
  rw [Except.ok.injEq, Prod.mk.injEq] at equal
  rcases equal with ⟨-, rfl⟩
  refine ⟨ranked, hands, ?_⟩
  rw [List.mem_append, List.mem_cons] at member
  rcases member with (rfl | returned) | settled
  · cases recorded
  · rcases List.mem_map.mp returned with ⟨entry, -, rfl⟩
    cases recorded
  · simp only [List.mem_cons, List.not_mem_nil, or_false] at settled
    rcases settled with rfl | rfl
    · cases recorded
      rfl
    · cases recorded

/-- The reference allocation of the side pots of a table. -/
def referenceAward (state : HoldemState seatCount) (bonus : Int → Int) (i : Fin seatCount) : Int :=
  award (buttonRank state.button)
    (BetterHand (scoreOf state.seats state.board)) (totals state.seats)
    (staying state.seats) bonus i

/-- The chips of levels that only folded seats have paid. -/
def uncovered (state : HoldemState seatCount) : Int → Int :=
  carried (totals state.seats) (staying state.seats)

theorem referenceAward_congr (same : SameSeats before after) (button : after.button = before.button)
    (board : after.board = before.board) : referenceAward after (uncovered after) =
    referenceAward before (uncovered before) := by
  have totalsSame : totals after.seats = totals before.seats := funext same.totalBet
  have stayingSame : staying after.seats = staying before.seats := by
    ext i
    rw [mem_staying, mem_staying, same.folded]
  have scores : scoreOf after.seats after.board = scoreOf before.seats before.board := by
    funext i
    simp only [scoreOf, rankSeat, same.hole, board]
  funext i
  rw [referenceAward, referenceAward, uncovered, uncovered, totalsSame, stayingSame, scores, button]

/-- A showdown pays the reference allocation of its side pots. -/
theorem credited_of_settleShowdown
    {event : EngineEvent seatCount} {gross : List (Fin seatCount × Int)}
    {acting : Option (Fin seatCount)} (cards : HoldsCards state)
    (ok :
      settleShowdown { state with actingIndex := acting, street := .showdown } =
        .ok (after, events))
    (member : event ∈ events) (recorded : event.grossAwards = some gross) :
    credited gross i = referenceAward after (uncovered after) i := by
  rcases grossAwards_of_settleShowdown ok member recorded with ⟨ranked, hands, rfl⟩
  rcases settleShowdown_eq_ok ok with ⟨_, rake, effect⟩
  have same : SameSeats state after := by
    have kept := sameSeats_of_settleShowdown ok
    exact { kept with }
  have button : after.button = state.button := by rw [effect.rest]
  have board : after.board = state.board := by rw [effect.rest]
  have shown : ∀ i, (state.seats i).folded = false → i ∈ ranked.map RankedSeat.seatIndex := by
    intro i unfolded
    rw [seats_of_mapM hands]
    show i ∈ showdownSeats state.seats
    rw [showdownSeats, mem_seatsWith, cards i unfolded, unfolded]
    rfl
  rw [credited_foldl_addWon, referenceAward_congr same button board]
  refine (zero_add _).trans ?_
  exact awardedBy_buildPots (score_of_mapM hands) shown

theorem not_reveals_of_foldWin {event : EngineEvent seatCount}
    (ok : foldWin state = .ok (after, events)) (member : event ∈ events) :
    event.reveals = false := by
  rcases foldWin_eq_ok ok with unclaimed | ⟨winner, rake, effect⟩
  · rw [unclaimed.events] at member
    cases member
  · cases event with
    | showdownRevealed reveals => exact absurd member (effect.hidden reveals)
    | _ => rfl

theorem not_reveals_of_nextBoard {dealt : HoldemState seatCount} {event : EngineEvent seatCount}
    (board : nextBoard state = some (dealt, event)) : event.reveals = false := by
  rcases nextBoard_eq_some board with ⟨count, street, -, -, rfl⟩
  rfl

/-- Only a showdown reveals hands. -/
theorem Passes.showdown {event : EngineEvent seatCount}
    (passes : Passes state i after events) (member : event ∈ events)
    (reveals : event.reveals = true) :
    ∃ acting, settleShowdown { state with actingIndex := acting, street := .showdown } =
        .ok (after, events) := by
  cases passes with
  | turn j incomplete next => cases member
  | waits closes live few short => cases member
  | stalls closes many noBoard short => cases member
  | deals closes live many board =>
    rw [List.mem_singleton] at member
    rw [member, not_reveals_of_nextBoard board] at reveals
    cases reveals
  | folds closes live settled =>
    rw [not_reveals_of_foldWin settled member] at reveals
    cases reveals
  | shows acting last settled => exact ⟨acting, settled⟩

theorem RunsOut.showdown {event : EngineEvent seatCount}
    (runsOut : RunsOut state after events) (member : event ∈ events)
    (reveals : event.reveals = true) :
    ∃ acting, settleShowdown { state with actingIndex := acting, street := .showdown } =
        .ok (after, events) := by
  cases runsOut with
  | folds live settled =>
    rw [not_reveals_of_foldWin settled member] at reveals
    cases reveals
  | abandons live => cases member
  | deals live board =>
    rw [List.mem_singleton] at member
    rw [member, not_reveals_of_nextBoard board] at reveals
    cases reveals
  | shows live noBoard settled => exact ⟨none, settled⟩

/-- Where the showdowns of a hand come from. -/
theorem showdown_of_transition (cards : HoldsCards state) (move : HandMove state call)
    (ok : transition hashes state call = .ok (after, events))
    (shown : ∃ event ∈ events, event.reveals = true) :
    ∃ before acting own, HoldsCards before ∧ settleShowdown
            { before with actingIndex := acting, street := .showdown } = .ok (after, own) ∧
        ∀ event ∈ events, event.grossAwards ≠ none → event ∈ own := by
  rcases shown with ⟨shownEvent, member, reveals⟩
  cases call with
  | seatPlayer seatIndex playerId agentId stack => cases move
  | clearSeat seatIndex => cases move
  | startHand serverSeed handId => cases move
  | foldSeat seatIndex =>
    cases ok
    cases member
  | setSitOut seatIndex sitOut =>
    cases ok
    cases member
  | applyAction action amount =>
    rcases applyAction_eq_ok ok with ⟨i, offer, own, acting, offered, named, refused, passes, rfl⟩
    have wagers := wagers_of_mem acting offered refused
    have inOwn : shownEvent ∈ own := by
      rw [List.mem_cons, List.mem_cons] at member
      rcases member with rfl | rfl | later
      · cases reveals
      · cases reveals
      · exact later
    rcases passes.showdown inOwn reveals with ⟨passed, settled⟩
    refine ⟨_, passed, own, wagers.holdsCards cards, settled, ?_⟩
    intro event member recorded
    rw [List.mem_cons, List.mem_cons] at member
    rcases member with rfl | rfl | later
    · exact absurd rfl recorded
    · exact absurd rfl recorded
    · exact later
  | continueRunout =>
    rcases (continueRunout_eq_ok ok).showdown member reveals with ⟨acting, settled⟩
    exact ⟨state, acting, events, cards, settled, fun _ inside _ => inside⟩

/-! ## Every showdown -/

/-- Every seat's contribution is matched by a seat that is still in. -/
def Matched (state : HoldemState seatCount) : Prop :=
  ∀ j, ∃ k, (state.seats k).folded = false ∧ (state.seats j).totalBet ≤ (state.seats k).totalBet

instance : Decidable (Matched state) :=
  inferInstanceAs (Decidable (∀ j, ∃ k, (state.seats k).folded = false ∧
        (state.seats j).totalBet ≤ (state.seats k).totalBet))

theorem uncovered_of_matched (matched : Matched state) : uncovered state = fun _ => 0 := by
  funext level
  apply carried_of_matched
  intro j
  rcases matched j with ⟨k, stays, bound⟩
  exact ⟨k, mem_staying.mpr stays, bound⟩

/-- What the seats have put in up to the contribution of one of them. -/
def matchedBy (state : HoldemState seatCount) (i : Fin seatCount) : Int :=
  ∑ j, min (state.seats i).totalBet (state.seats j).totalBet

/-- The reference awards at most what was put in up to a contribution. -/
theorem referenceAward_le (nonneg : ∀ i, 0 ≤ (state.seats i).totalBet) :
    referenceAward state (uncovered state) i ≤
      matchedBy state i + uncovered state (state.seats i).totalBet := by
  by_cases stays : i ∈ staying state.seats
  · exact award_le nonneg (fun _ => carried_nonneg) fun level below => carried_of_lt stays below
  · have nothing : referenceAward state (uncovered state) i = 0 := awardFrom_of_out stays
    have held : 0 ≤ matchedBy state i := Finset.sum_nonneg fun j _ => le_min (nonneg i) (nonneg j)
    have extra : 0 ≤ uncovered state (state.seats i).totalBet := carried_nonneg
    omega

/-- The plain reference allocation, without any bonus. -/
def PlainReference (state : HoldemState seatCount) (gross : List (Fin seatCount × Int)) : Prop :=
  ∀ i, credited gross i = referenceAward state (fun _ => 0) i

/--
Every showdown of a hand awards the reference allocation, with the chips of
levels that only folded seats have paid added to the last level that a seat
still in has paid; if every contribution is matched by a seat still in, it is
the plain reference.
-/
theorem showdown_awards
    {event : EngineEvent seatCount} {gross : List (Fin seatCount × Int)}
    (reached :
      (handFrom hashes table serverSeed handId).Reachable HandMove state)
    (move : HandMove state call)
    (ok : transition hashes state call = .ok (after, events))
    (shown : ∃ event ∈ events, event.reveals = true)
    (member : event ∈ events) (recorded : event.grossAwards = some gross) :
    (∀ i, credited gross i = referenceAward after (uncovered after) i) ∧
      (∀ i, (after.seats i).folded = true → credited gross i = 0) ∧
      (Matched after → PlainReference after gross) ∧
      ((∀ i, 0 ≤ (table.seats i).stack) → 0 ≤ table.config.smallBlind →
        0 ≤ table.config.bigBlind →
        ∀ i,
          credited gross i ≤
              matchedBy after i + uncovered after (after.seats i).totalBet ∧
            (Matched after → credited gross i ≤ matchedBy after i)) := by
  rcases showdown_of_transition (holdsCards_reachable reached) move ok shown
    with ⟨before, acting, own, cards, settled, inside⟩
  have inOwn := inside event member (by simp [recorded])
  have awarded (i : Fin seatCount) :
      credited gross i = referenceAward after (uncovered after) i :=
    credited_of_settleShowdown cards settled inOwn recorded
  refine ⟨awarded, ?_, ?_, ?_⟩
  · intro i folded
    rw [awarded]
    apply awardFrom_of_out
    intro stays
    rw [mem_staying, folded] at stays
    cases stays
  · intro matched i
    rw [awarded, uncovered_of_matched matched]
  · intro stackNonneg small big i
    have later :
        (handFrom hashes table serverSeed handId).Reachable HandMove after :=
      .next reached move (by
        show step hashes state call = _
        rw [step, ok]
        rfl)
    have hand := playingOrIdle_reachable stackNonneg small big later
    have bound : credited gross i ≤ _ :=
      (awarded i).trans_le (referenceAward_le hand.totals_nonneg)
    refine ⟨bound, ?_⟩
    intro matched
    rw [uncovered_of_matched matched, add_zero] at bound
    exact bound

/-- No seat is forced out, and only all-in hands are run out. -/
def Voluntary (state : HoldemState seatCount) : EngineCall → Prop
  | .applyAction _ _ => True
  | .continueRunout => isAllInRunout state = true
  | _ => False

instance : Decidable (Voluntary state call) :=
  match call with
  | .applyAction _ _ => isTrue trivial
  | .continueRunout =>
      inferInstanceAs (Decidable (isAllInRunout state = true))
  | .foldSeat _ => isFalse id
  | .setSitOut _ _ => isFalse id
  | .seatPlayer _ _ _ _ => isFalse id
  | .clearSeat _ => isFalse id
  | .startHand _ _ => isFalse id

/-- A run-out that comes to a showdown with such awards. -/
def runsOutTo (observe : HoldemState seatCount → List (Fin seatCount × Int) → Bool)
    (state : HoldemState seatCount) : Bool :=
  isAllInRunout state && match continueRunout state with
    | .ok (after, events) =>
        events.any EngineEvent.reveals &&
          events.any fun event => event.grossAwards.any (observe after)
    | .error _ => false

theorem exists_runsOutTo {observe : HoldemState seatCount → List (Fin seatCount × Int) → Bool}
    (observed : runsOutTo observe state = true) : ∃ after events event gross,
    transition plainHashes state .continueRunout = .ok (after, events) ∧
      (∃ event ∈ events, event.reveals = true) ∧ event ∈ events ∧
      event.grossAwards = some gross ∧ observe after gross = true := by
  rw [runsOutTo, Bool.and_eq_true] at observed
  rcases observed with ⟨-, observed⟩
  cases result : continueRunout state with
  | error err =>
    rw [result] at observed
    cases observed
  | ok reached =>
    rcases reached with ⟨after, events⟩
    rw [result] at observed
    simp only [Bool.and_eq_true, List.any_eq_true] at observed
    rcases observed with ⟨shown, event, member, recorded⟩
    cases awards : event.grossAwards with
    | none =>
      rw [awards] at recorded
      cases recorded
    | some gross =>
      rw [awards] at recorded
      exact ⟨after, events, event, gross, result, shown, member, awards, recorded⟩

/-- A stack of 100 and one of 20 are all in against a deep one. -/
def threeWayAllIn : List EngineCall :=
  [.applyAction .allIn none, .applyAction .call none,
    .applyAction .allIn none, .continueRunout, .continueRunout, .continueRunout]

theorem showdown_awards_sidePots :
    ∃ (state after : HoldemState 3)
      (events : List (EngineEvent 3)) (event : EngineEvent 3)
      (gross : List (Fin 3 × Int)),
      (handFrom plainHashes (seatedPlain 3 [100, 1000, 20]) "seed"
          "hand").Reachable HandMove state ∧
        transition plainHashes state .continueRunout =
          .ok (after, events) ∧
        event ∈ events ∧ event.grossAwards = some gross ∧
        PlainReference after gross := by
  have played :
      (playPlain HandMove (seatedPlain 3 [100, 1000, 20])
          threeWayAllIn).any
        (runsOutTo fun after _ => decide (Matched after)) = true := by
    decide +kernel
  rcases exists_playPlain played with ⟨state, reached, observed⟩
  rcases exists_runsOutTo observed with
    ⟨after, events, event, gross, ok, shown, member, recorded, matched⟩
  have move : HandMove state .continueRunout := trivial
  have awards := showdown_awards reached move ok shown member recorded
  exact
    ⟨state, after, events, event, gross, reached, ok, member, recorded,
      awards.2.2.1 (of_decide_eq_true matched)⟩

/--
Two players are all in with a single chip each, and the small blind folds five:
the winner is awarded more than what was put in up to that chip.
-/
theorem exists_uncovered_award :
    ∃ (state after : HoldemState 3)
      (events : List (EngineEvent 3)) (event : EngineEvent 3)
      (gross : List (Fin 3 × Int)) (i : Fin 3),
      (handFrom plainHashes (seatedPlain 3 [1, 1000, 1]) "seed"
          "hand").Reachable Voluntary state ∧
        isAllInRunout state = true ∧
        transition plainHashes state .continueRunout =
          .ok (after, events) ∧
        (∃ event ∈ events, event.reveals = true) ∧ event ∈ events ∧
        event.grossAwards = some gross ∧
        matchedBy after i < credited gross i ∧
        ¬ PlainReference after gross := by
  have played :
      (playPlain Voluntary (seatedPlain 3 [1, 1000, 1])
          [.applyAction .allIn none, .applyAction .fold none,
            .continueRunout, .continueRunout, .continueRunout]).any
        (fun state => isAllInRunout state &&
          runsOutTo (fun after gross => decide
            ((∀ i, 0 ≤ (after.seats i).totalBet) ∧
              ∃ i, matchedBy after i < credited gross i)) state) =
        true := by
    decide +kernel
  rcases exists_playPlain played with ⟨state, reached, observed⟩
  rw [Bool.and_eq_true] at observed
  rcases exists_runsOutTo observed.2 with
    ⟨after, events, event, gross, ok, shown, member, recorded, exceeds⟩
  rcases of_decide_eq_true exceeds with ⟨nonneg, i, more⟩
  refine
    ⟨state, after, events, event, gross, i, reached, observed.1, ok, shown,
      member, recorded, more, ?_⟩
  intro plain
  have bound :
      referenceAward after (fun _ => 0) i ≤ matchedBy after i + 0 :=
    award_le nonneg (fun _ => le_rfl) fun _ _ => rfl
  rw [← plain i] at bound
  omega

end Mozetto.Engine
