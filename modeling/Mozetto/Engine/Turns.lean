import Mozetto.Engine.Hands

/-!
# What an action can lead to

The dispatch behind an action goes through the completion of the street, the
name of the street and the number of seats that can still act.  Here it is
inverted once: an action that is accepted is a wager followed by one of the
outcomes below.
-/

namespace Mozetto.Engine

variable {seatCount : Nat}
variable {state after : HoldemState seatCount}
variable {seats : Fin seatCount → SeatState}
variable {events : List (EngineEvent seatCount)}
variable {i j : Fin seatCount}
variable {hashes : Hashes} {call : EngineCall}

/-! ## Seats with a property -/

@[simp]
theorem mem_seatsWith {pred : SeatState → Bool} :
    i ∈ seatsWith seats pred ↔ pred (seats i) = true := by
  simp [seatsWith]

theorem nodup_seatsWith {pred : SeatState → Bool} : (seatsWith seats pred).Nodup :=
  (List.nodup_finRange seatCount).filter _

@[simp]
theorem mem_liveSeats : i ∈ liveSeats seats ↔ (seats i).folded = false := by
  simp [liveSeats]

theorem nodup_liveSeats : (liveSeats seats).Nodup := nodup_seatsWith

/-- Exactly one seat has not folded. -/
def OnlyLive (seats : Fin seatCount → SeatState) (winner : Fin seatCount) : Prop :=
  ∀ j, (seats j).folded = false ↔ j = winner

theorem liveSeats_eq_singleton_iff {winner : Fin seatCount} :
    liveSeats seats = [winner] ↔ OnlyLive seats winner := by
  constructor
  · intro single j
    rw [← mem_liveSeats, single, List.mem_singleton]
  · intro only
    apply List.perm_singleton.mp
    rw [List.perm_ext_iff_of_nodup nodup_liveSeats (List.nodup_singleton winner)]
    intro j
    rw [mem_liveSeats, List.mem_singleton]
    exact only j

theorem length_liveSeats_eq_one_iff :
    (liveSeats seats).length = 1 ↔ ∃ winner, OnlyLive seats winner := by
  rw [List.length_eq_one_iff]
  constructor
  · rintro ⟨winner, single⟩
    exact ⟨winner, liveSeats_eq_singleton_iff.mp single⟩
  · rintro ⟨winner, only⟩
    exact ⟨winner, liveSeats_eq_singleton_iff.mpr only⟩

/-- A board that is not complete is dealt on. -/
theorem nextBoard_eq_some {dealt : HoldemState seatCount} {event : EngineEvent seatCount}
    (board : nextBoard state = some (dealt, event)) : ∃ count street,
    (state.board.length = 0 ∧ count = 3 ∧ street = .flop ∨
        state.board.length = 3 ∧ count = 1 ∧ street = .turn ∨
        state.board.length = 4 ∧ count = 1 ∧ street = .river) ∧
      dealt = (dealBoard state count street).1 ∧
      event = .streetDealt street (dealBoard state count street).2 := by
  simp only [nextBoard] at board
  split at board
  case isTrue empty =>
    cases board
    exact ⟨3, .flop, .inl ⟨empty, rfl, rfl⟩, rfl, rfl⟩
  case isFalse =>
    split at board
    case isTrue flop =>
      cases board
      exact ⟨1, .turn, .inr (.inl ⟨flop, rfl, rfl⟩), rfl, rfl⟩
    case isFalse =>
      split at board
      case isTrue turn =>
        cases board
        exact ⟨1, .river, .inr (.inr ⟨turn, rfl, rfl⟩), rfl, rfl⟩
      case isFalse => cases board

/-! ## Actions -/

@[simp]
theorem foldAt_self : (foldAt seats i i).folded = true := by
  simp [foldAt]

theorem foldAt_of_ne (other : j ≠ i) : foldAt seats i j = seats j := Function.update_of_ne other _ _

/-- Folding leaves everything else at a seat. -/
theorem foldAt_eq :
    foldAt seats i j = { seats j with folded := (foldAt seats i j).folded } := by
  by_cases same : j = i
  · subst same
    simp [foldAt]
  · rw [foldAt_of_ne same]

theorem foldAt_bet : (foldAt seats i j).bet = (seats j).bet := by
  rw [foldAt_eq]

@[simp]
theorem withEvents_eq_ok_iff {transition : Transition seatCount}
    {all : List (EngineEvent seatCount)} : withEvents events transition = .ok (after, all) ↔
    ∃ own, transition = .ok (after, own) ∧ all = events ++ own := by
  cases transition with
  | error err => simp [withEvents, Except.map]
  | ok result =>
    rcases result with ⟨reached, own⟩
    simp only [withEvents, Except.map, Except.ok.injEq, Prod.mk.injEq]
    constructor
    · rintro ⟨rfl, rfl⟩
      exact ⟨own, ⟨rfl, rfl⟩, rfl⟩
    · rintro ⟨_, ⟨rfl, rfl⟩, rfl⟩
      exact ⟨rfl, rfl⟩

@[simp]
theorem mem_contenders : i ∈ contenders seats ↔
    (seats i).folded = false ∧ (seats i).allIn = false := by
  simp [contenders]

/-- The betting of the street is over before the river is complete. -/
def Closes (state : HoldemState seatCount) (i : Fin seatCount) : Prop :=
  streetComplete state = true ∧ state.street ≠ .river ∨
    streetComplete state = false ∧ nextToAct state i = none

/-- What passing on the turn leads to, with the events it adds. -/
inductive Passes (state : HoldemState seatCount) (i : Fin seatCount) :
    HoldemState seatCount → List (EngineEvent seatCount) → Prop where
  | turn (j : Fin seatCount) (incomplete : streetComplete state = false)
      (next : nextToAct state i = some j) : Passes state i { state with actingIndex := some j } []
  | waits (closes : Closes state i) (live : (liveSeats state.seats).length ≠ 1)
      (few : (contenders state.seats).length ≤ 1) (short : state.board.length < 5) :
      Passes state i { state with actingIndex := none } []
  | stalls (closes : Closes state i) (many : 1 < (contenders state.seats).length)
      (noBoard : nextBoard { state with actingIndex := none } = none)
      (short : state.board.length < 5) : Passes state i { state with actingIndex := none } []
  | deals {dealt : HoldemState seatCount} {event : EngineEvent seatCount} (closes : Closes state i)
      (live : (liveSeats state.seats).length ≠ 1) (many : 1 < (contenders state.seats).length)
      (board : nextBoard { state with actingIndex := none } = some (dealt, event)) :
      Passes state i dealt [event]
  | folds {won : HoldemState seatCount} {events : List (EngineEvent seatCount)}
      (closes : Closes state i) (live : (liveSeats state.seats).length = 1)
      (settled : foldWin { state with actingIndex := none } = .ok (won, events)) :
      Passes state i won events
  | shows {won : HoldemState seatCount} {events : List (EngineEvent seatCount)}
      (acting : Option (Fin seatCount))
      (last : state.street = .river ∧ streetComplete state = true ∨
          Closes state i ∧ (liveSeats state.seats).length ≠ 1 ∧
            (state.street = .river ∨ 5 ≤ state.board.length))
      (settled :
        settleShowdown { state with actingIndex := acting, street := .showdown } =
          .ok (won, events)) :
      Passes state i won events

/-- The outcomes without a next seat to act. -/
theorem passes_of_maybeRunout (closes : Closes state i)
    (ok : maybeRunout { state with actingIndex := none } events = .ok (after, all)) :
    ∃ own, all = events ++ own ∧ Passes state i after own := by
  simp only [maybeRunout] at ok
  by_cases live : (liveSeats state.seats).length = 1
  · rw [if_pos live, withEvents_eq_ok_iff] at ok
    rcases ok with ⟨own, settled, same⟩
    exact ⟨own, same, .folds closes live settled⟩
  · rw [if_neg live] at ok
    by_cases many : 1 < (contenders state.seats).length
    · rw [if_pos many] at ok
      simp only [ne_eq, not_true_eq_false, if_false] at ok
      cases board : nextBoard { state with actingIndex := none } with
      | some result =>
        rcases result with ⟨dealt, event⟩
        rw [board] at ok
        cases ok
        exact ⟨[event], rfl, .deals closes live many board⟩
      | none =>
        rw [board] at ok
        simp only at ok
        split at ok
        case isTrue full =>
          rw [withEvents_eq_ok_iff] at ok
          rcases ok with ⟨own, settled, same⟩
          exact ⟨own, same, .shows none (.inr ⟨closes, live, full⟩) settled⟩
        case isFalse short =>
          cases ok
          rw [not_or] at short
          exact ⟨[], by simp, .stalls closes many board (by simpa using short.2)⟩
    · rw [if_neg many] at ok
      split at ok
      case isTrue full =>
        rw [withEvents_eq_ok_iff] at ok
        rcases ok with ⟨own, settled, same⟩
        exact ⟨own, same, .shows none (.inr ⟨closes, live, .inr full⟩) settled⟩
      case isFalse short =>
        cases ok
        exact ⟨[], by simp, .waits closes live (Nat.not_lt.mp many) (by simpa using short)⟩

/-- Passing on the turn leads to one of the outcomes. -/
theorem passes_of_passTurn (ok : passTurn state i events = .ok (after, all)) :
    ∃ own, all = events ++ own ∧ Passes state i after own := by
  rw [passTurn] at ok
  cases complete : streetComplete state with
  | true =>
    rw [complete, if_pos rfl] at ok
    split at ok
    case isTrue river =>
      rw [withEvents_eq_ok_iff] at ok
      rcases ok with ⟨own, settled, same⟩
      exact ⟨own, same, .shows state.actingIndex (.inl ⟨river, complete⟩) settled⟩
    case isFalse early => exact passes_of_maybeRunout (.inl ⟨complete, early⟩) ok
  | false =>
    rw [complete] at ok
    simp only [Bool.false_eq_true, if_false] at ok
    cases next : nextToAct state i with
    | none =>
      rw [next] at ok
      exact passes_of_maybeRunout (.inr ⟨complete, next⟩) ok
    | some j =>
      rw [next] at ok
      cases ok
      exact ⟨[], by simp, .turn j complete next⟩

/-- An accepted action is an offered wager and what it leads to. -/
theorem applyAction_eq_ok {action : PokerAction} {amount : Option Int}
    (ok : applyAction state action amount = .ok (after, events)) : ∃ i offer own,
    state.actingIndex = some i ∧ offer ∈ getLegalActions state ∧
      offer.action = action ∧ offer.refuses amount = none ∧
      Passes (wager state i offer amount).1 i after own ∧ events = .playerActed i action
            (if (wager state i offer amount).2 = 0 then none
            else some (wager state i offer amount).2)
            (wager state i offer amount).1.pot state.pot state.street ::
          .potUpdated (wager state i offer amount).1.pot :: own := by
  rw [applyAction] at ok
  cases acting : state.actingIndex with
  | none => simp [acting] at ok
  | some i =>
    simp only [acting] at ok
    cases found : (getLegalActions state).find? fun offer =>
      offer.action = action with
    | none => simp [found] at ok
    | some offer =>
      simp only [found] at ok
      have offered := List.mem_of_find?_eq_some found
      have named := List.find?_some found
      rw [decide_eq_true_iff] at named
      cases refused : offer.refuses amount with
      | some err => simp [refused] at ok
      | none =>
        simp only [refused] at ok
        rcases passes_of_passTurn ok with ⟨own, same, passes⟩
        exact ⟨i, offer, own, rfl, offered, named, refused, passes, same⟩

/-! ## Run-outs -/

/-- What continuing a run-out leads to. -/
inductive RunsOut (state : HoldemState seatCount) :
    HoldemState seatCount → List (EngineEvent seatCount) → Prop where
  | folds {won : HoldemState seatCount} {events : List (EngineEvent seatCount)}
      (live : (liveSeats state.seats).length = 1)
      (settled : foldWin { state with actingIndex := none } = .ok (won, events)) :
      RunsOut state won events
  | abandons (live : liveSeats state.seats = []) :
      RunsOut state { state with actingIndex := none, street := .settlement, pot := 0 } []
  | deals {dealt : HoldemState seatCount} {event : EngineEvent seatCount}
      (live : 2 ≤ (liveSeats state.seats).length)
      (board : nextBoard { state with actingIndex := none } = some (dealt, event)) :
      RunsOut state { dealt with actingIndex := none } [event]
  | shows {won : HoldemState seatCount} {events : List (EngineEvent seatCount)}
      (live : 2 ≤ (liveSeats state.seats).length)
      (noBoard : nextBoard { state with actingIndex := none } = none)
      (settled :
        settleShowdown { state with actingIndex := none, street := .showdown } =
          .ok (won, events)) :
      RunsOut state won events

theorem continueRunout_eq_ok (ok : continueRunout state = .ok (after, events)) :
    RunsOut state after events := by
  simp only [continueRunout] at ok
  by_cases one : (liveSeats state.seats).length = 1
  · rw [if_pos one] at ok
    exact .folds one ok
  · rw [if_neg one] at ok
    by_cases few : (liveSeats state.seats).length < 2
    · rw [if_pos few] at ok
      cases ok
      exact .abandons (List.length_eq_zero_iff.mp (by omega))
    · rw [if_neg few] at ok
      cases board : nextBoard { state with actingIndex := none } with
      | some result =>
        rcases result with ⟨dealt, event⟩
        rw [board] at ok
        cases ok
        exact .deals (by omega) board
      | none =>
        rw [board] at ok
        exact .shows (by omega) board ok

/-! ## Steps -/

/-- A step is a transition with some events. -/
theorem step_eq_ok (ok : step hashes state call = .ok after) :
    ∃ events, transition hashes state call = .ok (after, events) := by
  rw [step] at ok
  cases result : transition hashes state call with
  | error err =>
    rw [result] at ok
    cases ok
  | ok reached =>
    rw [result] at ok
    rcases reached with ⟨other, events⟩
    cases ok
    exact ⟨events, rfl⟩

end Mozetto.Engine
