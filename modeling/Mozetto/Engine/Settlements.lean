import Mozetto.Engine.Turns
import Mathlib.Algebra.BigOperators.Group.List.Basic
import Mathlib.Algebra.BigOperators.Fin
import Mathlib.Order.Bounds.Basic

/-!
# What a settlement changes

Showdowns and hands won by folds inverted once: which seats are credited, what
is taken from them, and which events are emitted.
-/

namespace Mozetto.Engine

open Mozetto.Library.Guarded

variable {seatCount : Nat}
variable {state after : HoldemState seatCount}
variable {seats : Fin seatCount → SeatState}
variable {events : List (EngineEvent seatCount)}
variable {i winner : Fin seatCount}

/-! ## Stacks -/

/-- What a list of amounts brings to one seat. -/
def credited (entries : List (Fin seatCount × Int)) (i : Fin seatCount) :
    Int :=
  (entries.map fun entry => if entry.1 = i then entry.2 else 0).sum

@[simp]
theorem credited_nil : credited ([] : List (Fin seatCount × Int)) i = 0 := rfl

@[simp]
theorem credited_cons {entry : Fin seatCount × Int} {entries : List (Fin seatCount × Int)} :
    credited (entry :: entries) i = (if entry.1 = i then entry.2 else 0) + credited entries i := by
  simp [credited]

@[simp]
theorem credited_append {first second : List (Fin seatCount × Int)} :
    credited (first ++ second) i = credited first i + credited second i := by
  simp [credited]

/-- Over all seats the entries add up. -/
theorem sum_credited (entries : List (Fin seatCount × Int)) :
    ∑ i, credited entries i = (entries.map Prod.snd).sum := by
  induction entries with
  | nil => simp
  | cons entry entries induction =>
    simp [Finset.sum_add_distrib, induction]

/-- Moving stacks one after the other adds up what each seat receives. -/
theorem foldl_moveStack (entries : List (Fin seatCount × Int))
    (seats : Fin seatCount → SeatState) (i : Fin seatCount) :
    entries.foldl (fun seats entry => moveStack seats entry.1 entry.2) seats i =
      { seats i with
        stack := (seats i).stack + credited entries i } := by
  induction entries generalizing seats with
  | nil => simp
  | cons entry entries induction =>
    rw [List.foldl_cons, induction, credited_cons]
    by_cases same : entry.1 = i
    · subst same
      simp [moveStack, add_assoc]
    · rw [if_neg same, moveStack, Function.update_of_ne (fun equal => same equal.symm)]
      simp

/-- The entries of a list of payments. -/
def entriesOf (pays : List (Pay seatCount)) : List (Fin seatCount × Int) :=
  pays.map fun pay => (pay.seatIndex, pay.amount)

/-- A settlement only moves stacks. -/
theorem settledSeats_apply {awards : List (Pay seatCount)} {rakeTabs : List (Fin seatCount × Int)} :
    settledSeats seats awards rakeTabs i =
      { seats i with
        stack :=
          (seats i).stack + credited (entriesOf awards) i - credited rakeTabs i } := by
  have charged : credited (rakeTabs.map fun tab => (tab.1, -tab.2)) i = -credited rakeTabs i := by
    induction rakeTabs with
    | nil => simp
    | cons tab rakeTabs induction =>
      simp only [List.map_cons, credited_cons, induction]
      split <;> omega
  have paid := foldl_moveStack (entriesOf awards) seats i
  have taken :=
    foldl_moveStack (rakeTabs.map fun tab => (tab.1, -tab.2)) ((entriesOf awards).foldl
        (fun seats entry => moveStack seats entry.1 entry.2) seats) i
  rw [charged, paid] at taken
  simp only [entriesOf, List.foldl_map] at taken ⊢
  rw [settledSeats, taken]
  rw [sub_eq_add_neg]

/-! ## Showdowns -/

/-- What an accepted showdown has computed, and what it leaves. -/
structure ShowdownEffect (state after : HoldemState seatCount)
    (events : List (EngineEvent seatCount))
    (ranked : List (RankedSeat seatCount)) (rake : Int) : Prop where
  hands : (showdownSeats state.seats).mapM (rankSeat state.seats state.board) = .ok ranked
  assessed : computeRakeFromPct (max (potPool state - uncalledFromTotals state.seats) 0)
      state.config.rakePct state.config.rakeCap (showdownSeats state.seats).length none = .ok rake
  seats : after.seats = settledSeats state.seats (showdownAwards state ranked) (allocateRakeByAwards
          ((showdownAwards state ranked).foldl addWon []) rake state.button)
  winners :
    after.winners = ((showdownAwards state ranked).foldl addWon []).map fun pay =>
        { pay with
          amount :=
            pay.amount - tabOf (allocateRakeByAwards
                  ((showdownAwards state ranked).foldl addWon []) rake state.button) pay.seatIndex }
  rest :
    after =
      { state with
        seats := after.seats
        pot := 0
        rake := rake
        sessionRake := state.sessionRake + rake
        winners := after.winners
        street := .settlement
        actingIndex := none }
  reveals : ∃ reveals own, events = .showdownRevealed reveals :: own

theorem settleShowdown_eq_ok (ok : settleShowdown state = .ok (after, events)) :
    ∃ ranked rake, ShowdownEffect state after events ranked rake := by
  simp only [settleShowdown, bind_eq_ok_iff] at ok
  rcases ok with ⟨ranked, hands, rake, assessed, equal⟩
  rw [Except.ok.injEq, Prod.mk.injEq] at equal
  rcases equal with ⟨rfl, rfl⟩
  exact ⟨ranked, rake, hands, assessed, rfl, rfl, rfl, _, _, rfl⟩

/-! ## Hands won by folds -/

/-- What a hand won by folds leaves. -/
structure FoldWinEffect (state after : HoldemState seatCount)
    (events : List (EngineEvent seatCount)) (winner : Fin seatCount) (rake : Int) : Prop where
  claims : (state.seats winner).claims = true
  assessed : computeRakeFromPct (max (state.pot - uncalledBetAmount state.seats winner) 0)
      state.config.rakePct state.config.rakeCap 1 (some (state.board.length = 0)) = .ok rake
  seats :
    after.seats = fun i =>
      if i = winner then
        { state.seats i with
          stack :=
            (state.seats i).stack + uncalledBetAmount state.seats winner + max
                (max (state.pot - uncalledBetAmount state.seats winner) 0 - rake) 0
          bet := 0 }
      else { state.seats i with bet := 0 }
  winners : after.winners.map Pay.seatIndex = [winner]
  rest :
    after =
      { state with
        seats := after.seats
        pot := 0
        rake := rake
        sessionRake := state.sessionRake + rake
        winners := after.winners
        street := .settlement
        actingIndex := none }
  hidden : ∀ reveals, .showdownRevealed reveals ∉ events
  returned : 0 < uncalledBetAmount state.seats winner →
      .uncalledBetReturned winner (uncalledBetAmount state.seats winner) state.street ∈ events

/-- A hand without a claimant is settled without paying the pot. -/
structure UnclaimedEffect (state after : HoldemState seatCount)
    (events : List (EngineEvent seatCount)) : Prop where
  unclaimed : ∀ i, (state.seats i).claims = false
  rest :
    after =
      { state with
        pot := 0
        street := .settlement
        actingIndex := none
        winners := [] }
  events : events = []

theorem foldWin_eq_ok (ok : foldWin state = .ok (after, events)) :
    UnclaimedEffect state after events ∨
      ∃ winner rake, FoldWinEffect state after events winner rake := by
  rw [foldWin] at ok
  cases found : (List.finRange seatCount).find? fun i => (state.seats i).claims with
  | none =>
    left
    rw [found] at ok
    simp only [Except.ok.injEq, Prod.mk.injEq] at ok
    rcases ok with ⟨rfl, rfl⟩
    rw [List.find?_eq_none] at found
    refine ⟨?_, rfl, rfl⟩
    intro i
    simpa using found i (List.mem_finRange i)
  | some winner =>
    right
    have claims : (state.seats winner).claims = true := by
      simpa using List.find?_some found
    rw [found] at ok
    simp only [bind_eq_ok_iff] at ok
    rcases ok with ⟨rake, assessed, equal⟩
    rw [Except.ok.injEq, Prod.mk.injEq] at equal
    rcases equal with ⟨rfl, rfl⟩
    refine ⟨winner, rake, claims, assessed, rfl, rfl, rfl, ?_, ?_⟩
    · intro reveals member
      rw [List.mem_append] at member
      split at member <;> simp at member
    · intro positive
      simp [positive]

@[simp]
theorem settledSeats_folded {awards : List (Pay seatCount)}
    {rakeTabs : List (Fin seatCount × Int)} :
    (settledSeats seats awards rakeTabs i).folded = (seats i).folded := by
  rw [settledSeats_apply]

/-- No outcome of an action folds or unfolds a seat. -/
theorem Passes.folded_eq (passes : Passes state i after events) (j : Fin seatCount) :
    (after.seats j).folded = (state.seats j).folded := by
  cases passes with
  | turn k incomplete next => rfl
  | waits closes live few short => rfl
  | stalls closes many noBoard short => rfl
  | deals closes live many board =>
    rcases nextBoard_eq_some board with ⟨count, street, -, rfl, -⟩
    rfl
  | folds closes live settled =>
    rcases foldWin_eq_ok settled with unclaimed | ⟨winner, rake, effect⟩
    · rw [unclaimed.rest]
    · rw [effect.seats]
      simp only
      split <;> rfl
  | shows acting last settled =>
    rcases settleShowdown_eq_ok settled with ⟨ranked, rake, effect⟩
    rw [effect.seats, settledSeats_folded]

/-- The sole seat left wins, if it can claim the pot. -/
theorem winner_of_onlyLive {rake : Int} {sole : Fin seatCount}
    (effect : FoldWinEffect state after events winner rake) (only : OnlyLive state.seats sole) :
    winner = sole := by
  have claims := effect.claims
  simp only [SeatState.claims, Bool.and_eq_true, Bool.not_eq_true', decide_eq_true_eq] at claims
  exact (only winner).mp claims.1.1

end Mozetto.Engine
