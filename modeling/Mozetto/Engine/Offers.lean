import Mozetto.Engine.Conservation

/-!
# What is offered is accepted

The calls with which the engine wants a hand to be played: actions with the
amounts it offers, and run-outs when nobody can bet any more.  They are
accepted as long as every hand that would have to be shown has its cards, and
the rake is a number of basis points.
-/

namespace Mozetto.Engine

variable {seatCount : Nat}
variable {hashes : Hashes}
variable {state wagered after table : HoldemState seatCount}
variable {seats : Fin seatCount → SeatState}
variable {serverSeed handId : String}
variable {events : List (EngineEvent seatCount)}
variable {action : PokerAction} {amount : Option Int}
variable {call : EngineCall}
variable {config : TableConfig}
variable {i j : Fin seatCount}

/-! ## Offered calls -/

/-- An action with an amount as offered, or a run-out nobody can bet in. -/
def PlayCall (state : HoldemState seatCount) : EngineCall → Prop
  | .applyAction action amount =>
      ∃ offer ∈ getLegalActions state, offer.action = action ∧ offer.refuses amount = none
  | .continueRunout => isAllInRunout state = true
  | _ => False

instance : Decidable (PlayCall state call) :=
  match call with
  | .applyAction action amount =>
      inferInstanceAs (Decidable (∃ offer ∈ getLegalActions state,
            offer.action = action ∧ offer.refuses amount = none))
  | .continueRunout =>
      inferInstanceAs (Decidable (isAllInRunout state = true))
  | .seatPlayer _ _ _ _ => isFalse id
  | .clearSeat _ => isFalse id
  | .foldSeat _ => isFalse id
  | .setSitOut _ _ => isFalse id
  | .startHand _ _ => isFalse id

/-- No action is offered twice. -/
theorem pairwise_getLegalActions : (getLegalActions state).Pairwise fun one other =>
  one.action ≠ other.action := by
  rw [getLegalActions]
  split
  · exact .nil
  · dsimp only
    split
    · exact .nil
    · simp only [bettingActions]
      split
      · split <;> simp
      · split
        · split <;> simp
        · split <;> simp

/-- An action is looked up under its name. -/
theorem find_of_mem_getLegalActions {offer : LegalAction} (mem : offer ∈ getLegalActions state) :
    ((getLegalActions state).find? fun other =>
      other.action = offer.action) = some offer := by
  have distinct := @pairwise_getLegalActions seatCount state
  generalize getLegalActions state = offers at mem distinct
  induction offers with
  | nil => cases mem
  | cons first offers induction =>
    rw [List.pairwise_cons] at distinct
    rw [List.find?_cons]
    rcases List.mem_cons.mp mem with rfl | later
    · simp
    · have other : first.action ≠ offer.action := distinct.1 offer later
      simp only [other, decide_false]
      exact induction later distinct.2

/-- Somebody who is neither folded nor all in is offered something. -/
theorem getLegalActions_ne_nil (acting : state.actingIndex = some i)
    (unfolded : (state.seats i).folded = false) (notAllIn : (state.seats i).allIn = false) :
    getLegalActions state ≠ [] := by
  have active : ¬ ((state.seats i).folded || (state.seats i).allIn) = true := by
    simp [unfolded, notAllIn]
  simp only [getLegalActions, acting, if_neg active, bettingActions]
  split <;> exact List.cons_ne_nil _ _

/-! ## Hands that can be shown -/

theorem combinations_ne_nil {α : Type} {count : Nat} {items : List α}
    (enough : count ≤ items.length) : combinations items count ≠ [] := by
  induction items generalizing count with
  | nil =>
    have none : count = 0 := Nat.le_zero.mp enough
    subst none
    simp [combinations]
  | cons head tail induction =>
    cases count with
    | zero => simp [combinations]
    | succ count =>
      have rest := induction (Nat.le_of_succ_le_succ enough)
      simp [combinations, rest]

theorem isSome_bestRanked (hands : List RankedHand) (best : RankedHand) :
    (bestRanked hands (some best)).isSome = true := by
  induction hands generalizing best with
  | nil => rfl
  | cons hand hands induction =>
    rw [bestRanked]
    split
    · exact induction hand
    · exact induction best

/-- Some cards always have a best hand. -/
theorem isSome_bestOf {cards : List Card} (some : cards ≠ []) : (bestOf cards).isSome = true := by
  rw [bestOf]
  split
  case isTrue =>
    cases cards with
    | nil => exact absurd rfl some
    | cons head tail => rfl
  case isFalse full =>
    have enough : combinations cards 5 ≠ [] := combinations_ne_nil (Nat.le_of_not_lt full)
    cases chosen : combinations cards 5 with
    | nil => exact absurd chosen enough
    | cons first others =>
      rw [List.map_cons, bestRanked]
      exact isSome_bestRanked _ _

/-- Cards that have all been drawn from a deck that had them. -/
def AllDrawn (cards : List (Option Card)) : Prop := none ∉ cards

theorem AllDrawn.append {first second : List (Option Card)} (drawn : AllDrawn first)
    (others : AllDrawn second) : AllDrawn (first ++ second) := by
  intro member
  rcases List.mem_append.mp member with missing | missing
  · exact drawn missing
  · exact others missing

theorem AllDrawn.mapM {cards : List (Option Card)} (drawn : AllDrawn cards) :
    ∃ known, cards.mapM id = some known ∧ known.length = cards.length := by
  induction cards with
  | nil => exact ⟨[], rfl, rfl⟩
  | cons card cards induction =>
    cases card with
    | none => exact absurd List.mem_cons_self drawn
    | some card =>
      have rest : AllDrawn cards := fun missing => drawn (List.mem_cons_of_mem _ missing)
      rcases induction rest with ⟨known, read, length⟩
      refine ⟨card :: known, ?_, ?_⟩
      · rw [List.mapM_cons, read]
        rfl
      · rw [List.length_cons, List.length_cons, length]

/-- A deck with enough cards gives as many as are asked for. -/
theorem allDrawn_drawCards {deck : List Card} {count : Nat} (enough : count ≤ deck.length) :
    AllDrawn (drawCards deck count) := by
  intro missing
  rcases List.mem_map.mp missing with ⟨place, inside, absent⟩
  rw [List.mem_range] at inside
  rw [List.getElem?_eq_none_iff] at absent
  omega

/-- Two cards of the deck, more or less. -/
def HoldsHand (seat : SeatState) : Prop :=
  ∃ cards, seat.hole = some cards ∧ cards ≠ [] ∧ AllDrawn cards

/-- A settlement of this table cannot fail. -/
structure Showable (state : HoldemState seatCount) : Prop where
  hands : ∀ i, (state.seats i).folded = false → HoldsHand (state.seats i)
  board : AllDrawn state.board
  bps : ∃ bps, rakePctToBps state.config.rakePct = .finite bps

theorem Showable.rankSeat (showable : Showable state) (unfolded : (state.seats i).folded = false) :
    ∃ entry, rankSeat state.seats state.board i = .ok entry := by
  rcases showable.hands i unfolded with ⟨cards, hole, some, drawn⟩
  rcases (drawn.append showable.board).mapM with ⟨known, read, length⟩
  have nonempty : known ≠ [] := by
    rw [← List.length_pos_iff, length, List.length_append]
    have := List.length_pos_iff.mpr some
    omega
  rcases Option.isSome_iff_exists.mp (isSome_bestOf nonempty) with ⟨hand, best⟩
  have shown : bestHand cards state.board = .ok hand := by
    simp only [bestHand, read, Option.bind_some, best]
  simp only [Engine.rankSeat, hole, Option.getD_some, shown]
  exact ⟨_, rfl⟩

theorem mapM_ok {α β ε : Type} {f : α → Except ε β} {items : List α}
    (each : ∀ item ∈ items, ∃ result, f item = .ok result) :
    ∃ results, items.mapM f = .ok results := by
  induction items with
  | nil => exact ⟨[], rfl⟩
  | cons item items induction =>
    rcases each item List.mem_cons_self with ⟨first, head⟩
    rcases induction fun other later =>
      each other (List.mem_cons_of_mem _ later) with ⟨rest, tail⟩
    refine ⟨first :: rest, ?_⟩
    rw [List.mapM_cons, head]
    show (do let results ← items.mapM f; pure (first :: results)) = _
    rw [tail]
    rfl

/-- The rake of a finite percentage can be computed. -/
theorem computeRakeFromPct_ok {pot : Int} {rakePct : Float} {rakeCap : Option Int} {liveHands : Nat}
    {endedBeforeFlop : Option Bool} (finite : ∃ bps, rakePctToBps rakePct = .finite bps) : ∃ rake,
    computeRakeFromPct pot rakePct rakeCap liveHands endedBeforeFlop = .ok rake := by
  rcases finite with ⟨bps, finite⟩
  rw [computeRakeFromPct, finite, computeRake]
  split
  · exact ⟨0, rfl⟩
  · split
    · exact ⟨0, rfl⟩
    · split
      · exact ⟨0, rfl⟩
      · exact ⟨_, rfl⟩

theorem Showable.settleShowdown (showable : Showable state) :
    ∃ result, settleShowdown state = .ok result := by
  have each : ∀ i ∈ showdownSeats state.seats, ∃ entry,
      Engine.rankSeat state.seats state.board i = .ok entry := by
    intro i shows
    rw [showdownSeats, mem_seatsWith, Bool.and_eq_true, Bool.not_eq_true'] at shows
    exact showable.rankSeat shows.1
  rcases mapM_ok each with ⟨ranked, hands⟩
  rcases @computeRakeFromPct_ok (max (potPool state - uncalledFromTotals state.seats) 0)
      state.config.rakePct state.config.rakeCap
      (showdownSeats state.seats).length none showable.bps with
    ⟨rake, assessed⟩
  simp only [Engine.settleShowdown, hands, assessed]
  exact ⟨_, rfl⟩

theorem foldWin_ok (finite : ∃ bps, rakePctToBps state.config.rakePct = .finite bps) :
    ∃ result, foldWin state = .ok result := by
  rw [foldWin]
  split
  · exact ⟨_, rfl⟩
  · rename_i winner claims
    rcases @computeRakeFromPct_ok (max (state.pot - uncalledBetAmount state.seats winner) 0)
        state.config.rakePct state.config.rakeCap 1
        (some (state.board.length = 0)) finite with ⟨rake, assessed⟩
    simp only [assessed]
    exact ⟨_, rfl⟩

theorem withEvents_ok {transition : Transition seatCount} (ok : ∃ result, transition = .ok result) :
    ∃ result, withEvents events transition = .ok result := by
  rcases ok with ⟨result, rfl⟩
  exact ⟨_, rfl⟩

theorem Showable.maybeRunout (showable : Showable state) :
    ∃ result, maybeRunout state events = .ok result := by
  have shown :
      ∃ result, Engine.settleShowdown { state with street := .showdown } = .ok result := by
    apply Showable.settleShowdown
    exact { showable with }
  rw [Engine.maybeRunout]
  split
  · exact withEvents_ok (foldWin_ok showable.bps)
  · split
    · split
      · exact ⟨_, rfl⟩
      · split
        · exact ⟨_, rfl⟩
        · split
          · exact withEvents_ok shown
          · exact ⟨_, rfl⟩
    · split
      · exact withEvents_ok shown
      · exact ⟨_, rfl⟩

theorem Showable.passTurn (showable : Showable state) :
    ∃ result, passTurn state i events = .ok result := by
  have waiting : Showable { state with actingIndex := none } := { showable with }
  rw [Engine.passTurn]
  split
  · split
    · apply withEvents_ok
      apply Showable.settleShowdown
      exact { showable with }
    · exact waiting.maybeRunout
  · split
    · exact waiting.maybeRunout
    · exact ⟨_, rfl⟩

theorem Showable.continueRunout (showable : Showable state) :
    ∃ result, continueRunout state = .ok result := by
  simp only [Engine.continueRunout]
  split
  · exact foldWin_ok showable.bps
  · split
    · exact ⟨_, rfl⟩
    · split
      · exact ⟨_, rfl⟩
      · apply Showable.settleShowdown
        exact { showable with }

/-- What is offered is accepted, if the turn can be passed on after it. -/
theorem applyAction_ok (acting : state.actingIndex = some i)
    (offered : PlayCall state (.applyAction action amount))
    (passes : ∀ wagered events, Wagers state i action amount wagered →
        ∃ result, passTurn wagered i events = .ok result) :
    ∃ result, applyAction state action amount = .ok result := by
  rcases offered with ⟨offer, mem, rfl, accepted⟩
  simp only [applyAction, acting, find_of_mem_getLegalActions mem, accepted]
  exact passes _ _ (wagers_of_mem acting mem accepted)

end Mozetto.Engine
