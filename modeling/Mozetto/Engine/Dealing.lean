import Mozetto.Engine.Betting

/-!
# Starting a hand

`startHand` inverted once: the seats that are dealt in, the blinds, the hole
cards and the seat that acts first.
-/

namespace Mozetto.Engine

open Mozetto.Library.RingSearch

variable {seatCount : Nat}
variable {hashes : Hashes}
variable {state after : HoldemState seatCount}
variable {seats : Fin seatCount → SeatState}
variable {events : List (EngineEvent seatCount)}
variable {serverSeed handId : String}
variable {i j : Fin seatCount}

/-! ## Hole cards -/

/-- The seats still to be dealt hole cards. -/
def dealFrom (seats : Fin seatCount → SeatState) (deck : List Card)
    (cards : List (Fin seatCount × List (Option Card)))
    (order : List (Fin seatCount)) : Dealt seatCount := order.foldl dealHole ⟨seats, deck, cards⟩

/-- Dealing to a seat changes nothing but its hole cards. -/
theorem dealHole_apply {dealt : Dealt seatCount} :
    (dealHole dealt j).seats i =
      { dealt.seats i with
        hole :=
          if i = j ∧ (dealt.seats i).folded = false then
            some (drawCards dealt.deck 2)
          else (dealt.seats i).hole } := by
  rw [dealHole]
  by_cases same : i = j
  · subst same
    cases folded : (dealt.seats i).folded with
    | true =>
      rw [if_pos rfl, if_neg (by simp)]
    | false => simp
  · split <;> simp [same]

theorem length_dealHole {dealt : Dealt seatCount} : (dealHole dealt j).deck.length =
    dealt.deck.length - if (dealt.seats j).folded then 0 else 2 := by
  rw [dealHole]
  split <;> simp

/-- Dealing changes only the hole cards. -/
theorem dealFrom_apply {deck : List Card} {cards : List (Fin seatCount × List (Option Card))}
    {order : List (Fin seatCount)} :
    ∃ hole, (dealFrom seats deck cards order).seats i = { seats i with hole := hole } := by
  induction order generalizing seats deck cards with
  | nil => exact ⟨_, rfl⟩
  | cons j order induction =>
    have rest :=
      @induction (dealHole ⟨seats, deck, cards⟩ j).seats (dealHole ⟨seats, deck, cards⟩ j).deck
        (dealHole ⟨seats, deck, cards⟩ j).cards
    rcases rest with ⟨hole, same⟩
    refine ⟨hole, ?_⟩
    rw [dealHole_apply] at same
    exact same

/-- What is left of the deck after dealing to some seats. -/
theorem length_dealFrom {deck : List Card} {cards : List (Fin seatCount × List (Option Card))}
    {order : List (Fin seatCount)} : (dealFrom seats deck cards order).deck.length = deck.length -
      2 * (order.filter fun j => !(seats j).folded).length := by
  induction order generalizing seats deck cards with
  | nil => rfl
  | cons j order induction =>
    have rest :=
      @induction (dealHole ⟨seats, deck, cards⟩ j).seats (dealHole ⟨seats, deck, cards⟩ j).deck
        (dealHole ⟨seats, deck, cards⟩ j).cards
    have folded : ∀ k, ((dealHole ⟨seats, deck, cards⟩ j).seats k).folded = (seats k).folded := by
      intro k
      rw [dealHole_apply]
    simp only [folded] at rest
    refine rest.trans ?_
    rw [length_dealHole, List.filter_cons]
    cases (seats j).folded with
    | true => simp
    | false =>
      simp only [Bool.false_eq_true, if_false, Bool.not_false, if_true, List.length_cons]
      omega

/-- Who is dealt cards: two of the deck, as long as it has them. -/
theorem hole_dealFrom {deck : List Card} {cards : List (Fin seatCount × List (Option Card))}
    {order : List (Fin seatCount)} (distinct : order.Nodup) :
    ((dealFrom seats deck cards order).seats i).hole =
        (seats i).hole ∧ (i ∉ order ∨ (seats i).folded = true) ∨ (seats i).folded = false ∧ ∃ used,
          ((dealFrom seats deck cards order).seats i).hole = some (drawCards (deck.drop used) 2) ∧
            used + 2 ≤ 2 * (order.filter fun j => !(seats j).folded).length := by
  induction order generalizing seats deck cards with
  | nil => exact .inl ⟨rfl, .inl (List.not_mem_nil)⟩
  | cons j order induction =>
    rw [List.nodup_cons] at distinct
    have rest :=
      @induction (dealHole ⟨seats, deck, cards⟩ j).seats (dealHole ⟨seats, deck, cards⟩ j).deck
        (dealHole ⟨seats, deck, cards⟩ j).cards distinct.2
    have folded : ∀ k, ((dealHole ⟨seats, deck, cards⟩ j).seats k).folded = (seats k).folded := by
      intro k
      rw [dealHole_apply]
    simp only [folded] at rest
    rcases rest with ⟨kept, skipped⟩ | ⟨unfolded, used, dealt, bound⟩
    · rw [dealHole_apply] at kept
      by_cases here : i = j ∧ (seats i).folded = false
      · right
        rw [if_pos here] at kept
        refine ⟨here.2, 0, ?_, ?_⟩
        · rw [List.drop_zero]
          exact kept
        · rw [List.filter_cons, ← here.1, here.2]
          simp only [Bool.not_false, if_true, List.length_cons]
          omega
      · left
        rw [if_neg here] at kept
        refine ⟨kept, ?_⟩
        rcases skipped with absent | foldedSeat
        · by_cases same : i = j
          · right
            simpa [same] using here
          · left
            simp [same, absent]
        · exact .inr foldedSeat
    · right
      refine ⟨unfolded, used + if (seats j).folded then 0 else 2, ?_, ?_⟩
      · refine dealt.trans ?_
        cases foldedSeat : (seats j).folded with
        | true => simp [dealHole, foldedSeat]
        | false =>
          simp [dealHole, foldedSeat, List.drop_drop, Nat.add_comm]
      · rw [List.filter_cons]
        cases (seats j).folded <;> simp <;> omega

/-! ## Blinds -/

/-- The blinds are two payments. -/
theorem postBlinds_eq {config : TableConfig} {sb bb : Fin seatCount} : ∃ small big,
    small = min (seats sb).stack config.smallBlind ∧ big = min
          (Function.update seats sb (paySeat (seats sb) small) bb).stack config.bigBlind ∧
      postBlinds config seats sb bb = (Function.update
            (Function.update seats sb (paySeat (seats sb) small)) bb (paySeat
              (Function.update seats sb (paySeat (seats sb) small) bb) big), small, big) := by
  refine ⟨_, _, rfl, rfl, ?_⟩
  simp only [postBlinds, takeChips_eq]

/-- Posting the blinds moves chips and nothing else. -/
theorem postBlinds_apply {config : TableConfig} {sb bb : Fin seatCount} (i : Fin seatCount) :
    ∃ stack bet totalBet allIn, (postBlinds config seats sb bb).1 i =
        { seats i with
          stack := stack
          bet := bet
          totalBet := totalBet
          allIn := allIn } := by
  rcases @postBlinds_eq seatCount seats config sb bb with ⟨small, big, -, -, posted⟩
  have paid (seats : Fin seatCount → SeatState) (j : Fin seatCount) (amount : Int) :
      ∃ stack bet totalBet allIn, Function.update seats j (paySeat (seats j) amount) i =
          { seats i with
            stack := stack
            bet := bet
            totalBet := totalBet
            allIn := allIn } := by
    by_cases same : i = j
    · subst same
      rw [Function.update_self]
      exact ⟨_, _, _, _, rfl⟩
    · rw [Function.update_of_ne same]
      exact ⟨_, _, _, _, rfl⟩
  rcases paid seats sb small with ⟨_, _, _, _, first⟩
  rcases paid (Function.update seats sb (paySeat (seats sb) small)) bb big with
    ⟨stack, bet, totalBet, allIn, second⟩
  refine ⟨stack, bet, totalBet, allIn, ?_⟩
  rw [posted]
  exact second.trans (by rw [first])

/-! ## The start of a hand -/

/-- The seats at the start of a hand. -/
def handSeats (state : HoldemState seatCount) : Fin seatCount → SeatState :=
  fun i => (state.seats i).forHand

/-- The seats dealt in are the eligible ones. -/
theorem folded_handSeats : (handSeats state i).folded = !(state.seats i).eligible := by
  have positive : decide ((state.seats i).stack ≤ 0) = !decide (0 < (state.seats i).stack) := by
    rw [← decide_not]
    congr 1
    exact propext not_lt.symm
  simp [handSeats, SeatState.forHand, SeatState.eligible, positive, Bool.not_and]

/-- The blinds and the first seat to act. -/
structure Started (hashes : Hashes) (state after : HoldemState seatCount)
    (serverSeed handId : String) (button sb bb : Fin seatCount) : Prop where
  players : 2 ≤ (seatsWith state.seats SeatState.eligible).length
  blinds : (seatsWith state.seats SeatState.eligible).length = 2 ∧ sb = button ∧
        nextSeat (handSeats state) button (fun seat => !seat.folded) = some bb ∨
      3 ≤ (seatsWith state.seats SeatState.eligible).length ∧
        nextSeat (handSeats state) button (fun seat => !seat.folded) = some sb ∧
        nextSeat (handSeats state) sb (fun seat => !seat.folded) = some bb
  atButton : (!(state.seats button).sitOut && 0 < (state.seats button).stack) = true
  first : after.actingIndex = if (seatsWith state.seats SeatState.eligible).length = 2 then some sb
      else
        nextSeat after.seats bb fun seat => !seat.folded && !seat.allIn
  seats : after.seats = (dealHoles (postBlinds state.config (handSeats state) sb bb).1
        (shuffleDeck hashes serverSeed handId)).seats
  pot : after.pot = (postBlinds state.config (handSeats state) sb bb).2.1 +
        (postBlinds state.config (handSeats state) sb bb).2.2
  deck : after.deck = (dealHoles (postBlinds state.config (handSeats state) sb bb).1
        (shuffleDeck hashes serverSeed handId)).deck
  rest :
    after =
      { state with
        handId := some handId
        handNumber := state.handNumber + 1
        button := button
        deck := after.deck
        board := []
        pot := after.pot
        street := .preflop
        serverSeed := some serverSeed
        seedCommit := some (commitSeed hashes serverSeed)
        winners := []
        rake := 0
        currentBet := state.config.bigBlind
        minRaise := state.config.bigBlind
        actedThisStreet := ∅
        lastRaiseComplete := true
        seats := after.seats
        lastAggressor := some bb
        actingIndex := after.actingIndex
        firstToAct := after.actingIndex }

theorem startHand_eq_ok (ok : startHand hashes state serverSeed handId = .ok (after, events)) :
    ∃ button sb bb,
      Started hashes state after serverSeed handId button sb bb := by
  rw [startHand] at ok
  cases players : seatsWith state.seats SeatState.eligible with
  | nil => simp [players] at ok
  | cons first rest =>
    cases rest with
    | nil => simp [players] at ok
    | cons second others =>
      simp only [players] at ok
      generalize chosen : (nextSeat state.seats state.button fun seat =>
        !seat.sitOut && decide (0 < seat.stack)).getD first =
        button at ok
      have buttonSeat : (!(state.seats button).sitOut &&
          decide (0 < (state.seats button).stack)) = true := by
        have mem : first ∈ seatsWith state.seats SeatState.eligible := by
          rw [players]
          exact List.mem_cons_self
        rw [mem_seatsWith] at mem
        simp only [SeatState.eligible, Bool.and_eq_true] at mem
        cases searched : (nextSeat state.seats state.button fun seat =>
          !seat.sitOut && decide (0 < seat.stack)) with
        | none =>
          rw [searched] at chosen
          rw [← chosen]
          simp only [Option.getD_none, Bool.and_eq_true]
          exact ⟨mem.1.1, mem.2⟩
        | some found =>
          rw [searched] at chosen
          rw [← chosen]
          exact nextPlace_holds searched
      have count : (seatsWith state.seats SeatState.eligible).length = others.length + 2 := by
        rw [players]
        rfl
      split at ok
      case h_1 => cases ok
      case h_2 sb bb blinds =>
        rw [Except.ok.injEq, Prod.mk.injEq] at ok
        rcases ok with ⟨rfl, -⟩
        have two : (seatsWith state.seats SeatState.eligible).length = 2 ↔ others = [] := by
          rw [count, ← List.length_eq_zero_iff]
          omega
        refine ⟨button, sb, bb, by omega, ?_, buttonSeat, ?_, rfl, rfl, rfl, rfl⟩
        · by_cases headsUp : others = []
          · rw [if_pos headsUp, Option.map_eq_some_iff] at blinds
            rcases blinds with ⟨found, searched, equal⟩
            cases equal
            exact .inl ⟨two.mpr headsUp, rfl, searched⟩
          · rw [if_neg headsUp, Option.bind_eq_some_iff] at blinds
            rcases blinds with ⟨small, foundSmall, blinds⟩
            rw [Option.map_eq_some_iff] at blinds
            rcases blinds with ⟨big, foundBig, equal⟩
            cases equal
            refine .inr ⟨?_, foundSmall, foundBig⟩
            have more := List.length_pos_iff.mpr headsUp
            omega
        · simp only [two]

/-- Dealing leaves the blinds as they were posted. -/
theorem Started.seats_apply {button sb bb : Fin seatCount}
    (started : Started hashes state after serverSeed handId button sb bb) (i : Fin seatCount) :
    ∃ hole, after.seats i =
        { (postBlinds state.config (handSeats state) sb bb).1 i with
          hole := hole } := by
  rw [started.seats]
  exact dealFrom_apply

/-- Only the small blind may have more in than the big blind. -/
theorem Started.bet_le {button sb bb : Fin seatCount}
    (started : Started hashes state after serverSeed handId button sb bb)
    (nonneg : 0 ≤ state.config.bigBlind) (other : i ≠ sb) :
    (after.seats i).bet ≤ state.config.bigBlind := by
  rcases started.seats_apply i with ⟨hole, same⟩
  rcases @postBlinds_eq seatCount (handSeats state) state.config sb bb with
    ⟨small, big, -, least, posted⟩
  rw [same, posted]
  by_cases atBig : i = bb
  · subst atBig
    simp only [Function.update_self, Function.update_of_ne other, paySeat,
      handSeats, SeatState.forHand] at least ⊢
    omega
  · simp only [Function.update_of_ne atBig, Function.update_of_ne other,
      handSeats, SeatState.forHand]
    exact nonneg

end Mozetto.Engine
