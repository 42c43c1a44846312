import Mozetto.Engine.Settlements

/-!
# What a wager changes

Each offer of the legal actions inverted once, with the condition it is made
under, and the wager of an accepted action as a change of one seat, the pot
and the betting.
-/

namespace Mozetto.Engine

variable {seatCount : Nat}
variable {state after : HoldemState seatCount}
variable {seats : Fin seatCount → SeatState}
variable {i j : Fin seatCount}

/-! ## Offers -/

/-- The acting seat may not raise again after an incomplete all-in. -/
def Capped (state : HoldemState seatCount) (i : Fin seatCount) : Prop :=
  state.lastRaiseComplete = false ∧ i ∈ state.actedThisStreet

/-- The chips a seat lacks to call. -/
def toCall (state : HoldemState seatCount) (i : Fin seatCount) : Int :=
  state.currentBet - (state.seats i).bet

/-- The smallest amount of a full raise. -/
def fullRaise (state : HoldemState seatCount) (i : Fin seatCount) : Int :=
  state.currentBet + state.minRaise - (state.seats i).bet

/-- The offers to a seat with the conditions they are made under. -/
inductive Offered (state : HoldemState seatCount) (i : Fin seatCount) : LegalAction → Prop where
  | fold (behind : 0 < toCall state i) : Offered state i ⟨.fold, none, none⟩
  | check (matched : toCall state i ≤ 0) : Offered state i ⟨.check, none, none⟩
  | call (behind : 0 < toCall state i) (enough : toCall state i ≤ (state.seats i).stack) :
      Offered state i ⟨.call, some (toCall state i), some (toCall state i)⟩
  | bet (matched : toCall state i ≤ 0) (chips : 0 < (state.seats i).stack)
      (free : ¬ Capped state i) : Offered state i
      ⟨.bet, some (min state.config.bigBlind (state.seats i).stack), some (state.seats i).stack⟩
  | raise (behind : 0 < toCall state i) (more : toCall state i < (state.seats i).stack)
      (free : ¬ Capped state i) : Offered state i
      ⟨.raise, some (min (fullRaise state i) (state.seats i).stack), some (state.seats i).stack⟩
  | shove (more : max (toCall state i) 0 < (state.seats i).stack) (free : ¬ Capped state i) :
      Offered state i ⟨.allIn, some (state.seats i).stack, some (state.seats i).stack⟩
  | callAllIn (behind : 0 < toCall state i) (short : (state.seats i).stack ≤ toCall state i) :
      Offered state i ⟨.allIn, some (state.seats i).stack, some (state.seats i).stack⟩

/-- An offer goes to the acting seat, which is neither folded nor all in. -/
theorem offered_of_mem {offer : LegalAction} (acting : state.actingIndex = some i)
    (mem : offer ∈ getLegalActions state) :
    (state.seats i).folded = false ∧ (state.seats i).allIn = false ∧
      Offered state i offer := by
  simp only [getLegalActions, acting] at mem
  split at mem
  case isTrue => cases mem
  case isFalse active =>
    simp only [Bool.or_eq_true, not_or, Bool.not_eq_true] at active
    refine ⟨active.1, active.2, ?_⟩
    have capped_iff : (!state.lastRaiseComplete && i ∈ state.actedThisStreet) = true ↔
        Capped state i := by
      simp [Capped]
    generalize (!state.lastRaiseComplete && i ∈ state.actedThisStreet) = capped at mem capped_iff
    simp only [bettingActions] at mem
    split at mem
    case isTrue matched =>
      rcases List.mem_cons.mp mem with rfl | mem
      · exact .check matched
      · split at mem
        case isTrue uncapped =>
          simp only [Bool.and_eq_true, decide_eq_true_eq, Bool.not_eq_true'] at uncapped
          have free : ¬ Capped state i := by
            rw [← capped_iff, uncapped.2]
            decide
          simp only [List.mem_cons, List.not_mem_nil, or_false] at mem
          rcases mem with rfl | rfl
          · exact .bet matched uncapped.1 free
          · refine .shove (max_lt ?_ uncapped.1) free
            exact lt_of_le_of_lt matched uncapped.1
        case isFalse => cases mem
    case isFalse behind =>
      rw [not_le] at behind
      rcases List.mem_cons.mp mem with rfl | mem
      · exact .fold behind
      · split at mem
        case isTrue more =>
          rcases List.mem_cons.mp mem with rfl | mem
          · exact .call behind more.le
          · split at mem
            case isTrue uncapped =>
              have free : ¬ Capped state i := by
                rw [← capped_iff]
                simpa using uncapped
              simp only [List.mem_cons, List.not_mem_nil, or_false] at mem
              rcases mem with rfl | rfl
              · exact .raise behind more free
              · exact .shove (max_lt more (behind.trans more)) free
            case isFalse => cases mem
        case isFalse short =>
          rw [not_lt] at short
          split at mem
          case isTrue equal =>
            simp only [List.mem_cons, List.not_mem_nil, or_false] at mem
            rcases mem with rfl | rfl
            · exact .callAllIn behind short
            · exact .call behind equal.ge
          case isFalse =>
            simp only [List.mem_cons, List.not_mem_nil, or_false] at mem
            subst mem
            exact .callAllIn behind short

/-! ## Payments -/

/-- A seat that has put `amount` in. -/
def paySeat (seat : SeatState) (amount : Int) : SeatState :=
  { seat with
    stack := seat.stack - amount
    bet := seat.bet + amount
    totalBet := seat.totalBet + amount
    allIn := if seat.stack - amount = 0 then true else seat.allIn }

/-- The table after a seat has put `amount` in. -/
def paidIn (state : HoldemState seatCount) (i : Fin seatCount) (amount : Int) :
    HoldemState seatCount :=
  { state with
    seats := Function.update state.seats i (paySeat (state.seats i) amount)
    pot := state.pot + amount }

theorem takeChips_eq {seat : SeatState} {amount : Int} : takeChips seat amount =
    (paySeat seat (min seat.stack amount), min seat.stack amount) := by
  have least : (if seat.stack < amount then seat.stack else amount) = min seat.stack amount := by
    split <;> omega
  simp only [takeChips, least, paySeat]

theorem payIn_eq {amount : Int} : payIn state i amount =
    (paidIn state i (min (state.seats i).stack amount), min (state.seats i).stack amount) := by
  simp only [payIn, takeChips_eq, paidIn]

@[simp]
theorem paidIn_self {amount : Int} :
    (paidIn state i amount).seats i = paySeat (state.seats i) amount := by
  simp [paidIn]

theorem paidIn_of_ne {amount : Int} (other : j ≠ i) :
    (paidIn state i amount).seats j = state.seats j := by
  simp [paidIn, other]

/-! ## Wagers -/

/-- The wager of an accepted action. -/
inductive Wagers (state : HoldemState seatCount) (i : Fin seatCount) :
    PokerAction → Option Int → HoldemState seatCount → Prop where
  | fold {amount : Option Int} (behind : 0 < toCall state i) :
      Wagers state i .fold amount
        { state with
          seats := foldAt state.seats i
          actedThisStreet := insert i state.actedThisStreet }
  | check {amount : Option Int} (matched : toCall state i ≤ 0) :
      Wagers state i .check amount { state with actedThisStreet := insert i state.actedThisStreet }
  | call {amount : Option Int} (behind : 0 < toCall state i)
      (enough : toCall state i ≤ (state.seats i).stack) :
      Wagers state i .call amount
        { paidIn state i (toCall state i) with
          actedThisStreet := insert i state.actedThisStreet }
  | bet {amount : Option Int} (matched : toCall state i ≤ 0)
      (chips : 0 < (state.seats i).stack) (free : ¬ Capped state i) (paid : Int)
      (low : min state.config.bigBlind (state.seats i).stack ≤ paid)
      (high : paid ≤ (state.seats i).stack)
      (chosen : paid = amount.getD (min state.config.bigBlind (state.seats i).stack)) :
      Wagers state i .bet amount
        { paidIn state i paid with
          minRaise := paid
          currentBet := (state.seats i).bet + paid
          lastAggressor := some i
          lastRaiseComplete := true
          actedThisStreet := {i} }
  | raise {amount : Option Int} (behind : 0 < toCall state i)
      (more : toCall state i < (state.seats i).stack) (free : ¬ Capped state i) (paid : Int)
      (low : min (fullRaise state i) (state.seats i).stack ≤ paid)
      (high : paid ≤ (state.seats i).stack)
      (chosen : paid = amount.getD (min (fullRaise state i) (state.seats i).stack)) :
      Wagers state i .raise amount
        { paidIn state i paid with
          minRaise := max state.minRaise (paid - toCall state i)
          currentBet := (state.seats i).bet + paid
          lastAggressor := some i
          lastRaiseComplete := true
          actedThisStreet := {i} }
  | shoveFull {amount : Option Int} (more : max (toCall state i) 0 < (state.seats i).stack)
      (free : ¬ Capped state i) (full : state.minRaise ≤ (state.seats i).stack - toCall state i) :
      Wagers state i .allIn amount
        { paidIn state i (state.seats i).stack with
          minRaise := (state.seats i).stack - toCall state i
          currentBet := (state.seats i).bet + (state.seats i).stack
          lastAggressor := some i
          lastRaiseComplete := true
          actedThisStreet := {i} }
  | shoveShort {amount : Option Int} (more : max (toCall state i) 0 < (state.seats i).stack)
      (free : ¬ Capped state i) (short : (state.seats i).stack - toCall state i < state.minRaise) :
      Wagers state i .allIn amount
        { paidIn state i (state.seats i).stack with
          currentBet := (state.seats i).bet + (state.seats i).stack
          lastRaiseComplete := false
          actedThisStreet := insert i state.actedThisStreet }
  | callAllIn {amount : Option Int} (behind : 0 < toCall state i)
      (short : (state.seats i).stack ≤ toCall state i) :
      Wagers state i .allIn amount
        { paidIn state i (state.seats i).stack with
          actedThisStreet := insert i state.actedThisStreet }

/-- An amount that is not refused lies within the bounds. -/
theorem within_of_refuses {action : PokerAction} {minAmount maxAmount : Int}
    {amount : Option Int} (ordered : minAmount ≤ maxAmount)
    (accepted : LegalAction.refuses ⟨action, some minAmount, some maxAmount⟩ amount = none) :
    minAmount ≤ amount.getD minAmount ∧ amount.getD minAmount ≤ maxAmount := by
  cases amount with
  | none => exact ⟨le_rfl, ordered⟩
  | some amount =>
    simp only [LegalAction.refuses] at accepted
    split at accepted
    case isTrue => cases accepted
    case isFalse inside =>
      rw [not_or, not_lt, not_lt] at inside
      exact inside

theorem wager_allIn (offer : LegalAction) (amount : Option Int) (allIn : offer.action = .allIn) :
    (wager state i offer amount).1 = if toCall state i < (state.seats i).stack then
        if state.minRaise ≤ (state.seats i).stack - toCall state i then
          { paidIn state i (state.seats i).stack with
            minRaise := (state.seats i).stack - toCall state i
            currentBet := (state.seats i).bet + (state.seats i).stack
            lastAggressor := some i
            lastRaiseComplete := true
            actedThisStreet := {i} }
        else
          { paidIn state i (state.seats i).stack with
            currentBet := (state.seats i).bet + (state.seats i).stack
            lastRaiseComplete := false
            actedThisStreet := insert i state.actedThisStreet }
      else
        { paidIn state i (state.seats i).stack with
          actedThisStreet := insert i state.actedThisStreet } := by
  have size : (state.seats i).bet + (state.seats i).stack - state.currentBet =
      (state.seats i).stack - toCall state i := by
    unfold toCall
    omega
  have higher : (state.currentBet < (state.seats i).bet + (state.seats i).stack) =
      (toCall state i < (state.seats i).stack) := by
    unfold toCall
    apply propext
    omega
  simp only [wager, allIn, payIn_eq, min_self, paidIn_self, paySeat, size, higher]
  split
  · split <;> rfl
  · rfl

/-- Every accepted offer is one of the wagers. -/
theorem wagers_of_mem {offer : LegalAction} {amount : Option Int}
    (acting : state.actingIndex = some i) (mem : offer ∈ getLegalActions state)
    (accepted : offer.refuses amount = none) :
    Wagers state i offer.action amount (wager state i offer amount).1 := by
  rcases offered_of_mem acting mem with ⟨-, -, offered⟩
  cases offered with
  | fold behind => exact .fold behind
  | check matched => exact .check matched
  | call behind enough =>
    have same : min (state.seats i).stack (toCall state i) = toCall state i := min_eq_right enough
    have wagered := @Wagers.call seatCount state i amount behind enough
    simp only [wager, payIn_eq]
    rw [← toCall, same]
    exact wagered
  | bet matched chips free =>
    rcases within_of_refuses (min_le_right _ _) accepted with ⟨low, high⟩
    have wagered :=
      @Wagers.bet seatCount state i amount matched chips free _ low high rfl
    have chosen : (amount.orElse fun _ =>
          some (min state.config.bigBlind (state.seats i).stack)).getD
          state.config.bigBlind =
        amount.getD (min state.config.bigBlind (state.seats i).stack) := by
      cases amount <;> rfl
    simp only [wager, payIn_eq, chosen, min_eq_right high, paidIn_self, paySeat]
    exact wagered
  | raise behind more free =>
    rcases within_of_refuses (min_le_right _ _) accepted with ⟨low, high⟩
    have wagered :=
      @Wagers.raise seatCount state i amount behind more free _ low high rfl
    have chosen : (amount.orElse fun _ =>
          some (min (fullRaise state i) (state.seats i).stack)).getD
          (state.currentBet + state.minRaise - (state.seats i).bet) =
        amount.getD (min (fullRaise state i) (state.seats i).stack) := by
      cases amount <;> rfl
    have size (paid : Int) : (state.seats i).bet + paid - state.currentBet =
        paid - toCall state i := by
      unfold toCall
      omega
    have larger (paid : Int) : (if state.minRaise ≤ paid - toCall state i then
          paid - toCall state i
        else state.minRaise) =
        max state.minRaise (paid - toCall state i) := by
      split <;> omega
    simp only [wager, payIn_eq, chosen, min_eq_right high, paidIn_self, paySeat, size, larger]
    exact wagered
  | shove more free =>
    have behind := lt_of_le_of_lt (le_max_left (toCall state i) 0) more
    rw [wager_allIn _ amount rfl, if_pos behind]
    split
    case isTrue full => exact .shoveFull more free full
    case isFalse short => exact .shoveShort more free (not_le.mp short)
  | callAllIn behind short =>
    rw [wager_allIn _ amount rfl, if_neg (not_lt.mpr short)]
    exact .callAllIn behind short

/-- An accepted action, as a wager and what it leads to. -/
theorem applyAction_wagers {action : PokerAction} {amount : Option Int}
    {events : List (EngineEvent seatCount)}
    (ok : applyAction state action amount = .ok (after, events)) : ∃ i wagered own,
    state.actingIndex = some i ∧ (state.seats i).folded = false ∧ (state.seats i).allIn = false ∧
      Wagers state i action amount wagered ∧ Passes wagered i after own := by
  rcases applyAction_eq_ok ok with ⟨i, offer, own, acting, mem, rfl, accepted, passes, -⟩
  rcases offered_of_mem acting mem with ⟨unfolded, notAllIn, -⟩
  exact ⟨i, _, own, acting, unfolded, notAllIn, wagers_of_mem acting mem accepted, passes⟩

end Mozetto.Engine
