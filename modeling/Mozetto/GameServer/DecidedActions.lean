import Mozetto.GameServer.AwaitedTurns

/-!
# When a decision keeps the hand

While a turn is awaited the betting stands still: nothing but the stack of the
acting seat, and whether it is folded, can differ when the decision is
applied.  So an action that was offered is still accepted unless the seat was
sat out or folded on its turn, its amount leaves the bounds that its new stack
gives, or chips were added under an all-in that was a short call.
-/

namespace Mozetto.GameServer.Turns

open Mozetto.Database
open Mozetto.Engine
open Mozetto.GameServer.SitOuts

variable {seatCount : Nat} {i : Fin seatCount}
variable {before state after : HoldemState seatCount}
variable {awaited : AwaitedTable seatCount}

/-! ## The betting stands still -/

/-- A seat that is still in, with the bet and the cards it had. -/
structure SameSeat (before seat : SeatState) : Prop where
  unfolded : before.folded = false
  bet : seat.bet = before.bet
  allIn : seat.allIn = before.allIn
  hole : seat.hole = before.hole

theorem SameSeat.trans {first second third : SeatState}
    (same : SameSeat first second) (again : SameSeat second third) :
    SameSeat first third :=
  ⟨same.unfolded, again.bet.trans same.bet, again.allIn.trans same.allIn,
    again.hole.trans same.hole⟩

/-- The hand and the betting are those of the state before; so is the seat,
but for its stack, while it is not folded. -/
structure SameBetting (before state : HoldemState seatCount) (i : Fin seatCount) : Prop where
  config : state.config = before.config
  handId : state.handId = before.handId
  street : state.street = before.street
  currentBet : state.currentBet = before.currentBet
  minRaise : state.minRaise = before.minRaise
  lastRaiseComplete : state.lastRaiseComplete = before.lastRaiseComplete
  actedThisStreet : state.actedThisStreet = before.actedThisStreet
  board : state.board = before.board
  deck : state.deck = before.deck
  seat : (state.seats i).folded = false → SameSeat (before.seats i) (state.seats i)

/-- Nobody acts in a hand any more. -/
structure HandOver (state : HoldemState seatCount) : Prop where
  acting : state.actingIndex = none
  midHand : state.midHand = false

/-- The hand is over, or the betting stands still. -/
def Stands (before state : HoldemState seatCount) (i : Fin seatCount) : Prop :=
  HandOver state ∨ SameBetting before state i

theorem SameBetting.refl (state : HoldemState seatCount) :
    SameBetting state state i :=
  ⟨rfl, rfl, rfl, rfl, rfl, rfl, rfl, rfl, rfl, fun unfolded => ⟨unfolded, rfl, rfl, rfl⟩⟩

theorem SameBetting.midHand_eq (same : SameBetting before state i) :
    state.midHand = before.midHand := by
  rw [HoldemState.midHand, HoldemState.midHand, HoldemState.hasHandId,
    HoldemState.hasHandId, same.handId, same.street]

theorem SameBetting.midHand (same : SameBetting before state i) (mid : before.midHand = true) :
    state.midHand = true := same.midHand_eq.trans mid

/-- A change of one seat that leaves its bet alone, or folds it. -/
theorem SameBetting.mapSeat (same : SameBetting before state i)
    {seatIndex : Nat} {change : SeatState → SeatState}
    (keeps : ∀ seat, (change seat).folded = false → SameSeat seat (change seat)) :
    SameBetting before (mapSeat state seatIndex change) i := by
  have seat : ((Engine.mapSeat state seatIndex change).seats i).folded = false →
      SameSeat (state.seats i) ((Engine.mapSeat state seatIndex change).seats i) := by
    simp only [Engine.mapSeat]
    split
    · exact keeps _
    · exact fun unfolded => ⟨unfolded, rfl, rfl, rfl⟩
  exact
    { same with
      seat := fun unfolded =>
        (same.seat (seat unfolded).unfolded).trans (seat unfolded) }

theorem Stands.mapSeat (stands : Stands before state i)
    {seatIndex : Nat} {change : SeatState → SeatState}
    (keeps : SameBetting before state i →
        ∀ seat, (change seat).folded = false → SameSeat seat (change seat)) :
    Stands before (mapSeat state seatIndex change) i := by
  rcases stands with ended | same
  · exact .inl ⟨ended.acting, ended.midHand⟩
  · exact .inr (same.mapSeat (keeps same))

/-- After an award nobody acts. -/
theorem handOver_of_award {events : List (EngineEvent seatCount)}
    (ok : foldWin state = .ok (after, events)) : HandOver after := by
  rcases foldWin_eq_ok ok with unclaimed | ⟨winner, rake, effect⟩
  · rw [unclaimed.rest]
    exact ⟨rfl, by simp [HoldemState.midHand]⟩
  · rw [effect.rest]
    exact ⟨rfl, by simp [HoldemState.midHand]⟩

theorem Stands.awardIfAlone (stands : Stands before state i) :
    Stands before (AwaitedTable.awardIfAlone state) i := by
  rw [AwaitedTable.awardIfAlone, Engine.settleIfOnePlayerLeft]
  split_ifs with alone
  · cases awarded : foldWin state with
    | error err => exact stands
    | ok result =>
      rcases result with ⟨reached, events⟩
      exact .inl (handOver_of_award awarded)
  · exact stands

/-- A top-up that begins changes no seat. -/
theorem state_beginTopUp {userId : String} {chips : Nat} {opts : TopUpOptions} :
    (awaited.beginTopUp userId chips opts).state = awaited.state := by
  rw [AwaitedTable.beginTopUp]
  split
  · rfl
  · dsimp only
    split <;> rfl

/-- What happens while a turn is awaited leaves the betting alone, or ends the
turns. -/
theorem stands_step (mid : before.midHand = true) (stands : Stands before awaited.state i)
    (call : AwaitedCall seatCount) : Stands before (awaited.step call).state i := by
  cases call with
  | beginTopUp userId chips opts =>
    show Stands before (awaited.beginTopUp userId chips opts).state i
    rwa [state_beginTopUp]
  | writeTopUp index =>
    have written (topUp : BegunTopUp seatCount) :
        Stands before (AwaitedTable.writeStack awaited.state topUp) i := by
      apply stands.mapSeat
      intro same seat unfolded
      have inHand := same.midHand mid
      simp only [HoldemState.midHand, Bool.and_eq_true, decide_eq_true_eq] at inHand
      have kept : seat.folded = false := by
        simpa [inHand.1.2] using unfolded
      exact ⟨kept, rfl, rfl, rfl⟩
    show Stands before (awaited.writeTopUp index).state i
    rw [AwaitedTable.writeTopUp]
    split
    · exact stands
    · exact written _
  | setPlayerSitOut userId sitOut =>
    have sits (seatIndex : Nat) (out : Bool) :
        Stands before (setSitOut awaited.state seatIndex out) i := by
      apply stands.mapSeat
      intro same seat unfolded
      have inHand := same.midHand mid
      cases out with
      | true => simp [inHand] at unfolded
      | false => exact ⟨by simpa using unfolded, rfl, rfl, rfl⟩
    rw [AwaitedTable.step, SitOuts.TableRuntime.setPlayerSitOut]
    split
    case h_1 table performed =>
      revert performed
      split
      · intro performed
        cases performed
      · split_ifs
        · intro performed
          cases performed
          exact sits _ true
        · intro performed
          cases performed
          exact sits _ false
        · intro performed
          cases performed
          exact stands
    case h_2 => exact stands
  | foldLeaver seatIndex =>
    have folded : Stands before (foldSeat awaited.state seatIndex) i := by
      apply stands.mapSeat
      intro _ seat unfolded
      cases unfolded
    rw [AwaitedTable.step]
    split
    · exact folded.awardIfAlone
    · exact stands
  | passLeaver seatIndex =>
    show Stands before (passLeaver awaited.state seatIndex) i
    rw [passLeaver]
    split_ifs with acting
    · rcases stands with ended | same
      · rw [ended.acting] at acting
        cases acting
      · exact .inr { same with }
    · exact stands
  | clearLeaver seatIndex =>
    show Stands before (clearSeat awaited.state seatIndex) i
    apply stands.mapSeat
    intro _ seat unfolded
    cases unfolded
  | settleIfOnePlayerLeft => exact stands.awardIfAlone
  | resetToWaiting =>
    have waiting : (awaited.table.resetToWaiting fun _ => none).state.midHand = false := by
      simp [HoldemState.midHand, SitOuts.TableRuntime.resetToWaiting]
    exact .inl ⟨rfl, waiting⟩

theorem stands_run (mid : before.midHand = true) (calls : List (AwaitedCall seatCount))
    (stands : Stands before awaited.state i) : Stands before (awaited.run calls).state i := by
  induction calls generalizing awaited with
  | nil => exact stands
  | cons call rest induction => exact induction (stands_step mid stands call)

/-! ## What a seat may do -/

/-- The conditions under which the acting seat may take an action with an
amount. -/
def Accepts (state : HoldemState seatCount) (i : Fin seatCount) : PokerAction → Option Int → Prop
  | .fold, _ => 0 < toCall state i
  | .check, _ => toCall state i ≤ 0
  | .call, amount =>
      0 < toCall state i ∧ toCall state i ≤ (state.seats i).stack ∧
        ∀ chips ∈ amount, chips = toCall state i
  | .bet, amount =>
      toCall state i ≤ 0 ∧ 0 < (state.seats i).stack ∧ ¬ Capped state i ∧ ∀ chips ∈ amount,
          min state.config.bigBlind (state.seats i).stack ≤ chips ∧ chips ≤ (state.seats i).stack
  | .raise, amount =>
      0 < toCall state i ∧ toCall state i < (state.seats i).stack ∧ ¬ Capped state i ∧
        ∀ chips ∈ amount, min (fullRaise state i) (state.seats i).stack ≤ chips ∧
            chips ≤ (state.seats i).stack
  | .allIn, amount =>
      (max (toCall state i) 0 < (state.seats i).stack ∧ ¬ Capped state i ∨
          0 < toCall state i ∧ (state.seats i).stack ≤ toCall state i) ∧
        ∀ chips ∈ amount, chips = (state.seats i).stack

theorem bettingActions_eq (capped : Bool) : bettingActions state (state.seats i) capped =
    if toCall state i ≤ 0 then
      ⟨.check, none, none⟩ :: if 0 < (state.seats i).stack && !capped then
          [⟨.bet, some (min state.config.bigBlind (state.seats i).stack),
              some (state.seats i).stack⟩, ⟨.allIn, some (state.seats i).stack,
              some (state.seats i).stack⟩]
        else []
    else
      ⟨.fold, none, none⟩ :: if toCall state i < (state.seats i).stack then
          ⟨.call, some (toCall state i), some (toCall state i)⟩ :: if !capped then
              [⟨.raise, some (min (fullRaise state i) (state.seats i).stack),
                  some (state.seats i).stack⟩, ⟨.allIn, some (state.seats i).stack,
                  some (state.seats i).stack⟩]
            else []
        else if (state.seats i).stack = toCall state i then
          [⟨.allIn, some (state.seats i).stack, some (state.seats i).stack⟩,
            ⟨.call, some (toCall state i), some (toCall state i)⟩]
        else
          [⟨.allIn, some (state.seats i).stack, some (state.seats i).stack⟩] :=
  rfl

theorem mem_getLegalActions_of_offered {offer : LegalAction} (acting : state.actingIndex = some i)
    (unfolded : (state.seats i).folded = false) (notAllIn : (state.seats i).allIn = false)
    (offered : Offered state i offer) : offer ∈ getLegalActions state := by
  have active : ¬ ((state.seats i).folded || (state.seats i).allIn) = true := by
    simp [unfolded, notAllIn]
  have capped_iff : (!state.lastRaiseComplete && i ∈ state.actedThisStreet) = true ↔
      Capped state i := by
    simp [Capped]
  simp only [getLegalActions, acting, if_neg active]
  generalize (!state.lastRaiseComplete && i ∈ state.actedThisStreet) = capped at capped_iff
  have uncapped_of (free : ¬ Capped state i) : capped = false := by
    rwa [← capped_iff, Bool.not_eq_true] at free
  rw [bettingActions_eq]
  cases offered with
  | fold behind =>
    rw [if_neg (not_le.mpr behind)]
    exact List.mem_cons_self
  | check matched =>
    rw [if_pos matched]
    exact List.mem_cons_self
  | call behind enough =>
    rw [if_neg (not_le.mpr behind)]
    apply List.mem_cons_of_mem
    rcases lt_or_eq_of_le enough with more | equal
    · rw [if_pos more]
      exact List.mem_cons_self
    · have exactly : (state.seats i).stack = toCall state i := equal.symm
      rw [if_neg (not_lt.mpr exactly.le), if_pos exactly]
      exact List.mem_cons_of_mem _ List.mem_cons_self
  | bet matched chips free =>
    have uncapped := uncapped_of free
    rw [if_pos matched, if_pos (by simp [chips, uncapped])]
    exact List.mem_cons_of_mem _ List.mem_cons_self
  | raise behind more free =>
    have uncapped := uncapped_of free
    rw [if_neg (not_le.mpr behind), if_pos more, if_pos (by simp [uncapped])]
    exact List.mem_cons_of_mem _ (List.mem_cons_of_mem _ List.mem_cons_self)
  | shove more free =>
    have uncapped := uncapped_of free
    rw [max_lt_iff] at more
    by_cases matched : toCall state i ≤ 0
    · rw [if_pos matched, if_pos (by simp [more.2, uncapped])]
      simp
    · rw [if_neg matched, if_pos more.1, if_pos (by simp [uncapped])]
      simp
  | callAllIn behind short =>
    rw [if_neg (not_le.mpr behind), if_neg (not_lt.mpr short)]
    apply List.mem_cons_of_mem
    split <;> exact List.mem_cons_self

theorem refuses_eq_none_iff {offer : LegalAction} {amount : Option Int} :
    offer.refuses amount = none ↔ ∀ minAmount ∈ offer.minAmount, ∀ maxAmount ∈ offer.maxAmount,
        ∀ chips ∈ amount, minAmount ≤ chips ∧ chips ≤ maxAmount := by
  rcases offer with ⟨action, - | minAmount, - | maxAmount⟩ <;>
    cases amount <;> simp [LegalAction.refuses, not_or]

/-- What the engine accepts of the acting seat. -/
theorem playCall_iff {action : PokerAction} {amount : Option Int}
    (acting : state.actingIndex = some i) : PlayCall state (.applyAction action amount) ↔
    (state.seats i).folded = false ∧ (state.seats i).allIn = false ∧
      Accepts state i action amount := by
  constructor
  · rintro ⟨offer, member, rfl, accepted⟩
    rcases offered_of_mem acting member with ⟨unfolded, notAllIn, offered⟩
    refine ⟨unfolded, notAllIn, ?_⟩
    rw [refuses_eq_none_iff] at accepted
    cases offered with
    | fold behind => exact behind
    | check matched => exact matched
    | call behind enough =>
      refine ⟨behind, enough, fun chips given => ?_⟩
      have bounds := accepted _ rfl _ rfl chips given
      omega
    | bet matched chips free =>
      exact ⟨matched, chips, free, fun chips given => accepted _ rfl _ rfl chips given⟩
    | raise behind more free =>
      exact ⟨behind, more, free, fun chips given => accepted _ rfl _ rfl chips given⟩
    | shove more free =>
      refine ⟨.inl ⟨more, free⟩, fun chips given => ?_⟩
      have bounds := accepted _ rfl _ rfl chips given
      omega
    | callAllIn behind short =>
      refine ⟨.inr ⟨behind, short⟩, fun chips given => ?_⟩
      have bounds := accepted _ rfl _ rfl chips given
      omega
  · rintro ⟨unfolded, notAllIn, accepts⟩
    have offers {offer : LegalAction} (offered : Offered state i offer)
        (named : offer.action = action)
        (bounds : ∀ minAmount ∈ offer.minAmount, ∀ maxAmount ∈ offer.maxAmount,
            ∀ chips ∈ amount, minAmount ≤ chips ∧ chips ≤ maxAmount) :
        PlayCall state (.applyAction action amount) :=
      ⟨offer, mem_getLegalActions_of_offered acting unfolded notAllIn offered,
        named, refuses_eq_none_iff.mpr bounds⟩
    cases action with
    | fold => exact offers (.fold accepts) rfl (by simp)
    | check => exact offers (.check accepts) rfl (by simp)
    | call =>
      rcases accepts with ⟨behind, enough, bounds⟩
      apply offers (.call behind enough) rfl
      rintro _ ⟨⟩ _ ⟨⟩ chips given
      rw [bounds chips given]
      exact ⟨le_rfl, le_rfl⟩
    | bet =>
      rcases accepts with ⟨matched, chips, free, bounds⟩
      apply offers (.bet matched chips free) rfl
      rintro _ ⟨⟩ _ ⟨⟩ chips given
      exact bounds chips given
    | raise =>
      rcases accepts with ⟨behind, more, free, bounds⟩
      apply offers (.raise behind more free) rfl
      rintro _ ⟨⟩ _ ⟨⟩ chips given
      exact bounds chips given
    | allIn =>
      rcases accepts with ⟨⟨more, free⟩ | ⟨behind, short⟩, bounds⟩
      · apply offers (.shove more free) rfl
        rintro _ ⟨⟩ _ ⟨⟩ chips given
        rw [bounds chips given]
        exact ⟨le_rfl, le_rfl⟩
      · apply offers (.callAllIn behind short) rfl
        rintro _ ⟨⟩ _ ⟨⟩ chips given
        rw [bounds chips given]
        exact ⟨le_rfl, le_rfl⟩

/-! ## Decisions that keep the hand -/

/-- An action that was offered to the seat, with a stack it may have by now,
can still be taken with an amount. -/
def Allows (before : HoldemState seatCount) (i : Fin seatCount) (stack : Int) :
    PokerAction → Option Int → Prop
  | .fold, _ => True
  | .check, _ => True
  | .call, amount =>
      toCall before i ≤ stack ∧ ∀ chips ∈ amount, chips = toCall before i
  | .bet, amount =>
      0 < stack ∧ ∀ chips ∈ amount, min before.config.bigBlind stack ≤ chips ∧ chips ≤ stack
  | .raise, amount =>
      toCall before i < stack ∧
        ∀ chips ∈ amount, min (fullRaise before i) stack ≤ chips ∧ chips ≤ stack
  | .allIn, amount =>
      (max (toCall before i) 0 < stack → ¬ Capped before i) ∧
        (toCall before i ≤ 0 → 0 < stack) ∧ ∀ chips ∈ amount, chips = stack

theorem accepts_iff_allows (same : SameBetting before after i)
    (unfolded : (after.seats i).folded = false) {action : PokerAction} {amount : Option Int}
    (offered : Accepts before i action none) : Accepts after i action amount ↔
    Allows before i (after.seats i).stack action amount := by
  have call : toCall after i = toCall before i := by
    rw [toCall, toCall, same.currentBet, (same.seat unfolded).bet]
  have raise : fullRaise after i = fullRaise before i := by
    rw [fullRaise, fullRaise, same.currentBet, same.minRaise, (same.seat unfolded).bet]
  have capped : Capped after i ↔ Capped before i := by
    rw [Capped, Capped, same.lastRaiseComplete, same.actedThisStreet]
  cases action with
  | fold =>
    rw [Accepts, call]
    exact iff_true_intro offered
  | check =>
    rw [Accepts, call]
    exact iff_true_intro offered
  | call =>
    rw [Accepts, call]
    exact and_iff_right offered.1
  | bet =>
    rw [Accepts, call, capped, same.config]
    constructor
    · rintro ⟨-, chips, -, bounds⟩
      exact ⟨chips, bounds⟩
    · rintro ⟨chips, bounds⟩
      exact ⟨offered.1, chips, offered.2.2.1, bounds⟩
  | raise =>
    rw [Accepts, call, capped, raise]
    constructor
    · rintro ⟨-, more, -, bounds⟩
      exact ⟨more, bounds⟩
    · rintro ⟨more, bounds⟩
      exact ⟨offered.1, more, offered.2.2.1, bounds⟩
  | allIn =>
    rw [Accepts, call, capped, Allows, ← and_assoc]
    apply and_congr_left'
    by_cases more : max (toCall before i) 0 < (after.seats i).stack
    · rw [max_lt_iff] at more
      constructor
      · rintro (⟨-, free⟩ | ⟨-, short⟩)
        · exact ⟨fun _ => free, fun _ => more.2⟩
        · exact absurd more.1 (not_lt.mpr short)
      · rintro ⟨free, -⟩
        exact .inl ⟨max_lt_iff.mpr more, free (max_lt_iff.mpr more)⟩
    · constructor
      · rintro (⟨enough, -⟩ | ⟨behind, -⟩)
        · exact absurd enough more
        · exact ⟨fun enough => absurd enough more,
              fun matched => absurd behind (not_lt.mpr matched)⟩
      · rintro ⟨-, chips⟩
        right
        rw [max_lt_iff, not_and_or] at more
        omega

theorem isOffered_iff {action : PokerAction} (acting : before.actingIndex = some i) :
    isOffered (getLegalActions before) action = true ↔
      (before.seats i).folded = false ∧ (before.seats i).allIn = false ∧
        Accepts before i action none := by
  rw [← playCall_iff acting, isOffered, List.any_eq_true]
  constructor
  · rintro ⟨offer, member, named⟩
    exact ⟨offer, member, of_decide_eq_true named, refuses_eq_none_iff.mpr (by simp)⟩
  · rintro ⟨offer, member, named, -⟩
    exact ⟨offer, member, decide_eq_true named⟩

/-- The amount of a decision as safe chips that the seat may put in. -/
def AmountFits (before after : HoldemState seatCount) (i : Fin seatCount)
    (decided : SeatDecision) : Prop :=
  match amountChips decided.amount with
  | .error _ => False
  | .ok amount =>
      (∀ chips ∈ amount, SafeInteger chips) ∧
        Allows before i (after.seats i).stack decided.action amount

/-- The seat is still in, and an amount for an offered action fits. -/
structure StillAllowed (before after : HoldemState seatCount) (i : Fin seatCount)
    (decided : SeatDecision) : Prop where
  unfolded : (after.seats i).folded = false
  fits : isOffered (getLegalActions before) decided.action = true →
      AmountFits before after i decided

theorem findOffer_eq_none_iff {legal : List LegalAction} {action : PokerAction} :
    findOffer legal action = none ↔ isOffered legal action = false := by
  rw [findOffer, isOffered, List.find?_eq_none, List.any_eq_false]

/-- Somebody who has something to do may fold or check, without an amount. -/
theorem foldFirst_eq (acting : before.actingIndex = some i)
    (nonempty : getLegalActions before ≠ []) (reasonCode : String) : ∃ action,
    foldFirst (getLegalActions before) reasonCode = .ok ⟨action, none, reasonCode⟩ ∧
      (action = .fold ∨ action = .check) ∧ isOffered (getLegalActions before) action = true := by
  rcases List.exists_mem_of_ne_nil _ nonempty with ⟨offer, member⟩
  rcases offered_of_mem acting member with ⟨unfolded, notAllIn, -⟩
  rcases lt_or_ge 0 (toCall before i) with behind | matched
  · have offered := mem_getLegalActions_of_offered acting unfolded notAllIn (.fold behind)
    have found : findOffer (getLegalActions before) .fold = some ⟨.fold, none, none⟩ :=
      find_of_mem_getLegalActions offered
    refine ⟨.fold, ?_, .inl rfl, ?_⟩
    · rw [foldFirst, found]
      rfl
    · exact (isOffered_iff acting).mpr ⟨unfolded, notAllIn, behind⟩
  · have offered := mem_getLegalActions_of_offered acting unfolded notAllIn (.check matched)
    have found : findOffer (getLegalActions before) .check = some ⟨.check, none, none⟩ :=
      find_of_mem_getLegalActions offered
    have missing : findOffer (getLegalActions before) .fold = none := by
      rw [findOffer_eq_none_iff, ← Bool.not_eq_true, isOffered_iff acting]
      rintro ⟨-, -, behind⟩
      exact absurd behind (not_lt.mpr matched)
    refine ⟨.check, ?_, .inr rfl, ?_⟩
    · rw [foldFirst, missing, found]
      rfl
    · exact (isOffered_iff acting).mpr ⟨unfolded, notAllIn, matched⟩

/-- To fold or to check is allowed with any stack. -/
theorem allows_passive {action : PokerAction} (passive : action = .fold ∨ action = .check)
    (stack : Int) (amount : Option Int) : Allows before i stack action amount := by
  rcases passive with rfl | rfl <;> exact trivial

theorem recordedAmount_isOk_iff {amount : Option Int} :
    (∃ recorded, recordedAmount amount = .ok recorded) ↔ ∀ chips ∈ amount, SafeInteger chips := by
  cases amount with
  | none => simp [recordedAmount]
  | some chips =>
    by_cases safe : SafeInteger chips
    · simp [recordedAmount, chipsToNumber, safe, Except.map]
    · simp [recordedAmount, chipsToNumber, safe, Except.map]

/-- An offered decision keeps the hand exactly if its amount fits. -/
theorem keepsHand_of_offered_iff (same : SameBetting before after i)
    (beforeActs : before.actingIndex = some i) (acting : after.actingIndex = some i)
    {decided : SeatDecision} (offered : isOffered (getLegalActions before) decided.action = true) :
    KeepsHand after (do
          let amount ← amountChips decided.amount
          let _ ← recordedAmount amount
          return some (decided.action, amount)) ↔
      (after.seats i).folded = false ∧ AmountFits before after i decided := by
  rcases (isOffered_iff beforeActs).mp offered with ⟨-, notAllIn, accepted⟩
  rw [AmountFits]
  cases converted : amountChips decided.amount with
  | error err =>
    show False ↔ _
    simp
  | ok amount =>
    have recorded := @recordedAmount_isOk_iff amount
    show KeepsHand after (recordedAmount amount >>= fun _ =>
            return some (decided.action, amount)) ↔ _
    cases written : recordedAmount amount with
    | error err =>
      rw [written] at recorded
      have unfit : ¬ ∀ chips ∈ amount, SafeInteger chips := by
        rw [← recorded]
        rintro ⟨number, equal⟩
        cases equal
      constructor
      · exact False.elim
      · rintro ⟨-, safe, -⟩
        exact absurd safe unfit
    | ok number =>
      rw [written] at recorded
      have safe := recorded.mp ⟨number, rfl⟩
      show PlayCall after (.applyAction decided.action amount) ↔ _
      rw [playCall_iff acting]
      constructor
      · rintro ⟨unfolded, -, accepts⟩
        exact ⟨unfolded, safe, (accepts_iff_allows same unfolded accepted).mp accepts⟩
      · rintro ⟨unfolded, -, allowed⟩
        exact ⟨unfolded, ((same.seat unfolded).allIn).trans notAllIn,
            (accepts_iff_allows same unfolded accepted).mpr allowed⟩

/--
A turn keeps the hand exactly if there was nothing to do, the turn is over,
or the seat is still in and its amount fits.
-/
theorem keepsHand_iff (mid : before.midHand = true) (beforeActs : before.actingIndex = some i)
    (stands : Stands before after i) (decided : SeatDecision) :
    KeepsHand after (actForCurrent before after i decided) ↔
      getLegalActions before = [] ∨ after.actingIndex ≠ some i ∨
        StillAllowed before after i decided := by
  rw [actForCurrent]
  by_cases empty : getLegalActions before = []
  · simp only [if_pos empty]
    exact iff_of_true trivial (.inl empty)
  · simp only [if_neg empty]
    by_cases acting : after.actingIndex = some i
    · rcases stands with ended | same
      · rw [ended.acting] at acting
        cases acting
      · have inHand := same.midHand mid
        have on : ¬ TurnOver after i := by
          simp only [HoldemState.midHand, Bool.and_eq_true, decide_eq_true_eq] at inHand
          rintro (other | waiting | noHand)
          · exact other acting
          · exact inHand.1.2 waiting
          · rw [noHand] at inHand
            exact absurd inHand.1.1 Bool.false_ne_true
        rw [if_neg on, repaired]
        by_cases offered : isOffered (getLegalActions before) decided.action = true
        · rw [if_pos offered]
          rw [or_iff_right empty, or_iff_right (not_not.mpr acting)]
          refine (keepsHand_of_offered_iff same beforeActs acting offered).trans ?_
          constructor
          · rintro ⟨unfolded, fits⟩
            exact ⟨unfolded, fun _ => fits⟩
          · rintro ⟨unfolded, fits⟩
            exact ⟨unfolded, fits offered⟩
        · rw [if_neg offered]
          rw [or_iff_right empty, or_iff_right (not_not.mpr acting)]
          rcases foldFirst_eq beforeActs empty "forced_legal" with ⟨action, forced, passive, given⟩
          rw [forced]
          refine (@keepsHand_of_offered_iff _ _ _ _ same beforeActs acting
              ⟨action, none, "forced_legal"⟩ given).trans ?_
          constructor
          · rintro ⟨unfolded, -⟩
            exact ⟨unfolded, fun found => absurd found offered⟩
          · rintro ⟨unfolded, -⟩
            exact ⟨unfolded, by
                show (∀ chips ∈ none, SafeInteger chips) ∧ _
                exact ⟨by simp, allows_passive passive _ _⟩⟩
    · have ended : TurnOver after i := .inl acting
      rw [if_pos ended]
      exact iff_of_true trivial (.inr (.inl acting))

end Mozetto.GameServer.Turns
