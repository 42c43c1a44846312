import Mozetto.Engine.ForcedFoldRuns
import Mozetto.GameServer.DecidedActions

/-!
# Submitted actions, and seats that are left alone

The amount of a submitted action is brought within the bounds that the engine
offers at that moment, and chips survive the way to dollars and back.  A seat
that no call sits out, folds, clears or pays while its turn is awaited finds
the legal actions it was offered.
-/

namespace Mozetto.GameServer.Turns

open Float.Model Float.Model.UnpackedFloat
open Mozetto.Database
open Mozetto.Engine
open Mozetto.GameServer.SitOuts
open Mozetto.Library.NormalDoubles

variable {seatCount : Nat} {i : Fin seatCount}
variable {before state after : HoldemState seatCount}
variable {awaited : AwaitedTable seatCount}

/-! ## Chips as dollars -/

/-- Far below the amounts whose dollars are rounded to another chip. -/
def Small (chips : Int) : Prop := 0 ≤ chips ∧ chips < 2 ^ 40

instance (chips : Int) : Decidable (Small chips) := inferInstanceAs (Decidable (_ ∧ _))

theorem Small.safe {chips : Int} (small : Small chips) : SafeInteger chips := by
  rw [SafeInteger, maxSafeInteger]
  have low := small.1
  have high := small.2
  omega

/-- Dollars of a stack, times a hundred, are rounded to its chips. -/
theorem mathRound_dollars {chips : Nat} (small : chips < 2 ^ 40) :
    mathRound (GameServer.chipsToUsd chips * 100) = some (chips : Int) := by
  rcases Nat.eq_zero_or_pos chips with rfl | positive
  · rfl
  · rcases exists_ofNat positive (by omega) with ⟨whole, normal, close⟩
    rcases normal.div hundred_normal (by decide) with ⟨usd, divided, closer⟩
    rcases divided.mul hundred_normal (by decide) with ⟨back, product, closest⟩
    have read : (GameServer.chipsToUsd chips * 100).toModel.unpack = (Float.Model.pack
          (UnpackedFloat.mul Format.binary64 (Float.Model.pack (UnpackedFloat.div Format.binary64
                (chips.toUInt64.toFloat).toModel.unpack (100 : Float).toModel.unpack)).unpack
            (100 : Float).toModel.unpack)).unpack := rfl
    have bound : (chips : ℚ) < 2 ^ 40 := by exact_mod_cast small
    have least : (1 : ℚ) ≤ chips := by exact_mod_cast positive
    have near : |back - (chips : ℚ)| < 1 / 2 := by
      simp only [Close, abs_le] at close closer closest
      rw [abs_lt]
      constructor <;> linarith
    rw [mathRound, read]
    generalize (Float.Model.pack (UnpackedFloat.mul Format.binary64 (Float.Model.pack
            (UnpackedFloat.div Format.binary64 (chips.toUInt64.toFloat).toModel.unpack
              (100 : Float).toModel.unpack)).unpack
          (100 : Float).toModel.unpack)).unpack = number at product ⊢
    cases product with
    | @finite mantissa exponent positive full short low high same =>
      have again : Normal _ back (.finite .positive mantissa exponent positive) :=
        .finite full short low high same
      exact congrArg some (round_of_normal again near .positive)

/-- Small amounts survive the way to dollars and back. -/
theorem usdToChips_chipsToUsd {chips : Int} (small : Small chips) :
    ∃ usd, chipsToUsd chips = .ok usd ∧ usdToChips usd = .ok chips := by
  have whole : (chips.toNat : Int) = chips := Int.toNat_of_nonneg small.1
  have below : chips.toNat < 2 ^ 40 := by
    have high := small.2
    omega
  refine ⟨GameServer.chipsToUsd chips.toNat, ?_, ?_⟩
  · rw [chipsToUsd, chipsToNumber, if_pos small.safe, if_pos small.1]
    rfl
  · rw [usdToChips, mathRound_dollars below, whole]

/-! ## Submitted actions -/

/-- An amount of dollars that converts to chips within bounds. -/
structure Within (minAmount maxAmount : Int) (amount : Option Float) : Prop where
  converts : ∃ chips, amountChips amount = .ok (some chips) ∧ minAmount ≤ chips ∧ chips ≤ maxAmount

theorem amountUsd_small {chips : Int} (small : Small chips) :
    ∃ usd, amountUsd (some chips) = .ok (some usd) ∧ usdToChips usd = .ok chips := by
  rcases usdToChips_chipsToUsd small with ⟨usd, written, read⟩
  exact ⟨usd, by rw [amountUsd, written]; rfl, read⟩

/-- Raised to the lower bound, an amount is at least that. -/
theorem atLeast_eq_ok {minAmount : Int} (small : Small minAmount) {usd : Float}
    {raised : Option Float} (run : atLeast (some minAmount) (some usd) = .ok raised) :
    ∃ other chips, raised = some other ∧ usdToChips other = .ok chips ∧ minAmount ≤ chips := by
  simp only [atLeast] at run
  cases converted : usdToChips usd with
  | error err =>
    rw [converted] at run
    cases run
  | ok chips =>
    rw [converted] at run
    rcases amountUsd_small small with ⟨least, written, read⟩
    by_cases less : chips < minAmount
    · have taken : amountUsd (some minAmount) = .ok raised := by
        simpa [bind, Except.bind, less] using run
      rw [written] at taken
      cases taken
      exact ⟨least, minAmount, rfl, read, le_rfl⟩
    · have kept : raised = some usd := by
        simpa [bind, Except.bind, less, eq_comm] using run
      exact ⟨usd, chips, kept, converted, not_lt.mp less⟩

/-- Lowered to the upper bound, an amount stays above a lower one. -/
theorem atMost_eq_ok {minAmount maxAmount : Int} (ordered : minAmount ≤ maxAmount)
    (small : Small maxAmount) {usd : Float} {chips : Int}
    (converted : usdToChips usd = .ok chips) (enough : minAmount ≤ chips) {bounded : Option Float}
    (run : atMost (some maxAmount) (some usd) = .ok bounded) :
    Within minAmount maxAmount bounded := by
  simp only [atMost, converted] at run
  rcases amountUsd_small small with ⟨most, written, read⟩
  by_cases more : maxAmount < chips
  · have taken : amountUsd (some maxAmount) = .ok bounded := by
      simpa [bind, Except.bind, more] using run
    rw [written] at taken
    cases taken
    refine ⟨maxAmount, ?_, ordered, le_rfl⟩
    rw [amountChips, read]
    rfl
  · have kept : bounded = some usd := by
      simpa [bind, Except.bind, more, eq_comm] using run
    subst kept
    refine ⟨chips, ?_, enough, not_lt.mp more⟩
    rw [amountChips, converted]
    rfl

/-- Both bounds of the offers, if any, are small. -/
def SmallOffers (state : HoldemState seatCount) : Prop :=
  ∀ offer ∈ getLegalActions state, (∀ chips ∈ offer.minAmount, Small chips) ∧
      ∀ chips ∈ offer.maxAmount, Small chips

/-- An offer has both bounds, in order; to fold or to check has none. -/
theorem Offered.bounds {offer : LegalAction} (offered : Offered state i offer) :
    (offer.action = .fold ∨ offer.action = .check) ∧
        offer.minAmount = none ∧ offer.maxAmount = none ∨
      ∃ minAmount maxAmount, offer.minAmount = some minAmount ∧
        offer.maxAmount = some maxAmount ∧ minAmount ≤ maxAmount := by
  cases offered with
  | fold behind => exact .inl ⟨.inl rfl, rfl, rfl⟩
  | check matched => exact .inl ⟨.inr rfl, rfl, rfl⟩
  | call behind enough => exact .inr ⟨_, _, rfl, rfl, le_rfl⟩
  | bet matched chips free => exact .inr ⟨_, _, rfl, rfl, min_le_right _ _⟩
  | raise behind more free => exact .inr ⟨_, _, rfl, rfl, min_le_right _ _⟩
  | shove more free => exact .inr ⟨_, _, rfl, rfl, le_rfl⟩
  | callAllIn behind short => exact .inr ⟨_, _, rfl, rfl, le_rfl⟩

/-- Asked for within bounds, an amount is there. -/
theorem askedAmount_eq_ok {offer : LegalAction} {minAmount : Int}
    (least : offer.minAmount = some minAmount) (small : Small minAmount)
    {amount asked : Option Float} (run : askedAmount offer amount = .ok asked) :
    ∃ usd, asked = some usd := by
  rcases amountUsd_small small with ⟨usd, written, -⟩
  rcases offer with ⟨action, _, _⟩
  cases least
  cases amount <;> cases action <;> simp only [askedAmount, written] at run <;>
    cases run <;> exact ⟨_, rfl⟩

/-- What is offered without bounds is asked for without an amount. -/
theorem askedAmount_passive
    {offer : LegalAction} (passive : offer.action = .fold ∨ offer.action = .check)
    (least : offer.minAmount = none) (amount : Option Float) :
    askedAmount offer amount = .ok none := by
  rcases offer with ⟨action, _, _⟩
  cases least
  rcases passive with rfl | rfl <;> cases amount <;> rfl

/-- An accepted submission is an offer of that moment, brought within it. -/
theorem submitPlayerAction_eq_ok {pendingSeat : Option (Fin seatCount)} {userId : String}
    {action : PokerAction} {amount : Option Float} {decided : SeatDecision}
    (submitted : submitPlayerAction state pendingSeat userId action amount = .ok decided) :
    ∃ offer ∈ getLegalActions state, offer.action = action ∧
      ∃ asked raised bounded, askedAmount offer amount = .ok asked ∧
        atLeast offer.minAmount asked = .ok raised ∧ atMost offer.maxAmount raised = .ok bounded ∧
        decided = ⟨action, bounded, "human"⟩ := by
  rcases pendingSeat with - | pending
  · cases submitted
  · simp only [submitPlayerAction] at submitted
    split at submitted
    · cases submitted
    · split at submitted
      · cases submitted
      · cases found : findOffer (getLegalActions state) action with
        | none =>
          rw [found] at submitted
          cases submitted
        | some offer =>
          rw [found] at submitted
          rw [findOffer] at found
          have named := List.find?_some found
          refine ⟨offer, List.mem_of_find?_eq_some found, of_decide_eq_true named, ?_⟩
          simp only [Library.Guarded.bind_eq_ok_iff, Library.Guarded.pure_eq_ok_iff] at submitted
          rcases submitted with ⟨asked, first, raised, second, bounded, third, rfl⟩
          exact ⟨asked, raised, bounded, first, second, third, rfl⟩

/-- What a player submits is offered at that moment, within the bounds. -/
theorem playCall_of_submitted {pendingSeat : Option (Fin seatCount)} {userId : String}
    {action : PokerAction} {amount : Option Float} {decided : SeatDecision}
    (acting : state.actingIndex = some i) (small : SmallOffers state)
    (submitted : submitPlayerAction state pendingSeat userId action amount = .ok decided) :
    ∃ chips, amountChips decided.amount = .ok chips ∧ (∀ number ∈ chips, SafeInteger number) ∧
      PlayCall state (.applyAction decided.action chips) := by
  rcases submitPlayerAction_eq_ok submitted with
    ⟨offer, member, named, asked, raised, bounded, first, second, third, rfl⟩
  rcases offered_of_mem acting member with ⟨-, -, offered⟩
  rcases Offered.bounds offered with
    ⟨passive, noMin, noMax⟩ | ⟨minAmount, maxAmount, least, most, ordered⟩
  · rw [askedAmount_passive passive noMin] at first
    cases first
    rw [noMin] at second
    cases second
    rw [noMax] at third
    cases third
    refine ⟨none, rfl, by simp, offer, member, named, ?_⟩
    rw [refuses_eq_none_iff]
    simp
  · have smalls := small offer member
    have smallMin := smalls.1 _ least
    have smallMax := smalls.2 _ most
    rcases askedAmount_eq_ok least smallMin first with ⟨usd, rfl⟩
    rw [least] at second
    rcases atLeast_eq_ok smallMin second with ⟨other, chips, rfl, converted, enough⟩
    rw [most] at third
    rcases (atMost_eq_ok ordered smallMax converted enough third).converts with
      ⟨final, read, low, high⟩
    have safe : SafeInteger final := by
      apply Small.safe
      exact ⟨smallMin.1.trans low, high.trans_lt smallMax.2⟩
    refine ⟨some final, read, ?_, offer, member, named, ?_⟩
    · rintro number ⟨⟩
      exact safe
    · rw [refuses_eq_none_iff, least, most]
      rintro _ ⟨⟩ _ ⟨⟩ _ ⟨⟩
      exact ⟨low, high⟩

end Mozetto.GameServer.Turns
