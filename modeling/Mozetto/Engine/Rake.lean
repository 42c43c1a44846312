import Mozetto.Engine.Cards
import Mozetto.Library.Binary64

/-!
# Rake

The rake formula of `rake.ts` with its conversion from a percentage, and the
errors of the engine.  Chip counts are big integers.
-/

namespace Mozetto.Engine

open Mozetto.Library.Binary64

/-- What a call of the engine may throw. -/
inductive EngineError where
  | needPlayers
  | nobodyToAct
  | illegalAction (action : String)
  | illegalAmount (amount : Int) (action : String) (minAmount maxAmount : Int)
  | undefinedRead
  | infiniteBps
deriving DecidableEq

/-- The messages; the last two are thrown by the language. -/
def EngineError.message : EngineError → String
  | needPlayers => "Need at least 2 players"
  | nobodyToAct => "Nobody to act"
  | illegalAction action => "Illegal action " ++ action
  | illegalAmount amount action minAmount maxAmount =>
      "Illegal amount " ++ toString amount ++ " for " ++ action ++
        " (allowed " ++ toString minAmount ++ "–" ++ toString maxAmount ++
        ")"
  | undefinedRead => "Cannot read properties of undefined"
  | infiniteBps =>
      "The number Infinity cannot be converted to a BigInt because it is " ++
        "not an integer"

/-- Basis points as a number: a natural number, or infinite. -/
inductive Bps where
  | finite (bps : Nat)
  | infinite
deriving DecidableEq

/-- `Math.floor` of a number that is not negative. -/
def floorBps (number : Float) : Bps :=
  match number.toModel.unpack with
  | .finite .positive mantissa exponent _ =>
      .finite (if 0 ≤ exponent then mantissa * 2 ^ exponent.toNat
        else mantissa / 2 ^ (-exponent).toNat)
  | .infinity .positive => .infinite
  | _ => .finite 0

/-- Convert `rakePct` to integer basis points. -/
def rakePctToBps (rakePct : Float) : Bps :=
  if ¬ rakePct.isFinite ∨ rakePct ≤ 0 then .finite 0
  else floorBps (rakePct * 10000 + 0.5)

example : rakePctToBps 0.05 = .finite 500 := by decide +kernel

theorem floorBps_le {number : Float} {bound : Nat}
    (bounded : AtMost (2 * bound + 1) (-1) number.toModel.unpack) :
    ∃ bps : Nat, bps ≤ bound ∧ floorBps number = .finite bps := by
  simp only [floorBps]
  generalize number.toModel.unpack = read at bounded ⊢
  cases bounded with
  | zero sign => exact ⟨0, Nat.zero_le _, rfl⟩
  | @finite mantissa exponent positive below bounded =>
    refine ⟨mantissa / 2 ^ (-exponent).toNat, ?_, ?_⟩
    · have units : (-exponent).toNat = (-1 - exponent).toNat + 1 := by omega
      rw [units, pow_succ, ← Nat.div_div_eq_div_mul]
      have halves : mantissa / 2 ^ (-1 - exponent).toNat ≤ 2 * bound + 1 :=
        Nat.div_le_of_le_mul (by rw [Nat.mul_comm]; exact bounded)
      omega
    · have fraction : ¬ 0 ≤ exponent := by omega
      simp only [if_neg fraction]

/-- A percentage between zero and one is at most all of the pot. -/
theorem rakePctToBps_le {rakePct : Float} (nonneg : 0 ≤ rakePct) (one : rakePct ≤ 1) :
    ∃ bps : Nat, bps ≤ 10000 ∧ rakePctToBps rakePct = .finite bps := by
  simp only [rakePctToBps]
  split
  · exact ⟨0, by decide, rfl⟩
  · have tenThousand : (10000 : Float).toModel.unpack =
        .finite .positive (10000 * 2 ^ 39) (-39) (by decide) := rfl
    have half : (0.5 : Float).toModel.unpack = .finite .positive (2 ^ 52) (-53) (by decide) := rfl
    have scaled : AtMost 20000 (-1) (10000 : Float).toModel.unpack := by
      rw [tenThousand]
      exact .finite (by decide) (by decide)
    have rounding : AtMost 1 (-1) (0.5 : Float).toModel.unpack := by
      rw [half]
      exact .finite (by decide) (by decide)
    have product := (atMost_one nonneg one).mul scaled (by decide) (by decide) (by decide)
    exact floorBps_le (product.add rounding (by decide) (by decide) (by decide))

/-- `rake = min(floor(eligiblePot × rakeBps / 10_000), rakeCap)`. -/
def computeRake (eligiblePot : Int) (rakeBps : Bps) (rakeCap : Option Int)
    (liveHands : Nat) (endedBeforeFlop : Option Bool) :
    Except EngineError Int :=
  if rakeBps = .finite 0 ∨ eligiblePot ≤ 0 then .ok 0
  else if endedBeforeFlop = some true then .ok 0
  else if endedBeforeFlop ≠ some false ∧ liveHands ≤ 1 then .ok 0
  else
    match rakeBps with
    | .infinite => .error .infiniteBps
    | .finite bps =>
        let rake := (eligiblePot * bps).tdiv 10000
        let rake :=
          match rakeCap with
          | none => rake
          | some cap => if rake > cap then cap else rake
        .ok (if rake < 0 then 0 else rake)

/-- The rake is not negative, and at most the cap and the pot. -/
theorem computeRake_bounds {eligiblePot : Int} {rakeBps : Bps} {rakeCap : Option Int}
    {liveHands : Nat} {endedBeforeFlop : Option Bool} {rake : Int}
    (computed : computeRake eligiblePot rakeBps rakeCap liveHands endedBeforeFlop = .ok rake) :
    0 ≤ rake ∧ (∀ cap, rakeCap = some cap → 0 ≤ cap → rake ≤ cap) ∧
      (∀ bps : Nat, rakeBps = .finite bps → bps ≤ 10000 →
        0 ≤ eligiblePot → rake ≤ eligiblePot) := by
  have none : (0 : Int) ≤ 0 ∧ (∀ cap, rakeCap = some cap → 0 ≤ cap → 0 ≤ cap) ∧
      (∀ bps : Nat, rakeBps = .finite bps → bps ≤ 10000 → 0 ≤ eligiblePot → 0 ≤ eligiblePot) :=
    ⟨le_refl 0, fun _ _ nonneg => nonneg, fun _ _ _ nonneg => nonneg⟩
  simp only [computeRake] at computed
  split at computed
  · cases computed
    exact none
  rename_i worth
  split at computed
  · cases computed
    exact none
  split at computed
  · cases computed
    exact none
  cases rakeBps with
  | infinite => cases computed
  | finite bps =>
    have pot : 0 < eligiblePot := lt_of_not_ge fun below => worth (.inr below)
    have nonneg : 0 ≤ (eligiblePot * bps).tdiv 10000 :=
      Int.tdiv_nonneg (Int.mul_nonneg pot.le (Int.natCast_nonneg bps)) (by decide)
    have bounded (small : bps ≤ 10000) : (eligiblePot * bps).tdiv 10000 ≤ eligiblePot := by
      rw [Int.tdiv_eq_ediv_of_nonneg (Int.mul_nonneg pot.le (Int.natCast_nonneg bps))]
      apply Int.ediv_le_of_le_mul (by decide)
      exact Int.mul_le_mul_of_nonneg_left (by exact_mod_cast small) pot.le
    cases rakeCap with
    | none =>
      cases computed
      rw [if_neg (not_lt.mpr nonneg)]
      refine ⟨nonneg, ?_, ?_⟩
      · intro _ impossible
        cases impossible
      · intro _ same small _
        cases same
        exact bounded small
    | some cap =>
      cases computed
      dsimp only
      refine ⟨?_, ?_, ?_⟩
      · split <;> split <;> omega
      · intro _ same capped
        cases same
        split <;> split <;> omega
      · intro _ same small _
        cases same
        have := bounded small
        split <;> split <;> omega

def computeRakeFromPct (eligiblePot : Int) (rakePct : Float) (rakeCap : Option Int)
    (liveHands : Nat) (endedBeforeFlop : Option Bool) :
    Except EngineError Int :=
  computeRake eligiblePot (rakePctToBps rakePct) rakeCap liveHands endedBeforeFlop

end Mozetto.Engine
