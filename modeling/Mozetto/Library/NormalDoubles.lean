import Mozetto.Library.Binary64
import Mathlib.Algebra.Order.Field.Basic
import Mathlib.Data.Nat.Cast.Order.Field
import Mathlib.Data.Rat.Cast.Order
import Mathlib.Tactic.FieldSimp
import Mathlib.Tactic.Linarith
import Mathlib.Tactic.NormNum

/-!
# Normal numbers in double precision

A positive normal number of moderate size is read as it was stored.  A product,
a quotient or a sum of two of them is one again, and differs from the exact
result by at most one part in `2 ^ 52`.  Ties and the direction of a rounding
do not matter for this.
-/

namespace Mozetto.Library.NormalDoubles

open Float.Model Float.Model.UnpackedFloat
open Mozetto.Library.Binary64

/-! ## Shifting a mantissa -/

theorem mantissa_shiftRight (extended : ExtendedMantissa) (places : Nat) :
    (extended >>> places).mantissa = extended.mantissa / 2 ^ places := by
  induction places with
  | zero => exact (Nat.div_one _).symm
  | succ places induction =>
    show (extended >>> places).mantissa / 2 = _
    rw [induction, Nat.div_div_eq_div_mul, pow_succ]

theorem mantissa_ofMantissaAndAccuracy (mantissa : Nat) (accuracy : Accuracy) :
    (ExtendedMantissa.ofMantissaAndAccuracy mantissa accuracy).mantissa =
      mantissa := by
  cases accuracy with
  | exact => rfl
  | inexact order => cases order <;> rfl

theorem le_roundedMantissa (extended : ExtendedMantissa) :
    extended.mantissa ≤ extended.roundedMantissa := by
  rcases extended with ⟨mantissa, round, sticky⟩
  cases round <;> cases sticky <;>
    simp only [ExtendedMantissa.roundedMantissa, ExtendedMantissa.accuracy,
      Accuracy.roundToNearestEven] <;> omega

/-- How far a mantissa with enough bits is shifted. -/
theorem wanted_of_full {mantissa : Nat} {exponent : Int} (full : 2 ^ 52 ≤ mantissa)
    (least : -1074 ≤ exponent) : wanted mantissa exponent - exponent = mantissa.log2 - 52 ∧
    52 ≤ mantissa.log2 := by
  have log : 52 ≤ mantissa.log2 := (Nat.le_log2 (by omega)).mpr full
  rw [wanted_eq]
  exact ⟨by omega, log⟩

/-- The shift after a rounding drops at most a zero. -/
theorem shiftToTargetExponent_rounded {rounded : Nat} {exponent : Int} (full : 2 ^ 52 ≤ rounded)
    (most : rounded ≤ 2 ^ 53) (least : -1074 ≤ exponent) : ∃ final : Nat, ∃ carry : Nat,
    (shiftToTargetExponent Format.binary64 rounded exponent .exact).1.mantissa = final ∧
      (shiftToTargetExponent Format.binary64 rounded exponent .exact).2 = exponent + carry ∧
      2 ^ 52 ≤ final ∧ final < 2 ^ 53 ∧ carry ≤ 1 ∧ rounded = final * 2 ^ carry := by
  rcases wanted_of_full full least with ⟨shift, log⟩
  have places : (wanted rounded exponent - exponent).toNat = rounded.log2 - 52 := by
    omega
  have shifted : (shiftToTargetExponent Format.binary64 rounded exponent
          .exact).1.mantissa = rounded / 2 ^ (rounded.log2 - 52) ∧
      (shiftToTargetExponent Format.binary64 rounded exponent .exact).2 =
        exponent + (rounded.log2 - 52 : Nat) := by
    rw [← places]
    constructor
    · show (ExtendedMantissa.ofMantissaAndAccuracy rounded .exact >>>
          (wanted rounded exponent - exponent).toNat).mantissa = _
      rw [mantissa_shiftRight, mantissa_ofMantissaAndAccuracy]
    · rfl
  rcases Nat.lt_or_eq_of_le most with short | overflow
  · have bits : rounded.log2 = 52 := (Nat.log2_eq_iff (by omega)).mpr ⟨full, short⟩
    rw [bits] at shifted
    exact ⟨rounded, 0, shifted.1.trans (Nat.div_one _), shifted.2, full, short,
        by decide, by rw [pow_zero, Nat.mul_one]⟩
  · subst overflow
    have bits : (2 ^ 53).log2 = 53 := Nat.log2_two_pow
    rw [bits] at shifted
    exact ⟨2 ^ 52, 1, shifted.1, shifted.2, le_rfl, by decide, by decide, by decide⟩

/-- The bits that a rounding leaves. -/
theorem quotient_full {mantissa : Nat} (full : 2 ^ 52 ≤ mantissa) :
    2 ^ 52 ≤ mantissa / 2 ^ (mantissa.log2 - 52) := by
  have log : 52 ≤ mantissa.log2 := (Nat.le_log2 (by omega)).mpr full
  have sum : 52 + (mantissa.log2 - 52) = mantissa.log2 := by omega
  rw [Nat.le_div_iff_mul_le (Nat.two_pow_pos _), ← pow_add, sum]
  exact Nat.log2_self_le (by omega)

/-- A rounding drops the last bits, up to one unit. -/
theorem roundWithAccuracy_eq {mantissa : Nat} {exponent : Int} (accuracy : Accuracy)
    (full : 2 ^ 52 ≤ mantissa) (least : -1074 ≤ exponent) : ∃ rounded final carry : Nat, ∃ positive,
    mantissa / 2 ^ (mantissa.log2 - 52) ≤ rounded ∧
      rounded ≤ mantissa / 2 ^ (mantissa.log2 - 52) + 1 ∧
      roundWithAccuracy Format.binary64 .positive mantissa exponent accuracy =
        .finite .positive final (exponent + (mantissa.log2 - 52 : Nat) + carry) positive ∧
      2 ^ 52 ≤ final ∧ final < 2 ^ 53 ∧ carry ≤ 1 ∧ rounded = final * 2 ^ carry := by
  rcases wanted_of_full full least with ⟨shift, log⟩
  have places : (wanted mantissa exponent - exponent).toNat = mantissa.log2 - 52 := by
    omega
  have low :=
    le_roundedMantissa (ExtendedMantissa.ofMantissaAndAccuracy mantissa accuracy >>>
        (mantissa.log2 - 52))
  have high :=
    roundedMantissa_le (ExtendedMantissa.ofMantissaAndAccuracy mantissa accuracy >>>
        (mantissa.log2 - 52))
  rw [mantissa_shiftRight, mantissa_ofMantissaAndAccuracy] at low high
  have quotientShort : mantissa / 2 ^ (mantissa.log2 - 52) < 2 ^ 53 := by
    have shifted := shifted_lt mantissa exponent
    rw [places] at shifted
    exact shifted
  have floor : -1074 ≤ exponent + (mantissa.log2 - 52 : Nat) := by omega
  rcases shiftToTargetExponent_rounded ((quotient_full full).trans low)
      (high.trans quotientShort) floor with
    ⟨final, carry, mantissaIs, exponentIs, finalFull, finalShort, small, value⟩
  refine ⟨_, final, carry, by omega, low, high, ?_, finalFull, finalShort, small, value⟩
  have first : shiftToTargetExponent Format.binary64 mantissa exponent accuracy =
      (ExtendedMantissa.ofMantissaAndAccuracy mantissa accuracy >>> (mantissa.log2 - 52),
        exponent + (mantissa.log2 - 52 : Nat)) := by
    show (ExtendedMantissa.ofMantissaAndAccuracy mantissa accuracy >>>
          (wanted mantissa exponent - exponent).toNat,
        exponent + ((wanted mantissa exponent - exponent).toNat : Int)) = _
    rw [places]
  simp only [roundWithAccuracy, first, mantissaIs, exponentIs]
  rw [dif_neg (by omega)]

/-! ## Normal numbers -/

/-- A positive normal number with a moderate exponent and its value. -/
inductive Normal (range : Int) (value : ℚ) : UnpackedFloat → Prop where
  | finite {mantissa : Nat} {exponent : Int} {positive : 0 < mantissa}
      (full : 2 ^ 52 ≤ mantissa) (short : mantissa < 2 ^ 53)
      (low : -range ≤ exponent) (high : exponent ≤ range) (same : value = mantissa * 2 ^ exponent) :
      Normal range value (.finite .positive mantissa exponent positive)

/-- At most one part in `2 ^ 52` away from the exact result. -/
def Close (exact value : ℚ) : Prop :=
  |value - exact| ≤ exact / 2 ^ 52

/-- A number with all bits is read as it was stored. -/
theorem unpack_pack_finite (sign : Sign) {mantissa : Nat} {exponent : Int} {positive : 0 < mantissa}
    (full : 2 ^ 52 ≤ mantissa) (short : mantissa < 2 ^ 53)
    (low : -900 ≤ exponent) (high : exponent ≤ 900) :
    (Float.Model.pack (.finite sign mantissa exponent positive)).unpack =
      .finite sign mantissa exponent positive := by
  have biased : (exponent + Format.binary64.exponentBias +
      Format.binary64.mantissaBitsWithoutImplicit).toNat = (exponent + 1075).toNat := by
    show (exponent + 1023 + 52).toNat = _
    omega
  have fits : ¬ 2 ^ Format.binary64.exponentBits ≤ (exponent + 1075).toNat + 1 := by
    show ¬ 2048 ≤ _
    omega
  have bits : mantissa.log2 + 1 = Format.binary64.mantissaBits := by
    have log : mantissa.log2 = 52 := (Nat.log2_eq_iff positive.ne').mpr ⟨full, short⟩
    rw [log]
    rfl
  have exactly : (BitVec.ofNat 11 (exponent + 1075).toNat).toNat = (exponent + 1075).toNat := by
    rw [BitVec.toNat_ofNat]
    exact Nat.mod_eq_of_lt (by omega)
  have finite : BitVec.ofNat 11 (exponent + 1075).toNat ≠ -1#11 := by
    intro all
    have values := congrArg BitVec.toNat all
    rw [exactly] at values
    have equal : (exponent + 1075).toNat = 2047 := values
    omega
  have nonzero : BitVec.ofNat 11 (exponent + 1075).toNat ≠ 0#11 := by
    intro all
    have values := congrArg BitVec.toNat all
    rw [exactly] at values
    have equal : (exponent + 1075).toNat = 0 := values
    omega
  have implicit : (1#1 ++ BitVec.ofNat 52 mantissa).toNat = mantissa := by
    rw [BitVec.toNat_append, ← Nat.shiftLeft_add_eq_or_of_lt
      (BitVec.ofNat 52 mantissa).isLt, BitVec.toNat_ofNat]
    show 1 <<< 52 + mantissa % 2 ^ 52 = mantissa
    rw [Nat.one_shiftLeft]
    omega
  show UnpackedFloat.unpack Format.binary64 (UnpackedFloat.pack Format.binary64 _) = _
  simp only [UnpackedFloat.pack, biased, if_neg fits, if_pos bits,
    UnpackedFloat.unpack, unpackMantissa_packComponents,
    unpackExponent_packComponents, unpackSign_packComponents,
    Sign.ofBitVec_toBitVec, if_neg finite, if_neg nonzero, exactly, implicit]
  congr 1
  show ((exponent + 1075).toNat : Int) - (1023 + 52) = exponent
  omega

/-- A normal number is read as it was stored. -/
theorem Normal.stored {range : Int} {value : ℚ} {number : UnpackedFloat}
    (normal : Normal range value number) (small : range ≤ 900) :
    (Float.Model.pack number).unpack = number := by
  cases normal with
  | @finite mantissa exponent positive full short low high same =>
    exact unpack_pack_finite .positive full short (by omega) (by omega)

/-- What is left of a mantissa, up to one unit, is close to the number. -/
theorem close_of_cut {mantissa rounded places : Nat} {exponent : Int} {exact : ℚ}
    (full : 2 ^ 52 ≤ mantissa / 2 ^ places) (low : mantissa / 2 ^ places ≤ rounded)
    (high : rounded ≤ mantissa / 2 ^ places + 1) (above : mantissa * 2 ^ exponent ≤ exact)
    (below : exact < (mantissa + 1) * 2 ^ exponent) :
    Close exact (rounded * 2 ^ (exponent + places)) := by
  have cut := Nat.div_mul_le_self mantissa (2 ^ places)
  have rest : mantissa + 1 ≤ (mantissa / 2 ^ places + 1) * 2 ^ places :=
    Nat.lt_mul_of_div_lt (Nat.lt_succ_self _) (Nat.two_pow_pos places)
  generalize mantissa / 2 ^ places = quotient at *
  have unit : (0 : ℚ) < 2 ^ exponent := zpow_pos two_pos _
  have larger : (0 : ℚ) < 2 ^ places * 2 ^ exponent := mul_pos (by positivity) unit
  have scale : (2 : ℚ) ^ (exponent + places) = 2 ^ places * 2 ^ exponent := by
    rw [zpow_add₀ two_ne_zero, zpow_natCast, mul_comm]
  have cutValue : (quotient : ℚ) * (2 ^ places * 2 ^ exponent) ≤ exact := by
    have whole : (quotient : ℚ) * 2 ^ places ≤ mantissa := by
      exact_mod_cast cut
    rw [← mul_assoc]
    exact (mul_le_mul_of_nonneg_right whole unit.le).trans above
  have restValue : exact < (quotient + 1) * (2 ^ places * 2 ^ exponent) := by
    have whole : (mantissa : ℚ) + 1 ≤ (quotient + 1) * 2 ^ places := by
      exact_mod_cast rest
    rw [← mul_assoc]
    exact below.trans_le (mul_le_mul_of_nonneg_right whole unit.le)
  have fullValue : 2 ^ 52 * (2 ^ places * 2 ^ exponent) ≤
      (quotient : ℚ) * (2 ^ places * 2 ^ exponent) := by
    apply mul_le_mul_of_nonneg_right _ larger.le
    exact_mod_cast full
  have lowValue : (quotient : ℚ) * (2 ^ places * 2 ^ exponent) ≤
      rounded * (2 ^ places * 2 ^ exponent) := by
    apply mul_le_mul_of_nonneg_right _ larger.le
    exact_mod_cast low
  have highValue : (rounded : ℚ) * (2 ^ places * 2 ^ exponent) ≤
      (quotient + 1) * (2 ^ places * 2 ^ exponent) := by
    apply mul_le_mul_of_nonneg_right _ larger.le
    exact_mod_cast high
  rw [Close, scale, abs_le]
  constructor <;> linarith

/-- A rounded number is close to what was cut off to a mantissa. -/
theorem exists_roundWithAccuracy {mantissa : Nat} {exponent range : Int} {exact : ℚ}
    (accuracy : Accuracy) (full : 2 ^ 52 ≤ mantissa) (low : -range ≤ exponent) (small : range ≤ 900)
    (high : exponent + (mantissa.log2 - 52 : Nat) + 1 ≤ range)
    (above : mantissa * 2 ^ exponent ≤ exact) (below : exact < (mantissa + 1) * 2 ^ exponent) :
    ∃ value, Normal range value (roundWithAccuracy Format.binary64 .positive mantissa exponent
            accuracy) ∧
        Close exact value := by
  have least : -1074 ≤ exponent := by omega
  rcases roundWithAccuracy_eq accuracy full least with
    ⟨rounded, final, carry, positive, fewest, most, result, finalFull, finalShort, carried, value⟩
  have close := close_of_cut (quotient_full full) fewest most above below
  have same : (rounded : ℚ) * 2 ^ (exponent + (mantissa.log2 - 52 : Nat)) =
      final * 2 ^ (exponent + (mantissa.log2 - 52 : Nat) + carry) := by
    rw [value, zpow_add₀ two_ne_zero (exponent + (_ : Nat)), zpow_natCast]
    push_cast
    ring
  have normal : Normal range (rounded * 2 ^ (exponent + (mantissa.log2 - 52 : Nat)))
      (roundWithAccuracy Format.binary64 .positive mantissa exponent accuracy) := by
    rw [result]
    exact .finite finalFull finalShort (by omega) (by omega) same
  exact ⟨_, normal, close⟩

/-- The same, as it is read after it was stored. -/
theorem exists_rounded {mantissa : Nat} {exponent range : Int} {exact : ℚ}
    (accuracy : Accuracy) (full : 2 ^ 52 ≤ mantissa) (low : -range ≤ exponent) (small : range ≤ 900)
    (high : exponent + (mantissa.log2 - 52 : Nat) + 1 ≤ range)
    (above : mantissa * 2 ^ exponent ≤ exact) (below : exact < (mantissa + 1) * 2 ^ exponent) :
    ∃ value, Normal range value (Float.Model.pack
            (roundWithAccuracy Format.binary64 .positive mantissa exponent accuracy)).unpack ∧
        Close exact value := by
  rcases exists_roundWithAccuracy accuracy full low small high above below with
    ⟨value, normal, close⟩
  refine ⟨value, ?_, close⟩
  rwa [normal.stored small]

/-! ## Operations -/

theorem Normal.mul {range other : Int} {first second : ℚ} {left right : UnpackedFloat}
    (normal : Normal range first left) (also : Normal other second right)
    (small : range + other + 55 ≤ 900) : ∃ value, Normal (range + other + 55) value
        (Float.Model.pack (UnpackedFloat.mul Format.binary64 left right)).unpack ∧
      Close (first * second) value := by
  cases normal with
  | @finite mantissa exponent positive full short low high same =>
  cases also with
  | @finite factor power large fuller shorter lower higher value =>
    have product : 2 ^ 52 ≤ mantissa * factor :=
      full.trans (Nat.le_mul_of_pos_right mantissa large)
    have log : (mantissa * factor).log2 < 106 := by
      rw [Nat.log2_lt (by omega)]
      calc
        mantissa * factor < 2 ^ 53 * 2 ^ 53 := Nat.mul_lt_mul'' short shorter
        _ = 2 ^ 106 := by decide
    have exactly : first * second = (mantissa * factor : Nat) * 2 ^ (exponent + power) := by
      rw [same, value, zpow_add₀ two_ne_zero]
      push_cast
      ring
    have unit : (0 : ℚ) < 2 ^ (exponent + power) := zpow_pos two_pos _
    apply exists_rounded .exact product (by omega) small (by omega) exactly.ge
    rw [exactly]
    linarith

theorem Normal.div {range other : Int} {first second : ℚ} {left right : UnpackedFloat}
    (normal : Normal range first left) (also : Normal other second right)
    (small : range + other + 55 ≤ 900) : ∃ value, Normal (range + other + 55) value
        (Float.Model.pack (UnpackedFloat.div Format.binary64 left right)).unpack ∧
      Close (first / second) value := by
  cases normal with
  | @finite mantissa exponent positive full short low high same =>
  cases also with
  | @finite divisor power large fuller shorter lower higher value =>
    have log : mantissa.log2 = 52 := (Nat.log2_eq_iff positive.ne').mpr ⟨full, short⟩
    have logOther : divisor.log2 = 52 := (Nat.log2_eq_iff large.ne').mpr ⟨fuller, shorter⟩
    have target : min (exponent - power) (Format.binary64.targetExponent
            (totalExponent mantissa exponent - totalExponent divisor power)) =
        exponent - power - 53 := by
      show min (exponent - power) (max ((mantissa.log2 + 1 + exponent -
                  (divisor.log2 + 1 + power)) - 53) (-1074)) = _
      rw [log, logOther]
      omega
    have core : divCore Format.binary64 mantissa exponent divisor power =
        (mantissa * 2 ^ 53 / divisor, exponent - power - 53,
          accuracyOfFraction (mantissa * 2 ^ 53 % divisor) divisor) := by
      have places : (exponent - power - (exponent - power - 53)).toNat = 53 := by
        omega
      simp only [divCore, target, places, Nat.shiftLeft_eq]
    have quotient : 2 ^ 52 ≤ mantissa * 2 ^ 53 / divisor := by
      rw [Nat.le_div_iff_mul_le large]
      exact Nat.mul_le_mul full shorter.le
    have bits : (mantissa * 2 ^ 53 / divisor).log2 < 54 := by
      rw [Nat.log2_lt (by omega), Nat.div_lt_iff_lt_mul large]
      calc
        mantissa * 2 ^ 53 < 2 ^ 53 * 2 ^ 53 := Nat.mul_lt_mul_of_pos_right short (by decide)
        _ = 2 ^ 54 * 2 ^ 52 := by decide
        _ ≤ 2 ^ 54 * divisor := Nat.mul_le_mul_left _ fuller
    have whole : (0 : ℚ) < divisor := by exact_mod_cast large
    have exactly : first / second = (mantissa * 2 ^ 53 : Nat) / divisor *
          2 ^ (exponent - power - 53) := by
      rw [same, value, zpow_sub₀ two_ne_zero, zpow_sub₀ two_ne_zero]
      push_cast
      have nonzero : (2 : ℚ) ^ power ≠ 0 := zpow_ne_zero _ two_ne_zero
      field_simp
    have unit : (0 : ℚ) < 2 ^ (exponent - power - 53) := zpow_pos two_pos _
    have result : UnpackedFloat.div Format.binary64 (.finite .positive mantissa exponent positive)
          (.finite .positive divisor power large) = roundWithAccuracy Format.binary64 .positive
          (mantissa * 2 ^ 53 / divisor) (exponent - power - 53)
          (accuracyOfFraction (mantissa * 2 ^ 53 % divisor) divisor) := by
      simp only [UnpackedFloat.div, core]
      rfl
    rw [result]
    apply exists_rounded _ quotient (by omega) small (by omega)
    · rw [exactly]
      apply mul_le_mul_of_nonneg_right _ unit.le
      exact Nat.cast_div_le
    · rw [exactly]
      apply mul_lt_mul_of_pos_right _ unit
      rw [div_lt_iff₀ whole]
      exact_mod_cast Nat.lt_mul_of_div_lt (Nat.lt_succ_self _) large

/-- Rounding an exact number with any number of bits. -/
theorem exists_round_normal {mantissa : Nat} {exponent range : Int} (positive : 0 < mantissa)
    (low : -range ≤ exponent + mantissa.log2 - 52) (small : range ≤ 900) (lower : -range ≤ exponent)
    (high : exponent + mantissa.log2 + 1 ≤ range) : ∃ value, Normal range value
        (UnpackedFloat.round Format.binary64 .positive mantissa exponent) ∧
      Close (mantissa * 2 ^ exponent) value := by
  have target : (exponent - wanted mantissa exponent).toNat = 52 - mantissa.log2 := by
    rw [wanted_eq]
    omega
  have result : UnpackedFloat.round Format.binary64 .positive mantissa exponent =
      roundWithAccuracy Format.binary64 .positive (mantissa * 2 ^ (52 - mantissa.log2))
        (exponent - (52 - mantissa.log2 : Nat)) .exact := by
    rw [← Nat.shiftLeft_eq, ← target]
    rfl
  have bits := (Nat.log2_eq_iff positive.ne').mp rfl
  have full : 2 ^ 52 ≤ mantissa * 2 ^ (52 - mantissa.log2) := by
    calc
      2 ^ 52 ≤ 2 ^ (mantissa.log2 + (52 - mantissa.log2)) :=
          Nat.pow_le_pow_right (by decide) (by omega)
      _ = 2 ^ mantissa.log2 * 2 ^ (52 - mantissa.log2) := pow_add _ _ _
      _ ≤ _ := Nat.mul_le_mul_right _ bits.1
  have log : (mantissa * 2 ^ (52 - mantissa.log2)).log2 <
      mantissa.log2 + 1 + (52 - mantissa.log2) := by
    rw [Nat.log2_lt (by omega), pow_add]
    exact Nat.mul_lt_mul_of_pos_right bits.2 (Nat.two_pow_pos _)
  have exactly : (mantissa : ℚ) * 2 ^ exponent = (mantissa * 2 ^ (52 - mantissa.log2) : Nat) *
        2 ^ (exponent - (52 - mantissa.log2 : Nat)) := by
    rw [zpow_sub₀ two_ne_zero, zpow_natCast]
    push_cast
    field_simp
  have unit : (0 : ℚ) < 2 ^ (exponent - (52 - mantissa.log2 : Nat)) := zpow_pos two_pos _
  rw [result]
  apply exists_roundWithAccuracy .exact full (by omega) small (by omega) exactly.ge
  rw [exactly]
  linarith

/-- The same, as it is read after it was stored. -/
theorem exists_round {mantissa : Nat} {exponent range : Int} (positive : 0 < mantissa)
    (low : -range ≤ exponent + mantissa.log2 - 52) (small : range ≤ 900) (lower : -range ≤ exponent)
    (high : exponent + mantissa.log2 + 1 ≤ range) : ∃ value, Normal range value (Float.Model.pack
          (UnpackedFloat.round Format.binary64 .positive mantissa exponent)).unpack ∧
      Close (mantissa * 2 ^ exponent) value := by
  rcases exists_round_normal positive low small lower high with ⟨value, normal, close⟩
  refine ⟨value, ?_, close⟩
  rwa [normal.stored small]

/-- A whole number that fits is stored as it is, up to a rounding. -/
theorem exists_ofNat {number : Nat} (positive : 0 < number) (small : number < 2 ^ 64) : ∃ value,
    Normal 100 value (number.toUInt64.toFloat).toModel.unpack ∧
      Close number value := by
  have fits : number.toUInt64.toNat = number := by
    show number % 2 ^ 64 = number
    exact Nat.mod_eq_of_lt small
  have log := (Nat.log2_lt positive.ne').mpr small
  have gt : compare (number : Int) 0 = .gt := by
    rw [compare_gt_iff_gt]
    omega
  have result : (number.toUInt64.toFloat).toModel.unpack = (Float.Model.pack
        (UnpackedFloat.round Format.binary64 .positive number 0)).unpack := by
    show (Float.Model.pack (normalize Format.binary64 (number.toUInt64.toNat : Int) 0
          .positive)).unpack = _
    rw [fits, UnpackedFloat.normalize, gt]
    rfl
  rcases @exists_round number 0 100 positive (by omega) (by decide)
      (by decide) (by omega) with ⟨value, normal, close⟩
  rw [zpow_zero, mul_one] at close
  rw [result]
  exact ⟨value, normal, close⟩

end Mozetto.Library.NormalDoubles

/-!
## Differences in double precision

The difference of two positive normal numbers is zero, a normal number, or the
negation of one, and differs from the exact difference by at most one part in
`2 ^ 52`.  A number closer than a half to a whole number is rounded to it.
-/

namespace Mozetto.Library.SignedDoubles

open Float.Model Float.Model.UnpackedFloat
open Mozetto.Library.Binary64
open Mozetto.Library.NormalDoubles

variable {range : Int} {value first second : ℚ}
variable {number left right : UnpackedFloat}

/-! ### Signs -/

theorem roundWithAccuracy_negative (mantissa : Nat) (exponent : Int) (accuracy : Accuracy) :
    roundWithAccuracy Format.binary64 .negative mantissa exponent accuracy =
      (roundWithAccuracy Format.binary64 .positive mantissa exponent accuracy).neg := by
  simp only [roundWithAccuracy]
  split
  · rfl
  · rfl

theorem round_negative (mantissa : Nat) (exponent : Int) :
    UnpackedFloat.round Format.binary64 .negative mantissa exponent =
      (UnpackedFloat.round Format.binary64 .positive mantissa exponent).neg :=
  roundWithAccuracy_negative _ _ _

/-- The negation of a normal number is read as it was stored. -/
theorem Normal.stored_neg (normal : Normal range value number) (small : range ≤ 900) :
    (Float.Model.pack number.neg).unpack = number.neg := by
  cases normal with
  | @finite mantissa exponent positive full short low high same =>
    exact unpack_pack_finite _ full short (by omega) (by omega)

/-! ### Differences -/

/-- What the difference of two positive numbers is read as. -/
inductive Difference (range : Int) (first second : ℚ) : UnpackedFloat → Prop
  | equal (same : first = second) : Difference range first second (.zero .positive)
  | above {value : ℚ} {number : UnpackedFloat} (less : second < first)
      (normal : Normal range value number) (close : Close (first - second) value) :
      Difference range first second number
  | below {value : ℚ} {number : UnpackedFloat} (less : first < second)
      (normal : Normal range value number) (close : Close (second - first) value) :
      Difference range first second number.neg

/-- A mantissa at a lower exponent. -/
theorem value_aligned {mantissa : Nat} {exponent lower : Int} (within : lower ≤ exponent) :
    (mantissa : ℚ) * 2 ^ exponent =
      (mantissa * 2 ^ (exponent - lower).toNat : Nat) * 2 ^ lower := by
  have split : exponent = (exponent - lower).toNat + lower := by omega
  conv_lhs => rw [split, zpow_add₀ two_ne_zero, zpow_natCast]
  push_cast
  ring

/-- Rounding a whole number of units, up to a bound. -/
theorem exists_round_units {units : Nat} {exponent : Int} {places : Nat} (positive : 0 < units)
    (short : units < 2 ^ (53 + places)) (low : -range ≤ exponent)
    (high : exponent + places ≤ range) (small : range + 55 ≤ 900) : ∃ value,
    Normal (range + 55) value (UnpackedFloat.round Format.binary64 .positive units exponent) ∧
      Close (units * 2 ^ exponent) value := by
  have log := (Nat.log2_lt positive.ne').mpr short
  exact exists_round_normal positive (by omega) small (by omega) (by omega)

theorem Normal.sub (normal : Normal range first left) (also : Normal range second right)
    (small : range + 55 ≤ 900) : Difference (range + 55) first second (Float.Model.pack
      (UnpackedFloat.sub Format.binary64 left right)).unpack := by
  cases normal with
  | @finite mantissa exponent positive full short low high same =>
  cases also with
  | @finite other power large fuller shorter lower higher value =>
    have places : max exponent power - min exponent power =
        ((max exponent power - min exponent power).toNat : Int) := by
      omega
    have most (m : Nat) (e : Int) (bits : m < 2 ^ 53) (within : e ≤ max exponent power) :
        m * 2 ^ (e - min exponent power).toNat <
          2 ^ (53 + (max exponent power - min exponent power).toNat) := by
      rw [pow_add]
      apply Nat.mul_lt_mul_of_lt_of_le bits _ (Nat.two_pow_pos _)
      exact Nat.pow_le_pow_right (by decide) (by omega)
    have first_eq :=
      @value_aligned mantissa exponent (min exponent power) (min_le_left _ _)
    have second_eq := @value_aligned other power (min exponent power) (min_le_right _ _)
    have firstShort := most mantissa exponent short (le_max_left _ _)
    have secondShort := most other power shorter (le_max_right _ _)
    rw [← same] at first_eq
    rw [← value] at second_eq
    have unit : (0 : ℚ) < 2 ^ min exponent power := zpow_pos two_pos _
    have result : UnpackedFloat.sub Format.binary64 (.finite .positive mantissa exponent positive)
          (.finite .positive other power large) = UnpackedFloat.normalize Format.binary64
          ((mantissa * 2 ^ (exponent - min exponent power).toNat : Nat) -
            (other * 2 ^ (power - min exponent power).toNat : Nat))
          (min exponent power) .positive := by
      simp only [UnpackedFloat.sub, decreaseExponent, Nat.shiftLeft_eq, Sign.apply]
    rw [result]
    generalize mantissa * 2 ^ (exponent - min exponent power).toNat =
      firstUnits at first_eq firstShort ⊢
    generalize other * 2 ^ (power - min exponent power).toNat =
      secondUnits at second_eq secondShort ⊢
    rw [UnpackedFloat.normalize]
    rcases Nat.lt_trichotomy firstUnits secondUnits with
      less | equal | more
    · have lt : compare ((firstUnits : Int) - secondUnits) 0 = .lt := by
        rw [compare_lt_iff_lt]
        omega
      have units : (-((firstUnits : Int) - secondUnits)).toNat = secondUnits - firstUnits := by
        omega
      rw [lt]
      dsimp only
      rw [units, round_negative]
      rcases @exists_round_units range (secondUnits - firstUnits) (min exponent power)
          (max exponent power - min exponent power).toNat (by omega)
          (lt_of_le_of_lt (Nat.sub_le _ _) secondShort) (by omega)
          (by omega) small with ⟨result, rounded, close⟩
      rw [Normal.stored_neg rounded small]
      have exactly : ((secondUnits - firstUnits : Nat) : ℚ) * 2 ^ min exponent power =
          second - first := by
        rw [first_eq, second_eq, Nat.cast_sub less.le]
        ring
      rw [exactly] at close
      apply Difference.below _ rounded close
      rw [first_eq, second_eq]
      apply mul_lt_mul_of_pos_right _ unit
      exact_mod_cast less
    · have eq : compare ((firstUnits : Int) - secondUnits) 0 = .eq := by
        rw [compare_eq_iff_eq]
        omega
      have values : first = second := by
        rw [first_eq, second_eq, equal]
      have read : (Float.Model.pack (.zero .positive)).unpack = .zero .positive := rfl
      rw [eq]
      dsimp only
      rw [read]
      exact .equal values
    · have gt : compare ((firstUnits : Int) - secondUnits) 0 = .gt := by
        rw [compare_gt_iff_gt]
        omega
      have units : ((firstUnits : Int) - secondUnits).toNat = firstUnits - secondUnits := by
        omega
      rw [gt]
      dsimp only
      rw [units]
      rcases @exists_round_units range (firstUnits - secondUnits) (min exponent power)
          (max exponent power - min exponent power).toNat (by omega)
          (lt_of_le_of_lt (Nat.sub_le _ _) firstShort) (by omega)
          (by omega) small with ⟨result, rounded, close⟩
      rw [rounded.stored small]
      have exactly : ((firstUnits - secondUnits : Nat) : ℚ) * 2 ^ min exponent power =
          first - second := by
        rw [first_eq, second_eq, Nat.cast_sub more.le]
        ring
      rw [exactly] at close
      apply Difference.above _ rounded close
      rw [first_eq, second_eq]
      apply mul_lt_mul_of_pos_right _ unit
      exact_mod_cast more

end Mozetto.Library.SignedDoubles
