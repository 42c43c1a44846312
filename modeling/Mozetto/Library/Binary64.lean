import Mathlib

/-!
# Upper bounds in double precision

An upper bound `bound * 2 ^ scale` on a number that is not negative survives
the roundings of a product and of a sum, as long as the bound itself is a
double.  The model of the numbers is that of the language; nothing is said
here about lower bounds.
-/

namespace Mozetto.Library.Binary64

open Float.Model Float.Model.UnpackedFloat

/-! ## Shifting a mantissa -/

/-- What shifting an exact mantissa by some places leaves. -/
theorem shifted_exact (mantissa places : Nat) :
    ((ExtendedMantissa.ofMantissaAndAccuracy mantissa .exact) >>>
        places).mantissa = mantissa / 2 ^ places ∧ (2 ^ places ∣ mantissa →
        ((ExtendedMantissa.ofMantissaAndAccuracy mantissa .exact) >>> places).roundBit = false ∧
          ((ExtendedMantissa.ofMantissaAndAccuracy mantissa .exact) >>>
            places).stickyBit = false) := by
  induction places with
  | zero =>
    refine ⟨(Nat.div_one mantissa).symm, fun _ => ⟨rfl, rfl⟩⟩
  | succ places next =>
    have step : (ExtendedMantissa.ofMantissaAndAccuracy mantissa .exact) >>> (places + 1) =
        ((ExtendedMantissa.ofMantissaAndAccuracy mantissa .exact) >>> places).shiftRightOne := rfl
    rw [step]
    constructor
    · show _ / 2 = _
      rw [next.1, Nat.div_div_eq_div_mul, pow_succ]
    · intro divides
      have bits := next.2 ((pow_dvd_pow 2 (Nat.le_succ places)).trans divides)
      have even : mantissa / 2 ^ places % 2 = 0 := by
        rcases divides with ⟨quotient, rfl⟩
        rw [pow_succ, mul_assoc, Nat.mul_div_cancel_left _ (Nat.two_pow_pos places)]
        exact Nat.mul_mod_right 2 quotient
      constructor
      · show (_ % 2 != 0) = false
        rw [next.1, even]
        rfl
      · show (_ || _) = false
        rw [bits.1, bits.2]
        rfl

theorem roundedMantissa_le (extended : ExtendedMantissa) :
    extended.roundedMantissa ≤ extended.mantissa + 1 := by
  rcases extended with ⟨mantissa, round, sticky⟩
  cases round <;> cases sticky <;>
    simp only [ExtendedMantissa.roundedMantissa, ExtendedMantissa.accuracy,
      Accuracy.roundToNearestEven] <;> omega

theorem roundedMantissa_exact {extended : ExtendedMantissa} (round : extended.roundBit = false)
    (sticky : extended.stickyBit = false) : extended.roundedMantissa = extended.mantissa := by
  rcases extended with ⟨mantissa, roundBit, stickyBit⟩
  cases round
  cases sticky
  rfl

/-- A bound that is a whole number of the new units survives the rounding. -/
theorem rounded_shift_le {mantissa places bound : Nat} (bounded : mantissa ≤ bound * 2 ^ places) :
    ((ExtendedMantissa.ofMantissaAndAccuracy mantissa .exact) >>>
        places).roundedMantissa ≤ bound := by
  have shifted := shifted_exact mantissa places
  have quotient : mantissa / 2 ^ places ≤ bound :=
    Nat.div_le_of_le_mul (by rw [Nat.mul_comm]; exact bounded)
  rcases Nat.lt_or_eq_of_le quotient with below | equal
  · calc
      _ ≤ _ + 1 := roundedMantissa_le _
      _ ≤ bound := by rw [shifted.1]; exact below
  · have exactly : mantissa = bound * 2 ^ places :=
      Nat.le_antisymm bounded ((Nat.le_div_iff_mul_le (Nat.two_pow_pos places)).mp equal.ge)
    have bits := shifted.2 ⟨bound, exactly.trans (Nat.mul_comm _ _)⟩
    rw [roundedMantissa_exact bits.1 bits.2, shifted.1]
    exact quotient

/-! ## The bound -/

/-- Not negative, and at most `bound * 2 ^ scale`. -/
inductive AtMost (bound : Nat) (scale : Int) : UnpackedFloat → Prop where
  | zero (sign : Sign) : AtMost bound scale (.zero sign)
  | finite {mantissa : Nat} {exponent : Int} {positive : 0 < mantissa} (below : exponent ≤ scale)
      (bounded : mantissa ≤ bound * 2 ^ (scale - exponent).toNat) :
      AtMost bound scale (.finite .positive mantissa exponent positive)

/-- Small enough a mantissa and large enough an exponent to be stored. -/
inductive Stored : UnpackedFloat → Prop where
  | zero (sign : Sign) : Stored (.zero sign)
  | finite {mantissa : Nat} {exponent : Int} {positive : 0 < mantissa}
      (least : -1074 ≤ exponent) (short : mantissa < 2 ^ 53) :
      Stored (.finite .positive mantissa exponent positive)

theorem two_pow_split {low middle high : Int} (first : low ≤ middle) (second : middle ≤ high) :
    2 ^ (high - low).toNat = 2 ^ (high - middle).toNat * 2 ^ (middle - low).toNat := by
  rw [← pow_add]
  congr 1
  omega

/-- The exponent that the format wants for a bounded number. -/
def wanted (mantissa : Nat) (exponent : Int) : Int :=
  Format.binary64.targetExponent (totalExponent mantissa exponent)

theorem wanted_eq (mantissa : Nat) (exponent : Int) : wanted mantissa exponent =
    max ((mantissa.log2 : Int) + 1 + exponent - 53) (-1074) := rfl

theorem log2_lt_of_bounded {mantissa bound places : Nat}
    (bounded : mantissa ≤ bound * 2 ^ places) (short : bound < 2 ^ 53) :
    mantissa.log2 < 53 + places := by
  rcases Nat.eq_zero_or_pos mantissa with rfl | positive
  · simp
  · rw [Nat.log2_lt positive.ne', pow_add]
    calc
      mantissa ≤ bound * 2 ^ places := bounded
      _ < 2 ^ 53 * 2 ^ places := Nat.mul_lt_mul_of_pos_right short (Nat.two_pow_pos places)

theorem wanted_le {mantissa bound : Nat} {exponent scale : Int} (below : exponent ≤ scale)
    (bounded : mantissa ≤ bound * 2 ^ (scale - exponent).toNat)
    (short : bound < 2 ^ 53) (least : -1074 ≤ scale) : wanted mantissa exponent ≤ scale := by
  have log := log2_lt_of_bounded bounded short
  rw [wanted_eq]
  omega

/-- A shift to the wanted exponent leaves at most 53 bits. -/
theorem shifted_lt (mantissa : Nat) (exponent : Int) :
    mantissa / 2 ^ (wanted mantissa exponent - exponent).toNat < 2 ^ 53 := by
  rw [Nat.div_lt_iff_lt_mul (Nat.two_pow_pos _), ← pow_add]
  apply Nat.lt_log2_self.trans_le
  apply Nat.pow_le_pow_right (by decide)
  rw [wanted_eq]
  omega

/-- The bound after a shift to the wanted exponent. -/
theorem shift_bounded {mantissa bound : Nat} {exponent scale : Int} (below : exponent ≤ scale)
    (bounded : mantissa ≤ bound * 2 ^ (scale - exponent).toNat)
    (short : bound < 2 ^ 53) (least : -1074 ≤ scale) :
    exponent + (wanted mantissa exponent - exponent).toNat ≤ scale ∧ mantissa ≤
        bound * 2 ^ (scale - (exponent + (wanted mantissa exponent - exponent).toNat)).toNat *
          2 ^ (wanted mantissa exponent - exponent).toNat := by
  have stays := wanted_le below bounded short least
  have next : exponent + (wanted mantissa exponent - exponent).toNat ≤ scale := by omega
  refine ⟨next, ?_⟩
  have split := two_pow_split (Int.le_add_of_nonneg_right
    (Int.natCast_nonneg (wanted mantissa exponent - exponent).toNat)) next
  rw [add_sub_cancel_left, Int.toNat_natCast] at split
  rw [Nat.mul_assoc, ← split]
  exact bounded

/-- Rounding an exact number keeps the bound. -/
theorem round_atMost {mantissa bound : Nat} {exponent scale : Int} (below : exponent ≤ scale)
    (bounded : mantissa ≤ bound * 2 ^ (scale - exponent).toNat)
    (short : bound < 2 ^ 53) (least : -1074 ≤ scale) : AtMost bound scale
      (roundWithAccuracy Format.binary64 .positive mantissa exponent .exact) ∧ Stored
      (roundWithAccuracy Format.binary64 .positive mantissa exponent .exact) := by
  have first := shift_bounded below bounded short least
  have rounded := rounded_shift_le first.2
  have second := shift_bounded first.1 rounded short least
  have truncated := shifted_exact ((ExtendedMantissa.ofMantissaAndAccuracy mantissa .exact) >>>
      (wanted mantissa exponent - exponent).toNat).roundedMantissa (wanted
      ((ExtendedMantissa.ofMantissaAndAccuracy mantissa .exact) >>>
        (wanted mantissa exponent - exponent).toNat).roundedMantissa
      (exponent + (wanted mantissa exponent - exponent).toNat) -
      (exponent + (wanted mantissa exponent - exponent).toNat)).toNat
  have narrow := shifted_lt ((ExtendedMantissa.ofMantissaAndAccuracy mantissa .exact) >>>
      (wanted mantissa exponent - exponent).toNat).roundedMantissa
    (exponent + (wanted mantissa exponent - exponent).toNat)
  have quotient := Nat.div_le_of_le_mul ((Nat.mul_comm _ _).symm ▸ second.2)
  rw [← truncated.1] at narrow quotient
  have floor : -1074 ≤ exponent + (wanted mantissa exponent - exponent).toNat := by
    have := wanted_eq mantissa exponent
    omega
  simp only [roundWithAccuracy]
  split
  · exact ⟨.zero _, .zero _⟩
  · exact ⟨.finite second.1 quotient, .finite (floor.trans (Int.le_add_of_nonneg_right
        (Int.natCast_nonneg _))) narrow⟩

/-! ## Packing and unpacking -/

/-- What the bits of a positive number are read as. -/
theorem unpack_components {exponent : BitVec 11} {mantissa : BitVec 52} {bound : Nat} {scale : Int}
    (finite : exponent ≠ -1#11)
    (least : -1074 ≤ scale) (below : (exponent.toNat : Int) - 1075 ≤ scale)
    (subnormal : exponent = 0#11 → mantissa.toNat ≤ bound * 2 ^ (scale + 1074).toNat)
    (normal : exponent ≠ 0#11 → 2 ^ 52 + mantissa.toNat ≤
        bound * 2 ^ (scale - ((exponent.toNat : Int) - 1075)).toNat) : AtMost bound scale
    (UnpackedFloat.unpack Format.binary64
      (packComponents Format.binary64 .positive exponent mantissa)) := by
  simp only [UnpackedFloat.unpack, unpackMantissa_packComponents,
    unpackExponent_packComponents, unpackSign_packComponents, Sign.ofBitVec_toBitVec, if_neg finite]
  by_cases zero : exponent = 0#11
  · rw [if_pos zero]
    split
    · exact .zero _
    · refine .finite ?_ ?_
      · subst zero
        exact least
      · subst zero
        exact subnormal rfl
  · rw [if_neg zero]
    refine .finite below ?_
    have implicit : (1#1 ++ mantissa).toNat = 2 ^ 52 + mantissa.toNat := by
      rw [BitVec.toNat_append, ← Nat.shiftLeft_add_eq_or_of_lt mantissa.isLt]
      rfl
    rw [implicit]
    exact normal zero

/-- Storing a bounded number and reading it keeps the bound. -/
theorem AtMost.stored {bound : Nat} {scale : Int} {number : UnpackedFloat}
    (bounded : AtMost bound scale number) (stored : Stored number)
    (least : -1074 ≤ scale) (small : scale ≤ 900) : AtMost bound scale
    (Float.Model.pack number).unpack := by
  show AtMost bound scale (UnpackedFloat.unpack Format.binary64
      (UnpackedFloat.pack Format.binary64 number))
  cases bounded with
  | zero sign =>
    cases sign
    · exact .zero _
    · exact .zero _
  | @finite mantissa exponent positive below bounded =>
    cases stored with
    | finite floor short =>
      have biased : (exponent + Format.binary64.exponentBias +
          Format.binary64.mantissaBitsWithoutImplicit).toNat = (exponent + 1075).toNat := by
        show (exponent + 1023 + 52).toNat = _
        omega
      have fits : ¬ 2 ^ Format.binary64.exponentBits ≤ (exponent + 1075).toNat + 1 := by
        show ¬ 2048 ≤ _
        omega
      have exactly : (BitVec.ofNat 11 (exponent + 1075).toNat).toNat =
          (exponent + 1075).toNat := by
        rw [BitVec.toNat_ofNat]
        exact Nat.mod_eq_of_lt (by omega)
      simp only [UnpackedFloat.pack, biased, if_neg fits]
      split
      · rename_i full
        have high : 2 ^ 52 ≤ mantissa := by
          have log : mantissa.log2 = 52 := Nat.succ.inj full
          exact ((Nat.log2_eq_iff positive.ne').mp log).1
        apply unpack_components _ least
        · rw [exactly]
          omega
        · intro zero
          have := congrArg BitVec.toNat zero
          rw [exactly] at this
          have : (exponent + 1075).toNat = 0 := this
          omega
        · intro _
          have low : 2 ^ 52 + mantissa % 2 ^ 52 = mantissa := by omega
          rw [exactly, BitVec.toNat_ofNat, low,
            show ((exponent + 1075).toNat : Int) - 1075 = exponent by
              omega]
          exact bounded
        · intro full
          have := congrArg BitVec.toNat full
          rw [exactly] at this
          have : (exponent + 1075).toNat = 2047 := this
          omega
      · apply unpack_components (by decide) least
        · show (0 : Int) - 1075 ≤ scale
          omega
        · intro _
          rw [BitVec.toNat_ofNat]
          apply (Nat.mod_le mantissa (2 ^ 52)).trans
          apply bounded.trans
          apply Nat.mul_le_mul_left
          apply Nat.pow_le_pow_right (by decide)
          omega
        · intro nonzero
          exact absurd rfl nonzero

/-! ## Products and sums -/

theorem AtMost.mul {first second : Nat} {scale other : Int} {left right : UnpackedFloat}
    (bounded : AtMost first scale left) (also : AtMost second other right)
    (short : first * second < 2 ^ 53)
    (least : -1074 ≤ scale + other) (small : scale + other ≤ 900) :
    AtMost (first * second) (scale + other)
      (Float.Model.pack (UnpackedFloat.mul Format.binary64 left right)).unpack := by
  cases bounded with
  | zero sign =>
    cases also with
    | zero => exact (AtMost.zero _).stored (.zero _) least small
    | finite => exact (AtMost.zero _).stored (.zero _) least small
  | @finite mantissa exponent positive below bounded =>
    cases also with
    | zero => exact (AtMost.zero _).stored (.zero _) least small
    | @finite factor power large under limited =>
      have product : mantissa * factor ≤ first * second *
            2 ^ (scale + other - (exponent + power)).toNat := by
        calc
          mantissa * factor ≤ _ := Nat.mul_le_mul bounded limited
          _ = first * second * (2 ^ (scale - exponent).toNat *
                2 ^ (other - power).toNat) := by ring
          _ = _ := by
              rw [← pow_add]
              congr 2
              omega
      have rounded := round_atMost (by omega) product short least
      exact rounded.1.stored rounded.2 least small

theorem decreaseExponent_bounded {mantissa bound : Nat} {exponent scale : Int} (target : Int)
    (below : exponent ≤ scale) (bounded : mantissa ≤ bound * 2 ^ (scale - exponent).toNat) :
    (decreaseExponent mantissa exponent target).2 ≤ scale ∧
      (decreaseExponent mantissa exponent target).1 ≤ bound *
          2 ^ (scale - (decreaseExponent mantissa exponent target).2).toNat := by
  simp only [decreaseExponent, Nat.shiftLeft_eq]
  refine ⟨by omega, ?_⟩
  have split := two_pow_split (Int.sub_le_self exponent
      (Int.natCast_nonneg (exponent - target).toNat)) below
  rw [split, sub_sub_cancel, Int.toNat_natCast, ← Nat.mul_assoc]
  exact Nat.mul_le_mul_right _ bounded

theorem AtMost.round {mantissa bound : Nat} {exponent scale : Int} (below : exponent ≤ scale)
    (bounded : mantissa ≤ bound * 2 ^ (scale - exponent).toNat)
    (short : bound < 2 ^ 53) (least : -1074 ≤ scale) (small : scale ≤ 900) : AtMost bound scale
    (Float.Model.pack (UnpackedFloat.round Format.binary64 .positive mantissa
        exponent)).unpack := by
  have decreased := decreaseExponent_bounded (wanted mantissa exponent) below bounded
  have rounded := round_atMost decreased.1 decreased.2 short least
  exact rounded.1.stored rounded.2 least small

theorem finite_unpack {number : Float.Model} {sign : Sign} {mantissa : Nat} {exponent : Int}
    {positive : 0 < mantissa} (read : number.unpack = .finite sign mantissa exponent positive) :
    -1074 ≤ exponent ∧ mantissa < 2 ^ 53 := by
  have fraction : (@unpackMantissa Format.binary64 number.toBits.toBitVec).toNat <
      2 ^ 52 := BitVec.isLt _
  simp only [Float.Model.unpack, UnpackedFloat.unpack] at read
  split at read
  · split at read
    · cases read
    · cases read
  · split at read
    · rename_i zero
      split at read
      · cases read
      · cases read
        refine ⟨?_, by omega⟩
        rw [zero]
        decide
    · rename_i normal
      cases read
      refine ⟨?_, BitVec.isLt _⟩
      have positive : (@unpackExponent Format.binary64 number.toBits.toBitVec).toNat ≠ 0 := by
        intro zero
        exact normal (BitVec.eq_of_toNat_eq zero)
      show -1074 ≤ ((@unpackExponent Format.binary64 number.toBits.toBitVec).toNat :
          Int) - (1023 + 52)
      omega

/-- What is read from a number that is not negative can be stored again. -/
theorem stored_unpack {number : Float.Model} {bound : Nat} {scale : Int}
    (bounded : AtMost bound scale number.unpack) : Stored number.unpack := by
  cases read : number.unpack with
  | zero => exact .zero _
  | finite sign mantissa exponent positive =>
    rw [read] at bounded
    cases bounded
    have range := finite_unpack read
    exact .finite range.1 range.2
  | infinity =>
    rw [read] at bounded
    cases bounded
  | notANumber =>
    rw [read] at bounded
    cases bounded

theorem AtMost.add {first second : Nat} {scale : Int} {left right : Float.Model}
    (bounded : AtMost first scale left.unpack) (also : AtMost second scale right.unpack)
    (short : first + second < 2 ^ 53) (least : -1074 ≤ scale) (small : scale ≤ 900) :
    AtMost (first + second) scale (left.add right).unpack := by
  have kept := stored_unpack bounded
  have keptAlso := stored_unpack also
  show AtMost _ _ (Float.Model.pack
    (UnpackedFloat.add Format.binary64 left.unpack right.unpack)).unpack
  generalize left.unpack = left at bounded kept ⊢
  generalize right.unpack = right at also keptAlso ⊢
  cases bounded with
  | zero sign =>
    cases also with
    | zero other =>
      have result : UnpackedFloat.add Format.binary64 (.zero sign) (.zero other) = .zero sign ∨
          UnpackedFloat.add Format.binary64 (.zero sign) (.zero other) = .zero .positive := by
        simp only [UnpackedFloat.add]
        split
        · exact .inl rfl
        · exact .inr rfl
      rcases result with result | result
      · rw [result]
        exact (AtMost.zero _).stored (.zero _) least small
      · rw [result]
        exact (AtMost.zero _).stored (.zero _) least small
    | finite below bounded =>
      exact (AtMost.finite below (bounded.trans
        (Nat.mul_le_mul_right _ (Nat.le_add_left _ _)))).stored keptAlso least small
  | @finite mantissa exponent positive below bounded =>
    cases also with
    | zero =>
      exact (AtMost.finite below (bounded.trans
        (Nat.mul_le_mul_right _ (Nat.le_add_right _ _)))).stored kept least small
    | @finite other power large under limited =>
      have one := decreaseExponent_bounded (min exponent power) below bounded
      have two := decreaseExponent_bounded (min exponent power) under limited
      have same : (decreaseExponent mantissa exponent
          (min exponent power)).2 = min exponent power := by
        simp only [decreaseExponent]
        omega
      have also : (decreaseExponent other power
          (min exponent power)).2 = min exponent power := by
        simp only [decreaseExponent]
        omega
      rw [same] at one
      rw [also] at two
      have sum := Nat.add_le_add one.2 two.2
      rw [← Nat.add_mul] at sum
      have shifted : 0 < (decreaseExponent mantissa exponent (min exponent power)).1 := by
        simp only [decreaseExponent, Nat.shiftLeft_eq]
        exact Nat.mul_pos positive (Nat.two_pow_pos _)
      have rounded := AtMost.round one.1 sum short least small
      have result : UnpackedFloat.add Format.binary64
          (.finite .positive mantissa exponent positive) (.finite .positive other power large) =
          UnpackedFloat.round Format.binary64 .positive
            ((decreaseExponent mantissa exponent (min exponent power)).1 +
              (decreaseExponent other power (min exponent power)).1) (min exponent power) := by
        have gt : compare (((decreaseExponent mantissa exponent (min exponent power)).1 : Int) +
              ((decreaseExponent other power (min exponent power)).1 : Int)) 0 = .gt := by
          rw [compare_gt_iff_gt]
          omega
        simp only [UnpackedFloat.add, Sign.apply, UnpackedFloat.normalize]
        rw [gt]
        rfl
      rw [result]
      exact rounded

/-! ## Reading a comparison -/

theorem le_iff (left right : Float) :
    left ≤ right ↔ left.toModel.unpack.le right.toModel.unpack = true := decide_eq_true_iff

/-- A number between zero and one. -/
theorem atMost_one {number : Float} (nonneg : 0 ≤ number) (one : number ≤ 1) :
    AtMost 1 0 number.toModel.unpack := by
  have zeroRead : (0 : Float).toModel.unpack = .zero .positive := rfl
  have oneRead : (1 : Float).toModel.unpack = .finite .positive (2 ^ 52) (-52) (by decide) := rfl
  rw [le_iff, zeroRead] at nonneg
  rw [le_iff, oneRead] at one
  cases read : number.toModel.unpack with
  | zero => exact .zero _
  | notANumber =>
    rw [read] at nonneg
    cases nonneg
  | infinity sign =>
    rw [read] at nonneg one
    cases sign
    · cases nonneg
    · cases one
  | finite sign mantissa exponent positive =>
    rw [read] at nonneg one
    cases sign with
    | negative => cases nonneg
    | positive =>
      have range := finite_unpack read
      have order : ((compare exponent (-52)).then
          (compare mantissa (2 ^ 52))).isLE = true := one
      have bounded : exponent ≤ 0 ∧ mantissa ≤ 2 ^ (-exponent).toNat := by
        rcases lt_trichotomy exponent (-52) with below | rfl | above
        · refine ⟨by omega, range.2.le.trans ?_⟩
          apply Nat.pow_le_pow_right (by decide)
          omega
        · rw [compare_eq_iff_eq.mpr rfl] at order
          have small : mantissa ≤ 2 ^ 52 :=
            compare_le_iff_le.mp (Ordering.ne_gt_iff_isLE.mpr order)
          exact ⟨by decide, small⟩
        · rw [compare_gt_iff_gt.mpr above] at order
          cases order
      refine .finite bounded.1 ?_
      rw [Nat.one_mul, zero_sub]
      exact bounded.2

end Mozetto.Library.Binary64
