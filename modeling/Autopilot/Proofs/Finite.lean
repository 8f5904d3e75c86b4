import Mathlib

/-!
Whole numbers as reals. A whole number of 64 bits becomes a real by rounding, and by packing what
was rounded. Neither step lets the exponent come near the greatest one, which stands for infinity;
rough bounds are enough to see this.
-/

namespace Autopilot.Rounding

open Float.Model (UnpackedFloat Format totalExponent)
open Float.Model.UnpackedFloat (Sign ExtendedMantissa Accuracy shiftToTargetExponent
  roundWithAccuracy pack packedZero unpack unpackExponent unpackMantissa
  unpackExponent_packComponents mul ofInt ofNat ofScientific)

/-- A zero, or a number whose mantissa and exponent are bounded. -/
inductive Bounded (bits : Nat) (bound : Int) : UnpackedFloat → Prop
  | zero (sign : Sign) : Bounded bits bound (.zero sign)
  | finite {mantissa : Nat} {exponent : Int} (sign : Sign) (positive : 0 < mantissa)
    (small : mantissa < 2 ^ bits) (low : exponent ≤ bound) :
    Bounded bits bound (.finite sign mantissa exponent positive)

section

variable {bits more : Nat} {bound other : Int} {f g : UnpackedFloat}

theorem Bounded.isFinite (bounded : Bounded bits bound f) : f.isFinite = true := by
  cases bounded with
  | zero sign => rfl
  | finite sign positive small low => rfl

theorem Bounded.neg (bounded : Bounded bits bound f) : Bounded bits bound f.neg := by
  cases bounded with
  | zero sign => exact .zero (-sign)
  | finite sign positive small low => exact .finite (-sign) positive small low

theorem Bounded.mono (bounded : Bounded bits bound f) (wider : bound ≤ other) :
    Bounded bits other f := by
  cases bounded with
  | zero sign => exact .zero sign
  | finite sign positive small low => exact .finite sign positive small (low.trans wider)

/-! ## Rounding -/

theorem shift_mantissa_le (extended : ExtendedMantissa) (n : Nat) :
    (extended >>> n).mantissa ≤ extended.mantissa := by
  induction n with
  | zero => exact Nat.le_refl _
  | succ n ih =>
    change (extended >>> n).mantissa / 2 ≤ extended.mantissa
    omega

theorem ofMantissaAndAccuracy_mantissa (mantissa : Nat) (accuracy : Accuracy) :
    (ExtendedMantissa.ofMantissaAndAccuracy mantissa accuracy).mantissa = mantissa := by
  cases accuracy with
  | exact => rfl
  | inexact order => cases order <;> rfl

theorem roundedMantissa_le (extended : ExtendedMantissa) :
    extended.roundedMantissa ≤ extended.mantissa + 1 := by
  obtain ⟨mantissa, round, sticky⟩ := extended
  cases round <;> cases sticky <;>
    simp [ExtendedMantissa.roundedMantissa, ExtendedMantissa.accuracy, Accuracy.roundToNearestEven]
  omega

theorem log2_lt_of_lt {mantissa bits : Nat} (positive : 0 < bits) (small : mantissa < 2 ^ bits) :
    mantissa.log2 < bits := by
  by_cases zero : mantissa = 0
  · rw [zero]
    exact positive
  · exact (Nat.log2_lt zero).2 small

/-- Shifting to the target exponent keeps the mantissa bounded, and adds no more to the exponent
than there are bits. -/
theorem shift_bounded {mantissa bits : Nat} {exponent bound : Int} (accuracy : Accuracy)
    (positive : 0 < bits) (small : mantissa < 2 ^ bits) (low : exponent ≤ bound)
    (sane : 0 ≤ bound) :
    (shiftToTargetExponent .binary64 mantissa exponent accuracy).1.mantissa ≤ mantissa ∧
      (shiftToTargetExponent .binary64 mantissa exponent accuracy).2 ≤ bound + bits := by
  constructor
  · refine (shift_mantissa_le _ _).trans ?_
    rw [ofMantissaAndAccuracy_mantissa]
  · have few := log2_lt_of_lt positive small
    change exponent + ((Format.binary64.targetExponent (totalExponent mantissa exponent) -
      exponent).toNat : Int) ≤ _
    simp only [Format.targetExponent, totalExponent, Format.mantissaBits, Format.minExponent]
    norm_num
    omega

theorem round_bounded {mantissa bits : Nat} {exponent bound : Int} (sign : Sign)
    (accuracy : Accuracy) (positive : 0 < bits) (small : mantissa < 2 ^ bits)
    (low : exponent ≤ bound) (sane : 0 ≤ bound) :
    Bounded (bits + 1) (bound + bits + (bits + 1))
      (roundWithAccuracy .binary64 sign mantissa exponent accuracy) := by
  have first := shift_bounded accuracy positive small low sane
  have carry := roundedMantissa_le (shiftToTargetExponent .binary64 mantissa exponent accuracy).1
  have room : (shiftToTargetExponent .binary64 mantissa exponent accuracy).1.roundedMantissa <
      2 ^ (bits + 1) := by
    rw [Nat.pow_succ]
    omega
  have second := shift_bounded .exact bits.succ_pos room first.2 (by omega)
  unfold roundWithAccuracy
  dsimp only
  split
  · exact .zero sign
  · exact .finite sign _ (second.1.trans_lt room) second.2

/-! ## Packing -/

theorem unpackExponent_pack_le (bounded : Bounded bits bound f) (sane : 0 ≤ bound)
    (fine : bound ≤ 900) : ((unpackExponent (pack .binary64 f)).toNat : Int) ≤ bound + 1075 := by
  cases bounded with
  | zero sign =>
    rw [pack, packedZero, unpackExponent_packComponents]
    change (0 : Int) ≤ _
    omega
  | @finite mantissa exponent sign positive small low =>
    unfold pack
    simp only [Format.exponentBias]
    norm_num
    split
    · omega
    · split
      · rw [unpackExponent_packComponents, BitVec.toNat_ofNat]
        have wrapped := Nat.mod_le (exponent + 1023 + 52).toNat (2 ^ 11)
        omega
      · rw [unpackExponent_packComponents]
        change (0 : Int) ≤ _
        omega

theorem unpack_bounded {word : BitVec Format.binary64.numBits} (sane : 0 ≤ bound)
    (fine : bound ≤ 900) (low : ((unpackExponent word).toNat : Int) ≤ bound + 1075) :
    Bounded 53 bound (unpack .binary64 word) := by
  have short := (unpackMantissa word).isLt
  have ordinary : unpackExponent word ≠ -1#_ := by
    intro all
    rw [all] at low
    change (2047 : Int) ≤ _ at low
    omega
  unfold unpack
  simp only [ordinary, if_false]
  split
  next none =>
    split
    · exact .zero _
    · refine .finite _ _ (short.trans (by norm_num)) ?_
      rw [none]
      change (0 : Int) - 1075 + 1 ≤ bound
      omega
  next =>
    refine .finite _ _ (1#1 ++ unpackMantissa word).isLt ?_
    simp only [Format.exponentBias]
    norm_num
    omega

theorem unpack_pack_bounded (bounded : Bounded bits bound f) (sane : 0 ≤ bound)
    (fine : bound ≤ 900) : Bounded 53 bound (Float.Model.pack f).unpack :=
  unpack_bounded sane fine (unpackExponent_pack_le bounded sane fine)

/-! ## Conversion -/

theorem mul_bounded (positive : 0 < bits) (sane : 0 ≤ bound) (left : Bounded bits bound f)
    (right : Bounded more 0 g) :
    Bounded (bits + more + 1) (bound + (bits + more) + (bits + more + 1)) (mul .binary64 f g) := by
  cases left with
  | zero sign =>
    cases right with
    | zero other => exact .zero _
    | finite other => exact .zero _
  | @finite mantissa exponent sign _ small low =>
    cases right with
    | zero other => exact .zero _
    | @finite factor power other _ few down =>
      have room : mantissa * factor < 2 ^ (bits + more) := by
        rw [Nat.pow_add]
        exact Nat.mul_lt_mul'' small few
      have lower : exponent + power ≤ bound := by omega
      exact_mod_cast round_bounded (sign * other) .exact (by omega) room lower sane

end

theorem ofNat_bounded {n : Nat} (small : n < 2 ^ 53) : Bounded 107 213 (ofNat .binary64 n) := by
  unfold ofNat ofInt UnpackedFloat.normalize
  split
  next below =>
    have := Int.compare_eq_lt.1 below
    omega
  · exact .zero _
  · change Bounded 107 213 (UnpackedFloat.round .binary64 .positive n 0)
    have few := log2_lt_of_lt (by decide) small
    have lowest : -53 ≤ Format.binary64.targetExponent (totalExponent n 0) := by
      simp only [Format.targetExponent, totalExponent, Format.mantissaBits, Format.minExponent]
      norm_num
      omega
    unfold UnpackedFloat.round
    generalize Format.binary64.targetExponent (totalExponent n 0) = target at lowest ⊢
    have room : n <<< (0 - target).toNat < 2 ^ 106 := by
      have short : 2 ^ (0 - target).toNat ≤ 2 ^ 53 := Nat.pow_le_pow_right (by decide) (by omega)
      rw [Nat.shiftLeft_eq, show 106 = 53 + 53 from rfl, Nat.pow_add]
      exact Nat.mul_lt_mul_of_lt_of_le small short (by decide)
    have low : (0 : Int) - (0 - target).toNat ≤ 0 := by omega
    exact round_bounded .positive .exact (by decide) room low (le_refl 0)

theorem one_bounded : Bounded 54 0 (Float.ofBits 0x3FF0000000000000).toModel.unpack :=
  .finite .positive (by decide) (by decide) (by decide)

theorem ofScientific_bounded {n : Nat} (small : n < 2 ^ 64) :
    Bounded 119 237 (ofScientific .binary64 n 0) := by
  unfold ofScientific
  split
  · exact .zero _
  next positive =>
    have room : n <<< Format.binary64.mantissaBits < 2 ^ 117 := by
      rw [Nat.shiftLeft_eq]
      change n * 2 ^ 53 < _
      omega
    have near : ¬ (0 : Int) > 2 ^ Format.binary64.exponentBits := by
      change ¬ (0 : Int) > 2048
      decide
    have wide : -((2 ^ Format.binary64.exponentBits : Int) + n.log2) ≤ 0 := by
      change -((2048 : Int) + n.log2) ≤ 0
      omega
    rw [if_neg near, if_neg (by omega), if_pos (le_refl 0)]
    have left : ∀ some, Bounded 117 0 (.finite .positive (n <<< Format.binary64.mantissaBits)
        (-Format.binary64.mantissaBits) some) :=
      fun some => .finite .positive some room (by decide)
    have right : Bounded 1 0 (.finite .positive (10 ^ (0 : Int).toNat) 0 (by decide)) :=
      .finite .positive _ (by decide) (le_refl 0)
    exact mul_bounded (by decide) (le_refl 0) (left _) right

theorem float_ofNat_bounded {n : Nat} (small : n < 2 ^ 64) :
    Bounded 53 428 (Float.ofNat n).toModel.unpack := by
  change Bounded 53 428 (Float.ofScientific n false 0).toModel.unpack
  by_cases few : n < 2 ^ 53 ∧ 0 ≤ 22
  · have same : n.toUInt64.toNat = n := by simp; omega
    have whole : Bounded 53 213 (Float.Model.pack (ofNat .binary64 n.toUInt64.toNat)).unpack := by
      rw [same]
      exact unpack_pack_bounded (ofNat_bounded few.1) (by decide) (by decide)
    have product : (Float.ofScientific n false 0).toModel =
        .pack (mul .binary64 (Float.Model.pack (ofNat .binary64 n.toUInt64.toNat)).unpack
          (Float.ofBits 0x3FF0000000000000).toModel.unpack) := by
      rw [Float.ofScientific, dif_pos few]
      rfl
    rw [product]
    have once := mul_bounded (by decide) (by decide) whole one_bounded
    exact unpack_pack_bounded once (by decide) (by decide)
  · have slow : (Float.ofScientific n false 0).toModel = .pack (ofScientific .binary64 n 0) := by
      rw [Float.ofScientific, dif_neg few]
      rfl
    rw [slow]
    have near := unpack_pack_bounded (ofScientific_bounded small) (by decide) (by decide)
    exact near.mono (by decide)

end Autopilot.Rounding

namespace Autopilot

/-- A whole number of 64 bits, with or without a sign, is finite as a real. -/
theorem isFinite_ofInt {n : Int} (low : -9223372036854775808 ≤ n)
    (high : n ≤ 18446744073709551615) : (Float.ofInt n).isFinite = true := by
  cases n with
  | ofNat n =>
    have room : n < 2 ^ 64 := by
      change (n : Int) ≤ _ at high
      omega
    exact (Rounding.float_ofNat_bounded room).isFinite
  | negSucc n =>
    have whole := @Rounding.float_ofNat_bounded (n + 1) (by omega)
    exact (Rounding.unpack_pack_bounded whole.neg (by decide) (by decide)).isFinite

end Autopilot
