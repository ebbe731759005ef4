import Mathlib
import NamedParams.Raw

/-! Unsigned integers of 64 bits are finite as floats. -/

namespace NamedParams.Binary64

open Float.Model (Format UnpackedFloat)
open Float.Model.UnpackedFloat

/-- A float whose exponent is small enough for the format is packed as a finite one. -/
theorem isFinite_pack {sign : Sign} {mantissa : Nat} {exponent : Int} {positive : 0 < mantissa}
    (small : exponent < 972) :
    (unpack .binary64 (pack .binary64 (.finite sign mantissa exponent positive))).isFinite =
      true := by
  -- The stored exponent is not the greatest one, which is that of the infinities.
  have finite (e : BitVec 11) (m : BitVec 52) (bounded : e ≠ -1#11) :
      (unpack .binary64 (packComponents .binary64 sign e m)).isFinite = true := by
    simp only [unpack, unpackExponent_packComponents, if_neg bounded]
    split
    · split <;> rfl
    · rfl
  have stored : (exponent + 1023 + 52).toNat < 2047 := by omega
  simp only [pack]
  rw [if_neg (by change ¬ 2048 ≤ (exponent + 1023 + 52).toNat + 1; omega)]
  split
  · refine finite _ _ fun infinite => ?_
    have same := congrArg BitVec.toNat infinite
    change (exponent + 1023 + 52).toNat % 2048 = 2047 at same
    omega
  · exact finite _ _ (by decide)

/-- Rounding adds at most one to a mantissa. -/
theorem roundedMantissa_le (m : ExtendedMantissa) : m.roundedMantissa ≤ m.mantissa + 1 := by
  -- Rounding adds one at most, whatever was cut off.
  unfold ExtendedMantissa.roundedMantissa Accuracy.roundToNearestEven
  split <;> omega

/-- Shifting to the right makes no mantissa greater. -/
theorem mantissa_shiftRight_le (m : ExtendedMantissa) (count : Nat) :
    (m >>> count).mantissa ≤ m.mantissa := by
  -- Every place that is shifted out halves the mantissa.
  induction count with
  | zero => exact Nat.le_refl _
  | succ count ih => exact Nat.le_trans (Nat.div_le_self _ 2) ih

/-- The number of bits of a mantissa bounds the exponent that it is shifted to. -/
theorem shiftToTargetExponent_le {mantissa bits : Nat} {exponent bound : Int} {accuracy : Accuracy}
    (narrow : mantissa < 2 ^ bits) (some_bits : 0 < bits) (low : exponent ≤ bound)
    (target : bits + exponent - 53 ≤ bound) (least : -1074 ≤ bound) :
    (shiftToTargetExponent .binary64 mantissa exponent accuracy).1.mantissa ≤ mantissa ∧
      (shiftToTargetExponent .binary64 mantissa exponent accuracy).2 ≤ bound := by
  -- The mantissa is shifted by as much as its length exceeds the format, and no less far than the
  -- smallest exponent allows.
  have log : mantissa.log2 < bits := by
    rcases Nat.eq_zero_or_pos mantissa with rfl | positive
    · simpa using some_bits
    · exact (Nat.log2_lt (Nat.pos_iff_ne_zero.1 positive)).2 narrow
  constructor
  · refine Nat.le_trans (mantissa_shiftRight_le _ _) ?_
    cases accuracy with
    | exact => exact Nat.le_refl _
    | inexact order => cases order <;> exact Nat.le_refl _
  · change exponent + ((max (mantissa.log2 + 1 + exponent - 53) (-1074) - exponent).toNat : Int) ≤
      bound
    omega

/-- A mantissa of 116 bits is rounded to zero or to a float with a small exponent. -/
theorem roundWithAccuracy_cases {mantissa : Nat} {exponent : Int} (sign : Sign)
    (narrow : mantissa < 2 ^ 116) (low : exponent ≤ 0) :
    roundWithAccuracy .binary64 sign mantissa exponent .exact = .zero sign ∨
      ∃ m e positive, e < 972 ∧
        roundWithAccuracy .binary64 sign mantissa exponent .exact = .finite sign m e positive := by
  -- Rounding can make the mantissa one bit longer, so it is shifted twice.
  let first := shiftToTargetExponent .binary64 mantissa exponent .exact
  let second := shiftToTargetExponent .binary64 first.1.roundedMantissa first.2 .exact
  have first_small : first.1.mantissa ≤ mantissa ∧ first.2 ≤ 63 :=
    shiftToTargetExponent_le narrow (by decide) (by omega) (by omega) (by decide)
  have rounded : first.1.roundedMantissa < 2 ^ 117 := by
    have one_more := roundedMantissa_le first.1
    omega
  have second_small : second.1.mantissa ≤ first.1.roundedMantissa ∧ second.2 ≤ 127 :=
    shiftToTargetExponent_le rounded (by decide) (by omega) (by omega) (by decide)
  have whole : roundWithAccuracy .binary64 sign mantissa exponent .exact =
      if nothing : second.1.mantissa = 0 then .zero sign
      else .finite sign second.1.mantissa second.2 (Nat.pos_of_ne_zero nothing) := rfl
  -- What is left of the mantissa decides between zero and a number.
  rw [whole]
  split
  · exact .inl rfl
  · rename_i something
    exact .inr ⟨_, _, Nat.pos_of_ne_zero something, by omega, rfl⟩

/-- An unsigned integer of 64 bits is a finite float. -/
theorem isFinite_toFloat (n : UInt64) : n.toFloat.isFinite = true := by
  -- Conversion normalizes the integer and rounds it once.
  have model : n.toFloat.isFinite = (unpack .binary64 (pack .binary64
      (UnpackedFloat.normalize .binary64 n.toNat 0 .positive))).isFinite := rfl
  rw [model, UnpackedFloat.normalize]
  split
  · rename_i negative
    exact absurd (Int.compare_eq_lt.1 negative) (by omega)
  · rfl
  · -- The mantissa is first made longer by at most 52 bits.
    let shift := (0 - max ((n.toNat.log2 : Int) + 1 + 0 - 53) (-1074)).toNat
    have short : n.toNat <<< shift < 2 ^ 116 := by
      have few : shift ≤ 52 := by omega
      calc n.toNat <<< shift = n.toNat * 2 ^ shift := Nat.shiftLeft_eq _ _
        _ ≤ n.toNat * 2 ^ 52 := Nat.mul_le_mul_left _ (Nat.pow_le_pow_right (by decide) few)
        _ < 2 ^ 64 * 2 ^ 52 := Nat.mul_lt_mul_of_pos_right n.toNat_lt (by decide)
        _ = 2 ^ 116 := by decide
    have whole : UnpackedFloat.round .binary64 .positive n.toNat 0 =
        roundWithAccuracy .binary64 .positive (n.toNat <<< shift) (0 - shift) .exact := rfl
    rw [Int.toNat_natCast, whole]
    have low : (0 : Int) - shift ≤ 0 := by omega
    -- What is rounded has an exponent far below the largest one.
    rcases roundWithAccuracy_cases .positive short low with nothing | something
    · rw [nothing]
      rfl
    · obtain ⟨m, e, positive, small, result⟩ := something
      rw [result]
      exact isFinite_pack small

end NamedParams.Binary64
