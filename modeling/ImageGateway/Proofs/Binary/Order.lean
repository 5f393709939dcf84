import Mathlib.Algebra.Order.Field.Power
import Mathlib.Algebra.Order.Ring.Rat
import ImageGateway.Binary.Basic

/-! Finite values as rational numbers. The comparison brings two values to one power of two, and
what it finds is the order of the numbers. -/
namespace ImageGateway.Binary.Finite

def toRat (x : Finite) : ℚ :=
  (if x.negative then -(x.mantissa : ℚ) else x.mantissa) * 2 ^ x.exponent

theorem scaled_mul {x : Finite} {unit : Int} (small : unit ≤ x.exponent) :
    (x.scaled unit : ℚ) * 2 ^ unit = x.toRat := by
  have shift : ((x.mantissa <<< (x.exponent - unit).toNat : Nat) : ℚ) * 2 ^ unit =
      x.mantissa * 2 ^ x.exponent := by
    have distance : ((x.exponent - unit).toNat : Int) = x.exponent - unit := by omega
    have power : (2 : ℚ) ^ (x.exponent - unit).toNat * 2 ^ unit = 2 ^ x.exponent := by
      rw [← zpow_natCast, distance, ← zpow_add₀ two_ne_zero, sub_add_cancel]
    rw [Nat.shiftLeft_eq]
    push_cast
    rw [mul_assoc, power]
  unfold scaled toRat
  cases x.negative with
  | true =>
    simp only [if_true]
    push_cast
    rw [neg_mul, neg_mul]
    exact congrArg Neg.neg shift
  | false => exact_mod_cast shift

theorem le_iff {x y : Finite} : x.le y = true ↔ x.toRat ≤ y.toRat := by
  have left := scaled_mul (min_le_left x.exponent y.exponent)
  have right := scaled_mul (min_le_right x.exponent y.exponent)
  have positive : (0 : ℚ) < 2 ^ min x.exponent y.exponent := zpow_pos two_pos _
  rw [← left, ← right, mul_le_mul_iff_left₀ positive, Int.cast_le, le]
  exact decide_eq_true_iff

/-- The same value is the same number, whatever its mantissa and the sign of zero. -/
theorem same_iff {x y : Finite} : x.same y = true ↔ x.toRat = y.toRat := by
  rw [same, Bool.and_eq_true, le_iff, le_iff, le_antisymm_iff]

end ImageGateway.Binary.Finite
