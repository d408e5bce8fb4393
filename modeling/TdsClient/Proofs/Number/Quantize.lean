import Mathlib.Algebra.Order.Field.Power
import Mathlib.Algebra.Order.Field.Rat
import Mathlib.Tactic.Positivity
import Mathlib.Tactic.Ring
import TdsClient.Number.Decimal.Quantize

/-!
# The value of a rounded decimal

A finite decimal number stands for a rational number. Rounding it to a
scale gives a multiple of a power of ten that keeps to the precision, and if
no digit falls away it gives the number itself.

## Main definitions

* `Decimal.value?` — the number that a finite decimal stands for.

## Main results

* `abs_rational_lt` — the digits in front of the point bound a number.
* `quantize?_eq_ite` — what a rounded number looks like.
-/

namespace TdsClient.Number

namespace Digits

/-- A number with at most `k` digits is below the power of ten. -/
theorem lt_pow_of_digitCount_le {n k : Nat} (h : digitCount n ≤ k) : n < 10 ^ k :=
  Nat.lt_of_lt_of_le (lt_pow_digitCount n) (Nat.pow_le_pow_right (by decide) h)

/-- A number below the power of ten has at most `k` digits, and never less than one. -/
theorem digitCount_le_of_lt_pow {n k : Nat} (hk : 0 < k) (h : n < 10 ^ k) :
    digitCount n ≤ k := by
  induction k generalizing n with
  | zero => exact absurd hk (Nat.lt_irrefl 0)
  | succ k ih =>
      unfold digitCount
      by_cases hsmall : n < 10
      · rw [if_pos hsmall]
        omega
      · rw [if_neg hsmall]
        have hk' : 0 < k := by
          by_contra hzero
          have hzero' : k = 0 := by omega
          rw [hzero'] at h
          omega
        have hdiv : n / 10 < 10 ^ k := by
          rw [Nat.pow_succ] at h
          omega
        have hrest := ih hk' hdiv
        omega

end Digits

namespace Decimal

/-- The number of a sign, a coefficient and an exponent of ten. -/
def rational (negative : Bool) (coefficient : Nat) (exponent : Int) : ℚ :=
  (if negative then -1 else 1) * (coefficient * 10 ^ exponent)

/-- The number that a decimal stands for, if it is finite. -/
def value? : Decimal → Option ℚ
  | .finite negative coefficient exponent => some (rational negative coefficient exponent)
  | _ => none

theorem abs_rational (negative : Bool) (coefficient : Nat) (exponent : Int) :
    |rational negative coefficient exponent| = coefficient * 10 ^ exponent := by
  have hnonneg : (0 : ℚ) ≤ coefficient * 10 ^ exponent := by positivity
  unfold rational
  cases negative with
  | false => rw [if_neg (by decide), one_mul, abs_of_nonneg hnonneg]
  | true => rw [if_pos rfl, neg_one_mul, abs_neg, abs_of_nonneg hnonneg]

theorem rational_zero (negative : Bool) (exponent : Int) : rational negative 0 exponent = 0 := by
  unfold rational
  rw [Nat.cast_zero, zero_mul, mul_zero]

/-- The digits in front of the point bound a number. -/
theorem abs_rational_lt (negative : Bool) (coefficient : Nat) (exponent : Int) {whole : Nat}
    (hwhole : (Digits.digitCount coefficient : Int) + exponent ≤ whole) :
    |rational negative coefficient exponent| < 10 ^ whole := by
  rw [abs_rational]
  have hcoefficient : (coefficient : ℚ) < 10 ^ Digits.digitCount coefficient := by
    exact_mod_cast Digits.lt_pow_digitCount coefficient
  have hpositive : (0 : ℚ) < 10 ^ exponent := by positivity
  calc (coefficient : ℚ) * 10 ^ exponent
      < 10 ^ Digits.digitCount coefficient * 10 ^ exponent :=
        mul_lt_mul_of_pos_right hcoefficient hpositive
    _ = 10 ^ ((Digits.digitCount coefficient : Int) + exponent) := by
        rw [zpow_add₀ (by decide), zpow_natCast]
    _ ≤ 10 ^ (whole : Int) := zpow_le_zpow_right₀ (by decide) hwhole
    _ = 10 ^ whole := zpow_natCast _ _

/-- A multiple of a power of ten with few digits. -/
theorem abs_rational_lt_of_digits (negative : Bool) {coefficient precision scale : Nat}
    (hdigits : coefficient < 10 ^ precision) (hscale : scale ≤ precision) :
    |rational negative coefficient (-scale)| < 10 ^ (precision - scale) := by
  rw [abs_rational]
  have hcoefficient : (coefficient : ℚ) < 10 ^ precision := by exact_mod_cast hdigits
  have hpositive : (0 : ℚ) < 10 ^ (-(scale : Int)) := by positivity
  calc (coefficient : ℚ) * 10 ^ (-(scale : Int))
      < 10 ^ precision * 10 ^ (-(scale : Int)) := mul_lt_mul_of_pos_right hcoefficient hpositive
    _ = 10 ^ ((precision : Int) + -(scale : Int)) := by
        rw [zpow_add₀ (by decide), zpow_natCast]
    _ = 10 ^ (precision - scale) := by
        rw [← Int.sub_eq_add_neg, ← Int.ofNat_sub hscale]
        exact zpow_natCast _ _

/-- A number of a scale is a multiple of a power of ten. -/
theorem rational_neg (negative : Bool) (coefficient scale : Nat) :
    ∃ m : Int, rational negative coefficient (-scale) = m / 10 ^ scale := by
  refine ⟨if negative then -coefficient else coefficient, ?_⟩
  unfold rational
  rw [zpow_neg, zpow_natCast]
  cases negative with
  | false =>
      rw [if_neg (by decide), if_neg (by decide)]
      push_cast
      ring
  | true =>
      rw [if_pos rfl, if_pos rfl]
      push_cast
      ring

/-- Shifting a coefficient to the left is exact. -/
theorem rational_shift (negative : Bool) (coefficient : Nat) {exponent : Int} {scale : Nat}
    (hshift : 0 ≤ exponent + scale) :
    rational negative (shiftCoefficient coefficient (exponent + scale)) (-scale) =
      rational negative coefficient exponent := by
  unfold rational shiftCoefficient
  rw [if_pos hshift]
  have hpower : ((coefficient * Nat.pow 10 (exponent + scale).toNat : Nat) : ℚ) *
      10 ^ (-(scale : Int)) = coefficient * 10 ^ exponent := by
    have hcast : ((Nat.pow 10 (exponent + scale).toNat : Nat) : ℚ) = 10 ^ (exponent + scale) := by
      rw [Nat.pow_eq, Nat.cast_pow, ← zpow_natCast, Int.toNat_of_nonneg hshift]
      rfl
    rw [Nat.cast_mul, hcast, mul_assoc, ← zpow_add₀ (by decide), Int.add_neg_cancel_right]
  rw [hpower]

theorem shiftCoefficient_zero (shift : Int) : shiftCoefficient 0 shift = 0 := by
  unfold shiftCoefficient
  split
  · exact Nat.zero_mul _
  · split
    · rfl
    · rw [Nat.cast_zero, zero_div]
      exact congrArg Int.toNat (Rounding.halfEven_intCast 0)

/-- A coefficient shifted to the left keeps to a precision that has the place for it. -/
theorem shiftCoefficient_lt (coefficient : Nat) {shift : Int} {precision : Nat}
    (hshift : 0 ≤ shift) (hplace : Digits.digitCount coefficient + shift ≤ precision) :
    shiftCoefficient coefficient shift < 10 ^ precision := by
  unfold shiftCoefficient
  rw [if_pos hshift]
  calc coefficient * 10 ^ shift.toNat
      < 10 ^ Digits.digitCount coefficient * 10 ^ shift.toNat :=
        Nat.mul_lt_mul_of_pos_right (Digits.lt_pow_digitCount coefficient)
          (Nat.pow_pos (by decide))
    _ = 10 ^ (Digits.digitCount coefficient + shift.toNat) := (Nat.pow_add _ _ _).symm
    _ ≤ 10 ^ precision := Nat.pow_le_pow_right (by decide) (by omega)

/-- A number whose first digit has a place in the precision is rounded, unless the rounding carries
into one digit more. -/
theorem quantize?_eq_ite (negative : Bool) {coefficient : Nat} {exponent : Int}
    {precision scale : Nat} (hprecision : 0 < precision)
    (hplace : Digits.digitCount coefficient + (exponent + scale) ≤ (precision : Int)) :
    (finite negative coefficient exponent).quantize? precision scale =
      if shiftCoefficient coefficient (exponent + scale) < 10 ^ precision then
        some (.finite negative (shiftCoefficient coefficient (exponent + scale)) (-scale))
      else none := by
  unfold quantize?
  dsimp only
  by_cases hzero : coefficient = 0
  · rw [if_pos hzero, hzero, shiftCoefficient_zero, if_pos (Nat.pow_pos (by decide))]
  · rw [if_neg hzero, if_neg (by omega)]
    by_cases hfits : shiftCoefficient coefficient (exponent + scale) < 10 ^ precision
    · have hdigits := Digits.digitCount_le_of_lt_pow hprecision hfits
      rw [if_pos hfits, if_neg (by omega)]
    · rw [if_neg hfits, if_pos]
      by_contra hdigits
      exact hfits (Digits.lt_pow_of_digitCount_le (Nat.le_of_not_lt hdigits))

end Decimal

end TdsClient.Number
