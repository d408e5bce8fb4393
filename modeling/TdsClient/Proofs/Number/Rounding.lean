import Mathlib.Tactic.Linarith
import Mathlib.Tactic.NormNum
import TdsClient.Proofs.Number.Quantize

/-!
# Rounding to the nearest even integer

The rounding of a number is the only integer that is at most half a unit
away from it, and even if it is half a unit away. It follows that rounding
is symmetric around zero and keeps to integer bounds.

A decimal number is rounded by its digits: the coefficient is shifted, and
one whose digits all fall away becomes zero. This is the rounding of the
number in units of its last digit, whatever its exponent, and the number is
refused exactly if the rounding has more digits than allowed.

## Main definitions

* `Rounding.IsNearestEven` — the integer that a number is rounded to.

## Main results

* `Rounding.isNearestEven_iff` — it is the one that is computed.
* `Decimal.shiftCoefficient_eq` — shifting a coefficient rounds it.
* `Decimal.quantize?_eq` — what a number is rounded to, and when it is not.
-/

namespace TdsClient.Number

namespace Rounding

/-- An integer that is at most half a unit away from a number, and even if it is half a unit
away. -/
def IsNearestEven (x : ℚ) (n : Int) : Prop :=
  |x - n| ≤ 1 / 2 ∧ (|x - n| = 1 / 2 → n % 2 = 0)

/-- The rounding of a number is the nearest integer. -/
theorem isNearestEven_halfEven (x : ℚ) : IsNearestEven x (halfEven x) := by
  have hlow : (x.floor : ℚ) ≤ x := Rat.floor_le x
  have hhigh : x < x.floor + 1 := by exact_mod_cast Rat.lt_floor_add_one x
  unfold halfEven
  dsimp only
  split
  next hrest =>
    have habs : |x - x.floor| < 1 / 2 := by rwa [abs_of_nonneg (by linarith)]
    exact ⟨habs.le, fun h => absurd h habs.ne⟩
  next hrest =>
    split
    next hmore =>
      have habs : |x - ((x.floor + 1 : Int) : ℚ)| < 1 / 2 := by
        push_cast
        rw [abs_of_nonpos (by linarith)]
        linarith
      exact ⟨habs.le, fun h => absurd h habs.ne⟩
    next hless =>
      have hhalf : x - x.floor = 1 / 2 := le_antisymm (not_lt.1 hless) (not_lt.1 hrest)
      split
      next heven =>
        rw [IsNearestEven, hhalf, abs_of_pos (by norm_num)]
        exact ⟨le_rfl, fun _ => heven⟩
      next hodd =>
        have habs : |x - ((x.floor + 1 : Int) : ℚ)| = 1 / 2 := by
          push_cast
          rw [abs_of_nonpos (by linarith)]
          linarith
        refine ⟨habs.le, fun _ => by omega⟩

/-- Of two integers that are nearest to a number none is less: they would be neighbours, and both
even. -/
theorem IsNearestEven.not_lt {x : ℚ} {m n : Int} (hm : IsNearestEven x m)
    (hn : IsNearestEven x n) : ¬ m < n := by
  intro hlt
  have hstep : (m : ℚ) + 1 ≤ n := by exact_mod_cast hlt
  have hbelow := (abs_le.1 hm.1).2
  have habove := (abs_le.1 hn.1).1
  have hm' : |x - m| = 1 / 2 := by
    rw [abs_of_nonneg (by linarith)]
    linarith
  have hn' : |x - n| = 1 / 2 := by
    rw [abs_of_nonpos (by linarith)]
    linarith
  have hnext : n = m + 1 := by
    have : (n : ℚ) = ((m + 1 : Int) : ℚ) := by
      push_cast
      linarith
    exact_mod_cast this
  have heven := hm.2 hm'
  have heven' := hn.2 hn'
  omega

/-- Only one integer is nearest to a number. -/
theorem IsNearestEven.unique {x : ℚ} {m n : Int} (hm : IsNearestEven x m)
    (hn : IsNearestEven x n) : m = n :=
  le_antisymm (Int.not_lt.1 (hn.not_lt hm)) (Int.not_lt.1 (hm.not_lt hn))

/-- An integer is the nearest to a number if and only if the number is rounded to it. -/
theorem isNearestEven_iff {x : ℚ} {n : Int} : IsNearestEven x n ↔ n = halfEven x := by
  constructor
  · exact fun h => h.unique (isNearestEven_halfEven x)
  · rintro rfl
    exact isNearestEven_halfEven x

theorem halfEven_neg (x : ℚ) : halfEven (-x) = -halfEven x := by
  obtain ⟨habs, heven⟩ := isNearestEven_halfEven x
  symm
  rw [← isNearestEven_iff]
  have hsame : |-x - ((-halfEven x : Int) : ℚ)| = |x - halfEven x| := by
    rw [← abs_neg]
    push_cast
    ring_nf
  rw [IsNearestEven, hsame]
  exact ⟨habs, fun h => by have := heven h; omega⟩

/-- A number that is not below an integer is not rounded to less. -/
theorem le_halfEven {x : ℚ} {n : Int} (h : (n : ℚ) ≤ x) : n ≤ halfEven x := by
  have hbelow := sub_halfEven_le x
  by_contra hlt
  have hstep : (halfEven x : ℚ) + 1 ≤ n := by exact_mod_cast Int.not_le.1 hlt
  linarith

/-- A number is not rounded to less than an even integer if it is at most half a unit below it. -/
theorem le_halfEven_iff {x : ℚ} {n : Int} (heven : n % 2 = 0) :
    n ≤ halfEven x ↔ (n : ℚ) - 1 / 2 ≤ x := by
  constructor
  · intro h
    have habove := halfEven_sub_le x
    have hle : (n : ℚ) ≤ halfEven x := by exact_mod_cast h
    linarith
  · intro h
    by_cases hbelow : (n : ℚ) ≤ x
    · exact le_halfEven hbelow
    · have habs : |x - n| ≤ 1 / 2 := abs_le.2 ⟨by linarith, by linarith⟩
      have hnearest : IsNearestEven x n := ⟨habs, fun _ => heven⟩
      exact (isNearestEven_iff.1 hnearest).le

/-- The size of a rounding is the rounding of the size. -/
theorem abs_halfEven (x : ℚ) : |halfEven x| = halfEven |x| := by
  by_cases hsign : 0 ≤ x
  · have hnonneg : 0 ≤ halfEven x := le_halfEven (by exact_mod_cast hsign)
    rw [abs_of_nonneg hsign, abs_of_nonneg hnonneg]
  · have hpos : 0 ≤ -x := by linarith
    have hnonneg : 0 ≤ halfEven (-x) := le_halfEven (by exact_mod_cast hpos)
    rw [abs_of_neg (not_le.1 hsign), ← abs_neg, ← halfEven_neg, abs_of_nonneg hnonneg]

end Rounding

namespace Digits

/-- A number with `k` digits is not below the power of ten of one digit less. -/
theorem pow_le_of_pos {n : Nat} (hn : 0 < n) : 10 ^ (digitCount n - 1) ≤ n := by
  by_contra hlt
  by_cases hone : digitCount n = 1
  · rw [hone] at hlt
    exact hlt hn
  · have hpos := digitCount_pos n
    have hcount := digitCount_le_of_lt_pow (k := digitCount n - 1) (by omega) (Nat.lt_of_not_le hlt)
    omega

end Digits

namespace Decimal

/-- A coefficient whose digits all fall away is less than a tenth. -/
theorem shifted_lt_tenth {coefficient : Nat} {shift : Int}
    (haway : (Digits.digitCount coefficient : Int) < -shift) :
    (coefficient : ℚ) * 10 ^ shift < 1 / 10 := by
  have hcoefficient : (coefficient : ℚ) < 10 ^ Digits.digitCount coefficient := by
    exact_mod_cast Digits.lt_pow_digitCount coefficient
  have hpositive : (0 : ℚ) < 10 ^ shift := by positivity
  calc (coefficient : ℚ) * 10 ^ shift
      < 10 ^ Digits.digitCount coefficient * 10 ^ shift :=
        mul_lt_mul_of_pos_right hcoefficient hpositive
    _ = 10 ^ ((Digits.digitCount coefficient : Int) + shift) := by
        rw [zpow_add₀ (by decide), zpow_natCast]
    _ ≤ 10 ^ (-1 : Int) := zpow_le_zpow_right₀ (by decide) (by omega)
    _ = 1 / 10 := by norm_num

/-- Shifting a coefficient rounds it. -/
theorem shiftCoefficient_eq (coefficient : Nat) (shift : Int) :
    (shiftCoefficient coefficient shift : Int) =
      Rounding.halfEven ((coefficient : ℚ) * 10 ^ shift) := by
  have hnonneg : (0 : ℚ) ≤ coefficient * 10 ^ shift := by positivity
  unfold shiftCoefficient
  by_cases hleft : 0 ≤ shift
  · obtain ⟨places, rfl⟩ := Int.eq_ofNat_of_zero_le hleft
    have hcast : (coefficient : ℚ) * 10 ^ (places : Int) =
        ((coefficient * Nat.pow 10 places : Nat) : Int) := by
      rw [zpow_natCast, Nat.pow_eq]
      push_cast
      rfl
    rw [if_pos hleft, hcast, Rounding.halfEven_intCast]
    rfl
  · rw [if_neg hleft]
    by_cases haway : (Digits.digitCount coefficient : Int) < -shift
    · have htenth := shifted_lt_tenth haway
      rw [if_pos haway, ← Rounding.isNearestEven_iff]
      have habs : |(coefficient : ℚ) * 10 ^ shift - ((0 : Nat) : Int)| < 1 / 2 := by
        rw [Nat.cast_zero, Int.cast_zero, sub_zero, abs_of_nonneg hnonneg]
        linarith
      exact ⟨habs.le, fun h => absurd h habs.ne⟩
    · have hquotient : (coefficient : ℚ) / (Nat.pow 10 (-shift).toNat : ℚ) =
          coefficient * 10 ^ shift := by
        obtain ⟨places, hplaces⟩ := Int.eq_ofNat_of_zero_le (show 0 ≤ -shift by omega)
        obtain rfl : shift = -(places : Int) := by omega
        rw [neg_neg, Int.toNat_natCast, zpow_neg, zpow_natCast, div_eq_mul_inv, Nat.pow_eq]
        push_cast
        rfl
      rw [if_neg haway, hquotient]
      exact Int.toNat_of_nonneg (Rounding.le_halfEven (by exact_mod_cast hnonneg))

/-- A number with a digit in front of a place is not below it. -/
theorem pow_le_mul_zpow {coefficient : Nat} {shift : Int} {place : Nat} (hpos : 0 < coefficient)
    (hplace : (place : Int) < Digits.digitCount coefficient + shift) :
    (10 : ℚ) ^ place ≤ coefficient * 10 ^ shift := by
  have hcoefficient : (10 : ℚ) ^ (Digits.digitCount coefficient - 1) ≤ coefficient := by
    exact_mod_cast Digits.pow_le_of_pos hpos
  have hcount := Digits.digitCount_pos coefficient
  have hpositive : (0 : ℚ) < 10 ^ shift := by positivity
  calc (10 : ℚ) ^ place
      = 10 ^ (place : Int) := (zpow_natCast _ _).symm
    _ ≤ 10 ^ (((Digits.digitCount coefficient - 1 : Nat) : Int) + shift) :=
        zpow_le_zpow_right₀ (by decide) (by omega)
    _ = 10 ^ (Digits.digitCount coefficient - 1) * 10 ^ shift := by
        rw [zpow_add₀ (by decide), zpow_natCast]
    _ ≤ coefficient * 10 ^ shift := mul_le_mul_of_nonneg_right hcoefficient hpositive.le

/-- A number with a digit beyond the precision is not rounded to less. -/
theorem pow_le_shiftCoefficient {coefficient : Nat} {shift : Int} {precision : Nat}
    (hpos : 0 < coefficient) (hplace : (precision : Int) < Digits.digitCount coefficient + shift) :
    10 ^ precision ≤ shiftCoefficient coefficient shift := by
  have hdigit := pow_le_mul_zpow hpos hplace
  have hle := Rounding.le_halfEven (n := ((10 ^ precision : Nat) : Int)) (by exact_mod_cast hdigit)
  rw [← shiftCoefficient_eq] at hle
  exact_mod_cast hle

/-- A number is rounded, unless the rounding has more digits than the precision. -/
theorem quantize?_eq (negative : Bool) (coefficient : Nat) (exponent : Int)
    {precision : Nat} (scale : Nat) (hprecision : 0 < precision) :
    (finite negative coefficient exponent).quantize? precision scale =
      if shiftCoefficient coefficient (exponent + scale) < 10 ^ precision then
        some (.finite negative (shiftCoefficient coefficient (exponent + scale)) (-scale))
      else none := by
  by_cases hplace : Digits.digitCount coefficient + (exponent + scale) ≤ (precision : Int)
  · exact quantize?_eq_ite negative hprecision hplace
  · by_cases hzero : coefficient = 0
    · subst hzero
      rw [shiftCoefficient_zero, if_pos (Nat.pow_pos (by decide))]
      rfl
    · have hlarge := pow_le_shiftCoefficient (Nat.pos_of_ne_zero hzero) (Int.not_le.1 hplace)
      rw [if_neg (Nat.not_lt_of_le hlarge)]
      unfold quantize?
      dsimp only
      rw [if_neg hzero, if_pos (Int.not_le.1 hplace)]

/-- The rounded number, in units of its last digit. -/
theorem rational_shiftCoefficient (negative : Bool) (coefficient : Nat) (exponent : Int)
    (scale : Nat) :
    rational negative (shiftCoefficient coefficient (exponent + scale)) (-scale) =
      Rounding.halfEven (rational negative coefficient exponent * 10 ^ scale) / 10 ^ scale := by
  have hrounded : ((shiftCoefficient coefficient (exponent + scale) : Nat) : ℚ) =
      Rounding.halfEven ((coefficient : ℚ) * 10 ^ (exponent + (scale : Int))) := by
    exact_mod_cast shiftCoefficient_eq coefficient (exponent + scale)
  have hunits : (coefficient : ℚ) * 10 ^ exponent * 10 ^ scale =
      coefficient * 10 ^ (exponent + (scale : Int)) := by
    rw [zpow_add₀ (by decide), zpow_natCast, mul_assoc]
  unfold rational
  rw [zpow_neg, zpow_natCast, hrounded, ← div_eq_mul_inv, mul_assoc, hunits]
  cases negative with
  | false => rw [if_neg (by decide), one_mul, one_mul]
  | true =>
      rw [if_pos rfl, neg_one_mul, neg_one_mul, Rounding.halfEven_neg]
      push_cast
      ring

end Decimal

end TdsClient.Number
