import Mathlib.Order.Compare
import TdsClient.Proofs.Number.Quantize
import TdsClient.Value.Order

/-!
# The order of integers

All numbers are compared as decimals, by sign, place of the first digit, and
digits. Between integers this is the order of the integers.

## Main results

* `less_int` — an integer value is less than another if the integer is.
-/

namespace TdsClient

namespace Number

/-- More digits make a larger number. -/
theorem Digits.lt_of_digitCount_lt {m n : Nat} (h : digitCount m < digitCount n) : m < n := by
  by_contra hle
  have hbound : n < 10 ^ digitCount m :=
    Nat.lt_of_le_of_lt (Nat.le_of_not_lt hle) (lt_pow_digitCount m)
  have hcount := digitCount_le_of_lt_pow (digitCount_pos m) hbound
  omega

namespace Decimal

/-- Magnitudes without a fraction are compared as they are. -/
theorem compareMagnitude_zero (m n : Nat) : compareMagnitude m 0 n 0 = compare m n := by
  unfold compareMagnitude
  dsimp only
  by_cases hless : (Digits.digitCount m : Int) + 0 < Digits.digitCount n + 0
  · have hlt : m < n := Digits.lt_of_digitCount_lt (by omega)
    rw [if_pos hless, compare_lt_iff_lt.2 hlt]
  · rw [if_neg hless]
    by_cases hgreater : (Digits.digitCount n : Int) + 0 < Digits.digitCount m + 0
    · have hgt : n < m := Digits.lt_of_digitCount_lt (by omega)
      rw [if_pos hgreater, compare_gt_iff_gt.2 hgt]
    · rw [if_neg hgreater]
      have hpow : Nat.pow 10 ((0 : Int) - min 0 0).toNat = 1 := rfl
      rw [hpow, Nat.mul_one, Nat.mul_one]

theorem sign_ofInt (n : Int) : sign (ofInt n) = n.sign := by
  show (if n.natAbs = 0 then 0 else if decide (n < 0) = true then -1 else 1) = n.sign
  rcases Int.lt_trichotomy n 0 with hn | rfl | hn
  · rw [if_neg (by omega), if_pos (decide_eq_true hn), Int.sign_eq_neg_one_of_neg hn]
  · rfl
  · rw [if_neg (by omega), if_neg (by simpa using Int.le_of_lt hn), Int.sign_eq_one_of_pos hn]

/-- Pairs in the same order are compared alike. -/
theorem compare_congr {α β : Type} [LinearOrder α] [LinearOrder β] {a b : α} {c d : β}
    (hless : a < b ↔ c < d) (hgreater : b < a ↔ d < c) : compare a b = compare c d := by
  rcases lt_trichotomy a b with hab | hab | hab
  · rw [compare_lt_iff_lt.2 hab, compare_lt_iff_lt.2 (hless.1 hab)]
  · have hcd : c = d := by
      refine le_antisymm (not_lt.1 fun h => ?_) (not_lt.1 fun h => ?_)
      · exact absurd (hgreater.2 h) (by rw [hab]; exact lt_irrefl b)
      · exact absurd (hless.2 h) (by rw [hab]; exact lt_irrefl b)
    rw [compare_eq_iff_eq.2 hab, compare_eq_iff_eq.2 hcd]
  · rw [compare_gt_iff_gt.2 hab, compare_gt_iff_gt.2 (hgreater.1 hab)]

/-- Integers are compared as they are. -/
theorem compare?_ofInt (m n : Int) : compare? (ofInt m) (ofInt n) = some (compare m n) := by
  have habs : ∀ a b : Int, compareAbs (ofInt a) (ofInt b) = compare a.natAbs b.natAbs :=
    fun a b => compareMagnitude_zero a.natAbs b.natAbs
  show (if (ofInt m).sign ≠ (ofInt n).sign then some (compare (ofInt m).sign (ofInt n).sign)
    else if (ofInt m).sign = 0 then some .eq
    else if (ofInt m).sign = 1 then some (compareAbs (ofInt m) (ofInt n))
    else some (compareAbs (ofInt n) (ofInt m))) = _
  rw [sign_ofInt, sign_ofInt, habs, habs]
  rcases Int.lt_trichotomy m 0 with hm | rfl | hm
  · rw [Int.sign_eq_neg_one_of_neg hm]
    rcases Int.lt_trichotomy n 0 with hn | rfl | hn
    · rw [Int.sign_eq_neg_one_of_neg hn, if_neg (by decide), if_neg (by decide),
        if_neg (by decide)]
      exact congrArg some (compare_congr (by omega) (by omega))
    · exact congrArg some (compare_lt_iff_lt.2 hm).symm
    · rw [Int.sign_eq_one_of_pos hn, if_pos (by decide)]
      exact congrArg some (compare_lt_iff_lt.2 (Int.lt_trans hm hn)).symm
  · rcases Int.lt_trichotomy n 0 with hn | rfl | hn
    · rw [Int.sign_eq_neg_one_of_neg hn, if_pos (by decide)]
      exact congrArg some (compare_gt_iff_gt.2 hn).symm
    · rfl
    · rw [Int.sign_eq_one_of_pos hn, if_pos (by decide)]
      exact congrArg some (compare_lt_iff_lt.2 hn).symm
  · rw [Int.sign_eq_one_of_pos hm]
    rcases Int.lt_trichotomy n 0 with hn | rfl | hn
    · rw [Int.sign_eq_neg_one_of_neg hn, if_pos (by decide)]
      exact congrArg some (compare_gt_iff_gt.2 (Int.lt_trans hn hm)).symm
    · exact congrArg some (compare_gt_iff_gt.2 hm).symm
    · rw [Int.sign_eq_one_of_pos hn, if_neg (by decide), if_neg (by decide), if_pos rfl]
      exact congrArg some (compare_congr (by omega) (by omega))

end Decimal

end Number

namespace Value

/-- An integer value is less than another if the integer is. -/
theorem less_int (m n : Int) : (Value.int m).less (.int n) = .ok (decide (m < n)) := by
  have hless : (Value.int m).less (.int n) = lessAtoms (.int m) (.int n) := by
    rw [less]
    · simp
    · simp
    · simp
    · simp
    · simp
    · simp
  have hm : (Value.int m).asNumber? = some (.ofInt m) := rfl
  have hn : (Value.int n).asNumber? = some (.ofInt n) := rfl
  rw [hless]
  unfold lessAtoms
  rw [hm, hn]
  dsimp only
  rw [Number.Decimal.compare?_ofInt]
  exact congrArg Except.ok (decide_eq_decide.2 compare_lt_iff_lt)

end Value

end TdsClient
