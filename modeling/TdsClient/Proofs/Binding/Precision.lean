import TdsClient.Proofs.Binding.Wrapped
import TdsClient.Proofs.Number.Rounding

/-!
# Decimal numbers of a declared precision

A wrapper of decimal numbers declares a precision and a scale. The number
in it is rounded to the scale, and it is refused if it is not finite or has
too many digits. The digits that are allowed are not those of the declared
precision, but the most that any precision has. So the declaration holds
the number unless the rounding has more digits than declared and at most
38, and then the number is sent nevertheless.

## Main definitions

* `Inference.SendsWithin` — a number is sent rounded, or refused for its digits.

## Main results

* `bindTyped_decimal_iff` — when the declared precision is kept to.
-/

namespace TdsClient

open Number Rounding

/-- A number of a scale has at most so many digits. -/
def Number.HasDigits (digits scale : Nat) (x : ℚ) : Prop := |x| < 10 ^ (digits - scale)

namespace Number.Decimal

/-- The digits of a number of a scale are those of its coefficient. -/
theorem hasDigits_rational_iff (negative : Bool) (coefficient : Nat) {digits scale : Nat}
    (hscale : scale ≤ digits) :
    HasDigits digits scale (rational negative coefficient (-scale)) ↔
      coefficient < 10 ^ digits := by
  constructor
  · intro h
    by_contra hmany
    have hcoefficient : (10 : ℚ) ^ digits ≤ coefficient := by
      exact_mod_cast Nat.le_of_not_lt hmany
    rw [HasDigits, abs_rational, zpow_neg, zpow_natCast, ← div_eq_mul_inv,
      div_lt_iff₀ (by positivity), ← pow_add, Nat.sub_add_cancel hscale] at h
    exact absurd h (not_lt.2 hcoefficient)
  · exact fun h => abs_rational_lt_of_digits negative h hscale

end Number.Decimal

namespace Inference

/-- How a number in a wrapper is sent if it may have so many digits: null as null, and a finite
number rounded half to even to the scale, unless the rounding has more digits. What is not sent is
refused as being out of range. -/
def SendsWithin (digits : Nat) (value : Value) (precision scale : Nat)
    (result : Except Error Bound) : Prop :=
  value = .null ∧ result = .ok (fixed (.decimal precision scale) .null) ∨
    ∃ d, value.toDecimal = .ok d ∧
      (d.value? = none → result = .error (.decimalOutOfRange d)) ∧
      ∀ q, d.value? = some q → ∃ r : Int, IsNearestEven (q * 10 ^ scale) r ∧
        (HasDigits digits scale ((r : ℚ) / 10 ^ scale) → ∃ sent : Decimal,
          result = .ok (fixed (.decimal precision scale) (.decimal sent)) ∧
            sent.value? = some ((r : ℚ) / 10 ^ scale)) ∧
        (¬ HasDigits digits scale ((r : ℚ) / 10 ^ scale) → result = .error (.decimalOutOfRange d))

/-- A number that has more digits than declared when it is rounded, but not too many to be sent. -/
def OverflowsDeclared (value : Value) (precision scale : Nat) : Prop :=
  ∃ d q, value.toDecimal = .ok d ∧ d.value? = some q ∧
    ∃ r : Int, IsNearestEven (q * 10 ^ scale) r ∧
      ¬ HasDigits precision scale ((r : ℚ) / 10 ^ scale) ∧
        HasDigits maxPrecision scale ((r : ℚ) / 10 ^ scale)

/-- A finite number is refused if the rounded coefficient has more than 38 digits. -/
theorem result_bindDecimalAs (negative : Bool) (coefficient : Nat) (exponent : Int)
    (precision scale : Nat) :
    (bindDecimalAs (.finite negative coefficient exponent) precision scale).result =
      if Decimal.shiftCoefficient coefficient (exponent + scale) < 10 ^ maxPrecision then
        .ok (fixed (.decimal precision scale) (.decimal
          (.finite negative (Decimal.shiftCoefficient coefficient (exponent + scale)) (-scale))))
      else .error (.decimalOutOfRange (.finite negative coefficient exponent)) := by
  unfold bindDecimalAs
  rw [Decimal.quantize?_eq negative coefficient exponent scale (by decide)]
  by_cases hfits : Decimal.shiftCoefficient coefficient (exponent + scale) < 10 ^ maxPrecision
  · rw [if_pos hfits, if_pos hfits]
    rfl
  · rw [if_neg hfits, if_neg hfits]
    rfl

section finite

variable {value : Value} {negative : Bool} {coefficient : Nat} {exponent : Int}
  {digits precision scale : Nat}

/-- The number that a rounded coefficient stands for is the value in units of the last digit,
rounded to the nearest even integer. -/
theorem exists_nearest (negative : Bool) (coefficient : Nat) (exponent : Int) (scale : Nat) :
    ∃ r : Int, IsNearestEven (Decimal.rational negative coefficient exponent * 10 ^ scale) r ∧
      Decimal.rational negative (Decimal.shiftCoefficient coefficient (exponent + scale)) (-scale) =
        r / 10 ^ scale :=
  ⟨_, isNearestEven_halfEven _,
    Decimal.rational_shiftCoefficient negative coefficient exponent scale⟩

/-- A finite number is sent as it should be if the digits that are allowed make no difference. -/
theorem sendsWithin_iff
    (hdecimal : value.toDecimal = .ok (.finite negative coefficient exponent))
    (hscale : scale ≤ digits) :
    SendsWithin digits value precision scale
      (bindDecimalAs (.finite negative coefficient exponent) precision scale).result ↔
        (Decimal.shiftCoefficient coefficient (exponent + scale) < 10 ^ digits ↔
          Decimal.shiftCoefficient coefficient (exponent + scale) < 10 ^ maxPrecision) := by
  obtain ⟨r, hr, hrational⟩ := exists_nearest negative coefficient exponent scale
  have hdigits := Decimal.hasDigits_rational_iff negative
    (Decimal.shiftCoefficient coefficient (exponent + scale)) hscale
  rw [hrational] at hdigits
  rw [result_bindDecimalAs]
  constructor
  · rintro (⟨rfl, -⟩ | ⟨d, hd, -, hfinite⟩)
    · cases hdecimal
    · obtain rfl := Except.ok.inj (hdecimal.symm.trans hd)
      obtain ⟨r', hr', hfits, hmany⟩ := hfinite _ rfl
      obtain rfl := hr.unique hr'
      rw [hdigits] at hfits hmany
      by_cases hsent :
          Decimal.shiftCoefficient coefficient (exponent + scale) < 10 ^ maxPrecision
      · rw [if_pos hsent] at hmany
        refine iff_of_true (by_contra fun hnot => ?_) hsent
        cases hmany hnot
      · rw [if_neg hsent] at hfits
        refine iff_of_false (fun h => ?_) hsent
        obtain ⟨sent, hresult, -⟩ := hfits h
        cases hresult
  · intro hsame
    refine .inr ⟨_, hdecimal, nofun, fun q hq => ?_⟩
    cases hq
    refine ⟨r, hr, fun hfits => ?_, fun hmany => ?_⟩
    · rw [if_pos (hsame.1 (hdigits.1 hfits))]
      exact ⟨_, rfl, congrArg some hrational⟩
    · exact if_neg fun h => hmany (hdigits.2 (hsame.2 h))

/-- A number overflows its declaration if its rounded coefficient does. -/
theorem overflowsDeclared_iff
    (hdecimal : value.toDecimal = .ok (.finite negative coefficient exponent))
    (hscale : scale ≤ precision) (hprecision : precision ≤ maxPrecision) :
    OverflowsDeclared value precision scale ↔
      ¬ Decimal.shiftCoefficient coefficient (exponent + scale) < 10 ^ precision ∧
        Decimal.shiftCoefficient coefficient (exponent + scale) < 10 ^ maxPrecision := by
  obtain ⟨r, hr, hrational⟩ := exists_nearest negative coefficient exponent scale
  have hdeclared := Decimal.hasDigits_rational_iff negative
    (Decimal.shiftCoefficient coefficient (exponent + scale)) hscale
  have hmost := Decimal.hasDigits_rational_iff negative
    (Decimal.shiftCoefficient coefficient (exponent + scale)) (hscale.trans hprecision)
  rw [hrational] at hdeclared hmost
  rw [← hdeclared, ← hmost]
  constructor
  · rintro ⟨d, q, hd, hq, r', hr', hoverflow⟩
    obtain rfl := Except.ok.inj (hdecimal.symm.trans hd)
    cases hq
    rwa [hr.unique hr']
  · exact fun hoverflow => ⟨_, _, hdecimal, rfl, r, hr, hoverflow⟩

end finite

/-- A number that is not finite is refused, however many digits are allowed. -/
theorem sendsWithin_of_not_finite {value : Value} {d : Decimal}
    (hdecimal : value.toDecimal = .ok d) (hvalue : d.value? = none) (digits precision scale : Nat) :
    SendsWithin digits value precision scale (bindDecimalAs d precision scale).result := by
  refine .inr ⟨d, hdecimal, fun _ => ?_, fun q hq => ?_⟩
  · cases d with
    | finite negative coefficient exponent => cases hvalue
    | infinite negative => rfl
    | nan negative signaling payload => rfl
  · rw [hvalue] at hq
    cases hq

/-- A number that is not finite has no digits. -/
theorem not_overflowsDeclared {value : Value} {d : Decimal} (hdecimal : value.toDecimal = .ok d)
    (hvalue : d.value? = none) (precision scale : Nat) :
    ¬ OverflowsDeclared value precision scale := by
  rintro ⟨d', q, hd, hq, -⟩
  obtain rfl := Except.ok.inj (hdecimal.symm.trans hd)
  rw [hvalue] at hq
  cases hq

/-- A wrapper of decimal numbers has a precision and a scale that a type can have, and null or
something that reads as a number. -/
theorem of_wrapped_decimal {value : Value} {precision scale : Nat} {w : Typed Value}
    (hw : Wrapped.decimal value precision scale = .ok w) :
    w = .decimal value precision scale ∧ precision ≤ maxPrecision ∧ scale ≤ precision ∧
      (value = .null ∨ ∃ d, value.toDecimal = .ok d) := by
  unfold Wrapped.decimal at hw
  by_cases hprecision : (precision : Int) < 1 ∨ (Wrapped.maxPrecision : Int) < precision
  · rw [if_pos hprecision] at hw
    cases hw
  · rw [if_neg hprecision] at hw
    by_cases hscale : (scale : Int) < 0 ∨ (precision : Int) < scale
    · rw [if_pos hscale] at hw
      cases hw
    · rw [if_neg hscale] at hw
      have hbounds : precision ≤ maxPrecision ∧ scale ≤ precision := by
        have hmost : (Wrapped.maxPrecision : Int) = (maxPrecision : Int) := rfl
        omega
      by_cases hnull : value = .null
      · subst hnull
        cases hw
        exact ⟨rfl, hbounds.1, hbounds.2, .inl rfl⟩
      · replace hw : (value.toDecimal >>= fun _ => .ok (.decimal value precision scale)) =
            Except.ok w := by
          cases value with
          | null => exact absurd rfl hnull
          | _ => exact hw
        cases hdecimal : value.toDecimal with
        | error cause =>
            rw [hdecimal] at hw
            cases hw
        | ok d =>
            rw [hdecimal] at hw
            cases hw
            exact ⟨rfl, hbounds.1, hbounds.2, .inr ⟨d, rfl⟩⟩

/-- What reads as a number is bound as that number. -/
theorem bindTyped_decimal (i : Inference) {value : Value} {d : Decimal}
    (hdecimal : value.toDecimal = .ok d) (precision scale : Nat) :
    i.bindTyped (.decimal value precision scale) = bindDecimalAs d precision scale := by
  cases value with
  | null => cases hdecimal
  | _ => simp only [bindTyped, hdecimal]

/-- A number in a wrapper is sent with the declared precision and scale. It is rounded half to even
to the scale, and refused if it is not finite or the rounding has more than 38 digits. If it may
have only as many digits as declared, that is the same unless the number overflows its declaration
with at most 38 digits. -/
theorem bindTyped_decimal_iff (i : Inference) {value : Value} {precision scale : Nat}
    {w : Typed Value} (hw : Wrapped.decimal value precision scale = .ok w) :
    SendsWithin maxPrecision value precision scale (i.bindTyped w).result ∧
      (SendsWithin precision value precision scale (i.bindTyped w).result ↔
        ¬ OverflowsDeclared value precision scale) := by
  obtain ⟨rfl, hprecision, hscale, hnull | ⟨d, hdecimal⟩⟩ := of_wrapped_decimal hw
  · subst hnull
    have hnever : ¬ OverflowsDeclared .null precision scale := by
      rintro ⟨d, q, hd, -⟩
      cases hd
    exact ⟨.inl ⟨rfl, rfl⟩, iff_of_true (.inl ⟨rfl, rfl⟩) hnever⟩
  · rw [bindTyped_decimal i hdecimal]
    cases hvalue : d.value? with
    | none =>
        have hrefused := sendsWithin_of_not_finite hdecimal hvalue
        exact ⟨hrefused maxPrecision precision scale, iff_of_true
          (hrefused precision precision scale) (not_overflowsDeclared hdecimal hvalue _ _)⟩
    | some q =>
        cases d with
        | finite negative coefficient exponent =>
            have hpower : 10 ^ precision ≤ 10 ^ maxPrecision :=
              Nat.pow_le_pow_right (by decide) hprecision
            rw [sendsWithin_iff hdecimal (hscale.trans hprecision),
              sendsWithin_iff hdecimal hscale, overflowsDeclared_iff hdecimal hscale hprecision]
            omega
        | infinite negative => cases hvalue
        | nan negative signaling payload => cases hvalue

/-- Five digits with five declared are sent. -/
theorem bindTyped_decimal_iff_fitting :
    Wrapped.decimal (.int 12345) (5 : Nat) (0 : Nat) = .ok (.decimal (.int 12345) 5 0) ∧
      ((⟨.v74, .cp1252, true⟩ : Inference).bindTyped (.decimal (.int 12345) 5 0)).result =
        .ok (fixed (.decimal 5 0) (.decimal (.finite false 12345 0))) ∧
      SendsWithin 5 (.int 12345) 5 0
        ((⟨.v74, .cp1252, true⟩ : Inference).bindTyped (.decimal (.int 12345) 5 0)).result := by
  have hw : Wrapped.decimal (.int 12345) (5 : Nat) (0 : Nat) =
      .ok (.decimal (.int 12345) 5 0) := by rfl
  have hdecimal : (Value.int 12345).toDecimal = .ok (.finite false 12345 0) := rfl
  refine ⟨hw, ?_, (bindTyped_decimal_iff _ hw).2.2 ?_⟩
  · rw [bindTyped_decimal _ hdecimal, result_bindDecimalAs]
    exact if_pos (by decide)
  · rw [overflowsDeclared_iff hdecimal (by decide) (by decide)]
    decide

/-- Five digits with three declared are sent as well. -/
theorem five_digits_of_three :
    Wrapped.decimal (.int 12345) 3 0 = .ok (.decimal (.int 12345) 3 0) ∧
      ((⟨.v74, .cp1252, true⟩ : Inference).bindTyped (.decimal (.int 12345) 3 0)).result =
        .ok (fixed (.decimal 3 0) (.decimal (.finite false 12345 0))) ∧
      ¬ SendsWithin 3 (.int 12345) 3 0
        ((⟨.v74, .cp1252, true⟩ : Inference).bindTyped (.decimal (.int 12345) 3 0)).result := by
  have hdecimal : (Value.int 12345).toDecimal = .ok (.finite false 12345 0) := rfl
  refine ⟨by rfl, ?_, ?_⟩
  · rw [bindTyped_decimal _ hdecimal, result_bindDecimalAs]
    exact if_pos (by decide)
  · rw [bindTyped_decimal _ hdecimal, sendsWithin_iff hdecimal (by decide)]
    decide

end Inference

end TdsClient
