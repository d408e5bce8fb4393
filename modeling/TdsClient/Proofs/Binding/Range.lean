import TdsClient.Proofs.Binding.Precision
import TdsClient.Proofs.Binding.Soundness

/-!
# The range of decimal numbers

No type holds a number that has more than 38 digits when it is rounded to an
integer. Any other number can be sent as near as half a unit of the last
place that its type keeps, and exactly if it has at most 38 digits in front
of the point and behind it.

The digits in front of the point are counted before the number is rounded,
and from the exponent alone. So two kinds of number are refused that a type
would hold: zero with an exponent of 38 or more, and a number that has more
than 38 digits and is rounded up to a power of ten, since it then has one
digit more in front of the point than was counted.

## Main definitions

* `Inference.SendsInRange` — a number is sent as it should be, or refused for its size.
* `Inference.RoundsUp` — the rounding has one digit more than was counted.

## Main results

* `bind_decimal_inRange_iff` — which numbers are bound as they should be.
-/

namespace TdsClient.Inference

open Number Rounding

/-- A number has at most 38 digits, in front of the point and behind it. -/
def HasFewDigits (x : ℚ) : Prop :=
  ∃ whole fraction : Nat, whole + fraction ≤ 38 ∧ |x| < 10 ^ whole ∧ ∃ m : Int, x * 10 ^ fraction = m

/-- A number is refused if it has more than 38 digits when it is rounded to an integer. Any other
number is sent, at most half a unit of the declared scale away, and exactly if it has few digits. -/
def SendsInRange (d : Decimal) (x : ℚ) (result : Except Error Bound) : Prop :=
  ∃ r : Int, IsNearestEven x r ∧
    (10 ^ 38 ≤ |r| → result = .error (.decimalOutOfRange d)) ∧
    (|r| < 10 ^ 38 → ∃ (precision scale : Nat) (sent : Decimal) (y : ℚ),
      result = .ok (fixed (.decimal precision scale) (.decimal sent)) ∧ sent.value? = some y ∧
        |x - y| ≤ 1 / 2 / 10 ^ scale ∧ (HasFewDigits x → y = x))

/-- A number with less than 38 digits in front of the point is at most half a unit of the last of 38
digits below a power of ten. -/
def RoundsUp (x : ℚ) : Prop :=
  ∃ whole scale : Nat, whole + scale = 38 ∧ 0 < scale ∧ |x| < 10 ^ whole ∧
    10 ^ whole - 1 / 2 / 10 ^ scale ≤ |x|

/-- A number is rounded to a scale and sent, unless the rounding has more than 38 digits. -/
def SendsAt (d : Decimal) (x : ℚ) (scale : Nat) (result : Except Error Bound) : Prop :=
  (10 ^ 38 - 1 / 2 ≤ |x| * 10 ^ scale → result = .error (.decimalOutOfRange d)) ∧
    (|x| * 10 ^ scale < 10 ^ 38 - 1 / 2 → ∃ (precision : Nat) (sent : Decimal),
      result = .ok (fixed (.decimal precision scale) (.decimal sent)) ∧
        sent.value? = some ((halfEven (x * 10 ^ scale) : ℚ) / 10 ^ scale))

/-! ## Numbers near a power of ten -/

section near

variable {x : ℚ} {whole scale : Nat}

/-- Half a unit below a power of ten, in units of the last of 38 digits. -/
theorem half_below_iff (hdigits : whole + scale = 38) :
    10 ^ whole - 1 / 2 / 10 ^ scale ≤ x ↔ 10 ^ 38 - 1 / 2 ≤ x * 10 ^ scale := by
  have hpositive : (0 : ℚ) < 10 ^ scale := by positivity
  have hunits : ((10 : ℚ) ^ whole - 1 / 2 / 10 ^ scale) * 10 ^ scale = 10 ^ 38 - 1 / 2 := by
    rw [sub_mul, div_mul_cancel₀ _ hpositive.ne', ← pow_add, hdigits]
  rw [← hunits]
  exact (mul_le_mul_iff_left₀ hpositive).symm

/-- An integer below a power of ten is a unit below it. -/
theorem not_half_below_of_exact (hdigits : whole + scale ≤ 38) (hwhole : |x| < 10 ^ whole)
    (hexact : ∃ m : Int, x * 10 ^ scale = m) : ¬ 10 ^ 38 - 1 / 2 ≤ |x| * 10 ^ scale := by
  obtain ⟨m, hm⟩ := hexact
  have hpositive : (0 : ℚ) < 10 ^ scale := by positivity
  have habs : |x| * 10 ^ scale = |(m : ℚ)| := by
    rw [← hm, abs_mul, abs_of_pos hpositive]
  have hbelow : |(m : ℚ)| < 10 ^ 38 := by
    calc |(m : ℚ)| = |x| * 10 ^ scale := habs.symm
      _ < 10 ^ whole * 10 ^ scale := mul_lt_mul_of_pos_right hwhole hpositive
      _ = 10 ^ (whole + scale) := (pow_add _ _ _).symm
      _ ≤ 10 ^ 38 := pow_le_pow_right₀ (by norm_num) hdigits
  have hunit : |m| + 1 ≤ 10 ^ 38 := by exact_mod_cast hbelow
  have hunit' : |(m : ℚ)| + 1 ≤ 10 ^ 38 := by exact_mod_cast hunit
  rw [habs]
  linarith

/-- A number that is an integer in units of a place is one in units of a later place. -/
theorem exact_of_le {scale' : Nat} (hscale : scale ≤ scale')
    (hexact : ∃ m : Int, x * 10 ^ scale = m) : ∃ m : Int, x * 10 ^ scale' = m := by
  obtain ⟨m, hm⟩ := hexact
  refine ⟨m * 10 ^ (scale' - scale), ?_⟩
  push_cast
  rw [← hm, mul_assoc, ← pow_add, Nat.add_sub_cancel' hscale]

/-- The integer that a number is rounded to has more than 38 digits if the number is at most half a
unit below the least one that has. -/
theorem pow_le_abs_halfEven_iff : 10 ^ 38 ≤ |halfEven x| ↔ 10 ^ 38 - 1 / 2 ≤ |x| := by
  rw [abs_halfEven, le_halfEven_iff (by norm_num)]
  norm_num

/-- A number with a digit less in front of the point is not so near. -/
theorem lt_half_below (hwhole : |x| < 10 ^ (whole - 1)) (hpos : 0 < whole) (scale : Nat) :
    |x| < 10 ^ whole - 1 / 2 / 10 ^ scale := by
  have hunit : (1 : ℚ) ≤ 10 ^ (whole - 1) := one_le_pow₀ (by norm_num)
  have hten : (10 : ℚ) ^ whole = 10 * 10 ^ (whole - 1) := by
    rw [← pow_succ', Nat.sub_add_cancel hpos]
  have hhalf : (1 / 2 : ℚ) / 10 ^ scale ≤ 1 / 2 :=
    div_le_self (by norm_num) (one_le_pow₀ (by norm_num))
  linarith

/-- A number that rounds up has at most 37 digits in front of the point. -/
theorem RoundsUp.abs_lt (h : RoundsUp x) : |x| < 10 ^ 37 := by
  obtain ⟨whole, scale, hdigits, hpos, hwhole, -⟩ := h
  exact hwhole.trans_le (pow_le_pow_right₀ (by norm_num) (by omega))

theorem RoundsUp.not_large (h : RoundsUp x) : ¬ 10 ^ 38 ≤ |halfEven x| := by
  have hsmall := h.abs_lt
  rw [pow_le_abs_halfEven_iff]
  norm_num at hsmall ⊢
  linarith

end near

/-! ## Digits of a number -/

section finite

variable (negative : Bool) {coefficient : Nat} {exponent : Int} {scale : Nat}

/-- The digits in front of the point of a number other than zero are as many as bound it. -/
theorem integerDigits_le_iff (hpos : 0 < coefficient) (whole : Nat) :
    integerDigits coefficient exponent ≤ whole ↔
      |Decimal.rational negative coefficient exponent| < 10 ^ whole := by
  have hplace := digitCount_add_le coefficient exponent
  constructor
  · intro h
    exact Decimal.abs_rational_lt negative coefficient exponent (by omega)
  · intro h
    by_contra hmore
    have hdigit : (whole : Int) < Digits.digitCount coefficient + exponent := by
      unfold integerDigits at hmore
      omega
    rw [Decimal.abs_rational] at h
    exact absurd h (not_lt.2 (Decimal.pow_le_mul_zpow hpos hdigit))

/-- A number is an integer in units of its last place. -/
theorem exact_of_fractionDigits_le (hscale : fractionDigits exponent ≤ scale) :
    ∃ m : Int, Decimal.rational negative coefficient exponent * 10 ^ scale = m := by
  have hshift : 0 ≤ exponent + (scale : Int) := by
    unfold fractionDigits at hscale
    omega
  obtain ⟨m, hm⟩ := Decimal.rational_neg negative
    (Decimal.shiftCoefficient coefficient (exponent + scale)) scale
  rw [Decimal.rational_shift negative coefficient hshift] at hm
  exact ⟨m, by rw [hm, div_mul_cancel₀ _ (by positivity)]⟩

/-- The rounded coefficient is below an even number unless the number is at most half a unit below
it, or not at all. -/
theorem shiftCoefficient_lt_iff (coefficient : Nat) (exponent : Int) (scale : Nat) {n : Nat}
    (heven : n % 2 = 0) :
    Decimal.shiftCoefficient coefficient (exponent + scale) < n ↔
      |Decimal.rational negative coefficient exponent| * 10 ^ scale < (n : ℚ) - 1 / 2 := by
  have hunits : |Decimal.rational negative coefficient exponent| * 10 ^ scale =
      coefficient * 10 ^ (exponent + (scale : Int)) := by
    rw [Decimal.abs_rational, zpow_add₀ (by decide), zpow_natCast, mul_assoc]
  have hrounded := le_halfEven_iff (x := (coefficient : ℚ) * 10 ^ (exponent + (scale : Int)))
    (n := (n : Int)) (by omega)
  rw [← Decimal.shiftCoefficient_eq, Int.ofNat_le, Int.cast_natCast] at hrounded
  rw [hunits, ← not_le, hrounded, not_le]

/-- A finite number that has a scale is rounded to it. -/
theorem sendsAt_bindDecimalAs (coefficient : Nat) (exponent : Int) (precision scale : Nat) :
    SendsAt (.finite negative coefficient exponent)
      (Decimal.rational negative coefficient exponent) scale
      (bindDecimalAs (.finite negative coefficient exponent) precision scale).result := by
  have hfits : Decimal.shiftCoefficient coefficient (exponent + scale) < 10 ^ maxPrecision ↔
      |Decimal.rational negative coefficient exponent| * 10 ^ scale < 10 ^ 38 - 1 / 2 := by
    have heven := shiftCoefficient_lt_iff negative coefficient exponent scale (n := 10 ^ 38)
      (by norm_num)
    rwa [Nat.cast_pow, Nat.cast_ofNat] at heven
  rw [result_bindDecimalAs]
  constructor
  · intro hmany
    exact if_neg fun h => absurd (hfits.1 h) (not_lt.2 hmany)
  · intro hfew
    rw [if_pos (hfits.2 hfew)]
    exact ⟨precision, _, rfl,
      congrArg some (Decimal.rational_shiftCoefficient negative coefficient exponent scale)⟩

/-- A number with at most 38 digits in front of the point gets a scale. It has a place for every
digit behind the point, or there are 38 digits. -/
theorem exists_scale (hwhole : integerDigits coefficient exponent ≤ 38) (minimize : Bool) :
    ∃ scale : Nat, integerDigits coefficient exponent + scale ≤ 38 ∧
      (fractionDigits exponent ≤ scale ∨ integerDigits coefficient exponent + scale = 38) ∧
      SendsAt (.finite negative coefficient exponent)
        (Decimal.rational negative coefficient exponent) scale
        (bindDecimal minimize (.finite negative coefficient exponent)).result := by
  have hsends := sendsAt_bindDecimalAs negative coefficient exponent
  unfold bindDecimal
  by_cases hfew : integerDigits coefficient exponent + fractionDigits exponent ≤ 38
  · rw [decimalShape_of_le negative hfew]
    exact ⟨_, hfew, .inl le_rfl, hsends _ _⟩
  · have hscale : integerDigits coefficient exponent +
        (38 - integerDigits coefficient exponent) = 38 := by omega
    rw [decimalShape_of_lt negative hscale (by omega)]
    exact ⟨_, hscale.le, .inr hscale, hsends _ _⟩

/-- A number other than zero is rounded to too many digits if it rounds up to a power of ten, or has
too many digits in front of the point. -/
theorem half_below_iff_roundsUp (hpos : 0 < coefficient)
    (hdigits : integerDigits coefficient exponent + scale ≤ 38)
    (hscale : fractionDigits exponent ≤ scale ∨ integerDigits coefficient exponent + scale = 38) :
    10 ^ 38 - 1 / 2 ≤ |Decimal.rational negative coefficient exponent| * 10 ^ scale ↔
      RoundsUp (Decimal.rational negative coefficient exponent) ∨
        10 ^ 38 ≤ |halfEven (Decimal.rational negative coefficient exponent)| := by
  have hbound : ∀ whole, integerDigits coefficient exponent ≤ whole ↔
      |Decimal.rational negative coefficient exponent| < 10 ^ whole :=
    integerDigits_le_iff negative hpos
  have hexact : ∀ {places}, fractionDigits exponent ≤ places →
      ∃ m : Int, Decimal.rational negative coefficient exponent * 10 ^ places = m :=
    exact_of_fractionDigits_le negative
  rw [pow_le_abs_halfEven_iff]
  generalize Decimal.rational negative coefficient exponent = x at hbound hexact ⊢
  generalize integerDigits coefficient exponent = whole at hbound hdigits hscale
  have hwhole : |x| < 10 ^ whole := (hbound whole).1 le_rfl
  constructor
  · intro hmany
    have hall : whole + scale = 38 := hscale.resolve_left fun h =>
      not_half_below_of_exact hdigits hwhole (hexact h) hmany
    rcases Nat.eq_zero_or_pos scale with rfl | hpositive
    · rw [pow_zero, mul_one] at hmany
      exact .inr hmany
    · exact .inl ⟨whole, scale, hall, hpositive, hwhole, (half_below_iff hall).2 hmany⟩
  · rintro (⟨whole', scale', hall', hpositive, hwhole', hnear⟩ | hlarge)
    · have hle : whole ≤ whole' := (hbound whole').2 hwhole'
      have hsame : whole = whole' := by
        by_contra hless
        have hshort : |x| < 10 ^ (whole' - 1) := (hbound (whole' - 1)).1 (by omega)
        exact absurd hnear (not_le.2 (lt_half_below hshort (by omega) scale'))
      rcases hscale with hplaces | hall
      · exact absurd ((half_below_iff hall').1 hnear)
          (not_half_below_of_exact hall'.le hwhole' (hexact (by omega)))
      · obtain rfl : scale = scale' := by omega
        exact (half_below_iff hall').1 hnear
    · have hnone : scale = 0 := by
        by_contra hsome
        have hsmall : |x| < 10 ^ 37 := (hbound 37).1 (by omega)
        exact absurd hlarge (not_le.2 (hsmall.trans (by norm_num)))
      rwa [hnone, pow_zero, mul_one]

/-- The scale of a number other than zero has a place for every digit if there are few of them. -/
theorem exact_of_hasFewDigits (hpos : 0 < coefficient)
    (hscale : fractionDigits exponent ≤ scale ∨ integerDigits coefficient exponent + scale = 38)
    (hfew : HasFewDigits (Decimal.rational negative coefficient exponent)) :
    ∃ m : Int, Decimal.rational negative coefficient exponent * 10 ^ scale = m := by
  rcases hscale with hplaces | hall
  · exact exact_of_fractionDigits_le negative hplaces
  · obtain ⟨whole, fraction, hdigits, hwhole, hexact⟩ := hfew
    have hle := (integerDigits_le_iff negative hpos whole).2 hwhole
    exact exact_of_le (by omega) hexact

/-- A number with more than 38 digits in front of the point is refused. -/
theorem refused_of_wide (hwide : 38 < integerDigits coefficient exponent) (minimize : Bool) :
    (bindDecimal minimize (.finite negative coefficient exponent)).result =
      .error (.decimalOutOfRange (.finite negative coefficient exponent)) := by
  unfold bindDecimal
  rw [decimalShape_of_wide negative hwide]
  rfl

end finite

/-! ## Sent or refused -/

section range

variable {d : Decimal} {x : ℚ} {scale : Nat}

/-- A number with too many digits should be refused. -/
theorem sendsInRange_of_large (hlarge : 10 ^ 38 ≤ |halfEven x|) :
    SendsInRange d x (.error (.decimalOutOfRange d)) :=
  ⟨halfEven x, isNearestEven_halfEven x, fun _ => rfl, fun h => absurd hlarge (not_le.2 h)⟩

/-- No other number should. -/
theorem not_sendsInRange_of_small (hsmall : ¬ 10 ^ 38 ≤ |halfEven x|) (e : Error) :
    ¬ SendsInRange d x (.error e) := by
  rintro ⟨r, hr, -, hfits⟩
  rw [isNearestEven_iff.1 hr] at hfits
  obtain ⟨precision, scale, sent, y, hresult, -⟩ := hfits (not_le.1 hsmall)
  cases hresult

/-- A number that is rounded to a scale is bound as it should be unless it rounds up, if nothing else
makes it too long and the scale keeps numbers with few digits. -/
theorem inRange_iff {result : Except Error Bound} (hsends : SendsAt d x scale result)
    (hmany : 10 ^ 38 - 1 / 2 ≤ |x| * 10 ^ scale ↔ RoundsUp x ∨ 10 ^ 38 ≤ |halfEven x|)
    (hexact : HasFewDigits x → ∃ m : Int, x * 10 ^ scale = m) :
    (SendsInRange d x result ↔ ¬ RoundsUp x) ∧
      (RoundsUp x → result = .error (.decimalOutOfRange d)) := by
  obtain ⟨hrefused, hsent⟩ := hsends
  have hpositive : (0 : ℚ) < 10 ^ scale := by positivity
  have hcarried : RoundsUp x → result = .error (.decimalOutOfRange d) :=
    fun hup => hrefused (hmany.2 (.inl hup))
  refine ⟨⟨fun hrange hup => ?_, fun hup => ?_⟩, hcarried⟩
  · rw [hcarried hup] at hrange
    exact not_sendsInRange_of_small hup.not_large _ hrange
  · refine ⟨halfEven x, isNearestEven_halfEven x, fun h => hrefused (hmany.2 (.inr h)), ?_⟩
    intro hsmall
    have hfew : |x| * 10 ^ scale < 10 ^ 38 - 1 / 2 := by
      rw [← not_le, hmany]
      exact not_or.2 ⟨hup, not_le.2 hsmall⟩
    obtain ⟨precision, sent, hresult, hvalue⟩ := hsent hfew
    refine ⟨precision, scale, sent, _, hresult, hvalue, ?_, ?_⟩
    · have hnear := (isNearestEven_halfEven (x * 10 ^ scale)).1
      have hunits : x - halfEven (x * 10 ^ scale) / 10 ^ scale =
          (x * 10 ^ scale - halfEven (x * 10 ^ scale)) / 10 ^ scale := by
        rw [sub_div, mul_div_cancel_right₀ _ hpositive.ne']
      rw [hunits, abs_div, abs_of_pos hpositive]
      exact div_le_div_of_nonneg_right hnear hpositive.le
    · intro hdigits
      obtain ⟨m, hm⟩ := hexact hdigits
      rw [hm, halfEven_intCast, ← hm, mul_div_cancel_right₀ _ hpositive.ne']

end range

/-- The digits in front of the point of a zero are counted from its exponent. -/
theorem wide_zero_iff (exponent : Int) : 38 < integerDigits 0 exponent ↔ 38 ≤ exponent := by
  have hcount : Digits.digitCount 0 = 1 := by
    unfold Digits.digitCount
    exact if_pos (by decide)
  unfold integerDigits
  rw [hcount]
  omega

/-- A fraction below one half does not round up. -/
theorem not_roundsUp_of_lt_half {x : ℚ} (h : |x| < 1 / 2) : ¬ RoundsUp x := by
  rintro ⟨whole, scale, -, -, -, hnear⟩
  have hunit : (1 : ℚ) ≤ 10 ^ whole := one_le_pow₀ (by norm_num)
  have hhalf : (1 / 2 : ℚ) / 10 ^ scale ≤ 1 / 2 :=
    div_le_self (by norm_num) (one_le_pow₀ (by norm_num))
  linarith

theorem not_roundsUp_zero : ¬ RoundsUp 0 :=
  not_roundsUp_of_lt_half (by rw [abs_zero]; norm_num)

/-- A zero is bound as it should be if it has at most 38 digits in front of the point. -/
theorem inRange_zero (minimize negative : Bool) (exponent : Int) :
    (SendsInRange (.finite negative 0 exponent) 0
        (bindDecimal minimize (.finite negative 0 exponent)).result ↔ ¬ 38 ≤ exponent) ∧
      (38 ≤ exponent → (bindDecimal minimize (.finite negative 0 exponent)).result =
        .error (.decimalOutOfRange (.finite negative 0 exponent))) := by
  have hsmall : ¬ (10 : Int) ^ 38 ≤ |halfEven 0| := by
    rw [pow_le_abs_halfEven_iff, abs_zero]
    norm_num
  have hrefused : 38 ≤ exponent → (bindDecimal minimize (.finite negative 0 exponent)).result =
      .error (.decimalOutOfRange (.finite negative 0 exponent)) :=
    fun h => refused_of_wide negative ((wide_zero_iff exponent).2 h) minimize
  refine ⟨⟨fun hrange hwide => ?_, fun hnarrow => ?_⟩, hrefused⟩
  · rw [hrefused hwide] at hrange
    exact not_sendsInRange_of_small hsmall _ hrange
  · rw [← wide_zero_iff exponent, Nat.not_lt] at hnarrow
    obtain ⟨scale, -, -, hsends⟩ := exists_scale negative hnarrow minimize
    rw [Decimal.rational_zero] at hsends
    refine (inRange_iff hsends (iff_of_false ?_ ?_) fun _ => ⟨0, by norm_num⟩).1.2
      not_roundsUp_zero
    · rw [abs_zero, zero_mul]
      norm_num
    · exact not_or.2 ⟨not_roundsUp_zero, hsmall⟩

/-- A number other than zero is bound as it should be unless it rounds up. -/
theorem inRange_of_pos (minimize negative : Bool) {coefficient : Nat} (exponent : Int)
    (hpos : 0 < coefficient) :
    (SendsInRange (.finite negative coefficient exponent)
        (Decimal.rational negative coefficient exponent)
        (bindDecimal minimize (.finite negative coefficient exponent)).result ↔
      ¬ RoundsUp (Decimal.rational negative coefficient exponent)) ∧
    (RoundsUp (Decimal.rational negative coefficient exponent) →
      (bindDecimal minimize (.finite negative coefficient exponent)).result =
        .error (.decimalOutOfRange (.finite negative coefficient exponent))) := by
  by_cases hwide : 38 < integerDigits coefficient exponent
  · have hrefused := refused_of_wide negative hwide minimize
    have hlarge : ¬ |Decimal.rational negative coefficient exponent| < 10 ^ 38 := by
      rw [← integerDigits_le_iff negative hpos]
      omega
    have hup : ¬ RoundsUp (Decimal.rational negative coefficient exponent) :=
      fun h => hlarge (h.abs_lt.trans (by norm_num))
    rw [hrefused]
    refine ⟨iff_of_true (sendsInRange_of_large ?_) hup, fun _ => rfl⟩
    rw [pow_le_abs_halfEven_iff]
    linarith
  · obtain ⟨scale, hdigits, hscale, hsends⟩ :=
      exists_scale negative (Nat.le_of_not_lt hwide) minimize
    exact inRange_iff hsends (half_below_iff_roundsUp negative hpos hdigits hscale)
      (exact_of_hasFewDigits negative hpos hscale)

/-- A finite decimal number is bound as it should be, with and without minimising types, unless it is
a zero with an exponent of 38 or more or a number that rounds up to a power of ten below the least
number of 39 digits. These are refused as being out of range. -/
theorem bind_decimal_inRange_iff (i : Inference) (minimize negative : Bool) (coefficient : Nat)
    (exponent : Int) :
    (SendsInRange (.finite negative coefficient exponent)
        (Decimal.rational negative coefficient exponent)
        (i.bind minimize (.decimal (.finite negative coefficient exponent))).result ↔
      ¬ ((coefficient = 0 ∧ 38 ≤ exponent) ∨
        RoundsUp (Decimal.rational negative coefficient exponent))) ∧
    ((coefficient = 0 ∧ 38 ≤ exponent) ∨
        RoundsUp (Decimal.rational negative coefficient exponent) →
      (i.bind minimize (.decimal (.finite negative coefficient exponent))).result =
        .error (.decimalOutOfRange (.finite negative coefficient exponent))) := by
  rcases Nat.eq_zero_or_pos coefficient with rfl | hpos
  · have hzero : ((0 = 0 ∧ 38 ≤ exponent) ∨ RoundsUp (Decimal.rational negative 0 exponent)) ↔
        38 ≤ exponent := by
      rw [Decimal.rational_zero, or_iff_left not_roundsUp_zero, and_iff_right rfl]
    rw [hzero, Decimal.rational_zero]
    exact inRange_zero minimize negative exponent
  · have hzero : ¬ (coefficient = 0 ∧ 38 ≤ exponent) := fun h => hpos.ne' h.1
    rw [or_iff_right hzero]
    exact inRange_of_pos minimize negative exponent hpos

/-- A quarter is sent, and a zero with an exponent of 38 is refused. -/
theorem bind_decimal_inRange_iff_quarter :
    SendsInRange (.finite false 25 (-2)) (Decimal.rational false 25 (-2))
        ((⟨.v74, .cp1252, true⟩ : Inference).bind true (.decimal (.finite false 25 (-2)))).result ∧
      ((⟨.v74, .cp1252, true⟩ : Inference).bind true (.decimal (.finite false 0 38))).result =
        .error (.decimalOutOfRange (.finite false 0 38)) := by
  have hquarter : |Decimal.rational false 25 (-2)| < 1 / 2 := by
    rw [Decimal.abs_rational]
    norm_num
  refine ⟨(bind_decimal_inRange_iff _ true false 25 (-2)).1.2 ?_,
    (bind_decimal_inRange_iff _ true false 0 38).2 (.inl ⟨rfl, le_rfl⟩)⟩
  rintro (⟨hzero, -⟩ | hup)
  · exact absurd hzero (by decide)
  · exact not_roundsUp_of_lt_half hquarter hup

/-- A number of 39 nines, one of them in front of the point, is refused. The integer nearest to it is
ten. -/
theorem nines_refused :
    ((⟨.v74, .cp1252, true⟩ : Inference).bind true
        (.decimal (.finite false (10 ^ 39 - 1) (-38)))).result =
      .error (.decimalOutOfRange (.finite false (10 ^ 39 - 1) (-38))) ∧
    IsNearestEven (Decimal.rational false (10 ^ 39 - 1) (-38)) 10 ∧
    ¬ SendsInRange (.finite false (10 ^ 39 - 1) (-38)) (Decimal.rational false (10 ^ 39 - 1) (-38))
      ((⟨.v74, .cp1252, true⟩ : Inference).bind true
        (.decimal (.finite false (10 ^ 39 - 1) (-38)))).result := by
  have hvalue : Decimal.rational false (10 ^ 39 - 1) (-38) = 10 - 1 / 10 ^ 38 := by
    unfold Decimal.rational
    norm_num
  have hup : RoundsUp (Decimal.rational false (10 ^ 39 - 1) (-38)) := by
    rw [hvalue]
    exact ⟨1, 37, rfl, by decide, by norm_num [abs_lt], by norm_num [le_abs]⟩
  obtain ⟨hrange, hrefused⟩ := inRange_of_pos true false (-38) (show 0 < 10 ^ 39 - 1 by norm_num)
  refine ⟨hrefused hup, ?_, fun h => hrange.1 h hup⟩
  rw [hvalue]
  refine ⟨by norm_num [abs_le], fun _ => rfl⟩

end TdsClient.Inference
