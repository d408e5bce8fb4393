import Mathlib.Tactic.FieldSimp
import Mathlib.Tactic.Linarith
import TdsClient.Proofs.Number.Numeral
import TdsClient.Proofs.Number.Quantize
import TdsClient.Proofs.Number.Rounding

/-!
# The shortest digits of a binary number

A binary number is written with as few digits as tell it from its
neighbours. The search for them tries ever finer grids and takes the first
that has a decimal in the interval of the reals that round to the number.
It ends at a grid that has the number itself, so that what it finds always
rounds to the number.

The intervals of different numbers of the format do not overlap, and where
two of them meet only one has the common end. So a decimal is found for one
number at most, and different numbers are written differently.

## Main definitions

* `Binary64.inFormat` — the numbers of the format.

## Main results

* `inFormat_parse?` — numbers that are read are of the format.
* `roundsTo_shortest` — the shortest digits round to the number.
* `roundsTo_unique` — a real rounds to one positive number at most.
* `text_injective` — different numbers are written differently.
-/

namespace TdsClient.Number.Binary64

/-- Whether a number is one of the format: a mantissa of at most 53 bits, of fewer only under the
smallest exponent. -/
def inFormat : Binary64 → Bool
  | .finite _ mantissa exponent =>
    minExponent ≤ exponent ∧ exponent ≤ maxExponent ∧ mantissa < 2 * minMantissa ∧
      (minMantissa ≤ mantissa ∨ exponent = minExponent)
  | _ => true

variable {m m' : Nat} {e e' grid : Int} {x : ℚ}

/-! ## Numbers made by rounding -/

/-- A positive number lies between its power of two and the next. -/
theorem binaryExponent_spec (hx : 0 < x) :
    2 ^ binaryExponent x ≤ x ∧ x < 2 ^ (binaryExponent x + 1) := by
  have hnum : x.num.natAbs ≠ 0 := by
    rw [Int.natAbs_ne_zero]
    exact (Rat.num_pos.2 hx).ne'
  have hfraction : x * x.den = x.num.natAbs := by
    have hcast : ((x.num.natAbs : Int) : ℚ) = x.num :=
      congrArg _ (Int.natAbs_of_nonneg (Rat.num_nonneg.2 hx.le))
    rw [Rat.mul_den_eq_num, ← hcast, Int.cast_natCast]
  have hden : (0 : ℚ) < x.den := by exact_mod_cast x.den_pos
  have hnumLow : (2 : ℚ) ^ x.num.natAbs.log2 ≤ x.num.natAbs := by
    exact_mod_cast Nat.log2_self_le hnum
  have hnumHigh : (x.num.natAbs : ℚ) < 2 ^ (x.num.natAbs.log2 + 1) := by
    exact_mod_cast Nat.lt_log2_self
  have hdenLow : (2 : ℚ) ^ x.den.log2 ≤ x.den := by
    exact_mod_cast Nat.log2_self_le x.den_ne_zero
  have hdenHigh : (x.den : ℚ) < 2 ^ (x.den.log2 + 1) := by
    exact_mod_cast Nat.lt_log2_self
  have hlow : (2 : ℚ) ^ ((x.num.natAbs.log2 : Int) - x.den.log2 - 1) ≤ x := by
    refine le_of_mul_le_mul_right ?_ hden
    calc (2 : ℚ) ^ ((x.num.natAbs.log2 : Int) - x.den.log2 - 1) * x.den
        ≤ 2 ^ ((x.num.natAbs.log2 : Int) - x.den.log2 - 1) * 2 ^ (x.den.log2 + 1) :=
          mul_le_mul_of_nonneg_left hdenHigh.le (by positivity)
      _ = 2 ^ x.num.natAbs.log2 := by
          rw [← zpow_natCast, ← zpow_natCast, ← zpow_add₀ (by norm_num)]
          exact congrArg _ (by omega)
      _ ≤ x.num.natAbs := hnumLow
      _ = x * x.den := hfraction.symm
  have hhigh : x < 2 ^ ((x.num.natAbs.log2 : Int) - x.den.log2 + 1) := by
    refine lt_of_mul_lt_mul_right ?_ hden.le
    calc x * x.den = x.num.natAbs := hfraction
      _ < 2 ^ (x.num.natAbs.log2 + 1) := hnumHigh
      _ = 2 ^ ((x.num.natAbs.log2 : Int) - x.den.log2 + 1) * 2 ^ x.den.log2 := by
          rw [← zpow_natCast, ← zpow_natCast, ← zpow_add₀ (by norm_num)]
          exact congrArg _ (by omega)
      _ ≤ 2 ^ ((x.num.natAbs.log2 : Int) - x.den.log2 + 1) * x.den :=
          mul_le_mul_of_nonneg_left hdenLow (by positivity)
  unfold binaryExponent
  dsimp only
  split
  next hless => exact ⟨hlow, by rwa [Int.sub_add_cancel]⟩
  next hmore => exact ⟨not_lt.1 hmore, hhigh⟩

/-- A number that is not above an integer is not rounded to more. -/
theorem halfEven_le {n : Int} (h : x ≤ n) : Rounding.halfEven x ≤ n := by
  have hneg : -n ≤ Rounding.halfEven (-x) := Rounding.le_halfEven (by push_cast; linarith)
  rw [Rounding.halfEven_neg] at hneg
  omega

/-- What is rounded to the format is one of its numbers. -/
theorem inFormat_nearest (negative : Bool) (hx : 0 ≤ x) : (nearest negative x).inFormat = true := by
  unfold nearest
  split
  next => cases negative <;> decide
  next hne =>
    obtain ⟨hlow, hhigh⟩ := binaryExponent_spec (lt_of_le_of_ne hx (Ne.symm hne))
    dsimp only
    generalize he : max (binaryExponent x - 52) minExponent = e
    have hunit : (0 : ℚ) < 2 ^ e := by positivity
    have hmost : Rounding.halfEven (x / 2 ^ e) ≤ (2 * minMantissa : Nat) := by
      refine halfEven_le ((div_le_iff₀ hunit).2 (hhigh.le.trans ?_))
      have hpower : (((2 * minMantissa : Nat) : Int) : ℚ) = 2 ^ (53 : Int) := by
        norm_num [minMantissa]
      rw [hpower, ← zpow_add₀ (by norm_num)]
      exact zpow_le_zpow_right₀ (by norm_num) (by omega)
    have hleast : minExponent < e → (minMantissa : Nat) ≤ Rounding.halfEven (x / 2 ^ e) := by
      intro hlarge
      refine Rounding.le_halfEven ((le_div_iff₀ hunit).2 (le_trans ?_ hlow))
      have hpower : (((minMantissa : Nat) : Int) : ℚ) = 2 ^ (52 : Int) := by
        norm_num [minMantissa]
      rw [hpower, ← zpow_add₀ (by norm_num)]
      exact zpow_le_zpow_right₀ (by norm_num) (by omega)
    have hexponent : minExponent ≤ e := he ▸ le_max_right _ _
    generalize Rounding.halfEven (x / 2 ^ e) = rounded at hmost hleast
    have hmantissa : 0 < minMantissa := by decide
    have hmade : ∀ (m : Nat) (k : Int), minExponent ≤ k → m < 2 * minMantissa →
        (minMantissa ≤ m ∨ k = minExponent) →
        (if maxExponent < k then infinite negative else finite negative m k).inFormat = true := by
      intro m k hk hm hnormal
      split
      · rfl
      · simp only [inFormat, decide_eq_true_eq]
        omega
    split
    · exact hmade _ _ (by omega) (by omega) (.inl (Nat.le_refl _))
    · exact hmade _ _ hexponent (by omega) (by omega)

/-- So are all numbers that are read. -/
theorem inFormat_parse? {text : String} {b : Binary64} (h : parse? text = some b) :
    b.inFormat = true := by
  have hzero : ∀ negative, (zero negative).inFormat = true := by decide
  have hnumeral : ∀ n : Numeral, (ofNumeral n).inFormat = true := by
    intro n
    unfold ofNumeral
    dsimp only
    split
    · exact hzero _
    · split
      · rfl
      · split
        · exact hzero _
        · exact inFormat_nearest _ (by positivity)
  unfold parse? at h
  dsimp only at h
  split at h
  · cases h
    rfl
  · split at h
    · cases h
      rfl
    · obtain ⟨n, -, rfl⟩ := Option.map_eq_some_iff.1 h
      exact hnumeral n

/-! ## The interval of a number -/

/-- Half the distance to the number above. -/
def halfStep (exponent : Int) : ℚ := 2 ^ (exponent - 1)

/-- Half the distance to the number below, which is nearer where the exponent changes. -/
def halfStepBelow (mantissa : Nat) (exponent : Int) : ℚ :=
  if mantissa = minMantissa ∧ minExponent < exponent then halfStep exponent / 2
  else halfStep exponent

theorem halfStep_pos (e : Int) : 0 < halfStep e := zpow_pos (by norm_num) _

theorem magnitude_eq (m : Nat) (e : Int) : magnitude m e = m * (2 * halfStep e) := by
  have hpower : (2 : ℚ) ^ e = 2 * 2 ^ (e - 1) := by
    rw [← zpow_one_add₀ (by norm_num)]
    exact congrArg _ (by omega)
  rw [magnitude, hpower, halfStep]

/-- The ends of the interval belong to it if the mantissa is even. -/
theorem roundsTo_iff : roundsTo m e x = true ↔
    if m % 2 = 0 then magnitude m e - halfStepBelow m e ≤ x ∧ x ≤ magnitude m e + halfStep e
    else magnitude m e - halfStepBelow m e < x ∧ x < magnitude m e + halfStep e := by
  unfold roundsTo
  dsimp only
  split <;> exact decide_eq_true_iff

theorem halfStepBelow_pos (m : Nat) (e : Int) : 0 < halfStepBelow m e := by
  unfold halfStepBelow
  split
  · exact half_pos (halfStep_pos e)
  · exact halfStep_pos e

theorem halfStepBelow_le (m : Nat) (e : Int) : halfStepBelow m e ≤ halfStep e := by
  have hpos := halfStep_pos e
  unfold halfStepBelow
  split <;> linarith

/-- A number rounds to itself. -/
theorem roundsTo_magnitude (m : Nat) (e : Int) : roundsTo m e (magnitude m e) = true := by
  have habove := halfStep_pos e
  have hbelow := halfStepBelow_pos m e
  rw [roundsTo_iff]
  split <;> constructor <;> linarith

theorem le_of_roundsTo (h : roundsTo m e x = true) :
    magnitude m e - halfStepBelow m e ≤ x ∧ x ≤ magnitude m e + halfStep e := by
  rw [roundsTo_iff] at h
  split at h
  · exact h
  · exact ⟨h.1.le, h.2.le⟩

theorem even_of_roundsTo (h : roundsTo m e x = true)
    (hend : x = magnitude m e - halfStepBelow m e ∨ x = magnitude m e + halfStep e) :
    m % 2 = 0 := by
  rw [roundsTo_iff] at h
  split at h
  next heven => exact heven
  next => rcases hend with rfl | rfl <;> linarith [h.1, h.2]

/-! ## Intervals do not overlap -/

/-- Twice the half step of an exponent is at most that of a larger one. -/
theorem two_mul_halfStep_le (h : e < e') : 2 * halfStep e ≤ halfStep e' := by
  have hpower : (2 : ℚ) * 2 ^ (e - 1) = 2 ^ e := by
    rw [← zpow_one_add₀ (by norm_num)]
    exact congrArg _ (by omega)
  rw [halfStep, halfStep, hpower]
  exact zpow_le_zpow_right₀ (by norm_num) (by omega)

/-- Between numbers of one exponent there is at least a step. -/
theorem not_roundsTo_of_lt (hm : m < m') (h : roundsTo m e x = true) :
    ¬ roundsTo m' e x = true := by
  intro h'
  have hpos := halfStep_pos e
  obtain ⟨-, habove⟩ := le_of_roundsTo h
  obtain ⟨hbelow, -⟩ := le_of_roundsTo h'
  have hnear := halfStepBelow_le m' e
  rw [magnitude_eq] at habove hbelow
  have hstep : (m : ℚ) + 1 ≤ m' := by exact_mod_cast hm
  have hscaled : ((m : ℚ) + 1) * (2 * halfStep e) ≤ m' * (2 * halfStep e) :=
    mul_le_mul_of_nonneg_right hstep (by linarith)
  -- the intervals can only meet at their ends, and then the mantissas follow each other
  have hend : x = magnitude m e + halfStep e := by
    rw [magnitude_eq]
    linarith
  have hend' : x = magnitude m' e - halfStepBelow m' e := by
    rw [magnitude_eq]
    linarith
  have hnext : (m' : ℚ) * (2 * halfStep e) = (m + 1) * (2 * halfStep e) := by linarith
  have hsucc : m' = m + 1 := by
    have hcancel := mul_right_cancel₀ (by linarith) hnext
    exact_mod_cast hcancel
  have heven := even_of_roundsTo h (.inr hend)
  have heven' := even_of_roundsTo h' (.inl hend')
  omega

/-- Below a number of a larger exponent, all of the mantissas end. -/
theorem not_roundsTo_of_exponent_lt (he : e < e') (hm : m < 2 * minMantissa)
    (hm' : minMantissa ≤ m') (hlow : minExponent < e') (h : roundsTo m e x = true) :
    ¬ roundsTo m' e' x = true := by
  intro h'
  have hpos := halfStep_pos e
  have hlarger := two_mul_halfStep_le he
  obtain ⟨-, habove⟩ := le_of_roundsTo h
  obtain ⟨hbelow, -⟩ := le_of_roundsTo h'
  have hend : x = magnitude m e + halfStep e → m % 2 = 0 := fun hx => even_of_roundsTo h (.inr hx)
  rw [magnitude_eq] at habove hbelow hend
  have hlast : (m : ℚ) + 1 ≤ 2 * minMantissa := by exact_mod_cast hm
  have hmin : (1 : ℚ) ≤ minMantissa := by exact_mod_cast (by decide : 1 ≤ minMantissa)
  have hinside : 0 ≤ (2 * minMantissa - 1 - m) * halfStep e := mul_nonneg (by linarith) hpos.le
  by_cases hfirst : m' = minMantissa
  · -- the number above begins an exponent, and its half step below is a quarter of its step
    have hnear : halfStepBelow m' e' = halfStep e' / 2 := if_pos ⟨hfirst, hlow⟩
    rw [hnear, hfirst] at hbelow
    have hgap : 0 ≤ (2 * (minMantissa : ℚ) - 1 / 2) * (halfStep e' - 2 * halfStep e) :=
      mul_nonneg (by linarith) (by linarith)
    have htop : ((m : ℚ) + 1) * halfStep e = 2 * minMantissa * halfStep e := by linarith
    have hcancel := mul_right_cancel₀ (by linarith) htop
    have hodd : m + 1 = 2 * minMantissa := by exact_mod_cast hcancel
    have heven := hend (by linarith)
    omega
  · have hnext : (minMantissa : ℚ) + 1 ≤ m' := by
      have hlt : minMantissa < m' := Nat.lt_of_le_of_ne hm' (Ne.symm hfirst)
      exact_mod_cast hlt
    have hnear := halfStepBelow_le m' e'
    have hbeyond : 0 ≤ ((m' : ℚ) - minMantissa - 1) * halfStep e' :=
      mul_nonneg (by linarith) (by linarith)
    have hgap : 0 ≤ (2 * (minMantissa : ℚ) + 1) * (halfStep e' - 2 * halfStep e) :=
      mul_nonneg (by linarith) (by linarith)
    linarith

/-- A real rounds to one positive number at most. -/
theorem roundsTo_unique {b b' : Bool} (hx : inFormat (.finite b m e) = true)
    (hx' : inFormat (.finite b' m' e') = true) (h : roundsTo m e x = true)
    (h' : roundsTo m' e' x = true) : m = m' ∧ e = e' := by
  simp only [inFormat, decide_eq_true_eq] at hx hx'
  rcases Int.lt_trichotomy e e' with he | rfl | he
  · exact absurd h' (not_roundsTo_of_exponent_lt he hx.2.2.1 (by omega) (by omega) h)
  · rcases Nat.lt_trichotomy m m' with hm | rfl | hm
    · exact absurd h' (not_roundsTo_of_lt hm h)
    · exact ⟨rfl, rfl⟩
    · exact absurd h (not_roundsTo_of_lt hm h')
  · exact absurd h (not_roundsTo_of_exponent_lt he hx'.2.2.1 (by omega) (by omega) h')

/-! ## The search for the shortest digits -/

/-- What is found on a grid rounds to the number. -/
theorem roundsTo_of_onGrid? {n : Nat} (h : onGrid? m e grid = some n) :
    roundsTo m e (n * 10 ^ grid) = true := by
  unfold onGrid? at h
  dsimp only at h
  split at h
  next => cases h
  next hlow _ =>
    cases h
    exact hlow
  next _ hhigh =>
    cases h
    exact_mod_cast hhigh
  next hlow hhigh =>
    have hhigh' : roundsTo m e (((magnitude m e / 10 ^ grid).floor.toNat + 1 : Nat) *
        10 ^ grid) = true := hhigh
    split at h
    · cases h
      exact hlow
    · split at h
      · cases h
        exact hhigh'
      · cases h
        split
        · exact hlow
        · exact hhigh'

/-- A search that ends at a grid that has the number finds digits that round to it. -/
theorem roundsTo_searchGrids (steps : Nat) (grid : Int)
    (hexact : ∃ k : Nat, magnitude m e = k * 10 ^ (grid - steps)) :
    roundsTo m e ((searchGrids m e steps grid).1 * 10 ^ (searchGrids m e steps grid).2) = true := by
  induction steps generalizing grid with
  | zero =>
      obtain ⟨k, hk⟩ := hexact
      rw [Int.natCast_zero, Int.sub_zero] at hk
      have hpower : (10 : ℚ) ^ grid ≠ 0 := zpow_ne_zero _ (by norm_num)
      have hfloor : (magnitude m e / 10 ^ grid).floor.toNat = k := by
        rw [hk, mul_div_cancel_right₀ _ hpower]
        exact congrArg Int.toNat (Rat.floor_intCast k)
      rw [searchGrids, hfloor, ← hk]
      exact roundsTo_magnitude m e
  | succ steps ih =>
      rw [searchGrids]
      cases hgrid : onGrid? m e grid with
      | some n => exact roundsTo_of_onGrid? hgrid
      | none =>
          refine ih (grid - 1) ?_
          have hsame : grid - 1 - steps = grid - (steps + 1 : Nat) := by omega
          rwa [hsame]

/-- All numbers of the format are multiples of a power of ten that is fine enough. -/
theorem exists_eq_mul_pow {places : Nat} (he : -(places : Int) ≤ e) :
    ∃ k : Nat, magnitude m e = k * 10 ^ (-(places : Int)) := by
  refine ⟨m * (2 ^ (e + places).toNat * 5 ^ places), ?_⟩
  have htwo : (2 : ℚ) ^ (e + places).toNat = 2 ^ e * 2 ^ places := by
    rw [← zpow_natCast, Int.toNat_of_nonneg (by omega), zpow_add₀ (by norm_num), zpow_natCast]
  have hten : (10 : ℚ) ^ (-(places : Int)) = (2 ^ places * 5 ^ places)⁻¹ := by
    rw [zpow_neg, zpow_natCast, ← mul_pow]
    norm_num
  push_cast
  rw [magnitude, htwo, hten]
  field_simp

/-- The reciprocal of a number of the format has no more digits than the smallest one has places. -/
theorem digitCount_reciprocal_le {places : Nat} (hm : 0 < m) (he : -(places : Int) ≤ e) :
    Digits.digitCount (1 / magnitude m e).floor.toNat ≤ places + 1 := by
  have hleast : (2 : ℚ) ^ (-(places : Int)) ≤ magnitude m e := by
    have hone : (1 : ℚ) ≤ m := by exact_mod_cast hm
    calc (2 : ℚ) ^ (-(places : Int)) ≤ 2 ^ e := zpow_le_zpow_right₀ (by norm_num) he
      _ = 1 * 2 ^ e := (one_mul _).symm
      _ ≤ magnitude m e := mul_le_mul_of_nonneg_right hone (by positivity)
  have hmost : 1 / magnitude m e < 10 ^ (places + 1) := by
    have hpositive : (0 : ℚ) < 2 ^ (-(places : Int)) := by positivity
    calc 1 / magnitude m e ≤ 1 / 2 ^ (-(places : Int)) := one_div_le_one_div_of_le hpositive hleast
      _ = 2 ^ places := by rw [zpow_neg, zpow_natCast, one_div, inv_inv]
      _ ≤ 10 ^ places := pow_le_pow_left₀ (by norm_num) (by norm_num) _
      _ < 10 ^ (places + 1) := pow_lt_pow_right₀ (by norm_num) (Nat.lt_succ_self _)
  refine Digits.digitCount_le_of_lt_pow (Nat.succ_pos _) ?_
  have hfloor : ((1 / magnitude m e).floor : ℚ) < (10 ^ (places + 1) : Nat) := by
    push_cast
    exact (Rat.floor_le _).trans_lt hmost
  have hfloor' : (1 / magnitude m e).floor < (10 ^ (places + 1) : Nat) := by exact_mod_cast hfloor
  exact (Int.toNat_lt' (by positivity)).2 hfloor'

/-- The shortest digits of a number round to it. -/
theorem roundsTo_shortest (hm : 0 < m) (he : minExponent ≤ e) :
    roundsTo m e ((shortest m e).1 * 10 ^ (shortest m e).2) = true := by
  obtain ⟨places, hplaces⟩ : ∃ places : Nat, minExponent - 1 = -places := ⟨1075, rfl⟩
  unfold shortest
  dsimp only
  generalize hstart : (if 1 ≤ magnitude m e then _ else _ : Int) = start
  have hlow : -places ≤ start := by
    rw [← hstart]
    split
    · omega
    · have hdigits : Digits.digitCount (1 / magnitude m e).floor.toNat ≤ places + 1 :=
        digitCount_reciprocal_le hm (by omega)
      omega
  have hend : start - ((start - minExponent + 1).toNat : Int) = -places := by omega
  apply roundsTo_searchGrids
  rw [hend]
  exact exists_eq_mul_pow (by omega)

/-! ## Written numbers -/

/-- A positive number rounds no real to it that is not positive. -/
theorem pos_of_roundsTo (hm : 0 < m) (h : roundsTo m e x = true) : 0 < x := by
  have hpos := halfStep_pos e
  have hnear := halfStepBelow_le m e
  obtain ⟨hbelow, -⟩ := le_of_roundsTo h
  have hone : (1 : ℚ) ≤ m := by exact_mod_cast hm
  have hleast : 1 * (2 * halfStep e) ≤ m * (2 * halfStep e) :=
    mul_le_mul_of_nonneg_right hone (by linarith)
  rw [magnitude_eq] at hbelow
  linarith

/-- A finite number without its sign. -/
def magnitudeText (mantissa : Nat) (exponent : Int) : String :=
  if mantissa = 0 then "0.0"
  else decimalText (shortest mantissa exponent).1 (shortest mantissa exponent).2

theorem text_finite (negative : Bool) (mantissa : Nat) (exponent : Int) :
    text (.finite negative mantissa exponent) =
      (if negative then "-" else "") ++ magnitudeText mantissa exponent := rfl

/-- A finite number is read back as a decimal that rounds to it. -/
theorem unsigned?_magnitudeText (he : minExponent ≤ e) :
    ∃ (coefficient : Nat) (exponent : Int),
      Numeral.unsigned? false (magnitudeText m e).toList = some ⟨false, coefficient, exponent⟩ ∧
      if m = 0 then coefficient = 0 else roundsTo m e (coefficient * 10 ^ exponent) = true := by
  unfold magnitudeText
  by_cases hm : m = 0
  · rw [if_pos hm]
    exact ⟨0, -1, by decide, by rw [if_pos hm]⟩
  · rw [if_neg hm]
    obtain ⟨coefficient, exponent, hread, hvalue⟩ :=
      unsigned?_decimalText false (shortest m e).1 (shortest m e).2
    refine ⟨coefficient, exponent, hread, ?_⟩
    rw [if_neg hm, hvalue]
    exact roundsTo_shortest (Nat.pos_of_ne_zero hm) he

/-- Different magnitudes of the format are written differently. -/
theorem magnitudeText_injective {b b' : Bool} (hx : inFormat (.finite b m e) = true)
    (hy : inFormat (.finite b' m' e') = true) (h : magnitudeText m e = magnitudeText m' e') :
    m = m' ∧ e = e' := by
  have hx' := hx
  have hy' := hy
  simp only [inFormat, decide_eq_true_eq] at hx' hy'
  obtain ⟨coefficient, exponent, hread, hrounds⟩ := unsigned?_magnitudeText (m := m) hx'.1
  obtain ⟨coefficient', exponent', hread', hrounds'⟩ := unsigned?_magnitudeText (m := m') hy'.1
  rw [← h, hread] at hread'
  cases hread'
  have hzero : ∀ {k : Nat} {f : Int}, k ≠ 0 → roundsTo k f (coefficient * 10 ^ exponent) = true →
      coefficient ≠ 0 := by
    rintro k f hk hr rfl
    have hpositive := pos_of_roundsTo (Nat.pos_of_ne_zero hk) hr
    simp at hpositive
  have hminpos : 0 < minMantissa := by decide
  by_cases hm : m = 0 <;> by_cases hm' : m' = 0 <;>
    simp only [hm, hm', if_true, if_false] at hrounds hrounds'
  · omega
  · exact absurd hrounds (hzero hm' hrounds')
  · exact absurd hrounds' (hzero hm hrounds)
  · exact roundsTo_unique hx hy hrounds hrounds'

theorem head_magnitudeText (m : Nat) (e : Int) : (magnitudeText m e).toList.head? ≠ some '-' := by
  unfold magnitudeText
  split
  · decide
  · exact head_decimalText _ _

/-- A finite number is written with a point or an exponent. -/
theorem mark_mem_text (negative : Bool) (m : Nat) (e : Int) :
    '.' ∈ (text (.finite negative m e)).toList ∨ 'e' ∈ (text (.finite negative m e)).toList := by
  rw [text_finite, String.toList_append]
  have hmark : '.' ∈ (magnitudeText m e).toList ∨ 'e' ∈ (magnitudeText m e).toList := by
    unfold magnitudeText
    split
    · exact .inl (by decide)
    · exact mark_mem_decimalText _ _
  exact hmark.imp (List.mem_append_right _) (List.mem_append_right _)

/-- Different numbers of the format are written differently. -/
theorem text_injective {a b : Binary64} (ha : a.inFormat = true) (hb : b.inFormat = true)
    (h : a.text = b.text) : a = b := by
  have hspecial : ∀ {c : Binary64} (negative : Bool) (m : Nat) (e : Int),
      '.' ∉ c.text.toList → 'e' ∉ c.text.toList → text (.finite negative m e) ≠ c.text := by
    intro c negative m e hpoint hexponent heq
    have hmark := mark_mem_text negative m e
    rw [heq] at hmark
    exact hmark.elim hpoint hexponent
  have hnan : ∀ negative m e, text (.finite negative m e) ≠ text .nan :=
    fun negative m e => hspecial negative m e (by decide) (by decide)
  have hinfinite : ∀ negative m e b, text (.finite negative m e) ≠ text (.infinite b) :=
    fun negative m e b => hspecial negative m e (by cases b <;> decide) (by cases b <;> decide)
  cases a with
  | nan =>
      cases b with
      | nan => rfl
      | infinite negative => cases negative <;> exact absurd h (by decide)
      | finite negative m e => exact absurd h.symm (hnan negative m e)
  | infinite negative =>
      cases b with
      | nan => cases negative <;> exact absurd h (by decide)
      | infinite negative' =>
          cases negative <;> cases negative' <;> first | rfl | exact absurd h (by decide)
      | finite negative' m e => exact absurd h.symm (hinfinite negative' m e negative)
  | finite negative m e =>
      cases b with
      | nan => exact absurd h (hnan negative m e)
      | infinite negative' => exact absurd h (hinfinite negative m e negative')
      | finite negative' m' e' =>
          rw [text_finite, text_finite] at h
          obtain ⟨rfl, hmagnitude⟩ :=
            Numeral.signed_inj (head_magnitudeText m e) (head_magnitudeText m' e') h
          obtain ⟨rfl, rfl⟩ := magnitudeText_injective ha hb hmagnitude
          rfl

end TdsClient.Number.Binary64
