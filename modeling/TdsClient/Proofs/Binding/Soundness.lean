import TdsClient.Proofs.Binding.Fit

/-!
# Soundness of type inference

Whatever plain value is bound, with whatever settings, the type that is
chosen holds what is sent, and what is sent stands for the value unless a
loss is reported. Each kind of value has its own lemma, and the numbers are
the only kinds that are ever refused.

There is one exception. An identifier is always sent as a text of 36
characters in a type of that size, and in UTF-16 these are 72 bytes.

## Main results

* `bind_sound` — the type holds the value.
* `identifier_not_held` — the exception.
-/

namespace TdsClient.Inference

open Number

variable (i : Inference)

/-- The outcome of binding a value: what is sent is held by its type, losses are reported, and
refusals are justified. -/
structure Sound (v : Value) (r : Reported Bound) : Prop where
  inBounds : ∀ b, r.result = .ok b → b.type.InBounds
  holds : ∀ b, r.result = .ok b → i.Holds b.type b.value
  reported : ∀ b, r.result = .ok b → r.warnings = i.losses v
  represents : ∀ b, r.result = .ok b → i.losses v = [] → i.Represents v b.value
  refused : ∀ e, r.result = .error e ↔ Refused v e

/-- A value that is bound, with its losses reported. -/
theorem sound_ok {v : Value} {r : Reported Bound} {b : Bound} (hr : r.result = .ok b)
    (hreported : r.warnings = i.losses v) (hbounds : b.type.InBounds)
    (hholds : i.Holds b.type b.value)
    (hrepresents : i.losses v = [] → i.Represents v b.value) (hrefused : ∀ e, ¬ Refused v e) :
    i.Sound v r := by
  have hsame : ∀ b', r.result = .ok b' → b' = b := by
    intro b' hb'
    rw [hr] at hb'
    exact (Except.ok.inj hb').symm
  refine ⟨?_, ?_, fun _ _ => hreported, ?_, ?_⟩
  · intro b' hb'
    rw [hsame b' hb']
    exact hbounds
  · intro b' hb'
    rw [hsame b' hb']
    exact hholds
  · intro b' hb' hnone
    rw [hsame b' hb']
    exact hrepresents hnone
  · intro e
    constructor
    · intro he
      rw [hr] at he
      cases he
    · intro he
      exact absurd he (hrefused e)

/-- A value bound without a loss. -/
theorem sound_pure {v : Value} {b : Bound} (hbounds : b.type.InBounds)
    (hholds : i.Holds b.type b.value) (hlosses : i.losses v = [])
    (hrepresents : i.Represents v b.value) (hrefused : ∀ e, ¬ Refused v e) :
    i.Sound v (pure b) :=
  i.sound_ok rfl hlosses.symm hbounds hholds (fun _ => hrepresents) hrefused

/-- A value that is refused, for one reason. -/
theorem sound_error {v : Value} {r : Reported Bound} {e : Error} (hr : r.result = .error e)
    (hrefused : ∀ e', Refused v e' ↔ e' = e) : i.Sound v r := by
  have hnone : ∀ b, r.result ≠ .ok b := by
    intro b hb
    rw [hr] at hb
    cases hb
  refine ⟨fun b hb => absurd hb (hnone b), fun b hb => absurd hb (hnone b),
    fun b hb => absurd hb (hnone b), fun b hb => absurd hb (hnone b), ?_⟩
  intro e'
  rw [hr, hrefused e', Except.error.injEq]
  exact eq_comm

/-! ## Integers -/

theorem holds_iff (width : IntegerWidth) (n : Int) :
    width.holds n = true ↔ width.low ≤ n ∧ n ≤ width.high := by
  unfold IntegerWidth.holds
  exact decide_eq_true_iff

/-- An integer in the range of a width is held by the type of that width. -/
theorem holds_integerTypeOf {width : IntegerWidth} {n : Int} (h : width.holds n = true) :
    i.Holds (integerTypeOf width) (.int n) ∧ (integerTypeOf width).InBounds := by
  have hrange := (holds_iff width n).1 h
  cases width with
  | tiny =>
      simp only [IntegerWidth.low, IntegerWidth.high] at hrange
      exact ⟨⟨by omega, by omega⟩, trivial⟩
  | small =>
      simp only [IntegerWidth.low, IntegerWidth.high] at hrange
      exact ⟨⟨by omega, by omega⟩, trivial⟩
  | regular =>
      simp only [IntegerWidth.low, IntegerWidth.high] at hrange
      exact ⟨⟨by omega, by omega⟩, trivial⟩
  | big =>
      simp only [IntegerWidth.low, IntegerWidth.high] at hrange
      exact ⟨⟨by omega, by omega⟩, trivial⟩

/-- The narrowest type holds an integer of 64 bits. -/
theorem holds_integerType {n : Int} (h : IntegerWidth.big.holds n = true) :
    i.Holds (integerType n) (.int n) ∧ (integerType n).InBounds := by
  unfold integerType
  by_cases htiny : IntegerWidth.tiny.holds n = true
  · rw [if_pos htiny]
    exact i.holds_integerTypeOf htiny
  · rw [if_neg htiny]
    by_cases hsmall : IntegerWidth.small.holds n = true
    · rw [if_pos hsmall]
      exact i.holds_integerTypeOf hsmall
    · rw [if_neg hsmall]
      by_cases hregular : IntegerWidth.regular.holds n = true
      · rw [if_pos hregular]
        exact i.holds_integerTypeOf hregular
      · rw [if_neg hregular]
        exact i.holds_integerTypeOf h

/-- The range of 64 bits. -/
theorem big_holds_iff (n : Int) :
    IntegerWidth.big.holds n = true ↔ ¬ (n < -2 ^ 63 ∨ 2 ^ 63 ≤ n) := by
  rw [holds_iff]
  simp only [IntegerWidth.low, IntegerWidth.high]
  omega

theorem sound_int (minimize : Bool) (n : Int) : i.Sound (.int n) (bindInt minimize n) := by
  unfold bindInt
  by_cases h : IntegerWidth.big.holds n = true
  · rw [h]
    have hrefused : ∀ e, ¬ Refused (.int n) e := by
      intro e he
      cases he with
      | noType hother => exact hother trivial
      | integer hrange => exact (big_holds_iff n).1 h hrange
    cases minimize with
    | true =>
        obtain ⟨hholds, hbounds⟩ := i.holds_integerType h
        exact i.sound_pure hbounds hholds rfl rfl hrefused
    | false =>
        obtain ⟨hholds, hbounds⟩ := i.holds_integerTypeOf h
        exact i.sound_pure hbounds hholds rfl rfl hrefused
  · have hrange : n < -2 ^ 63 ∨ 2 ^ 63 ≤ n := by
      rw [big_holds_iff] at h
      omega
    rw [Bool.not_eq_true] at h
    rw [h]
    apply i.sound_error rfl
    intro e
    constructor
    · intro he
      cases he with
      | noType hother => exact absurd trivial hother
      | integer => rfl
    · rintro rfl
      exact .integer hrange

/-! ## Byte strings -/

theorem sound_bytes (minimize : Bool) (b : Bytes) {v : Value} (hlosses : i.losses v = [])
    (hrepresents : i.Represents v (.bytes b)) (hrefused : ∀ e, ¬ Refused v e) :
    i.Sound v (pure (i.bindBytes minimize b)) := by
  have hlong : ∀ size, i.Sound v (pure ⟨i.longBinary, .bytes b, size⟩) := by
    intro size
    unfold longBinary
    split
    · exact i.sound_pure trivial trivial hlosses hrepresents hrefused
    · exact i.sound_pure trivial trivial hlosses hrepresents hrefused
  unfold bindBytes
  cases minimize with
  | false => exact hlong _
  | true =>
      show i.Sound v (pure (i.boundBinary (.bytes b) b.length))
      unfold boundBinary
      by_cases hsize : maxSize < b.length
      · rw [if_pos hsize]
        exact hlong _
      · rw [if_neg hsize]
        have hmax : b.length ≤ 8000 := Nat.le_of_not_lt hsize
        exact i.sound_pure ⟨Nat.le_max_right _ _, by omega⟩ (Nat.le_max_left _ _) hlosses
          hrepresents hrefused

/-! ## Text -/

theorem sound_nationalText (hnational : i.nationalText = true) (minimize : Bool) (s : String) :
    i.Sound (.text s) (i.bindText minimize s) := by
  have hlosses : i.losses (.text s) = [] := by
    unfold losses
    rw [hnational]
    rfl
  have hlong : ∀ size, i.Sound (.text s) (pure ⟨i.longNationalText, .text s, size⟩) := by
    intro size
    unfold longNationalText
    split
    · exact i.sound_pure trivial trivial hlosses rfl (not_refused trivial id)
    · exact i.sound_pure trivial trivial hlosses rfl (not_refused trivial id)
  unfold bindText
  rw [hnational]
  cases minimize with
  | false => exact hlong _
  | true =>
      show i.Sound _ (pure (i.boundNationalText (.text s) (Text.Utf16.length s)))
      unfold boundNationalText
      by_cases hsize : maxNationalSize < Text.Utf16.length s
      · rw [if_pos hsize]
        exact hlong _
      · rw [if_neg hsize]
        have hmax : Text.Utf16.length s ≤ 4000 := Nat.le_of_not_lt hsize
        exact i.sound_pure ⟨Nat.le_max_right _ _, by omega⟩ (Nat.le_max_left _ _) hlosses rfl
          (not_refused trivial id)

/-- Text of the code page is sent as the code page can hold it. -/
theorem bindText_eq (hnational : i.nationalText = false) (hknown : i.charset.isKnown = true)
    (minimize : Bool) (s : String) :
    ∃ bytes, i.charset.encodeText? (i.charset.substitute s) = some bytes ∧
      i.bindText minimize s = ⟨i.losses (.text s), .ok
        (if minimize then boundText (.text (i.charset.substitute s)) bytes.length
          else ⟨i.longText, .text (i.charset.substitute s), bytes.length⟩)⟩ := by
  obtain ⟨bytes, hbytes, hencoded⟩ := i.encodeText_eq hknown s
  refine ⟨bytes, hbytes, ?_⟩
  unfold bindText losses
  rw [hnational, hencoded]
  cases minimize with
  | true =>
      show Reported.mk (_ ++ []) _ = _
      rw [List.append_nil]
      rfl
  | false =>
      show Reported.mk (_ ++ []) _ = _
      rw [List.append_nil]
      rfl

theorem sound_codePageText (hnational : i.nationalText = false)
    (hknown : i.charset.isKnown = true) (minimize : Bool) (s : String) :
    i.Sound (.text s) (i.bindText minimize s) := by
  obtain ⟨bytes, hbytes, hbound⟩ := i.bindText_eq hnational hknown minimize s
  rw [hbound]
  have hrepresents : i.losses (.text s) = [] → i.charset.substitute s = s := by
    intro hnone
    unfold losses at hnone
    rw [hnational] at hnone
    exact i.charset.substitute_of_has s (List.map_eq_nil_iff.1 hnone)
  have hsome : (i.charset.encodeText? (i.charset.substitute s)).isSome = true := by
    rw [hbytes]
    rfl
  have hheld : ∀ b : Bound, b.value = .text (i.charset.substitute s) →
      b.type.InBounds → i.Holds b.type b.value →
      i.Sound (.text s) ⟨i.losses (.text s), .ok b⟩ := by
    intro b hvalue hbounds hholds
    refine i.sound_ok rfl rfl hbounds hholds (fun hnone => ?_) (not_refused trivial id)
    rw [hvalue]
    exact hrepresents hnone
  cases minimize with
  | false =>
      rw [if_neg (by decide)]
      unfold longText
      split
      · exact hheld _ rfl trivial hsome
      · exact hheld _ rfl trivial hsome
  | true =>
      rw [if_pos rfl]
      unfold boundText
      by_cases hsize : maxSize < bytes.length
      · rw [if_pos hsize]
        exact hheld _ rfl trivial hsome
      · rw [if_neg hsize]
        have hmax : bytes.length ≤ 8000 := Nat.le_of_not_lt hsize
        exact hheld _ rfl ⟨Nat.le_max_right _ _, by omega⟩ ⟨bytes, hbytes, Nat.le_max_left _ _⟩

theorem sound_text (hknown : i.charset.isKnown = true) (minimize : Bool) (s : String) :
    i.Sound (.text s) (i.bindText minimize s) := by
  cases hnational : i.nationalText with
  | true => exact i.sound_nationalText hnational minimize s
  | false => exact i.sound_codePageText hnational hknown minimize s

/-! ## Decimal numbers -/

/-- A decimal number is refused as being out of range. -/
theorem sound_outOfRange {d : Decimal} {r : Reported Bound}
    (hr : r.result = .error (.decimalOutOfRange d))
    (hd : Refused (.decimal d) (.decimalOutOfRange d)) : i.Sound (.decimal d) r := by
  apply i.sound_error hr
  intro e
  constructor
  · intro he
    cases he with
    | noType hother => exact absurd trivial hother
    | notFinite => rfl
    | tooLarge => rfl
    | carried => rfl
  · rintro rfl
    exact hd

/-- Whatever the digits of a number, its first one has a place in front of the point. -/
theorem digitCount_add_le (coefficient : Nat) (exponent : Int) :
    (Digits.digitCount coefficient : Int) + exponent ≤ integerDigits coefficient exponent := by
  unfold integerDigits
  omega

section finite

variable (negative : Bool) {coefficient : Nat} {exponent : Int}

/-- The precision and scale of a number with at most 38 digits. -/
theorem decimalShape_of_le
    (hdigits : integerDigits coefficient exponent + fractionDigits exponent ≤ 38) :
    decimalShape (.finite negative coefficient exponent) =
      pure (max (integerDigits coefficient exponent + fractionDigits exponent) 1,
        fractionDigits exponent) := by
  have hwhole : ¬ maxPrecision < integerDigits coefficient exponent := by
    show ¬ 38 < _
    omega
  have hall : ¬ maxPrecision < integerDigits coefficient exponent + fractionDigits exponent := by
    show ¬ 38 < _
    omega
  unfold decimalShape
  dsimp only
  rw [if_neg hwhole, if_neg hall]

/-- The scale of a number with more digits is what the digits in front of the point leave. -/
theorem decimalShape_of_lt {scale : Nat} (hscale : integerDigits coefficient exponent + scale = 38)
    (hlong : scale < fractionDigits exponent) :
    decimalShape (.finite negative coefficient exponent) =
      ⟨[.precisionExceeded (.finite negative coefficient exponent)], .ok (38, scale)⟩ := by
  have hwhole : ¬ maxPrecision < integerDigits coefficient exponent := by
    show ¬ 38 < _
    omega
  have hall : maxPrecision < integerDigits coefficient exponent + fractionDigits exponent := by
    show 38 < _
    omega
  have hmin : min (fractionDigits exponent)
      (maxPrecision - integerDigits coefficient exponent) = scale := by
    show min _ (38 - _) = scale
    omega
  unfold decimalShape
  dsimp only
  rw [if_neg hwhole, if_pos hall, Reported.warn_bind_pure, hmin]
  rfl

/-- There is no precision for a number with more digits in front of the point. -/
theorem decimalShape_of_wide (hwhole : 38 < integerDigits coefficient exponent) :
    decimalShape (.finite negative coefficient exponent) =
      .fail (.decimalOutOfRange (.finite negative coefficient exponent)) := if_pos hwhole

/-- A number is rounded to a scale, unless it then has more than 38 digits. -/
theorem bindDecimalAs_eq (precision : Nat) {scale : Nat}
    (hscale : integerDigits coefficient exponent + scale ≤ 38) :
    bindDecimalAs (.finite negative coefficient exponent) precision scale =
      if Decimal.shiftCoefficient coefficient (exponent + scale) < 10 ^ 38 then
        pure (fixed (.decimal precision scale) (.decimal
          (.finite negative (Decimal.shiftCoefficient coefficient (exponent + scale))
            (-(scale : Int)))))
      else .fail (.decimalOutOfRange (.finite negative coefficient exponent)) := by
  have hplace := digitCount_add_le coefficient exponent
  have hroom : Digits.digitCount coefficient + (exponent + scale) ≤ ((38 : Nat) : Int) := by
    omega
  have hquantize : Decimal.quantize? maxPrecision scale (.finite negative coefficient exponent) =
      if Decimal.shiftCoefficient coefficient (exponent + scale) < 10 ^ 38 then
        some (.finite negative (Decimal.shiftCoefficient coefficient (exponent + scale))
          (-(scale : Int)))
      else none := Decimal.quantize?_eq_ite negative (by decide) hroom
  unfold bindDecimalAs
  rw [hquantize]
  by_cases hfits : Decimal.shiftCoefficient coefficient (exponent + scale) < 10 ^ 38
  · rw [if_pos hfits, if_pos hfits]
  · rw [if_neg hfits, if_neg hfits]

/-- A number with at most 38 digits is not refused. -/
theorem not_refused_decimal
    (hdigits : integerDigits coefficient exponent + fractionDigits exponent ≤ 38) (e : Error) :
    ¬ Refused (.decimal (.finite negative coefficient exponent)) e := by
  intro he
  cases he with
  | noType hother => exact hother trivial
  | notFinite h => cases h
  | tooLarge h => omega
  | carried hscale hlong => omega

/-- A number with at most 38 digits is sent exactly. -/
theorem sound_exactDecimal (minimize : Bool)
    (hdigits : integerDigits coefficient exponent + fractionDigits exponent ≤ 38) :
    i.Sound (.decimal (.finite negative coefficient exponent))
      (bindDecimal minimize (.finite negative coefficient exponent)) := by
  have hplace := digitCount_add_le coefficient exponent
  have hshift : 0 ≤ exponent + (fractionDigits exponent : Int) := by
    unfold fractionDigits
    omega
  -- Without a fraction the exponent fills the places up to the point, and with one it is cancelled.
  have hroom : Digits.digitCount coefficient + (exponent + fractionDigits exponent) ≤
      ((38 : Nat) : Int) := by
    omega
  have hfits := Decimal.shiftCoefficient_lt coefficient hshift hroom
  have hvalue := Decimal.rational_shift negative coefficient hshift
  unfold bindDecimal
  rw [decimalShape_of_le negative hdigits]
  show i.Sound _ (bindDecimalAs _ (if minimize then _ else maxPrecision) _)
  rw [bindDecimalAs_eq negative _ hdigits, if_pos hfits]
  refine i.sound_pure ?_ ⟨_, rfl, Decimal.rational_neg negative _ _, ?_⟩ (if_neg (by omega))
    ⟨_, rfl, congrArg some hvalue⟩ (not_refused_decimal negative hdigits)
  · cases minimize with
    | true =>
        show 1 ≤ max _ 1 ∧ max _ 1 ≤ 38 ∧ _ ≤ max _ 1
        omega
    | false =>
        show 1 ≤ 38 ∧ 38 ≤ 38 ∧ _ ≤ 38
        omega
  · rw [hvalue]
    refine Decimal.abs_rational_lt negative coefficient exponent ?_
    cases minimize with
    | true =>
        show _ ≤ ((max _ 1 - _ : Nat) : Int)
        omega
    | false =>
        show _ ≤ ((38 - _ : Nat) : Int)
        omega

/-- A number with more digits, not all of them in front of the point, is rounded to 38 of them. It
is refused if the rounding makes them more. -/
theorem sound_roundedDecimal (minimize : Bool) {scale : Nat}
    (hscale : integerDigits coefficient exponent + scale = 38)
    (hlong : scale < fractionDigits exponent) :
    i.Sound (.decimal (.finite negative coefficient exponent))
      (bindDecimal minimize (.finite negative coefficient exponent)) := by
  have hshape := decimalShape_of_lt negative hscale hlong
  have hlosses : i.losses (.decimal (.finite negative coefficient exponent)) =
      [.precisionExceeded (.finite negative coefficient exponent)] := if_pos (by omega)
  have hprecision : (if minimize then 38 else maxPrecision) = 38 := by
    cases minimize with
    | true => rfl
    | false => rfl
  unfold bindDecimal
  rw [Reported.bind_ok _ (congrArg Reported.result hshape), hshape]
  show i.Sound _ ⟨[_] ++ (bindDecimalAs _ (if minimize then 38 else maxPrecision) scale).warnings,
    (bindDecimalAs _ (if minimize then 38 else maxPrecision) scale).result⟩
  rw [hprecision, bindDecimalAs_eq negative 38 (Nat.le_of_eq hscale)]
  by_cases hfits : Decimal.shiftCoefficient coefficient (exponent + scale) < 10 ^ 38
  · rw [if_pos hfits]
    have hholds : i.Holds (.decimal 38 scale) (.decimal (.finite negative
        (Decimal.shiftCoefficient coefficient (exponent + scale)) (-(scale : Int)))) :=
      ⟨_, rfl, Decimal.rational_neg negative _ scale,
        Decimal.abs_rational_lt_of_digits negative hfits (by omega)⟩
    refine i.sound_ok rfl hlosses.symm ⟨by decide, by decide, by omega⟩ hholds ?_ ?_
    · intro hnone
      rw [hlosses] at hnone
      cases hnone
    · intro e he
      cases he with
      | noType hother => exact absurd trivial hother
      | notFinite h => cases h
      | tooLarge h => omega
      | @carried _ _ _ scale' hscale' hlong hcarry =>
          have hsame : scale' = scale := by omega
          rw [hsame] at hcarry
          omega
  · rw [if_neg hfits]
    exact i.sound_outOfRange rfl (.carried hscale hlong (Nat.le_of_not_lt hfits))

/-- A number with more than 38 digits in front of the point is refused. -/
theorem sound_wideDecimal (minimize : Bool) (hwhole : 38 < integerDigits coefficient exponent) :
    i.Sound (.decimal (.finite negative coefficient exponent))
      (bindDecimal minimize (.finite negative coefficient exponent)) := by
  unfold bindDecimal
  rw [decimalShape_of_wide negative hwhole]
  exact i.sound_outOfRange rfl (.tooLarge hwhole)

end finite

theorem sound_decimal (minimize : Bool) (d : Decimal) :
    i.Sound (.decimal d) (bindDecimal minimize d) := by
  cases d with
  | infinite negative => exact i.sound_outOfRange rfl (.notFinite rfl)
  | nan negative signaling payload => exact i.sound_outOfRange rfl (.notFinite rfl)
  | finite negative coefficient exponent =>
      by_cases hdigits : integerDigits coefficient exponent + fractionDigits exponent ≤ 38
      · exact i.sound_exactDecimal negative minimize hdigits
      · by_cases hwhole : 38 < integerDigits coefficient exponent
        · exact i.sound_wideDecimal negative minimize hwhole
        · obtain ⟨scale, hscale⟩ : ∃ scale, integerDigits coefficient exponent + scale = 38 :=
            ⟨38 - integerDigits coefficient exponent, by omega⟩
          exact i.sound_roundedDecimal negative minimize hscale (by omega)

/-! ## Dates and times -/

theorem sound_dateTime (t : DateTime) : i.Sound (.dateTime t) (pure (i.bindDateTime t)) := by
  unfold bindDateTime
  split
  · exact i.sound_pure trivial trivial rfl rfl (not_refused trivial id)
  · exact i.sound_pure trivial trivial rfl rfl (not_refused trivial id)

theorem sound_time (t : Time) : i.Sound (.time t) (pure (i.bindTime t)) := by
  unfold bindTime
  cases htemporal : i.version.hasTemporal with
  | true => exact i.sound_pure trivial trivial rfl ⟨htemporal, rfl⟩ (not_refused trivial id)
  | false => exact i.sound_pure trivial trivial rfl ⟨htemporal, rfl⟩ (not_refused trivial id)

/-! ## Identifiers -/

/-- Outside of UTF-16 the text of an identifier takes 36 bytes. -/
theorem sound_uuid (hknown : i.charset.isKnown = true) (hset : i.charset ≠ .utf16le) (u : Uuid) :
    i.Sound (.uuid u) (pure ⟨.char 36, .text u.text, 36⟩) := by
  obtain ⟨bytes, hbytes, hlength⟩ :=
    i.charset.encodeText?_ascii hknown hset u.text u.text_ascii
  rw [u.length_text] at hlength
  exact i.sound_pure ⟨by decide, by decide⟩ ⟨bytes, hbytes, Nat.le_of_eq hlength⟩ rfl rfl
    (not_refused trivial id)

/-! ## Plain values -/

/-- Every plain value but an identifier in UTF-16 is bound soundly. -/
theorem sound_bind (hknown : i.charset.isKnown = true) (minimize : Bool) {v : Value}
    (hv : v.IsPlain) (hset : (∃ u, v = .uuid u) → i.charset ≠ .utf16le) :
    i.Sound v (i.bind minimize v) := by
  cases v with
  | null => exact i.sound_pure ⟨by decide, by decide⟩ trivial rfl trivial (not_refused trivial id)
  | bool b => exact i.sound_pure trivial trivial rfl rfl (not_refused trivial id)
  | int n => exact i.sound_int minimize n
  | float x => exact i.sound_pure trivial trivial rfl rfl (not_refused trivial id)
  | decimal d => exact i.sound_decimal minimize d
  | bytes b => exact i.sound_bytes minimize b rfl rfl (not_refused trivial id)
  | byteArray b => exact i.sound_bytes minimize b rfl rfl (not_refused trivial id)
  | memoryView b => exact i.sound_bytes minimize b rfl rfl (not_refused trivial id)
  | text s => exact i.sound_text hknown minimize s
  | dateTime t => exact i.sound_dateTime t
  | date d => exact i.sound_pure trivial trivial rfl rfl (not_refused trivial id)
  | time t => exact i.sound_time t
  | uuid u => exact i.sound_uuid hknown (hset ⟨u, rfl⟩) u
  | _ => exact hv.elim

/-- A value of any other kind has no type. -/
theorem bind_of_not_plain (minimize : Bool) {v : Value} (hplain : ¬ v.IsPlain)
    (hwrapper : ∀ w, v ≠ .typed w) :
    i.bind minimize v = .fail (.interface (.noSqlType v.kind)) := by
  cases v with
  | typed w => exact absurd rfl (hwrapper w)
  | list items => rfl
  | tuple items => rfl
  | dictionary entries => rfl
  | set items => rfl
  | stream items => rfl
  | foreign kind => rfl
  | parameter value output => rfl
  | _ => exact absurd trivial hplain

/-- Type inference is sound, in every known code page and with all settings, for every value that is
not wrapped. The type that is chosen has a size in its bounds and holds what is sent, except that
the text of an identifier always has a type of 36, its number of characters, also in UTF-16 where it
takes twice as many bytes. Losses are reported, exactly those that there are, and without a loss
what is sent stands for the value. Only values that no type holds are refused. -/
theorem bind_sound (hknown : i.charset.isKnown = true) (minimize : Bool) {v : Value}
    (hwrapper : ∀ w, v ≠ .typed w) :
    (∀ b, (i.bind minimize v).result = .ok b →
      b.type.InBounds ∧
      ((∃ u, v = .uuid u) ∧ i.charset = .utf16le ∨ i.Holds b.type b.value) ∧
      (∀ u, v = .uuid u → b = ⟨.char 36, .text u.text, 36⟩ ∧ u.text.length = 36) ∧
      (i.bind minimize v).warnings = i.losses v ∧
      (i.losses v = [] → i.Represents v b.value)) ∧
    ∀ e, (i.bind minimize v).result = .error e ↔ Refused v e := by
  by_cases hplain : v.IsPlain
  · have hidentifier : ∀ b u, (i.bind minimize v).result = .ok b → v = .uuid u →
        b = ⟨.char 36, .text u.text, 36⟩ ∧ u.text.length = 36 := by
      rintro b u hb rfl
      cases hb
      exact ⟨rfl, u.length_text⟩
    by_cases hexcept : (∃ u, v = .uuid u) ∧ i.charset = .utf16le
    · obtain ⟨u, rfl⟩ := hexcept.1
      constructor
      · intro b hb
        have hbound := hidentifier b u hb rfl
        refine ⟨?_, .inl hexcept, fun u' hu' => hidentifier b u' hb hu', rfl, fun _ => ?_⟩
        · rw [hbound.1]
          exact ⟨by decide, by decide⟩
        · rw [hbound.1]
          exact rfl
      · intro e
        exact ⟨nofun, fun he => absurd he (not_refused (v := .uuid u) trivial id e)⟩
    · have hsound := i.sound_bind hknown minimize hplain fun hu hset => hexcept ⟨hu, hset⟩
      refine ⟨?_, hsound.refused⟩
      intro b hb
      exact ⟨hsound.inBounds b hb, .inr (hsound.holds b hb), fun u hu => hidentifier b u hb hu,
        hsound.reported b hb, hsound.represents b hb⟩
  · rw [i.bind_of_not_plain minimize hplain hwrapper]
    refine ⟨nofun, fun e => ?_⟩
    constructor
    · intro he
      cases he
      exact .noType hplain hwrapper
    · intro he
      cases he with
      | noType => rfl
      | integer => exact absurd trivial hplain
      | notFinite => exact absurd trivial hplain
      | tooLarge => exact absurd trivial hplain
      | carried => exact absurd trivial hplain

/-- Text sent in a code page that does not have one of its characters. -/
def westernText : Inference := { version := .v74, charset := .latin1, nationalText := false }

/-- The character is replaced, which is reported, and what is sent is held by its type. -/
theorem bind_sound_replaced :
    (westernText.bind true (.text "a€")).result = .ok ⟨.varChar 2, .text "a?", 2⟩ ∧
      westernText.Holds (.varChar 2) (.text "a?") ∧
      (westernText.bind true (.text "a€")).warnings = [.unrepresentable '€' "latin-1"] := by
  have hbound : (westernText.bind true (.text "a€")).result =
      .ok ⟨.varChar 2, .text "a?", 2⟩ := by rfl
  obtain ⟨_, hholds, _, hreported, _⟩ :=
    (westernText.bind_sound rfl true (v := .text "a€") nofun).1 _ hbound
  refine ⟨hbound, hholds.resolve_left ?_, hreported.trans (by rfl)⟩
  rintro ⟨⟨u, hu⟩, _⟩
  cases hu

/-- In UTF-16 the type of an identifier does not hold the bytes of its text. -/
theorem identifier_not_held :
    ¬ ∀ (i : Inference) (minimize : Bool) (v : Value) (b : Bound), i.charset.isKnown = true →
      v.IsPlain → (i.bind minimize v).result = .ok b → i.Holds b.type b.value := by
  intro hall
  have hholds := hall { version := .v74, charset := .utf16le } true (.uuid ⟨0⟩) _ rfl trivial rfl
  obtain ⟨bytes, hbytes, hlength⟩ := hholds
  have hactual : (Text.Charset.utf16le.encodeText? (Uuid.text ⟨0⟩)).map List.length = some 72 := by
    decide +kernel
  have hcount : bytes.length = 72 := by
    have hmapped := congrArg (Option.map List.length) hbytes
    exact Option.some.inj (hmapped.symm.trans hactual)
  omega

end TdsClient.Inference
